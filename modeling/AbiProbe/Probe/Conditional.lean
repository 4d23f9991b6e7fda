/-
What a program prints whose calls stand in conditional blocks, where only some
names are defined. The program is read as text: a block is a line with
`#ifdef` and a name, a call whose format begins with this name and a space,
and a line with `#endif`. Where the name is defined, the call prints its name,
a space, the text that the rest of the format makes of the name, and a line
feed; where it is not, the block prints nothing.
-/
import AbiProbe.Probe.Constants
import AbiProbe.Probe.Execution
import AbiProbe.Probe.SourceLine

namespace AbiProbe.Program

open Text

/-- The names of the blocks among some lines, in order. -/
def blockNames : List (List Char) → List String
  | opening :: call :: closing :: rest =>
    match after? "  #ifdef " opening with
    | some name =>
      if (after? ("  printf(\"" ++ String.ofList name ++ " ") call).isSome ∧ closing = "  #endif".toList then
        String.ofList name :: blockNames rest
      else blockNames (call :: closing :: rest)
    | none => blockNames (call :: closing :: rest)
  | _ => []

/-- The lines that a program prints where `defined` has the text of each name
that is defined. -/
def definedLines (defined : String → Option String) (source : String) : List (List Char) :=
  (blockNames (pieces (· == '\n') source.toList)).filterMap fun name =>
    (defined name).map fun text => name.toList ++ ' ' :: text.toList

/-- The output of some lines. -/
def outputOf (ls : List (List Char)) : String := String.ofList (ls.flatMap (· ++ ['\n']))

/-- What a program prints. -/
def definedOutput (defined : String → Option String) (source : String) : String :=
  outputOf (definedLines defined source)

end AbiProbe.Program

namespace AbiProbe

/-- The facts of a group where some names are defined: one for each name of
the group that is, in the order of the declarations. -/
def GroupDecl.facts (d : GroupDecl) (defined : String → Option String) : List Entry :=
  d.names.filterMap fun name => (defined name).map fun text => ⟨d.name ++ "." ++ name, .ofText text⟩

end AbiProbe
