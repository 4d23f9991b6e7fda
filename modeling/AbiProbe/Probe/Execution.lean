/-
What a program that measures structs prints when it is compiled for a target
and run. The program is executed as text, line by line: a line that declares
the variable `s` tells its struct, a line that calls `printf` prints its
format with the sizes and offsets that it names, and no other line prints
anything. A call that cannot be read is not given a meaning.

Of C this takes as much as those programs need. A format has `%u`, which
prints a number in decimal, and `\n`, which prints a line feed; all else in it
prints itself. Sizes and offsets are those of the target, as numbers of 32
bits without sign.
-/
import AbiProbe.Text.Decimal
import AbiProbe.Text.Search
import AbiProbe.Text.Word

namespace AbiProbe.Program

open Text

/-- How a target lays out structs: sizes, and offsets and sizes of fields, by
the names of the struct and the field. -/
structure Target where
  structSize : String → Nat
  fieldOffset : String → String → Nat
  fieldSize : String → String → Nat

/-- What an argument of a call measures. -/
inductive Measure where
  | structSize (struct : String)
  | fieldOffset (struct field : String)
  /-- The size of a field of the variable `s`. -/
  | fieldSize (field : String)
  deriving DecidableEq, Repr

/-- The number that is measured on a target, where `s` has a struct as its
type if it was declared. -/
def Target.measure (t : Target) (s : Option String) : Measure → Option Nat
  | .structSize struct => some (t.structSize struct)
  | .fieldOffset struct field => some (t.fieldOffset struct field)
  | .fieldSize field => s.map fun struct => t.fieldSize struct field

/-- A number as one of 32 bits without sign. -/
def wrap (n : Nat) : Nat := n % 0x100000000

/-! ## Reading -/

/-- The name that a text begins with, and what follows it. -/
def readName (cs : List Char) : String × List Char :=
  let name := cs.takeWhile isAsciiWord
  (String.ofList name, cs.drop name.length)

/-- What an argument measures, and what follows it. -/
def readMeasure? (cs : List Char) : Option (Measure × List Char) := do
  let cs ← after? "(unsigned int) " cs
  match after? "offsetof(struct " cs with
  | some cs =>
    let (struct, cs) := readName cs
    let (field, cs) := readName (← after? ", " cs)
    return (.fieldOffset struct field, ← after? ")" cs)
  | none =>
    let cs ← after? "sizeof(" cs
    match after? "struct " cs with
    | some cs =>
      let (struct, cs) := readName cs
      return (.structSize struct, ← after? ")" cs)
    | none =>
      let (field, cs) := readName (← after? "s." cs)
      return (.fieldSize field, ← after? ")" cs)

/-- The struct that a line gives to the variable `s`. -/
def declared? (line : List Char) : Option String := do
  let (struct, rest) := readName (← after? "  struct " line)
  if rest = " s;".toList then return struct else none

/-! ## Printing -/

/-- What a format prints with the arguments in the text after it, which has to
end with them. -/
def expand? (t : Target) (s : Option String) : List Char → List Char → Option (List Char)
  | [], arguments => if arguments = ");".toList then some [] else none
  | '%' :: 'u' :: format, arguments => do
    let (m, arguments) ← readMeasure? (← after? ", " arguments)
    let n ← t.measure s m
    return Decimal.digits (wrap n) ++ (← expand? t s format arguments)
  | '\\' :: 'n' :: format, arguments => do
    return '\n' :: (← expand? t s format arguments)
  | c :: format, arguments =>
    if c = '%' ∨ c = '\\' then none else do return c :: (← expand? t s format arguments)

/-- What a call prints, from the format on. -/
def printed? (t : Target) (s : Option String) (call : List Char) : Option (List Char) :=
  let format := call.takeWhile (· != '"')
  expand? t s format (call.drop (format.length + 1))

/-- What lines print where `s` may have been declared before. -/
def outputOfLines? (t : Target) : Option String → List (List Char) → Option (List Char)
  | _, [] => some []
  | s, line :: rest =>
    match after? "  printf(\"" line with
    | some call => do return (← printed? t s call) ++ (← outputOfLines? t s rest)
    | none => outputOfLines? t (declared? line <|> s) rest

/-- What a program prints on a target. -/
def output? (t : Target) (source : String) : Option String :=
  (outputOfLines? t none (pieces (· == '\n') source.toList)).map String.ofList

end AbiProbe.Program
