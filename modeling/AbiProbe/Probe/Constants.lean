/-
The values of a group of macro constants. A generated program prints one
line for each constant that the platform defines, so what is not printed is
not published. The lines are accepted all together or not at all.
-/
import AbiProbe.Catalog
import AbiProbe.Entry
import AbiProbe.Error
import AbiProbe.Probe.Program
import AbiProbe.Table
import AbiProbe.Text.Word

namespace AbiProbe

open Text

/-- How a constant is printed, and its value once that is known. -/
structure Constant where
  format : String
  cast : String
  value : Option Value
  deriving DecidableEq, Repr

/-- A group of constants, by their names. -/
structure ConstantProbe where
  group : String
  includes : List String
  constants : Table Constant

namespace ConstantProbe

def new (group : String) (includes : List String) : ConstantProbe := ⟨group, includes, .empty⟩

/-- Declares names. A name that was declared keeps its place, takes the new
format and cast, and loses its value. -/
def declare (p : ConstantProbe) (b : ConstantBatch) : ConstantProbe :=
  let add (t : Table Constant) (name : String) := t.insert name ⟨b.format, b.cast, none⟩
  { p with constants := b.names.foldl add p.constants }

def ofDecl (d : GroupDecl) : ConstantProbe :=
  d.batches.foldl declare (new d.name d.includes)

def label (p : ConstantProbe) : String := "constants " ++ p.group

/-! ## The program -/

/-- The statement that prints a constant where it is defined. -/
def statement (name : String) (c : Constant) : String :=
  "  #ifdef " ++ name ++ "\n" ++
    "  printf(\"" ++ name ++ " " ++ c.format ++ "\\n\", " ++ c.cast ++ name ++ ");\n" ++
    "  #endif\n"

def source (p : ConstantProbe) : String :=
  Program.printing p.includes
    (String.join (p.constants.toList.map fun (name, c) => statement name c))

/-! ## Its output -/

/-- The name and the value in a line: word characters, a space, and the rest
of the line. -/
def nameAndValue? (line : List Char) : Option (List Char × List Char) :=
  let name := line.takeWhile isWord
  if name.isEmpty then none
  else match line.drop name.length with
    | ' ' :: value => some (name, value)
    | _ => none

/-- The constant that a line gives a value. -/
def readLine (p : ConstantProbe) (line : List Char) : Except Error (String × Value) :=
  match nameAndValue? line with
  | none => .error (.formatMismatch p.label (String.ofList line) .constantLine)
  | some (name, value) =>
    let name := String.ofList name
    match p.constants.get? name with
    | none => .error (.formatMismatch p.label (String.ofList line) (.undeclared name))
    | some _ => .ok (name, .ofText (String.ofList value))

/-- The table with the value of one constant set. -/
def setValue (t : Table Constant) (found : String × Value) : Table Constant :=
  match t.get? found.1 with
  | some c => t.insert found.1 { c with value := some found.2 }
  | none => t

/-- The constants that some lines give values, line by line, beside the group
as it is then. -/
def readLines : List (List Char) → ConstantProbe → Except Error (List (String × Value)) × ConstantProbe
  | [], p => (.ok [], p)
  | line :: rest, p =>
    match p.readLine line with
    | .error err => (.error err, p)
    | .ok found =>
      match readLines rest p with
      | (.error err, p) => (.error err, p)
      | (.ok others, p) => (.ok (found :: others), p)

/-- Reading sets no value, whether it succeeds or not. -/
theorem readLines_eq (ls : List (List Char)) (p : ConstantProbe) :
    readLines ls p = (ls.mapM p.readLine, p) := by
  induction ls with
  | nil => rfl
  | cons line ls ih =>
    rw [readLines, ih, List.mapM_cons]
    cases p.readLine line with
    | error err => rfl
    | ok found => cases ls.mapM p.readLine <;> rfl

/-- Reads an output and sets the values that it gives; the last line of a name
counts. The group that comes with the result is the one that is there
afterwards, also if there is an error. -/
def analyse (p : ConstantProbe) (output : String) : Except Error Unit × ConstantProbe :=
  match readLines (lines output.toList) p with
  | (.error err, p) => (.error err, p)
  | (.ok found, p) => (.ok (), { p with constants := found.foldl setValue p.constants })

/-- An analysis that fails leaves the group as it was: it fails before the
first value is set. -/
theorem analyse_snd_of_error {p : ConstantProbe} {output : String} {err : Error}
    (h : (p.analyse output).1 = .error err) : (p.analyse output).2 = p := by
  unfold analyse at h ⊢
  rw [readLines_eq] at h ⊢
  cases hread : (lines output.toList).mapM p.readLine with
  | error _ => rfl
  | ok found =>
    rw [hread] at h
    cases h

/-! ## Its facts -/

/-- The facts of the constants that have a value, in the order of their
declaration. -/
def entries (p : ConstantProbe) : List Entry :=
  p.constants.toList.filterMap fun (name, c) =>
    c.value.map fun value => ⟨p.group ++ "." ++ name, value⟩

end ConstantProbe

end AbiProbe
