/-
The layout of a struct: its size, and the offset and size of each field, every
number known for itself. A generated program prints them, one line each, and
`analyse` accepts exactly such lines. It reads all lines before it sets the
first number.
-/
import AbiProbe.Catalog
import AbiProbe.Entry
import AbiProbe.Error
import AbiProbe.Probe.Program
import AbiProbe.Text.Digit

namespace AbiProbe

open Text

/-- Where a field lies in its struct. -/
structure Slot where
  offset : Nat
  size : Nat
  deriving DecidableEq, Repr

/-- A field of a struct, and its offset and size once they are known. -/
structure StructField extends FieldDecl where
  offset : Option Nat
  size : Option Nat
  deriving DecidableEq, Repr

namespace StructField

def ofDecl (f : FieldDecl) : StructField := ⟨f, none, none⟩

/-- The field with both its numbers set. -/
def place (f : StructField) (slot : Slot) : StructField :=
  { f with offset := some slot.offset, size := some slot.size }

/-- Places fields, in their order, as far as there are slots for them. -/
def placeAll : List StructField → List Slot → List StructField
  | f :: fields, slot :: slots => f.place slot :: placeAll fields slots
  | fields, _ => fields

theorem map_toFieldDecl_placeAll (fields : List StructField) (slots : List Slot) :
    (placeAll fields slots).map (·.toFieldDecl) = fields.map (·.toFieldDecl) := by
  induction fields generalizing slots with
  | nil => rfl
  | cons f fields ih =>
    cases slots with
    | nil => rfl
    | cons slot slots => exact congrArg (f.toFieldDecl :: ·) (ih slots)

theorem placeAll_eq_zipWith {fields : List StructField} {slots : List Slot}
    (h : slots.length = fields.length) : placeAll fields slots = List.zipWith place fields slots := by
  induction fields generalizing slots with
  | nil => rfl
  | cons f fields ih =>
    cases slots with
    | nil => cases h
    | cons slot slots => exact congrArg (f.place slot :: ·) (ih (Nat.succ.inj h))

/-- Where a field lies, if both its numbers are known. -/
def slot? (f : StructField) : Option Slot :=
  match f.offset, f.size with
  | some offset, some size => some ⟨offset, size⟩
  | _, _ => none

end StructField

/-- A struct to measure, and its size once that is known. -/
structure StructProbe where
  name : String
  includes : List String
  fields : List StructField
  size : Option Nat
  deriving DecidableEq, Repr

namespace StructProbe

def ofDecl (d : StructDecl) : StructProbe := ⟨d.name, d.includes, d.fields.map .ofDecl, none⟩

def label (p : StructProbe) : String := "struct " ++ p.name

/-! ## The program -/

/-- What the program prints before the size of the struct. -/
def sizeLabel (p : StructProbe) : String := "sizeof(struct " ++ p.name ++ ") "

/-- The statement that prints the size of the struct. -/
def sizeStatement (p : StructProbe) : String :=
  "  printf(\"" ++ p.sizeLabel ++ "%u\\n\", (unsigned int) sizeof(struct " ++ p.name ++ "));\n"

/-- The statement that prints the offset and size of a field. -/
def fieldStatement (p : StructProbe) (field : String) : String :=
  "  printf(\"" ++ field ++ " %u %u\\n\", (unsigned int) offsetof(struct " ++ p.name ++ ", " ++
    field ++ "), (unsigned int) sizeof(s." ++ field ++ "));\n"

def source (p : StructProbe) : String :=
  Program.printing p.includes
    ("  struct " ++ p.name ++ " s;\n" ++ p.sizeStatement ++
      String.join (p.fields.map fun f => p.fieldStatement f.name))

/-! ## Its output -/

/-- The bound of the numbers that a layout may hold. -/
def numberBound : Nat := 0x10000000000000000

/-- The number that a row of digits denotes, if it is below the bound. The
digits must be those of ASCII. -/
def number? (digits : List Char) : Option Nat :=
  (Decimal.natural? digits).filter (· < numberBound)

def mismatch (p : StructProbe) (line : List Char) (reason : Mismatch) : Error :=
  .formatMismatch p.label (String.ofList line) reason

def readNumber (p : StructProbe) (line digits : List Char) : Except Error Nat :=
  match number? digits with
  | some n => .ok n
  | none => .error (p.mismatch line .numberRange)

/-- A row of digits at the start of a text, and the rest; the row must not
be empty. -/
def spanDigits? (cs : List Char) : Option (List Char × List Char) :=
  let digits := cs.takeWhile isDecimalDigit
  if digits.isEmpty then none else some (digits, cs.drop digits.length)

/-- The digits of the size in the line that tells it. -/
def sizeDigits? (p : StructProbe) (line : List Char) : Option (List Char) :=
  match (p.sizeLabel.toList.isPrefixOf? line).bind spanDigits? with
  | some (digits, []) => some digits
  | _ => none

/-- The digits of the offset and of the size in the line of a field. -/
def slotDigits? (field : String) (line : List Char) : Option (List Char × List Char) :=
  match ((field ++ " ").toList.isPrefixOf? line).bind spanDigits? with
  | some (offset, ' ' :: rest) =>
    match spanDigits? rest with
    | some (size, []) => some (offset, size)
    | _ => none
  | _ => none

/-- The slot of a field in a struct of size `total`, from its line. -/
def readSlot (p : StructProbe) (total : Nat) (field : String) (line : List Char) :
    Except Error Slot := do
  match slotDigits? field line with
  | none => throw (p.mismatch line (.fieldLayout field))
  | some (offsetDigits, sizeDigits) =>
    let offset ← p.readNumber line offsetDigits
    let size ← p.readNumber line sizeDigits
    if total < offset + size then throw (p.mismatch line (.fieldPastEnd field total))
    return ⟨offset, size⟩

/-- The size of the struct, from the first line. -/
def readSize (p : StructProbe) (line : List Char) : Except Error Nat :=
  match p.sizeDigits? line with
  | none => .error (p.mismatch line .structSize)
  | some digits => p.readNumber line digits

/-- The slots of some fields, one line each, beside the struct as it is then.
A line that is not there counts as an empty one, and after the fields only
blank lines may follow. -/
def readSlots (total : Nat) : List StructField → List (List Char) → StructProbe →
    Except Error (List Slot) × StructProbe
  | [], lines, p =>
    match lines.find? (!isBlankText ·) with
    | some line => (.error (p.mismatch line .trailing), p)
    | none => (.ok [], p)
  | f :: fields, lines, p =>
    match p.readSlot total f.name (lines.headD []) with
    | .error err => (.error err, p)
    | .ok slot =>
      match readSlots total fields (lines.drop 1) p with
      | (.error err, p) => (.error err, p)
      | (.ok slots, p) => (.ok (slot :: slots), p)

/-- Reading changes no number of the struct, whether it succeeds or not. -/
theorem readSlots_snd (total : Nat) (fields : List StructField) (ls : List (List Char)) (p : StructProbe) :
    (readSlots total fields ls p).2 = p := by
  induction fields generalizing ls with
  | nil =>
    rw [readSlots]
    split <;> rfl
  | cons f fields ih =>
    have hrest := ih (ls.drop 1)
    rw [readSlots]
    split
    · rfl
    · rcases hread : readSlots total fields (ls.drop 1) p with ⟨r, q⟩
      rw [hread] at hrest
      cases r <;> exact hrest

def setSize (p : StructProbe) (total : Nat) : StructProbe := { p with size := some total }

def setSlots (p : StructProbe) (slots : List Slot) : StructProbe :=
  { p with fields := StructField.placeAll p.fields slots }

/-- Reads an output and sets the numbers that it tells. The struct that comes
with the result is the one that is there afterwards, also if there is an
error. -/
def analyse (p : StructProbe) (output : String) : Except Error Unit × StructProbe :=
  let ls := lines output.toList
  match p.readSize (ls.headD []) with
  | .error err => (.error err, p)
  | .ok total =>
    match readSlots total p.fields (ls.drop 1) p with
    | (.error err, p) => (.error err, p)
    | (.ok slots, p) => (.ok (), (p.setSize total).setSlots slots)

/-- No number is set before all lines are read, so an analysis that fails
leaves the struct as it was. -/
theorem analyse_eq (p : StructProbe) (output : String) : p.analyse output =
    match p.readSize ((lines output.toList).headD []) with
    | .error err => (.error err, p)
    | .ok total =>
      match (readSlots total p.fields ((lines output.toList).drop 1) p).1 with
      | .error err => (.error err, p)
      | .ok slots => (.ok (), (p.setSize total).setSlots slots) := by
  unfold analyse
  dsimp only
  cases p.readSize ((lines output.toList).headD []) with
  | error err => rfl
  | ok total =>
    have hkept := readSlots_snd total p.fields ((lines output.toList).drop 1) p
    generalize hread : readSlots total p.fields ((lines output.toList).drop 1) p = read at hkept
    obtain ⟨r, q⟩ := read
    obtain rfl : q = p := hkept
    dsimp only
    rw [hread]
    cases r <;> rfl

/-! ## Its facts -/

/-- The fields whose numbers are known, with their slots; the others are left
out. -/
def placed (p : StructProbe) : List (FieldDecl × Slot) :=
  p.fields.filterMap fun f => f.slot?.map (f.toFieldDecl, ·)

/-- The facts of one field. -/
def fieldEntries (p : StructProbe) (f : FieldDecl) (slot : Slot) : List Entry :=
  let key := p.name ++ "." ++ f.name
  [⟨key ++ ".offset", .ofInt slot.offset⟩, ⟨key ++ ".size", .ofInt slot.size⟩] ++
    (f.tag.map fun tag => (⟨key ++ ".type", .text tag⟩ : Entry)).toList

/-- The facts of the struct, none before its size is known. -/
def entries (p : StructProbe) : List Entry :=
  match p.size with
  | none => []
  | some size =>
    ⟨p.name ++ ".sizeof", .ofInt size⟩ :: p.placed.flatMap fun (f, slot) => p.fieldEntries f slot

end StructProbe

end AbiProbe
