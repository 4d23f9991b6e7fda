/-
Layouts, and what the lines of an output tell of them: the first one the size,
the next ones the slots of the fields in their order, and no line after them
anything. All this is said of the lines alone, and not of how they are read. A
number is told by ASCII digits, and it is below 2^64.

A struct has its numbers one by one, and they are a layout if none of them is
missing (`StructProbe.layout?`). It may be asked to analyse any number of
outputs, of which some tell no layout.
-/
import AbiProbe.Probe.StructLayout

namespace AbiProbe

open Text

/-- The size of a struct, and the slots of its fields in their order. -/
structure Layout where
  size : Nat
  slots : List Slot
  deriving DecidableEq, Repr

/-! ## Lines -/

/-- A row of ASCII digits denotes a number of 64 bits, that is one below 2^64. -/
structure Denotes (digits : List Char) (n : Nat) : Prop where
  nonempty : digits ≠ []
  ascii : ∀ c ∈ digits, Decimal.isDigit c = true
  value : Decimal.value 0 digits = n
  bound : n < 0x10000000000000000

/-- A line tells the size of a struct. -/
def TellsSize (struct : String) (line : List Char) (size : Nat) : Prop :=
  ∃ digits, line = ("sizeof(struct " ++ struct ++ ") ").toList ++ digits ∧ Denotes digits size

/-- A line tells the slot of a field, which lies inside a struct of size
`total`. -/
def TellsSlot (field : String) (total : Nat) (line : List Char) (slot : Slot) : Prop :=
  ∃ offset size, line = (field ++ " ").toList ++ (offset ++ ' ' :: size) ∧
    Denotes offset slot.offset ∧ Denotes size slot.size ∧ slot.offset + slot.size ≤ total

/-- Some lines tell the slots of some fields, one line each, and then nothing
more. -/
inductive TellsSlots (total : Nat) : List FieldDecl → List (List Char) → List Slot → Prop where
  | blank {ls : List (List Char)} (all : ∀ line ∈ ls, isBlankText line = true) : TellsSlots total [] ls []
  | slot {f : FieldDecl} {fields : List FieldDecl} {line : List Char} {ls : List (List Char)}
      {slot : Slot} {slots : List Slot} (first : TellsSlot f.name total line slot)
      (rest : TellsSlots total fields ls slots) : TellsSlots total (f :: fields) (line :: ls) (slot :: slots)

/-- A line fits where the line of a field is due, or after all of them. -/
def FitsSlots (total : Nat) (fields : List FieldDecl) (i : Nat) (line : List Char) : Prop :=
  match fields[i]? with
  | some f => ∃ slot, TellsSlot f.name total line slot
  | none => isBlankText line = true

namespace StructProbe

/-- The fields as they were declared, without what is known of them. -/
def declared (p : StructProbe) : List FieldDecl := p.fields.map (·.toFieldDecl)

/-- The lines of an output tell a layout: the size, and the slots inside it. -/
def TellsLayout (p : StructProbe) (ls : List (List Char)) (layout : Layout) : Prop :=
  ∃ first rest, ls = first :: rest ∧ TellsSize p.name first layout.size ∧
    TellsSlots layout.size p.declared rest layout.slots

/-- A line fits at its place in an output that tells the size `total`. -/
def Fits (p : StructProbe) (total : Nat) : Nat → List Char → Prop
  | 0, line => TellsSize p.name line total
  | i + 1, line => FitsSlots total p.declared i line

/-- The first `k` lines all fit. A line that is not there counts as an empty
one. -/
def FitsUpTo (p : StructProbe) (ls : List (List Char)) (k : Nat) : Prop :=
  ∃ total, ∀ i < k, p.Fits total i (ls.getD i [])

/-- The first line that does not fit is that with the number `k`. -/
def DeviatesAt (p : StructProbe) (ls : List (List Char)) (k : Nat) : Prop :=
  p.FitsUpTo ls k ∧ ¬ p.FitsUpTo ls (k + 1)

/-! ## Numbers -/

/-- The layout that the numbers of a struct make, if none of them is missing. -/
def layout? (p : StructProbe) : Option Layout := do
  return ⟨← p.size, ← p.fields.mapM (·.slot?)⟩

/-- The struct with the numbers of a layout, which has a slot for each field. -/
def withLayout (p : StructProbe) (layout : Layout) : StructProbe :=
  { p with
    size := some layout.size
    fields := List.zipWith StructField.place p.fields layout.slots }

/-! ## Requests -/

/-- The struct after an analysis, whether it succeeded or not. -/
def request (p : StructProbe) (output : String) : StructProbe := (p.analyse output).2

/-- The struct after some analyses, the first one first. -/
def requests (p : StructProbe) (outputs : List String) : StructProbe := outputs.foldl request p

end StructProbe

end AbiProbe
