/-
Typedefs on a single line whose width comes from a machine mode, said without
the reader: the keyword, the words of a type, the alias, and an attribute with
the mode. What the words of the type stand for does not matter. Only their
letters do: the alias is unsigned if `unsigned` is found anywhere on the line,
in the middle of a name too.
-/
import AbiProbe.Probe.PlainTypedef
import AbiProbe.Probe.Typedefs

namespace AbiProbe

open Text TypedefDecl

/-- The widths that an attribute can ask for: parts and multiples of a single
integer, and the word of the machine. -/
inductive MachineMode where
  | quarter
  | half
  | single
  | double
  | word
  deriving DecidableEq, Repr

namespace MachineMode

/-- How an attribute writes a mode. -/
def marker : MachineMode → String
  | .quarter => "__QI__"
  | .half => "__HI__"
  | .single => "__SI__"
  | .double => "__DI__"
  | .word => "__word__"

/-- The signed type of a width. The unsigned one has `unsigned ` before it. -/
def phrase : MachineMode → String
  | .quarter => "char"
  | .half => "short"
  | .single => "int"
  | .double => "long long"
  | .word => "long"

def signed : MachineMode → Category
  | .quarter => .char
  | .half => .short
  | .single => .int
  | .double => .longLong
  | .word => .long

def unsigned : MachineMode → Category
  | .quarter => .uchar
  | .half => .ushort
  | .single => .uint
  | .double => .ulongLong
  | .word => .ulong

/-- The ten signed and unsigned types of all widths have their categories. -/
def Known (types : Table Category) : Prop :=
  ∀ m : MachineMode, types.get? m.phrase = some m.signed ∧ types.get? ("unsigned " ++ m.phrase) = some m.unsigned

theorem known_standardTypes : Known standardTypes := by
  intro m
  cases m <;> decide +kernel

/-- Other aliases do not touch these types. -/
theorem Known.insert {types : Table Category} (h : Known types) {name : String}
    (hname : ∀ m : MachineMode, name ≠ m.phrase ∧ name ≠ "unsigned " ++ m.phrase) (c : Category) :
    Known (types.insert name c) := by
  intro m
  obtain ⟨hsigned, hunsigned⟩ := hname m
  rw [Table.get?_insert_other hsigned, Table.get?_insert_other hunsigned]
  exact h m

end MachineMode

namespace ModeTypedef

/-- An identifier in which the reader finds nothing that it looks for: it is no
tag, and holds no keyword, attribute or mode. -/
structure IsOrdinary (w : List Char) : Prop where
  isIdentifier : isIdentifier (String.ofList w) = true
  noTag : w ∉ ["union".toList, "struct".toList, "enum".toList]
  noKeyword : ¬ keyword <:+: w
  noAttribute : ¬ attributeWord <:+: w
  noMode : ∀ m : MachineMode, ¬ m.marker.toList <:+: w

end ModeTypedef

/-- A typedef on a single line with a machine mode. -/
structure ModeTypedef where
  /-- The words of the type. -/
  tokens : List SpacedWord
  /-- The alias. -/
  written : SpacedWord
  mode : MachineMode
  isOrdinary : ∀ w ∈ tokens ++ [written], ModeTypedef.IsOrdinary w.word

namespace ModeTypedef

def text (t : ModeTypedef) : List Char :=
  keyword ++ (t.tokens ++ [t.written]).flatMap (·.text) ++
    (" __attribute__ ((__mode__ (" ++ t.mode.marker ++ ")));").toList

def name (t : ModeTypedef) : String := String.ofList t.written.word

/-- A typedef with single spaces between its words. -/
def ofNames (type : List String) (name : String) (mode : MachineMode)
    (h : ∀ s ∈ type ++ [name], IsOrdinary s.toList) : ModeTypedef where
  tokens := type.map .ofString
  written := .ofString name
  mode := mode
  isOrdinary w hw := by
    obtain ⟨s, hs, rfl⟩ := List.mem_map.mp (List.map_append ▸ hw : w ∈ (type ++ [name]).map .ofString)
    exact h s hs

theorem flatMap_text_ofString {names : List String} (hne : names ≠ []) :
    (names.map SpacedWord.ofString).flatMap (·.text) = (" " ++ " ".intercalate names).toList := by
  rw [String.toList_append, String.toList_intercalate]
  induction names with
  | nil => exact absurd rfl hne
  | cons first names ih =>
    cases names with
    | nil => simp [SpacedWord.ofString, SpacedWord.text]
    | cons second names =>
      rw [List.map_cons, List.flatMap_cons, ih (List.cons_ne_nil _ _)]
      simp [SpacedWord.ofString, SpacedWord.text, List.intercalate_cons_cons]

theorem text_ofNames (type : List String) (name : String) (mode : MachineMode)
    (h : ∀ s ∈ type ++ [name], IsOrdinary s.toList) :
    (ofNames type name mode h).text =
      ("typedef " ++ " ".intercalate (type ++ [name]) ++ " __attribute__ ((__mode__ (" ++ mode.marker ++
        ")));").toList := by
  have hwords := flatMap_text_ofString (List.append_ne_nil_of_right_ne_nil type (List.cons_ne_nil name []))
  rw [List.map_append, List.map_singleton] at hwords
  have hkeyword : "typedef ".toList = keyword ++ " ".toList := rfl
  simp only [text, ofNames, hwords, hkeyword, String.toList_append, List.append_assoc]

end ModeTypedef

end AbiProbe
