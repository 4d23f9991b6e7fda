/-
Single-line typedefs in their plainest form, said without the reader: the
keyword, the words of a type, and the alias with its stars, each after some
white space. What such a line declares can be told from its parts
(`PlainTypedef.decl`). The reader looks for the keyword and for attributes in
the characters of the line, though, so what it takes the line for depends on
the names that are used (`PlainTypedef.Clear`).
-/
import AbiProbe.Catalog.Validation
import AbiProbe.Probe.TypedefLine

namespace AbiProbe

open Text TypedefDecl

/-- White space on one line. -/
def IsGap (cs : List Char) : Prop := ∀ c ∈ cs, isBlank c = true ∧ c ≠ '\n'

theorem IsGap.nil : IsGap [] := fun _ hc => nomatch hc

theorem IsGap.space : IsGap [' '] := fun c hc => by
  obtain rfl := List.mem_singleton.mp hc
  exact ⟨by decide, by decide⟩

/-- A word and the white space in front of it. -/
structure SpacedWord where
  gap : List Char
  word : List Char
  isGap : IsGap gap
  gap_ne_nil : gap ≠ []

namespace SpacedWord

def text (w : SpacedWord) : List Char := w.gap ++ w.word

/-- A word after a single space. -/
def ofString (s : String) : SpacedWord := ⟨[' '], s.toList, .space, List.cons_ne_nil _ _⟩

end SpacedWord

namespace PlainTypedef

/-- What precedes the keyword: white space, and a mark that tells compilers
to accept the line as an extension. -/
def IsLead (cs : List Char) : Prop :=
  IsGap cs ∨ ∃ before after, IsGap before ∧ IsGap after ∧ cs = before ++ "__extension__ ".toList ++ after

/-- What a type is written with: an identifier, other than the two words with
a meaning of their own, or a run of stars. -/
def IsToken (w : List Char) : Prop :=
  (isIdentifier (String.ofList w) = true ∧ w ≠ keyword ∧ w ≠ attributeWord) ∨
    ∃ n, w = List.replicate (n + 1) '*'

end PlainTypedef

/-- A plain typedef on a single line. -/
structure PlainTypedef where
  lead : List Char
  /-- The words of the type. -/
  tokens : List SpacedWord
  /-- The white space in front of the alias. -/
  gap : List Char
  stars : Nat
  name : String
  /-- The white space before the semicolon, and what follows it. -/
  before : List Char
  after : List Char
  isLead : PlainTypedef.IsLead lead
  tokens_ne_nil : tokens ≠ []
  isToken : ∀ w ∈ tokens, PlainTypedef.IsToken w.word
  isGap : IsGap gap
  gap_ne_nil : gap ≠ []
  isName : isIdentifier name = true
  isGap_before : IsGap before
  isGap_after : IsGap after

namespace PlainTypedef

/-- The alias as it is written, right after its stars. -/
def written (t : PlainTypedef) : SpacedWord where
  gap := t.gap
  word := List.replicate t.stars '*' ++ t.name.toList
  isGap := t.isGap
  gap_ne_nil := t.gap_ne_nil

/-- All that is between the keyword and the semicolon. -/
def body (t : PlainTypedef) : List Char := (t.tokens ++ [t.written]).flatMap (·.text) ++ t.before

def text (t : PlainTypedef) : List Char := t.lead ++ keyword ++ t.body ++ ';' :: t.after

/-- What the line declares: the alias, without its stars, for the type that
the words before it are the phrase of. -/
def decl (t : PlainTypedef) : TypedefDecl where
  name := t.name
  base := String.ofList (phrase (t.tokens.map (·.word))) ++ if 0 < t.stars then " *" else ""
  isPointer := 0 < t.stars

/-- A type of identifiers, with single spaces between the words. -/
def ofNames (type : List String) (name : String) (hne : type ≠ [])
    (htype : ∀ s ∈ type, isIdentifier s = true ∧ s.toList ≠ keyword ∧ s.toList ≠ attributeWord)
    (hname : isIdentifier name = true) : PlainTypedef where
  lead := []
  tokens := type.map .ofString
  gap := [' ']
  stars := 0
  name := name
  before := []
  after := []
  isLead := .inl .nil
  tokens_ne_nil := by simpa using hne
  isToken w hw := by
    obtain ⟨s, hs, rfl⟩ := List.mem_map.mp hw
    simpa [IsToken, SpacedWord.ofString, String.ofList_toList] using .inl (htype s hs)
  isGap := .space
  gap_ne_nil := List.cons_ne_nil _ _
  isName := hname
  isGap_before := .nil
  isGap_after := .nil

/-- Whether a word of the type or the alias holds a pattern. -/
def mentions (t : PlainTypedef) (pattern : List Char) : Bool :=
  t.tokens.any (fun w => occursIn pattern w.word) || occursIn pattern t.name.toList

/-- No part of a name looks like something else. A keyword is one if
something follows it before the semicolon; an attribute gives a mode only
together with one of the modes. -/
structure Clear (t : PlainTypedef) : Prop where
  tokens : ∀ w ∈ t.tokens, occursIn keyword w.word = false
  name : occursIn keyword (if t.before = [] then t.name.toList.dropLast else t.name.toList) = false
  mode : t.mentions attributeWord = true → ∀ m ∈ modes, t.mentions m.1 = false

end PlainTypedef

end AbiProbe
