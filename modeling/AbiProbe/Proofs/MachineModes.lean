/-
What a typedef with a machine mode makes known. The reader finds the alias by
its place before the attribute, and the mode by its letters. Ordinary names hold
none of these, so both are found where they stand (`ModeTypedef.ofLine?_text`).
The type that is read is one of ten, whatever the words of the line are; where
these ten have their categories, the alias gets the one of its mode, and nothing
else changes (`TypedefProbe.step_text`).
-/
import AbiProbe.Probe.MachineMode
import AbiProbe.Proofs.RepeatedAnalysis
import AbiProbe.Proofs.TypedefReading
import AbiProbe.Proofs.TypedefSteps
import Mathlib.Data.List.Infix

namespace AbiProbe

open Text TypedefDecl

namespace MachineMode

/-- The words of the attribute for a mode. -/
def attributeWords (m : MachineMode) : List SpacedWord :=
  ["__attribute__", "((__mode__", "(" ++ m.marker ++ ")))"].map .ofString

theorem text_attribute (m : MachineMode) :
    (" __attribute__ ((__mode__ (" ++ m.marker ++ ")));").toList =
      m.attributeWords.flatMap (·.text) ++ [';'] := by
  cases m <;> decide +kernel

theorem solid_attributeWords (m : MachineMode) :
    ∀ w ∈ m.attributeWords, w.word ≠ [] ∧ ∀ c ∈ w.word, isBlank c = false := by
  have hall : ∀ w ∈ m.attributeWords, w.word ≠ [] ∧ w.word.all (!isBlank ·) = true := by
    cases m <;> decide
  intro w hw
  exact (hall w hw).imp_right fun h c hc => by simpa using List.all_eq_true.mp h c hc

theorem forall_mem_modes {P : List Char → Prop} :
    (∀ pattern ∈ modes.map (·.1), P pattern) ↔ ∀ m : MachineMode, P m.marker.toList := by
  simp only [modes, List.map_cons, List.map_nil, List.forall_mem_cons]
  refine ⟨fun ⟨hquarter, hhalf, hsingle, hdouble, hword, _⟩ m => ?_, fun h => ?_⟩
  · cases m with
    | quarter => exact hquarter
    | half => exact hhalf
    | single => exact hsingle
    | double => exact hdouble
    | word => exact hword
  · exact ⟨h .quarter, h .half, h .single, h .double, h .word, fun _ hpattern => nomatch hpattern⟩

/-- Of all modes the attribute holds its own. -/
theorem find?_modes (m : MachineMode) :
    modes.find? (fun mode => m.attributeWords.any fun w => occursIn mode.1 w.word) =
      some (m.marker.toList, m.phrase) := by
  cases m <;> decide

end MachineMode

namespace ModeTypedef

theorem isOrdinary_iff (w : List Char) : IsOrdinary w ↔
    isIdentifier (String.ofList w) = true ∧ w ∉ ["union".toList, "struct".toList, "enum".toList] ∧
      ∀ pattern ∈ keyword :: markers, occursIn pattern w = false := by
  have hpatterns : (∀ pattern ∈ keyword :: markers, occursIn pattern w = false) ↔
      ¬ keyword <:+: w ∧ ¬ attributeWord <:+: w ∧ ∀ m : MachineMode, ¬ m.marker.toList <:+: w := by
    simp only [← Bool.not_eq_true, occursIn_iff, markers, List.forall_mem_cons,
      MachineMode.forall_mem_modes]
  rw [hpatterns]
  exact ⟨fun h => ⟨h.isIdentifier, h.noTag, h.noKeyword, h.noAttribute, h.noMode⟩,
    fun ⟨hidentifier, htag, hkeyword, hattribute, hmode⟩ => ⟨hidentifier, htag, hkeyword, hattribute, hmode⟩⟩

instance (w : List Char) : Decidable (IsOrdinary w) := decidable_of_iff' _ (isOrdinary_iff w)

/-- What the reader looks for is in no ordinary name. -/
theorem IsOrdinary.occursIn_eq_false {w : List Char} (h : IsOrdinary w) :
    ∀ pattern ∈ keyword :: markers, occursIn pattern w = false :=
  ((isOrdinary_iff w).mp h).2.2

theorem IsOrdinary.holdsWord {w : List Char} (h : IsOrdinary w) :
    holdsWord ["union".toList, "struct".toList, "enum".toList] w = false := by
  have hword := isAsciiWord_of_isIdentifier h.isIdentifier
  rw [String.toList_ofList] at hword
  rw [holdsWord_of_forall fun c hc => isWord_of_isAsciiWord (hword c hc)]
  simpa using h.noTag

variable (t : ModeTypedef)

/-- All that is between the keyword and the semicolon, word by word. -/
def spaced : List SpacedWord := t.tokens ++ [t.written] ++ t.mode.attributeWords

theorem text_eq : t.text = keyword ++ t.spaced.flatMap (·.text) ++ [';'] := by
  simp only [text, t.mode.text_attribute, spaced, List.flatMap_append, List.append_assoc]

theorem solid : ∀ w ∈ t.spaced, w.word ≠ [] ∧ ∀ c ∈ w.word, isBlank c = false := by
  intro w hw
  rcases List.mem_append.mp hw with hw | hw
  · exact nonblank_of_isIdentifier (t.isOrdinary w hw).isIdentifier
  · exact t.mode.solid_attributeWords w hw

theorem newline_not_mem_text : '\n' ∉ t.text := by
  have hkeyword : '\n' ∉ keyword := by decide
  simp [text_eq, hkeyword, SpacedWord.newline_not_mem t.solid]

/-- What is in none of the ordinary words is in the attribute if anywhere. -/
theorem any_spaced {p : List Char → Bool} (h : ∀ w, IsOrdinary w → p w = false) :
    (t.spaced.any fun w => p w.word) = t.mode.attributeWords.any fun w => p w.word := by
  have hordinary : ((t.tokens ++ [t.written]).any fun w => p w.word) = false := by
    rw [List.any_eq_false]
    exact fun w hw => Bool.eq_false_iff.mp (h w.word (t.isOrdinary w hw))
  rw [spaced, List.any_append, hordinary, Bool.false_or]

theorem occursIn_text {pattern : List Char} (h : pattern ∈ markers) :
    occursIn pattern t.text = t.mode.attributeWords.any fun w => occursIn pattern w.word := by
  obtain ⟨hne, hword, -, hkeyword⟩ := of_mem_markers pattern h
  have hend : ∀ c ∈ [';'], c ∉ pattern := by
    intro c hc hmem
    obtain rfl := List.mem_singleton.mp hc
    exact absurd (hword _ hmem) (by decide)
  rw [text_eq, occursIn_append_right hne _ hend, SpacedWord.occursIn_append hne hword, hkeyword,
    Bool.false_or, t.any_spaced fun w hw => hw.occursIn_eq_false pattern (List.mem_cons_of_mem _ h)]

/-- The type that is read: the one of the mode, with the sign of the line. -/
def base : String :=
  if "unsigned".toList <:+: t.text then "unsigned " ++ t.mode.phrase else t.mode.phrase

theorem modeType?_text : modeType? t.text = some t.base := by
  have hattribute : occursIn attributeWord t.text = true := by
    rw [t.occursIn_text List.mem_cons_self]
    cases t.mode <;> decide
  have hfind : modes.find? (fun m => occursIn m.1 t.text) = some (t.mode.marker.toList, t.mode.phrase) := by
    rw [← t.mode.find?_modes, ← List.head?_filter, ← List.head?_filter]
    exact congrArg List.head? (List.filter_congr fun m hm =>
      t.occursIn_text (List.mem_cons_of_mem _ (List.mem_map_of_mem hm)))
  rw [modeType?, if_pos hattribute, hfind, Option.map_some]
  exact congrArg some (if_congr (occursIn_iff _ _) rfl rfl)

theorem lastBody?_text :
    lastBody? t.text = some (dropBlanksEnd (dropBlanks (t.spaced.flatMap (·.text)))) := by
  have hnone : ¬ keyword <:+: t.spaced.flatMap (·.text) := by
    have hspaced : occursIn keyword ([] ++ t.spaced.flatMap (·.text)) = _ :=
      SpacedWord.occursIn_append keyword_ne_nil isAsciiWord_keyword []
    rw [List.nil_append, occursIn_nil keyword_ne_nil, Bool.false_or,
      t.any_spaced fun w hw => hw.occursIn_eq_false keyword List.mem_cons_self] at hspaced
    rw [← occursIn_iff, hspaced]
    cases t.mode <;> decide
  have hne : t.spaced.flatMap (·.text) ≠ [] := by
    simp [spaced, MachineMode.attributeWords, SpacedWord.text, SpacedWord.ofString]
  have hread := lastBody?_line List.not_mem_nil (SpacedWord.newline_not_mem t.solid) hne .nil
  rw [afterLast?_eq_none hnone, Option.getD_none] at hread
  rw [text_eq]
  exact hread

theorem words_body :
    words (dropBlanksEnd (dropBlanks (t.spaced.flatMap (·.text)))) = t.spaced.map (·.word) := by
  rw [words_dropBlanksEnd, words_dropBlanks]
  simpa using SpacedWord.words_append [] t.solid

theorem beforeAttribute?_spaced : beforeAttribute? (t.spaced.map (·.word)) = some t.written.word := by
  have hnone : ∀ w ∈ t.tokens.map (·.word) ++ [t.written.word], occursIn attributeWord w = false := by
    intro w hw
    obtain ⟨s, hs, rfl⟩ := List.mem_map.mp (show w ∈ (t.tokens ++ [t.written]).map (·.word) by simpa using hw)
    exact (t.isOrdinary s hs).occursIn_eq_false attributeWord (by simp [markers])
  have hwords : t.spaced.map (·.word) = t.tokens.map (·.word) ++ t.written.word :: "__attribute__".toList ::
      ["((__mode__".toList, ("(" ++ t.mode.marker ++ ")))").toList] := by
    simp [spaced, MachineMode.attributeWords, SpacedWord.ofString]
  rw [hwords]
  exact beforeAttribute?_append hnone (by decide) _

theorem isIdentifier_name : isIdentifier t.name = true :=
  (t.isOrdinary t.written (by simp)).isIdentifier

/-- The line declares its alias for the type of the mode. -/
theorem ofLine?_text : ofLine? t.text = some ⟨t.name, t.base, false⟩ := by
  have hword : beforeAttribute? (words (dropBlanksEnd (dropBlanks (t.spaced.flatMap (·.text))))) =
      some t.written.word := by
    rw [t.words_body, t.beforeAttribute?_spaced]
  rw [ofLine?_of_beforeAttribute? t.modeType?_text t.lastBody?_text hword]
  simpa [name] using ofAlias?_stars t.isIdentifier_name 0 t.base

/-- The line is read as a typedef: none of its words is a tag. -/
theorem isCandidate_text : TypedefProbe.isCandidate t.text = true := by
  have hkeyword : occursIn keyword t.text = true := by
    rw [occursIn_iff, text, List.append_assoc]
    exact (List.prefix_append _ _).isInfix
  have htag : holdsWord ["union".toList, "struct".toList, "enum".toList] t.text = false := by
    rw [text_eq, holdsWord_append_separator (by decide), holdsWord_eq_any_words (by decide),
      SpacedWord.words_append keyword t.solid, List.any_append, List.any_map]
    have hspaced := t.any_spaced fun w hw => hw.holdsWord
    simp only [Function.comp_def, hspaced]
    cases t.mode <;> decide
  rw [TypedefProbe.isCandidate, hkeyword, htag]
  rfl

theorem declaration?_text : TypedefProbe.declaration? t.text = some ⟨t.name, t.base, false⟩ := by
  rw [TypedefProbe.declaration?, t.isCandidate_text, if_pos rfl, t.ofLine?_text]

/-- The category of the alias: its width is that of the mode, and its sign that
of the line. -/
def category : Category :=
  if "unsigned".toList <:+: t.text then t.mode.unsigned else t.mode.signed

end ModeTypedef

namespace TypedefProbe

variable (t : ModeTypedef) {p : TypedefProbe}

/-- The type of a mode is a standard one. -/
theorem resolve_text {types : Table Category} (h : MachineMode.Known types) :
    resolve types ⟨t.name, t.base, false⟩ = some t.category := by
  obtain ⟨hsigned, hunsigned⟩ := h t.mode
  have hknown : types.get? t.base = some t.category := by
    by_cases hsign : "unsigned".toList <:+: t.text
    · have hbase : t.base = "unsigned " ++ t.mode.phrase := if_pos hsign
      have hcategory : t.category = t.mode.unsigned := if_pos hsign
      rw [hbase, hcategory, hunsigned]
    · have hbase : t.base = t.mode.phrase := if_neg hsign
      have hcategory : t.category = t.mode.signed := if_neg hsign
      rw [hbase, hcategory, hsigned]
  simp only [resolve, hknown, Bool.false_eq_true, if_false]

theorem news?_text {types : Table Category} (h : MachineMode.Known types) :
    news? types t.text = some (t.name, t.category) :=
  news?_eq_some_iff.mpr ⟨_, t.declaration?_text, resolve_text t h, rfl⟩

/-- The line makes its alias known, and does nothing else. -/
theorem step_text (h : MachineMode.Known p.types) :
    p.step t.text = { p with
      types := p.types.insert t.name t.category
      aliases := p.aliases.insert t.name t.category } := by
  have hnews := news?_text t h
  rw [step_eq, leftover, hnews, Option.isNone_some, Bool.and_false, if_neg Bool.false_ne_true, List.append_nil]
  rfl

theorem analyse_text (hoverrides : p.overrides = []) (h : MachineMode.Known p.types) :
    p.analyse (String.ofList t.text) = { p with
      types := p.types.insert t.name t.category
      aliases := p.aliases.insert t.name t.category } := by
  have hlines : lines t.text = [t.text] :=
    lines_of_newline_not_mem (by simp [t.text_eq]) t.newline_not_mem_text
  rw [analyse, String.toList_ofList, hlines, List.foldl_cons, List.foldl_nil, step_text t h]
  exact applyOverrides_of_nil hoverrides

/-- **A machine mode settles the width of an alias, and the line its sign.** In
every state that knows the ten types of the modes, a line with a machine mode
makes its alias known: with the width of the mode, and unsigned exactly if
`unsigned` is found on the line, whatever is known of the words of its type. The
line is not ignored, and the other aliases stay as they are. -/
theorem mode_settles_alias (hoverrides : p.overrides = []) (h : MachineMode.Known p.types) :
    (p.analyse (String.ofList t.text)).resolved t.name =
      some (if "unsigned".toList <:+: t.text then t.mode.unsigned else t.mode.signed) ∧
    (p.analyse (String.ofList t.text)).ignored = p.ignored ∧
    (∀ name, name ≠ t.name → (p.analyse (String.ofList t.text)).resolved name = p.resolved name) ∧
    (∀ phrase, phrase ≠ t.name →
      (p.analyse (String.ofList t.text)).types.get? phrase = p.types.get? phrase) := by
  rw [analyse_text t hoverrides h]
  refine ⟨Table.get?_insert_self _ _ _, rfl, fun name hne => ?_, fun phrase hne => ?_⟩
  · exact Table.get?_insert_other hne.symm _ _
  · exact Table.get?_insert_other hne.symm _ _

/-- A type with `unsigned` in its name. -/
def unsignedByName : ModeTypedef := .ofNames ["my_unsigned_t"] "reg_t" .quarter (by decide +kernel)

/-- The type is known as a pointer and the alias as a long. The alias becomes an
unsigned char all the same. -/
theorem mode_settles_alias_redeclared :
    ∃ p q, p = (new ["sys/types.h"]).analyse "typedef char *my_unsigned_t;\ntypedef long reg_t;\ntypedef b c;\n" ∧
      q = p.analyse "typedef my_unsigned_t reg_t __attribute__ ((__mode__ (__QI__)));" ∧
      p.overrides = [] ∧ MachineMode.Known p.types ∧
      p.resolved "reg_t" = some .long ∧ q.resolved "reg_t" = some .uchar ∧
      q.resolved "my_unsigned_t" = some .pointer ∧ q.ignored = ["typedef b c;"] := by
  have hstate : ∃ p, p = (new ["sys/types.h"]).analyse
      "typedef char *my_unsigned_t;\ntypedef long reg_t;\ntypedef b c;\n" ∧ p.overrides = [] ∧
      p.types.toList = ((standardTypes.insert "my_unsigned_t" .pointer).insert "reg_t" .long).toList ∧
      p.aliases.toList = [("my_unsigned_t", .pointer), ("reg_t", .long)] ∧ p.ignored = ["typedef b c;"] :=
    ⟨_, rfl, by decide +kernel⟩
  obtain ⟨p, hp, hoverrides, htypes, haliases, hignored⟩ := hstate
  have hknown : MachineMode.Known p.types := by
    have hstandard : p.types = (standardTypes.insert "my_unsigned_t" .pointer).insert "reg_t" .long :=
      congrArg Table.mk htypes
    rw [hstandard]
    exact (MachineMode.known_standardTypes.insert (fun m => by cases m <;> decide) _).insert
      (fun m => by cases m <;> decide) _
  have hline : String.ofList unsignedByName.text =
      "typedef my_unsigned_t reg_t __attribute__ ((__mode__ (__QI__)));" := by
    rw [unsignedByName, ModeTypedef.text_ofNames]
    decide +kernel
  have hsign : "unsigned".toList <:+: unsignedByName.text := by decide +kernel
  have hname : unsignedByName.name = "reg_t" := String.ofList_toList
  obtain ⟨halias, hleft, hothers, -⟩ := mode_settles_alias unsignedByName hoverrides hknown
  rw [hline, hname, if_pos hsign] at halias
  rw [hline] at hleft hothers
  refine ⟨p, _, hp, rfl, hoverrides, hknown, ?_, halias, (hothers "my_unsigned_t" (by decide)).trans ?_,
    hleft.trans hignored⟩
  all_goals
    rw [resolved, Table.get?, haliases]
    decide

end TypedefProbe

end AbiProbe
