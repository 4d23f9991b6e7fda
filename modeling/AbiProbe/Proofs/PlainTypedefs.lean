/-
Which plain typedefs are read for what they are: exactly those in whose names
the reader finds neither a keyword nor the mode of an attribute
(`PlainTypedef.ofLine?_text_eq_some_iff`).

A keyword in a name cuts the declaration once more, and what is left has fewer
letters, so it declares something else. A mode replaces the words of the type,
and the name is then one that no attribute is part of; but the line holds an
attribute, so what is read is not its declaration.
-/
import AbiProbe.Proofs.TypedefReading
import AbiProbe.Proofs.ValidCatalog

namespace AbiProbe

open Text TypedefDecl

namespace PlainTypedef

theorem IsToken.solid {w : List Char} (h : IsToken w) : w ≠ [] ∧ ∀ c ∈ w, isBlank c = false := by
  rcases h with ⟨h, -, -⟩ | ⟨n, rfl⟩
  · exact nonblank_of_isIdentifier h
  · refine ⟨by simp, fun c hc => ?_⟩
    rw [List.eq_of_mem_replicate hc]
    decide

variable (t : PlainTypedef)

theorem isAsciiWord_name : ∀ c ∈ t.name.toList, isAsciiWord c = true := isAsciiWord_of_isIdentifier t.isName

theorem exists_name_eq_cons : ∃ c cs, t.name.toList = c :: cs ∧ c ≠ '*' := exists_eq_cons_of_isIdentifier t.isName

theorem solid_written : t.written.word ≠ [] ∧ ∀ c ∈ t.written.word, isBlank c = false := by
  obtain ⟨c, cs, hname, -⟩ := t.exists_name_eq_cons
  refine ⟨by simp [written, hname], fun c hc => ?_⟩
  rcases List.mem_append.mp hc with hc | hc
  · rw [List.eq_of_mem_replicate hc]
    decide
  · exact isBlank_of_isAsciiWord (t.isAsciiWord_name c hc)

theorem solid : ∀ w ∈ t.tokens ++ [t.written], w.word ≠ [] ∧ ∀ c ∈ w.word, isBlank c = false := by
  intro w hw
  rcases List.mem_append.mp hw with hw | hw
  · exact (t.isToken w hw).solid
  · exact List.mem_singleton.mp hw ▸ t.solid_written

theorem words_body : words t.body = t.tokens.map (·.word) ++ [t.written.word] := by
  rw [body, words_append_right _ t.isGap_before.blank]
  simpa using SpacedWord.words_append [] t.solid

theorem ofBody?_body : ofBody? t.body = some t.decl := by
  rw [ofBody?, words_body, List.getLast?_concat, List.dropLast_concat, Option.bind_some, written,
    ofAlias?_stars t.isName]
  rfl

theorem body_eq : t.body =
    t.tokens.flatMap (·.text) ++ (t.gap ++ (List.replicate t.stars '*' ++ t.name.toList)) ++ t.before := by
  simp [body, written, SpacedWord.text]

theorem body_ne_nil : t.body ≠ [] := by
  simp [body_eq, t.gap_ne_nil]

theorem newline_not_mem_body : '\n' ∉ t.body := by
  intro hmem
  rcases List.mem_append.mp hmem with hmem | hmem
  · exact SpacedWord.newline_not_mem t.solid hmem
  · exact t.isGap_before.newline_not_mem hmem

theorem newline_not_mem_lead : '\n' ∉ t.lead := by
  rcases t.isLead with h | ⟨before, after, hbefore, hafter, h⟩
  · exact h.newline_not_mem
  · simp [h, hbefore.newline_not_mem, hafter.newline_not_mem]

/-! ### What the reader finds -/

theorem lastBody?_text : lastBody? t.text =
    some (dropBlanksEnd (dropBlanks ((afterLast? keyword t.body).getD t.body))) :=
  lastBody?_line t.newline_not_mem_lead t.newline_not_mem_body t.body_ne_nil t.isGap_after

theorem occursIn_spelled {pattern : List Char} (hne : pattern ≠ [])
    (hword : ∀ c ∈ pattern, isAsciiWord c = true) (before last : List Char) :
    occursIn pattern (before ++ t.tokens.flatMap (·.text) ++ (t.gap ++ (List.replicate t.stars '*' ++ last))) =
      (occursIn pattern before || t.tokens.any (fun w => occursIn pattern w.word) || occursIn pattern last) := by
  have hstars : ∀ c ∈ List.replicate t.stars '*', c ∉ pattern := by
    intro c hc hmem
    exact absurd (List.eq_of_mem_replicate hc ▸ hword c hmem) (by decide)
  rw [occursIn_append_gap hne _ t.gap_ne_nil (t.isGap.not_mem hword), occursIn_append_left hne hstars,
    SpacedWord.occursIn_append hne hword]

theorem occursIn_lead {pattern : List Char} (h : pattern ∈ markers) :
    occursIn pattern (t.lead ++ keyword) = false := by
  obtain ⟨hne, hword, hextension, hkeyword⟩ := of_mem_markers pattern h
  rcases t.isLead with hlead | ⟨before, after, hbefore, hafter, hlead⟩
  · rw [occursIn_append_left hne (hlead.not_mem hword), hkeyword]
  · have hgap : ∀ c ∈ ' ' :: after, c ∉ pattern :=
      IsGap.not_mem (List.forall_mem_cons.mpr ⟨by decide, hafter⟩) hword
    have hcut : t.lead ++ keyword = before ++ ("__extension__".toList ++ (' ' :: after ++ keyword)) := by
      simp [hlead]
    rw [hcut, occursIn_append_left hne (hbefore.not_mem hword),
      occursIn_append_gap hne _ (List.cons_ne_nil _ _) hgap, hextension, hkeyword, Bool.or_false]

/-- Of what a mode is searched for with, the line holds what its names hold. -/
theorem occursIn_text {pattern : List Char} (h : pattern ∈ markers) :
    occursIn pattern t.text = t.mentions pattern := by
  obtain ⟨hne, hword, -, -⟩ := of_mem_markers pattern h
  have hend : ∀ c ∈ t.before ++ ';' :: t.after, c ∉ pattern := by
    intro c hc
    rcases List.mem_append.mp hc with hc | hc
    · exact t.isGap_before.not_mem hword c hc
    · rcases List.mem_cons.mp hc with rfl | hc
      · exact fun hmem => absurd (hword _ hmem) (by decide)
      · exact t.isGap_after.not_mem hword c hc
  have hcut : t.text = t.lead ++ keyword ++ t.tokens.flatMap (·.text) ++
      (t.gap ++ (List.replicate t.stars '*' ++ t.name.toList)) ++ (t.before ++ ';' :: t.after) := by
    simp [text, body_eq]
  rw [hcut, occursIn_append_right hne _ hend, t.occursIn_spelled hne hword, t.occursIn_lead h,
    Bool.false_or, mentions]

theorem modeType?_text_eq_none_iff : modeType? t.text = none ↔
    (t.mentions attributeWord = true → ∀ m ∈ modes, t.mentions m.1 = false) := by
  rw [modeType?_eq_none_iff, t.occursIn_text List.mem_cons_self]
  have hmodes : ∀ m ∈ modes, occursIn m.1 t.text = t.mentions m.1 :=
    fun m hm => t.occursIn_text (List.mem_cons_of_mem _ (List.mem_map_of_mem hm))
  exact imp_congr_right fun _ => forall₂_congr fun m hm => by rw [hmodes m hm]

theorem occursIn_keyword_dropLast_body : occursIn keyword t.body.dropLast =
    (t.tokens.any (fun w => occursIn keyword w.word) ||
      occursIn keyword (if t.before = [] then t.name.toList.dropLast else t.name.toList)) := by
  have hspelled (last : List Char) := t.occursIn_spelled keyword_ne_nil isAsciiWord_keyword [] last
  simp only [occursIn_nil keyword_ne_nil, List.nil_append, Bool.false_or] at hspelled
  obtain ⟨c, cs, hname, -⟩ := t.exists_name_eq_cons
  rw [body_eq]
  by_cases hbefore : t.before = []
  · rw [if_pos hbefore, ← hspelled, hbefore, List.append_nil, List.dropLast_append_of_ne_nil (by simp [hname]),
      List.dropLast_append_of_ne_nil (by simp [hname]), List.dropLast_append_of_ne_nil (by simp [hname])]
  · have hgap : IsGap t.before.dropLast := fun c hc => t.isGap_before c ((List.dropLast_sublist t.before).subset hc)
    rw [if_neg hbefore, ← hspelled, List.dropLast_append_of_ne_nil hbefore,
      occursIn_append_right keyword_ne_nil _ (hgap.not_mem isAsciiWord_keyword)]

/-- What the words and the alias hold, the declaration does. -/
theorem occursIn_decl_of_mentions {pattern : List Char} (h : t.mentions pattern = true) :
    occursIn pattern t.decl.base.toList = true ∨ occursIn pattern t.decl.name.toList = true := by
  rcases Bool.or_eq_true_iff.mp h with htokens | hname
  · obtain ⟨w, hw, hpattern⟩ := List.any_eq_true.mp htokens
    have hphrase : w.word <:+: phrase (t.tokens.map (·.word)) := infix_phrase_of_mem (List.mem_map_of_mem hw)
    rw [occursIn_iff] at hpattern
    rw [occursIn_iff, decl, String.toList_append, String.toList_ofList]
    exact .inl ((hpattern.trans hphrase).trans (List.prefix_append _ _).isInfix)
  · exact .inr hname

/-- With a mode, the line is not read as what it declares: the declaration
has an attribute, and what is read has none. -/
theorem ofLine?_text_ne_of_mode {base : String} (hmode : modeType? t.text = some base) :
    ofLine? t.text ≠ some t.decl := by
  intro hread
  obtain ⟨ws, word, hword, halias⟩ := ofLine?_of_modeType?_eq_some hmode hread
  obtain ⟨hname, hbase⟩ := ofAlias?_eq_some halias
  have hmentions : t.mentions attributeWord = true := by
    rw [← t.occursIn_text List.mem_cons_self]
    exact occursIn_of_modeType?_eq_some hmode
  rcases t.occursIn_decl_of_mentions hmentions with hfound | hfound
  · have hspace : ∀ c ∈ (if word.head? == some '*' then " *" else "").toList, c ∉ attributeWord := by
      intro c hc
      split at hc
      · obtain rfl | rfl := List.mem_pair.mp hc <;> decide
      · cases hc
    rw [hbase, String.toList_append, occursIn_append_right attributeWord_ne_nil _ hspace,
      modeType?_holds_no_attribute hmode] at hfound
    cases hfound
  · have hsuffix : t.decl.name.toList <:+: word := hname ▸ (List.dropWhile_suffix _).isInfix
    have hin : occursIn attributeWord word = true :=
      (occursIn_iff _ _).mpr (((occursIn_iff _ _).mp hfound).trans hsuffix)
    rw [beforeAttribute?_holds_no_attribute hword] at hin
    cases hin

/-- A keyword in a name cuts off letters of the declaration. -/
theorem ofBody?_ne_of_afterLast? {after : List Char} (h : afterLast? keyword t.body = some after) :
    ofBody? after ≠ some t.decl := by
  intro hread
  obtain ⟨-, before, hcut⟩ := afterLast?_eq_some h
  -- Both readings would have the same letters, but the keyword between them has one `t`.
  have hletters : t.body.count 't' = after.count 't' := by
    rw [← letters_of_ofBody? (by decide) (by decide) t.ofBody?_body,
      letters_of_ofBody? (by decide) (by decide) hread]
  rw [hcut, List.count_append, List.count_append, show keyword.count 't' = 1 from rfl] at hletters
  omega

/-- **A plain typedef is read as what it declares if and only if its names are
clear**: no word of the type holds the keyword, the alias does not hold it
with anything behind it, and no names hold both an attribute and a mode.
Otherwise the line is read as something else, or not at all. -/
theorem ofLine?_text_eq_some_iff : ofLine? t.text = some t.decl ↔ t.Clear := by
  -- A mode settles the type whatever keywords there are, so this comes before the search for one.
  cases hmode : modeType? t.text with
  | some base =>
    refine iff_of_false (t.ofLine?_text_ne_of_mode hmode) fun hclear => ?_
    rw [t.modeType?_text_eq_none_iff.mpr hclear.mode] at hmode
    cases hmode
  | none =>
    have hwords (cs : List Char) : ofBody? (dropBlanksEnd (dropBlanks cs)) = ofBody? cs :=
      ofBody?_eq_of_words ((words_dropBlanksEnd _).trans (words_dropBlanks cs))
    rw [ofLine?_of_modeType?_eq_none hmode, lastBody?_text, Option.bind_some, hwords]
    have hfound := isSome_afterLast? keyword_ne_nil t.body
    rw [occursIn_keyword_dropLast_body] at hfound
    cases hlast : afterLast? keyword t.body with
    | some after =>
      refine iff_of_false (t.ofBody?_ne_of_afterLast? hlast) fun hclear => ?_
      rw [hlast, Option.isSome_some, eq_comm, Bool.or_eq_true_iff, List.any_eq_true] at hfound
      rcases hfound with ⟨w, hw, hkeyword⟩ | hkeyword
      · exact absurd (hclear.tokens w hw) (by simp [hkeyword])
      · exact absurd hclear.name (by simp [hkeyword])
    | none =>
      refine iff_of_true t.ofBody?_body ?_
      rw [hlast, Option.isSome_none, eq_comm, Bool.or_eq_false_iff, List.any_eq_false] at hfound
      exact ⟨fun w hw => by simpa using hfound.1 w hw, hfound.2, t.modeType?_text_eq_none_iff.mp hmode⟩

/-- An `unsigned int` under a name with the keyword in it. -/
def keywordInName : PlainTypedef := ofNames ["unsigned", "int"] "my_typedef_id" (by decide) (by decide) (by decide)

/-- Names that hold an attribute and a mode. -/
def modeInNames : PlainTypedef :=
  ofNames ["int", "x__attribute__", "__QI__y"] "a" (by decide) (by decide) (by decide)

/-- The name is cut after the keyword in it, and nothing is left of the type;
or the line gets the type of a mode and the name of what precedes the
attribute. -/
theorem misread_names :
    (keywordInName.text = "typedef unsigned int my_typedef_id;".toList ∧
      keywordInName.decl = ⟨"my_typedef_id", "unsigned int", false⟩ ∧
      ofLine? keywordInName.text = some ⟨"_id", "", false⟩) ∧
    modeInNames.text = "typedef int x__attribute__ __QI__y a;".toList ∧
      modeInNames.decl = ⟨"a", "int x__attribute__ __QI__y", false⟩ ∧
      ofLine? modeInNames.text = some ⟨"int", "char", false⟩ := by
  refine ⟨⟨?_, ?_, ?_⟩, ?_, ?_, ?_⟩ <;> decide

end PlainTypedef

end AbiProbe
