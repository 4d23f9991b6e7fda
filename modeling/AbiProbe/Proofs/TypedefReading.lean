/-
How a typedef line is read, step by step: the text between the last keyword
and the semicolon (`lastBody?_line`), its words, and the type and the name that
they give (`letters_of_ofBody?`: what is read has the letters of the text). With
a mode of an attribute, the name is the word before the attribute
(`ofLine?_of_beforeAttribute?`), and neither the type nor the name holds an
attribute (`modeType?_holds_no_attribute`,
`beforeAttribute?_holds_no_attribute`).

The reader takes the last keyword that anything follows, wherever its letters
are, in the middle of a name too; `afterLast?` is that search on its own. Tags
are looked for as whole words, which white space parts as it parts all words
(`holdsWord_eq_any_words`).
-/
import AbiProbe.Probe.PlainTypedef
import AbiProbe.Proofs.FirstOccurrence
import AbiProbe.Proofs.ValidCatalog
import Mathlib.Data.List.Basic

namespace AbiProbe

open Text TypedefDecl

/-! ## Words and gaps -/

/-- Letters, digits and underscores of ASCII are not white space. -/
theorem isBlank_of_isAsciiWord {c : Char} (h : isAsciiWord c = true) : isBlank c = false := by
  have hrange := range_of_isAsciiWord h
  refine Bool.eq_false_iff.mpr fun hblank => ?_
  obtain ⟨r, hr, hlow, hhigh⟩ := CodePoints.holds_iff.mp hblank
  simp only [blankTable, List.mem_cons, List.not_mem_nil, or_false] at hr
  rcases hr with rfl | rfl | rfl | rfl | rfl | rfl | rfl | rfl | rfl | rfl <;> simp only at hlow hhigh <;> omega

/-- White space parts words of word characters, as it parts all words. -/
theorem isWord_of_isBlank {c : Char} (h : isBlank c = true) : isWord c = false := by
  have happart : ∀ r ∈ blankTable, ∀ r' ∈ wordTable, r.2 < r'.1 ∨ r'.2 < r.1 := by decide +kernel
  unfold isWord
  split
  · refine Bool.eq_false_iff.mpr fun hword => ?_
    rw [isBlank_of_isAsciiWord hword] at h
    cases h
  · refine Bool.eq_false_iff.mpr fun hword => ?_
    obtain ⟨r, hr, hlow, hhigh⟩ := CodePoints.holds_iff.mp h
    obtain ⟨r', hr', hlow', hhigh'⟩ := CodePoints.holds_iff.mp hword
    have := happart r hr r' hr'
    omega

/-- A keyword can be looked for in one word after the other. -/
theorem holdsWord_eq_any_words {keywords : List (List Char)} (h : [] ∉ keywords) (cs : List Char) :
    holdsWord keywords cs = (words cs).any (holdsWord keywords) := by
  have hcut : pieces (!isWord ·) cs = (pieces isBlank cs).flatMap (pieces (!isWord ·)) :=
    (flatMap_pieces (fun c hc => by rw [isWord_of_isBlank hc]; rfl) cs).symm
  have hnil : holdsWord keywords [] = false := by simpa [holdsWord] using h
  rw [holdsWord, hcut, List.any_flatMap, words, List.any_filter]
  refine congrArg (List.any _) (funext fun piece => ?_)
  cases piece with
  | nil => exact hnil
  | cons c cs => rfl

/-- Identifiers are words. -/
theorem nonblank_of_isIdentifier {w : List Char} (h : isIdentifier (String.ofList w) = true) :
    w ≠ [] ∧ ∀ c ∈ w, isBlank c = false := by
  have hword := isAsciiWord_of_isIdentifier h
  rw [String.toList_ofList] at hword
  refine ⟨?_, fun c hc => isBlank_of_isAsciiWord (hword c hc)⟩
  rintro rfl
  cases h

/-- An identifier begins with no star. -/
theorem exists_eq_cons_of_isIdentifier {name : String} (h : isIdentifier name = true) :
    ∃ c cs, name.toList = c :: cs ∧ c ≠ '*' := by
  have hword := isAsciiWord_of_isIdentifier h
  cases hname : name.toList with
  | nil =>
    rw [isIdentifier_eq, hname] at h
    cases h
  | cons c cs =>
    refine ⟨c, cs, rfl, ?_⟩
    rintro rfl
    exact absurd (hword '*' (hname ▸ List.mem_cons_self)) (by decide)

namespace IsGap

variable {gap : List Char}

theorem blank (h : IsGap gap) : ∀ c ∈ gap, isBlank c = true := fun c hc => (h c hc).1

theorem newline_not_mem (h : IsGap gap) : '\n' ∉ gap := fun hmem => (h _ hmem).2 rfl

/-- No word holds a character of a gap. -/
theorem not_mem (h : IsGap gap) {pattern : List Char} (hword : ∀ c ∈ pattern, isAsciiWord c = true) :
    ∀ c ∈ gap, c ∉ pattern :=
  fun c hc hmem => Bool.false_ne_true ((isBlank_of_isAsciiWord (hword c hmem)).symm.trans (h c hc).1)

end IsGap

namespace SpacedWord

variable {ws : List SpacedWord}

/-- Words after white space are the words of the text. -/
theorem words_append (before : List Char)
    (h : ∀ w ∈ ws, w.word ≠ [] ∧ ∀ c ∈ w.word, isBlank c = false) :
    words (before ++ ws.flatMap (·.text)) = words before ++ ws.map (·.word) := by
  induction ws generalizing before with
  | nil => simp
  | cons w ws ih =>
    have hword := h w List.mem_cons_self
    have hrest := ih w.word fun w hw => h w (List.mem_cons_of_mem _ hw)
    rw [List.flatMap_cons, text, List.append_assoc, words_append_gap before w.gap_ne_nil w.isGap.blank,
      hrest, words_of_solid hword.1 hword.2, List.map_cons, List.singleton_append]

/-- A pattern of word characters occurs in one of the words. -/
theorem occursIn_append {pattern : List Char} (hne : pattern ≠ [])
    (hword : ∀ c ∈ pattern, isAsciiWord c = true) (before : List Char) :
    occursIn pattern (before ++ ws.flatMap (·.text)) =
      (occursIn pattern before || ws.any fun w => occursIn pattern w.word) := by
  induction ws generalizing before with
  | nil => simp
  | cons w ws ih =>
    rw [List.flatMap_cons, text, List.append_assoc,
      occursIn_append_gap hne before w.gap_ne_nil (w.isGap.not_mem hword), ih w.word, List.any_cons]

theorem newline_not_mem (h : ∀ w ∈ ws, w.word ≠ [] ∧ ∀ c ∈ w.word, isBlank c = false) :
    '\n' ∉ ws.flatMap (·.text) := by
  intro hmem
  obtain ⟨w, hw, hmem⟩ := List.mem_flatMap.mp hmem
  rcases List.mem_append.mp hmem with hmem | hmem
  · exact w.isGap.newline_not_mem hmem
  · exact absurd ((h w hw).2 _ hmem) (by decide)

end SpacedWord

/-! ## The last occurrence -/

/-- What follows the last occurrence of a pattern that anything follows. -/
def afterLast? (pattern : List Char) : List Char → Option (List Char)
  | [] => none
  | c :: cs => (afterLast? pattern cs).or ((pattern.isPrefixOf? (c :: cs)).filter (· ≠ []))

section

variable {pattern cs after : List Char}

theorem afterLast?_eq_some (h : afterLast? pattern cs = some after) :
    after ≠ [] ∧ ∃ before, cs = before ++ pattern ++ after := by
  induction cs with
  | nil => cases h
  | cons c cs ih =>
    rcases Option.or_eq_some_iff.mp h with hlater | ⟨-, hhere⟩
    · obtain ⟨hne, before, rfl⟩ := ih hlater
      exact ⟨hne, c :: before, rfl⟩
    · obtain ⟨hstart, hne⟩ := Option.filter_eq_some_iff.mp hhere
      exact ⟨by simpa using hne, [], (List.isPrefixOf?_eq_some_iff_append_eq.mp hstart).symm⟩

theorem afterLast?_eq_none (h : ¬ pattern <:+: cs) : afterLast? pattern cs = none := by
  refine Option.eq_none_iff_forall_ne_some.mpr fun after hafter => ?_
  obtain ⟨-, before, rfl⟩ := afterLast?_eq_some hafter
  exact h ⟨before, after, rfl⟩

/-- Something follows a prefix that ends before the last character. -/
theorem isSome_filter_isPrefixOf? (hne : pattern ≠ []) (cs : List Char) :
    ((pattern.isPrefixOf? cs).filter (· ≠ [])).isSome = pattern.isPrefixOf cs.dropLast := by
  refine Bool.eq_iff_iff.mpr ⟨fun h => ?_, fun h => ?_⟩
  · obtain ⟨after, hsome⟩ := Option.isSome_iff_exists.mp h
    obtain ⟨hstart, hafter⟩ := Option.filter_eq_some_iff.mp hsome
    rw [← List.isPrefixOf?_eq_some_iff_append_eq.mp hstart, List.dropLast_append_of_ne_nil (by simpa using hafter)]
    exact List.isPrefixOf_iff_prefix.mpr (List.prefix_append _ _)
  · obtain ⟨after, hafter⟩ := List.isPrefixOf_iff_prefix.mp h
    have hcs : cs ≠ [] := by
      rintro rfl
      exact hne (List.append_eq_nil_iff.mp hafter).1
    have hcut : pattern ++ (after ++ [cs.getLast hcs]) = cs := by
      rw [← List.append_assoc, hafter, List.dropLast_append_getLast]
    rw [List.isPrefixOf?_eq_some_iff_append_eq.mpr hcut]
    simp [Option.filter]

/-- There is such an occurrence if there is one that ends before the last
character. -/
theorem isSome_afterLast? (hne : pattern ≠ []) (cs : List Char) :
    (afterLast? pattern cs).isSome = occursIn pattern cs.dropLast := by
  have hnil : pattern.isPrefixOf [] = false := by cases pattern <;> simp_all
  induction cs with
  | nil => simp [afterLast?, occursIn, hne]
  | cons c cs ih =>
    rw [afterLast?, Option.isSome_or, ih, isSome_filter_isPrefixOf? hne, Bool.or_comm]
    cases cs with
    | nil => simp [occursIn, hnil]
    | cons d cs => rw [List.dropLast_cons_cons, occursIn]

theorem afterLast?_append (before : List Char) (h : afterLast? pattern cs = some after) :
    afterLast? pattern (before ++ cs) = some after := by
  induction before with
  | nil => exact h
  | cons b before ih => rw [List.cons_append, afterLast?, ih, Option.some_or]

theorem isPrefixOf?_append_cons {c : Char} (h : c ∉ pattern) (before after : List Char) :
    pattern.isPrefixOf? (before ++ c :: after) = (pattern.isPrefixOf? before).map (· ++ c :: after) := by
  cases hp : pattern.isPrefixOf? before with
  | some rest =>
    rw [Option.map_some, List.isPrefixOf?_eq_some_iff_append_eq, ← List.append_assoc,
      List.isPrefixOf?_eq_some_iff_append_eq.mp hp]
  | none =>
    have hstart : pattern.isPrefixOf before = false := by
      rw [← List.isSome_isPrefixOf?_eq_isPrefixOf, hp, Option.isSome_none]
    rw [Option.map_none, ← Option.not_isSome_iff_eq_none, List.isSome_isPrefixOf?_eq_isPrefixOf,
      isPrefixOf_append_cons h, hstart]
    exact Bool.false_ne_true

end

/-! ## The text after the keyword -/

namespace TypedefDecl

theorem keyword_eq : keyword = ['t', 'y', 'p', 'e', 'd', 'e', 'f'] := rfl

theorem keyword_ne_nil : keyword ≠ [] := List.cons_ne_nil _ _

theorem isAsciiWord_keyword : ∀ c ∈ keyword, isAsciiWord c = true := List.all_eq_true.mp (by decide)

theorem reverse_dropBlanksEnd (cs : List Char) : (dropBlanksEnd cs).reverse = cs.reverse.dropWhile isBlank :=
  List.reverse_reverse _

theorem body?_append_semicolon {before after : List Char} (hbefore : '\n' ∉ before)
    (hafter : ∀ c ∈ after, isBlank c = true) :
    body? (before ++ ';' :: after) =
      if before = [] then none else some (dropBlanksEnd (dropBlanks before)) := by
  have hreverse : (dropBlanksEnd (before ++ ';' :: after)).reverse = ';' :: before.reverse := by
    rw [reverse_dropBlanksEnd, List.reverse_append, List.reverse_cons, List.append_assoc,
      List.dropWhile_append_of_pos fun c hc => hafter c (List.mem_reverse.mp hc)]
    rfl
  have hsublist : (dropBlanksEnd (dropBlanks before)).Sublist before := by
    refine List.Sublist.trans ?_ (List.dropWhile_sublist isBlank)
    exact List.reverse_sublist.mp ((reverse_dropBlanksEnd _).symm ▸ List.dropWhile_sublist isBlank)
  have hbody : '\n' ∉ dropBlanksEnd (dropBlanks before) := fun hmem => hbefore (hsublist.subset hmem)
  simp only [body?, hreverse, List.reverse_reverse]
  by_cases hnil : before = []
  · subst hnil
    rfl
  · obtain ⟨c, hc⟩ := List.exists_mem_of_ne_nil before hnil
    have hfeeds : before.all (· == '\n') = false :=
      Bool.eq_false_iff.mpr fun hall => hbefore (beq_iff_eq.mp (List.all_eq_true.mp hall c hc) ▸ hc)
    rw [if_neg hnil]
    by_cases hempty : dropBlanksEnd (dropBlanks before) = []
    · simp [hempty, hfeeds]
    · simp [hempty, hbody]

/-- A keyword is the last one unless another one follows. -/
theorem afterLast?_keyword_append {body : List Char} (hne : body ≠ []) :
    afterLast? keyword (keyword ++ body) = some ((afterLast? keyword body).getD body) := by
  cases h : afterLast? keyword body with
  | some after => exact afterLast?_append keyword h
  | none =>
    rw [keyword_eq] at h ⊢
    simp [afterLast?, List.isPrefixOf?, h, hne]

theorem lastBody?_cons {c : Char} (hc : c ≠ '\n') (cs : List Char) :
    lastBody? (c :: cs) = (lastBody? cs).or ((keyword.isPrefixOf? (c :: cs)).bind body?) := by
  rw [lastBody?, if_neg hc]
  cases lastBody? cs <;> rfl

theorem lastBody?_of_gap {gap : List Char} (h : IsGap gap) : lastBody? gap = none := by
  induction gap with
  | nil => rfl
  | cons c gap ih =>
    obtain ⟨hblank, hc⟩ := h c List.mem_cons_self
    have hne : 't' ≠ c := by
      rintro rfl
      exact absurd hblank (by decide)
    have hstart : keyword.isPrefixOf? (c :: gap) = none := by simp [keyword_eq, List.isPrefixOf?, hne]
    rw [lastBody?_cons hc, ih fun c hc => h c (List.mem_cons_of_mem _ hc), hstart]
    rfl

/-- Only the text up to the semicolon counts. -/
theorem lastBody?_append_semicolon {before after : List Char} (hbefore : '\n' ∉ before) (hafter : IsGap after) :
    lastBody? (before ++ ';' :: after) =
      (afterLast? keyword before).map fun body => dropBlanksEnd (dropBlanks body) := by
  induction before with
  | nil =>
    rw [List.nil_append, lastBody?_cons (by decide), lastBody?_of_gap hafter]
    rfl
  | cons c before ih =>
    have hc : c ≠ '\n' := fun he => hbefore (he ▸ List.mem_cons_self)
    have hrest := ih fun hmem => hbefore (List.mem_cons_of_mem c hmem)
    have hhere : ((keyword.isPrefixOf? (c :: before ++ ';' :: after)).bind body?) =
        ((keyword.isPrefixOf? (c :: before)).filter (· ≠ [])).map fun body => dropBlanksEnd (dropBlanks body) := by
      rw [isPrefixOf?_append_cons (by decide)]
      cases hp : keyword.isPrefixOf? (c :: before) with
      | none => rfl
      | some body =>
        have hbody : '\n' ∉ body := fun hmem =>
          hbefore (List.isPrefixOf?_eq_some_iff_append_eq.mp hp ▸ List.mem_append_right keyword hmem)
        rw [Option.map_some, Option.bind_some, body?_append_semicolon hbody hafter.blank]
        by_cases hnil : body = [] <;> simp [hnil, Option.filter]
    rw [List.cons_append, lastBody?_cons hc, hrest, ← List.cons_append, hhere, afterLast?, Option.map_or]

/-- Of the text between a keyword and the semicolon, only what follows a keyword
in it counts, if there is one. -/
theorem lastBody?_line {lead body after : List Char} (hlead : '\n' ∉ lead) (hbody : '\n' ∉ body)
    (hne : body ≠ []) (hafter : IsGap after) :
    lastBody? (lead ++ keyword ++ body ++ ';' :: after) =
      some (dropBlanksEnd (dropBlanks ((afterLast? keyword body).getD body))) := by
  have hkeyword : '\n' ∉ keyword := by decide
  have hfeeds : '\n' ∉ lead ++ keyword ++ body := by simp [hlead, hkeyword, hbody]
  rw [lastBody?_append_semicolon hfeeds hafter, List.append_assoc,
    afterLast?_append lead (afterLast?_keyword_append hne), Option.map_some]

/-! ## Letters

Where no attribute gives a mode, a declaration is read from its words, and
holds the letters of its text. -/

/-- How often a declaration holds a letter. -/
def letters (d : TypedefDecl) (c : Char) : Nat := d.base.toList.count c + d.name.toList.count c

/-- The declaration that a text is the words of. -/
def ofBody? (body : List Char) : Option TypedefDecl :=
  (words body).getLast?.bind fun last => ofAlias? last (String.ofList (phrase (words body).dropLast))

theorem ofBody?_eq_of_words {body body' : List Char} (h : words body = words body') :
    ofBody? body = ofBody? body' := by
  rw [ofBody?, ofBody?, h]

theorem ofLine?_of_modeType?_eq_none {line : List Char} (h : modeType? line = none) :
    ofLine? line = (lastBody? line).bind ofBody? := by
  simp only [ofLine?, h]
  rfl

theorem ofLine?_of_modeType?_eq_some {line : List Char} {base : String} {d : TypedefDecl}
    (hmode : modeType? line = some base) (h : ofLine? line = some d) :
    ∃ ws word, beforeAttribute? ws = some word ∧ ofAlias? word base = some d := by
  simp only [ofLine?, hmode] at h
  obtain ⟨body, -, h⟩ := Option.bind_eq_some_iff.mp h
  obtain ⟨last, -, h⟩ := Option.bind_eq_some_iff.mp h
  obtain ⟨word, hword, h⟩ := Option.bind_eq_some_iff.mp h
  exact ⟨words body, word, hword, h⟩

theorem ofLine?_of_beforeAttribute? {line body word : List Char} {base : String}
    (hmode : modeType? line = some base) (hbody : lastBody? line = some body)
    (hword : beforeAttribute? (words body) = some word) : ofLine? line = ofAlias? word base := by
  have hlast : ∃ last, (words body).getLast? = some last := by
    cases h : words body with
    | nil =>
      rw [h] at hword
      cases hword
    | cons first ws => exact ⟨_, List.getLast?_eq_some_getLast (List.cons_ne_nil first ws)⟩
  obtain ⟨last, hlast⟩ := hlast
  simp [ofLine?, hbody, hmode, hlast, hword]

theorem ofAlias?_eq_some {written : List Char} {base : String} {d : TypedefDecl}
    (h : ofAlias? written base = some d) :
    d.name.toList = written.dropWhile (· == '*') ∧
      d.base = base ++ if written.head? == some '*' then " *" else "" := by
  simp only [ofAlias?] at h
  split at h
  · cases h
    refine ⟨String.toList_ofList, ?_⟩
    cases written.head? == some '*' <;> simp
  · cases h

/-- An identifier after some stars is read as it is written. -/
theorem ofAlias?_stars {name : String} (h : isIdentifier name = true) (stars : Nat) (base : String) :
    ofAlias? (List.replicate stars '*' ++ name.toList) base =
      some ⟨name, base ++ if 0 < stars then " *" else "", 0 < stars⟩ := by
  obtain ⟨c, cs, hname, hc⟩ := exists_eq_cons_of_isIdentifier h
  have hdrop : (List.replicate stars '*' ++ name.toList).dropWhile (· == '*') = name.toList := by
    have hstars : ∀ c ∈ List.replicate stars '*', (c == '*') = true :=
      fun c hc => beq_iff_eq.mpr (List.eq_of_mem_replicate hc)
    rw [List.dropWhile_append_of_pos hstars, hname, List.dropWhile_cons_of_neg (by simpa using hc)]
  have hhead : ((List.replicate stars '*' ++ name.toList).head? == some '*') = decide (0 < stars) := by
    cases stars with
    | zero => simp [hname, hc]
    | succ n => simp [List.replicate_succ]
  have hword : (!name.toList.isEmpty && name.toList.all isAsciiWord) = true := by
    simpa [hname] using isAsciiWord_of_isIdentifier h
  simp only [ofAlias?, hdrop, hhead, hword, if_true, String.ofList_toList]
  by_cases hstars : 0 < stars <;> simp [hstars]

section

variable {c : Char} (hblank : isBlank c = false) (hstar : c ≠ '*')

include hblank

theorem count_phrase {ws : List (List Char)} (h : ∀ w ∈ ws, w ≠ [] ∧ ∀ c ∈ w, isBlank c = false) :
    (phrase ws).count c = ws.flatten.count c := by
  rw [← count_flatten_words hblank, phrase, words_intercalate h]

include hstar

theorem letters_of_ofAlias? {written : List Char} {base : String} {d : TypedefDecl}
    (h : ofAlias? written base = some d) : d.letters c = base.toList.count c + written.count c := by
  obtain ⟨hname, hbase⟩ := ofAlias?_eq_some h
  have hspace : ' ' ≠ c := by
    rintro rfl
    exact absurd hblank (by decide)
  have hstars : (written.takeWhile (· == '*')).count c = 0 :=
    List.count_eq_zero.mpr fun hmem => hstar (beq_iff_eq.mp (List.all_eq_true.mp List.all_takeWhile c hmem))
  have hcut : written.count c = (written.dropWhile (· == '*')).count c := by
    rw [← List.takeWhile_append_dropWhile (p := (· == '*')) (l := written), List.count_append, hstars]
    simp
  have hpointer : (if written.head? == some '*' then " *" else "").toList.count c = 0 := by
    split
    · simp [hspace, hstar.symm]
    · rfl
  rw [letters, hname, hbase, String.toList_append, List.count_append, hpointer, hcut, Nat.add_zero]

theorem letters_of_ofBody? {body : List Char} {d : TypedefDecl} (h : ofBody? body = some d) :
    d.letters c = body.count c := by
  obtain ⟨last, hlast, halias⟩ := Option.bind_eq_some_iff.mp h
  obtain ⟨init, hwords⟩ := List.getLast?_eq_some_iff.mp hlast
  have hinit : ∀ w ∈ init, w ≠ [] ∧ ∀ c ∈ w, isBlank c = false :=
    fun w hw => of_mem_words (hwords ▸ List.mem_append_left [last] hw)
  rw [hwords, List.dropLast_concat] at halias
  rw [letters_of_ofAlias? hblank hstar halias, String.toList_ofList, count_phrase hblank hinit,
    ← count_flatten_words hblank body, hwords, List.flatten_append, List.count_append, List.flatten_singleton]

end

/-! ## Modes -/

/-- What a mode is searched for with. -/
def markers : List (List Char) := attributeWord :: modes.map (·.1)

/-- All of them are words, and nothing in front of a type holds one. -/
theorem of_mem_markers : ∀ pattern ∈ markers, pattern ≠ [] ∧ (∀ c ∈ pattern, isAsciiWord c = true) ∧
    occursIn pattern "__extension__".toList = false ∧ occursIn pattern keyword = false := by
  intro pattern hpattern
  -- With `all`: the quantifier over characters would be decided by going through every character.
  have hall : ∀ pattern ∈ markers, pattern ≠ [] ∧ pattern.all isAsciiWord = true ∧
      occursIn pattern "__extension__".toList = false ∧ occursIn pattern keyword = false := by
    decide
  obtain ⟨hne, hword, hextension, hkeyword⟩ := hall pattern hpattern
  exact ⟨hne, List.all_eq_true.mp hword, hextension, hkeyword⟩

theorem modeType?_eq_none_iff (line : List Char) : modeType? line = none ↔
    (occursIn attributeWord line = true → ∀ m ∈ modes, occursIn m.1 line = false) := by
  by_cases h : occursIn attributeWord line = true
  · rw [modeType?, if_pos h, Option.map_eq_none_iff, List.find?_eq_none]
    simp only [Bool.not_eq_true, h, true_imp_iff]
  · rw [modeType?, if_neg h]
    exact iff_of_true rfl fun h' => absurd h' h

theorem attributeWord_ne_nil : attributeWord ≠ [] := by decide

theorem occursIn_of_modeType?_eq_some {line : List Char} {base : String} (h : modeType? line = some base) :
    occursIn attributeWord line = true := by
  by_contra hnone
  rw [modeType?, if_neg hnone] at h
  cases h

/-- The types of modes have no attributes. -/
theorem modeType?_holds_no_attribute {line : List Char} {base : String} (h : modeType? line = some base) :
    occursIn attributeWord base.toList = false := by
  have hmodes : ∀ m ∈ modes, occursIn attributeWord m.2.toList = false ∧
      occursIn attributeWord ("unsigned ".toList ++ m.2.toList) = false := by
    decide
  simp only [modeType?] at h
  split at h
  · obtain ⟨m, hfind, rfl⟩ := Option.map_eq_some_iff.mp h
    obtain ⟨hplain, hunsigned⟩ := hmodes m (List.mem_of_find?_eq_some hfind)
    split
    · rwa [String.toList_append]
    · exact hplain
  · cases h

theorem beforeAttribute?_holds_no_attribute {ws : List (List Char)} {word : List Char}
    (h : beforeAttribute? ws = some word) : occursIn attributeWord word = false := by
  induction ws using beforeAttribute?.induct with
  | case1 => cases h
  | case2 => cases h
  | case3 first next rest hfirst => simp [beforeAttribute?, hfirst] at h
  | case4 first next rest hfirst hnext =>
    simp only [beforeAttribute?, hfirst, hnext, if_true] at h
    cases h
    simpa using hfirst
  | case5 first next rest hfirst hnext ih =>
    simp only [beforeAttribute?, hfirst, hnext] at h
    exact ih h

/-- The word before the first one with an attribute is found. -/
theorem beforeAttribute?_append {ws : List (List Char)} {word next : List Char}
    (h : ∀ w ∈ ws ++ [word], occursIn attributeWord w = false) (hnext : occursIn attributeWord next = true)
    (rest : List (List Char)) : beforeAttribute? (ws ++ word :: next :: rest) = some word := by
  induction ws with
  | nil =>
    have hword := h word (List.mem_singleton_self word)
    simp [beforeAttribute?, hword, hnext]
  | cons first ws ih =>
    obtain ⟨hfirst, hrest⟩ := List.forall_mem_cons.mp h
    cases ws with
    | nil =>
      have hword := hrest word (List.mem_singleton_self word)
      rw [List.singleton_append, beforeAttribute?, hfirst, hword]
      exact ih hrest
    | cons second ws =>
      have hsecond := hrest second List.mem_cons_self
      rw [List.cons_append, List.cons_append, beforeAttribute?, hfirst, hsecond]
      exact ih hrest

theorem infix_phrase_of_mem {ws : List (List Char)} {w : List Char} (h : w ∈ ws) : w <:+: phrase ws := by
  induction ws with
  | nil => cases h
  | cons first ws ih =>
    cases ws with
    | nil =>
      obtain rfl := List.mem_singleton.mp h
      have hphrase : phrase [w] = w := List.intercalate_singleton ..
      exact ⟨[], [], by rw [hphrase, List.nil_append, List.append_nil]⟩
    | cons second ws =>
      rw [phrase, List.intercalate_cons_cons]
      rcases List.mem_cons.mp h with rfl | h
      · exact ((List.prefix_append _ _).trans (List.prefix_append _ _)).isInfix
      · exact (ih h).trans (List.suffix_append _ _).isInfix

end TypedefDecl

end AbiProbe
