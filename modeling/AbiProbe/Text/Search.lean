/-
A word at the start of a text, and the first occurrence of one text in
another. The halves around it, put together with the pattern, are the text
again (`splitAtFirst?_eq_some`).

A gap of characters that a pattern does not hold parts a text for it: it
occurs on one side or on the other (`occursIn_append_gap`).
-/

namespace AbiProbe.Text

/-- What follows a word in a text that begins with it. -/
def after? (word : String) (cs : List Char) : Option (List Char) := word.toList.isPrefixOf? cs

theorem after?_append (word : String) (cs : List Char) : after? word (word.toList ++ cs) = some cs := by
  unfold after?
  induction word.toList with
  | nil => rfl
  | cons c word ih => exact (if_pos (beq_self_eq_true c)).trans ih

/-! ## Occurrences -/

/-- What precedes and what follows the first occurrence of `pattern`. -/
def splitAtFirst? (pattern : List Char) : List Char → Option (List Char × List Char)
  | [] => if pattern.isEmpty then some ([], []) else none
  | c :: cs =>
    if pattern.isPrefixOf (c :: cs) then some ([], (c :: cs).drop pattern.length)
    else (splitAtFirst? pattern cs).map fun (before, after) => (c :: before, after)

/-- Whether `pattern` occurs in the text. -/
def occursIn (pattern : List Char) : List Char → Bool
  | [] => pattern.isEmpty
  | c :: cs => pattern.isPrefixOf (c :: cs) || occursIn pattern cs

theorem splitAtFirst?_eq_some {pattern cs before after : List Char}
    (h : splitAtFirst? pattern cs = some (before, after)) : cs = before ++ pattern ++ after := by
  induction cs generalizing before with
  | nil =>
    simp only [splitAtFirst?] at h
    split at h <;> simp_all
  | cons c cs ih =>
    simp only [splitAtFirst?] at h
    split at h
    next hp =>
      obtain ⟨rest, hr⟩ := List.isPrefixOf_iff_prefix.mp hp
      simp only [Option.some.injEq, Prod.mk.injEq] at h
      obtain ⟨rfl, rfl⟩ := h
      simp [← hr]
    next =>
      obtain ⟨⟨b, a⟩, hs, he⟩ := Option.map_eq_some_iff.mp h
      simp only [Prod.mk.injEq] at he
      obtain ⟨rfl, rfl⟩ := he
      simp [ih hs]

theorem isSome_splitAtFirst? (pattern cs : List Char) :
    (splitAtFirst? pattern cs).isSome = occursIn pattern cs := by
  induction cs with
  | nil => simp only [splitAtFirst?, occursIn]; split <;> simp_all
  | cons c cs ih =>
    simp only [splitAtFirst?, occursIn]
    split <;> simp_all

/-! ## Gaps -/

variable {pattern gap : List Char}

theorem isPrefixOf_append_cons {c : Char} (h : c ∉ pattern) (before after : List Char) :
    pattern.isPrefixOf (before ++ c :: after) = pattern.isPrefixOf before := by
  induction pattern generalizing before with
  | nil => simp
  | cons p pattern ih =>
    have hne : p ≠ c := fun he => h (he ▸ List.mem_cons_self)
    cases before with
    | nil => simp [List.isPrefixOf, hne]
    | cons b before =>
      have htail := ih (fun hmem => h (List.mem_cons_of_mem p hmem)) before
      rw [List.cons_append, List.isPrefixOf_cons_cons, List.isPrefixOf_cons_cons, htail]

theorem occursIn_append_cons {c : Char} (h : c ∉ pattern) (before after : List Char) :
    occursIn pattern (before ++ c :: after) = (occursIn pattern before || occursIn pattern after) := by
  induction before with
  | nil =>
    have hstart := isPrefixOf_append_cons h [] after
    rw [List.nil_append] at hstart ⊢
    rw [occursIn, occursIn, hstart]
    cases pattern <;> rfl
  | cons b before ih =>
    have hstart := isPrefixOf_append_cons h (b :: before) after
    rw [List.cons_append] at hstart ⊢
    rw [occursIn, occursIn, hstart, ih, Bool.or_assoc]

theorem occursIn_nil (hne : pattern ≠ []) : occursIn pattern [] = false := by
  simpa [occursIn] using hne

theorem occursIn_append_left (hne : pattern ≠ []) (h : ∀ c ∈ gap, c ∉ pattern) (cs : List Char) :
    occursIn pattern (gap ++ cs) = occursIn pattern cs := by
  induction gap with
  | nil => rfl
  | cons c gap ih =>
    have hcons := occursIn_append_cons (h c List.mem_cons_self) [] (gap ++ cs)
    rw [occursIn_nil hne, Bool.false_or, List.nil_append] at hcons
    rw [List.cons_append, hcons, ih fun c hc => h c (List.mem_cons_of_mem _ hc)]

theorem occursIn_append_gap (hne : pattern ≠ []) (before : List Char) (hgap : gap ≠ [])
    (h : ∀ c ∈ gap, c ∉ pattern) (after : List Char) :
    occursIn pattern (before ++ (gap ++ after)) = (occursIn pattern before || occursIn pattern after) := by
  cases gap with
  | nil => exact absurd rfl hgap
  | cons c gap =>
    rw [List.cons_append, occursIn_append_cons (h c List.mem_cons_self),
      occursIn_append_left hne fun c hc => h c (List.mem_cons_of_mem _ hc)]

theorem occursIn_append_right (hne : pattern ≠ []) (cs : List Char) (h : ∀ c ∈ gap, c ∉ pattern) :
    occursIn pattern (cs ++ gap) = occursIn pattern cs := by
  by_cases hgap : gap = []
  · rw [hgap, List.append_nil]
  · have hcut := occursIn_append_gap hne cs hgap h []
    rwa [List.append_nil, occursIn_nil hne, Bool.or_false] at hcut

end AbiProbe.Text
