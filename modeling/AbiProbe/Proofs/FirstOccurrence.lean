/-
What the search of `Text.Search` finds, said without the search: the
occurrence of a text in another that no other one precedes. There is at most
one way to cut a text there (`FirstOccurrence.unique`), the search finds it
(`splitAtFirst?_eq_some_iff`), and it fails exactly if there is none
(`splitAtFirst?_eq_none_iff`).

The search goes through characters. In the bytes of a text a pattern occurs
at no other places, since no part of a character looks like the beginning of
one (`occursAt_iff`); so what is first in characters is first in bytes
(`FirstOccurrence.firstFrom`).
-/
import AbiProbe.Text.Search

namespace AbiProbe.Text

/-- The text `cs` is cut around an occurrence of `pattern` that begins no
later than any other one. -/
structure FirstOccurrence (pattern cs before after : List Char) : Prop where
  cut : cs = before ++ pattern ++ after
  first : ∀ b a, cs = b ++ pattern ++ a → before.length ≤ b.length

theorem occursIn_iff (pattern cs : List Char) : occursIn pattern cs = true ↔ pattern <:+: cs := by
  induction cs with
  | nil => simp [occursIn]
  | cons c cs ih => rw [occursIn, Bool.or_eq_true, ih, List.isPrefixOf_iff_prefix, List.infix_cons_iff]

theorem splitAtFirst?_eq_none_iff (pattern cs : List Char) :
    splitAtFirst? pattern cs = none ↔ ¬ pattern <:+: cs := by
  rw [← occursIn_iff, ← isSome_splitAtFirst?]
  simp

theorem firstOccurrence_of_splitAtFirst? {pattern cs before after : List Char}
    (h : splitAtFirst? pattern cs = some (before, after)) :
    FirstOccurrence pattern cs before after := by
  refine ⟨splitAtFirst?_eq_some h, fun b a hcut => ?_⟩
  induction cs generalizing before b with
  | nil =>
    simp only [splitAtFirst?] at h
    split at h
    · cases h
      exact Nat.zero_le _
    · cases h
  | cons c cs ih =>
    simp only [splitAtFirst?] at h
    split at h
    · cases h
      exact Nat.zero_le _
    next hp =>
      obtain ⟨⟨before', after'⟩, hs, he⟩ := Option.map_eq_some_iff.mp h
      cases he
      cases b with
      | nil => exact absurd (List.isPrefixOf_iff_prefix.mpr ⟨a, hcut.symm⟩) hp
      | cons x b =>
        have htail : cs = b ++ pattern ++ a := (List.cons.inj hcut).2
        exact Nat.succ_le_succ (ih hs b htail)

namespace FirstOccurrence

variable {pattern cs before after before' after' : List Char}

theorem unique (h : FirstOccurrence pattern cs before after)
    (h' : FirstOccurrence pattern cs before' after') : before = before' ∧ after = after' := by
  have hlen : before.length = before'.length :=
    Nat.le_antisymm (h.first _ _ h'.cut) (h'.first _ _ h.cut)
  have hcut : before ++ (pattern ++ after) = before' ++ (pattern ++ after') := by
    rw [← List.append_assoc, ← List.append_assoc, ← h.cut, ← h'.cut]
  obtain ⟨hb, ha⟩ := List.append_inj hcut hlen
  exact ⟨hb, List.append_cancel_left ha⟩

theorem occurs (h : FirstOccurrence pattern cs before after) : pattern <:+: cs :=
  ⟨before, after, h.cut.symm⟩

/-- What follows a first occurrence can be replaced. -/
theorem replace_after (h : FirstOccurrence pattern cs before after) (after' : List Char) :
    FirstOccurrence pattern (before ++ pattern ++ after') before after' where
  cut := rfl
  first b a hcut := by
    refine Nat.le_of_not_lt fun hlt => ?_
    have hlen : (b ++ pattern).length ≤ (before ++ pattern).length := by
      simp only [List.length_append]
      omega
    obtain ⟨rest, hrest⟩ : b ++ pattern <+: before ++ pattern :=
      List.prefix_of_prefix_length_le ⟨a, hcut.symm⟩ ⟨after', rfl⟩ hlen
    have hle := h.first b (rest ++ after) (by rw [h.cut, ← hrest, List.append_assoc])
    omega

/-- An occurrence is the first one if none ends before its last character. -/
theorem of_not_occurs (h : ¬ pattern <:+: before ++ pattern.dropLast) (after : List Char) :
    FirstOccurrence pattern (before ++ pattern ++ after) before after where
  cut := rfl
  first b a hcut := by
    refine Nat.le_of_not_lt fun hlt => ?_
    have hne : pattern ≠ [] := by
      rintro rfl
      exact h List.nil_infix
    have hpos := List.length_pos_iff.mpr hne
    have hlen : (b ++ pattern).length ≤ (before ++ pattern.dropLast).length := by
      simp only [List.length_append, List.length_dropLast]
      omega
    have hearlier : before ++ pattern.dropLast <+: before ++ pattern ++ after := by
      rw [List.append_assoc]
      exact (List.prefix_append_right_inj _).mpr ((List.dropLast_prefix _).trans (List.prefix_append ..))
    obtain ⟨rest, hrest⟩ := List.prefix_of_prefix_length_le ⟨a, hcut.symm⟩ hearlier hlen
    exact h ⟨b, rest, hrest⟩

end FirstOccurrence

theorem splitAtFirst?_eq_some_iff {pattern cs before after : List Char} :
    splitAtFirst? pattern cs = some (before, after) ↔ FirstOccurrence pattern cs before after := by
  refine ⟨firstOccurrence_of_splitAtFirst?, fun h => ?_⟩
  cases hs : splitAtFirst? pattern cs with
  | none => exact absurd h.occurs ((splitAtFirst?_eq_none_iff pattern cs).mp hs)
  | some found =>
    obtain ⟨before', after'⟩ := found
    obtain ⟨rfl, rfl⟩ := (firstOccurrence_of_splitAtFirst? hs).unique h
    rfl

/-! ## In bytes -/

theorem toUTF8_ofList (cs : List Char) : (String.ofList cs).toUTF8 = cs.utf8Encode :=
  String.toByteArray_ofList

theorem utf8Encode_toList (s : String) : s.toList.utf8Encode = s.toUTF8 :=
  String.utf8Encode_toList

/-- Some bytes occur in others, after so many of these. -/
def OccursAt (pattern bytes : ByteArray) (i : Nat) : Prop :=
  ∃ before after, bytes = before ++ pattern ++ after ∧ before.size = i

/-- The first offset, from `start` on, at which some bytes occur in others. -/
structure FirstFrom (pattern bytes : ByteArray) (start i : Nat) : Prop where
  occurs : OccursAt pattern bytes i
  start_le : start ≤ i
  first : ∀ j, start ≤ j → OccursAt pattern bytes j → i ≤ j

theorem FirstFrom.unique {pattern bytes : ByteArray} {start i j : Nat}
    (hi : FirstFrom pattern bytes start i) (hj : FirstFrom pattern bytes start j) : i = j :=
  Nat.le_antisymm (hi.first j hj.start_le hj.occurs) (hj.first i hi.start_le hi.occurs)

/-- The bytes of a text that is not empty occur in those of another one only
between two characters. -/
theorem isValidUTF8_of_cut {p s : String} (hp : p ≠ "") {before after : ByteArray}
    (h : s.toUTF8 = before ++ p.toUTF8 ++ after) : before.IsValidUTF8 ∧ after.IsValidUTF8 := by
  have hpos : 0 < p.utf8ByteSize := Nat.pos_of_ne_zero fun h0 => hp (String.utf8ByteSize_eq_zero_iff.mp h0)
  have hbytes : s.toByteArray = before ++ p.toByteArray ++ after := h
  have hsize : s.utf8ByteSize = before.size + p.utf8ByteSize + after.size := by
    rw [← String.size_toByteArray, hbytes, ByteArray.size_append, ByteArray.size_append,
      String.size_toByteArray]
  have hmid : s.toByteArray.extract before.size (before.size + p.utf8ByteSize) = p.toByteArray := by
    have hshift := @ByteArray.extract_append_size_add before (p.toByteArray ++ after) 0 p.utf8ByteSize
    rw [Nat.add_zero] at hshift
    rw [hbytes, ByteArray.append_assoc, hshift]
    exact ByteArray.extract_append_eq_left String.size_toByteArray.symm
  have hvalid : (s.toByteArray.extract before.size (before.size + p.utf8ByteSize)).IsValidUTF8 :=
    hmid ▸ p.isValidUTF8
  have hle : before.size + p.utf8ByteSize ≤ s.utf8ByteSize := by omega
  have hcut := (String.Pos.Raw.isValidUTF8_extract_iff ⟨before.size⟩ ⟨before.size + p.utf8ByteSize⟩
    (Nat.le_add_right ..) hle).mp hvalid
  rcases hcut with heq | ⟨hstart, hend⟩
  · have := congrArg String.Pos.Raw.byteIdx heq
    simp only at this
    omega
  · have hb := hstart.isValidUTF8_extract_zero
    have ha := hend.isValidUTF8_extract_utf8ByteSize
    rw [hbytes, ByteArray.append_assoc, ByteArray.extract_append_eq_left rfl] at hb
    rw [hbytes, hsize, ByteArray.extract_append_eq_right
      (by rw [ByteArray.size_append, String.size_toByteArray])
      (by rw [ByteArray.size_append, String.size_toByteArray])] at ha
    exact ⟨hb, ha⟩

/-- In bytes a text that is not empty occurs where it does in characters. -/
theorem occursAt_iff {p s : String} (hp : p ≠ "") {i : Nat} :
    OccursAt p.toUTF8 s.toUTF8 i ↔
      ∃ before after, s.toList = before ++ p.toList ++ after ∧ before.utf8Encode.size = i := by
  constructor
  · rintro ⟨before, after, hs, rfl⟩
    obtain ⟨hb, ha⟩ := isValidUTF8_of_cut hp hs
    refine ⟨(String.ofByteArray before hb).toList, (String.ofByteArray after ha).toList, ?_, ?_⟩
    · rw [← String.toList_append, ← String.toList_append, String.toList_inj, ← String.toByteArray_inj]
      simpa using hs
    · rw [String.utf8Encode_toList]
  · rintro ⟨before, after, hs, rfl⟩
    refine ⟨before.utf8Encode, after.utf8Encode, ?_, rfl⟩
    rw [← utf8Encode_toList, hs, List.utf8Encode_append, List.utf8Encode_append, utf8Encode_toList]

/-- Bytes that come before do not matter to what occurs after them. -/
theorem occursAt_append_left {pattern b c : ByteArray} {j : Nat} :
    OccursAt pattern (b ++ c) (b.size + j) ↔ OccursAt pattern c j := by
  constructor
  · intro ⟨before, after, h, hsize⟩
    have hsplit : before = before.extract 0 b.size ++ before.extract b.size before.size := by
      rw [← ByteArray.extract_eq_extract_append_extract b.size (Nat.zero_le _) (by omega),
        ByteArray.extract_zero_size]
    rw [hsplit] at h
    simp only [ByteArray.append_assoc] at h
    have hb : b = before.extract 0 b.size := ByteArray.append_inj_left h (by rw [ByteArray.size_extract]; omega)
    rw [← hb, ByteArray.append_right_inj] at h
    refine ⟨before.extract b.size before.size, after, ?_, ?_⟩
    · rw [h, ByteArray.append_assoc]
    · rw [ByteArray.size_extract]
      omega
  · rintro ⟨before, after, rfl, rfl⟩
    exact ⟨b ++ before, after, by simp only [ByteArray.append_assoc], ByteArray.size_append⟩

theorem not_occursAt_iff {p s : String} (hp : p ≠ "") :
    (∀ i, ¬ OccursAt p.toUTF8 s.toUTF8 i) ↔ ¬ p.toList <:+: s.toList := by
  constructor
  · intro h ⟨before, after, hcut⟩
    exact h _ ((occursAt_iff hp).mpr ⟨before, after, hcut.symm, rfl⟩)
  · intro h i hi
    obtain ⟨before, after, hcut, -⟩ := (occursAt_iff hp).mp hi
    exact h ⟨before, after, hcut.symm⟩

theorem OccursAt.append_right {pattern b : ByteArray} {i : Nat} (h : OccursAt pattern b i)
    (c : ByteArray) : OccursAt pattern (b ++ c) i := by
  obtain ⟨before, after, rfl, hi⟩ := h
  exact ⟨before, after ++ c, ByteArray.append_assoc, hi⟩

theorem OccursAt.size_le {pattern b : ByteArray} {i : Nat} (h : OccursAt pattern b i) :
    i + pattern.size ≤ b.size := by
  obtain ⟨before, after, rfl, rfl⟩ := h
  simp only [ByteArray.size_append]
  omega

/-- A first occurrence in characters is the first one in bytes. -/
theorem FirstOccurrence.firstFrom {p s : String} (hp : p ≠ "") {before after : List Char}
    (h : FirstOccurrence p.toList s.toList before after) :
    FirstFrom p.toUTF8 s.toUTF8 0 before.utf8Encode.size where
  occurs := (occursAt_iff hp).mpr ⟨before, after, h.cut, rfl⟩
  start_le := Nat.zero_le _
  first j _ hj := by
    obtain ⟨b, a, hcut, rfl⟩ := (occursAt_iff hp).mp hj
    have hbefore : before <+: s.toList := ⟨p.toList ++ after, by rw [h.cut, List.append_assoc]⟩
    have hb : b <+: s.toList := ⟨p.toList ++ a, by rw [hcut, List.append_assoc]⟩
    obtain ⟨rest, rfl⟩ := List.prefix_of_prefix_length_le hbefore hb (h.first b a hcut)
    rw [List.utf8Encode_append, ByteArray.size_append]
    exact Nat.le_add_right ..

theorem FirstFrom.append_left {pattern c : ByteArray} {j : Nat} (h : FirstFrom pattern c 0 j)
    (b : ByteArray) : FirstFrom pattern (b ++ c) b.size (b.size + j) where
  occurs := occursAt_append_left.mpr h.occurs
  start_le := Nat.le_add_right ..
  first k hk hoccurs := by
    obtain ⟨k, rfl⟩ := Nat.exists_eq_add_of_le hk
    exact Nat.add_le_add_left (h.first k (Nat.zero_le _) (occursAt_append_left.mp hoccurs)) _

theorem not_occursAt_append_left {pattern c : ByteArray} (h : ∀ j, ¬ OccursAt pattern c j)
    (b : ByteArray) : ∀ j, b.size ≤ j → ¬ OccursAt pattern (b ++ c) j := by
  intro j hj hoccurs
  obtain ⟨j, rfl⟩ := Nat.exists_eq_add_of_le hj
  exact h j (occursAt_append_left.mp hoccurs)

end AbiProbe.Text
