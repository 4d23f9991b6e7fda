/-
The value of a text, said without the reader of numerals: a text denotes an
integer if it is a row of ASCII digits, with a minus sign or without, and the
integer is the sum of the digits by their places (`Decimal.Denotes`). The
reader finds exactly this integer (`Decimal.integer?_eq_some_iff`), so the form
of a value depends on the integer alone and no digit is lost
(`ofText_classifies`). What is published of a value is classified as that value
again.
-/
import AbiProbe.Value
import Mathlib.Data.List.Induction
import Mathlib.Data.Nat.Digits.Defs

namespace AbiProbe

/-! ## Numerals -/

namespace Text.Decimal

/-- The digit that a character shows. -/
def digit (c : Char) : Nat := c.toNat - '0'.toNat

/-- One ASCII digit or more. -/
def IsRow (cs : List Char) : Prop := cs ≠ [] ∧ ∀ c ∈ cs, '0' ≤ c ∧ c ≤ '9'

/-- A text denotes an integer: a row of digits, the last one of which counts
once, and each of the others ten times as much as the one after it. -/
inductive Denotes : List Char → Int → Prop where
  | natural {cs : List Char} (row : IsRow cs) : Denotes cs (Nat.ofDigits 10 (cs.reverse.map digit) : Nat)
  | negative {cs : List Char} (row : IsRow cs) :
      Denotes ('-' :: cs) (-(Nat.ofDigits 10 (cs.reverse.map digit) : Nat))

variable {cs : List Char} {m n : Int}

theorem isDigit_iff {c : Char} : isDigit c = true ↔ '0' ≤ c ∧ c ≤ '9' := by
  simp only [isDigit, Bool.and_eq_true, decide_eq_true_iff, Char.le_def, UInt32.le_iff_toNat_le]
  exact Iff.rfl

theorem isRow_iff : IsRow cs ↔ cs ≠ [] ∧ cs.all isDigit = true := by
  simp only [IsRow, List.all_eq_true, isDigit_iff]

theorem value_eq_ofDigits (cs : List Char) : value 0 cs = Nat.ofDigits 10 (cs.reverse.map digit) := by
  induction cs using List.reverseRecOn with
  | nil => rfl
  | append_singleton cs c ih =>
    rw [value] at ih ⊢
    rw [List.foldl_append, ih, List.reverse_append, List.reverse_singleton, List.singleton_append,
      List.map_cons, Nat.ofDigits_cons, List.foldl_cons, List.foldl_nil]
    simp only [digit]
    have hzero : '0'.toNat = 0x30 := rfl
    omega

theorem natural?_eq_some_iff {k : Nat} :
    natural? cs = some k ↔ IsRow cs ∧ Nat.ofDigits 10 (cs.reverse.map digit) = k := by
  rw [natural?, Option.ite_none_right_eq_some, isRow_iff, Option.some.injEq, value_eq_ofDigits]

theorem integer?_minus (cs : List Char) :
    integer? ('-' :: cs) = (natural? cs).map fun k : Nat => -(k : Int) := by
  rw [integer?]
  cases natural? cs <;> rfl

theorem integer?_of_ne_minus (h : ∀ ds, cs ≠ '-' :: ds) :
    integer? cs = (natural? cs).map fun k : Nat => (k : Int) := by
  rw [integer?.eq_2 _ h]
  cases natural? cs <;> rfl

/-- The reader finds the integer that a text denotes, and fails if it denotes
none. -/
theorem integer?_eq_some_iff : integer? cs = some n ↔ Denotes cs n := by
  constructor
  · intro h
    by_cases hminus : ∃ ds, cs = '-' :: ds
    · obtain ⟨ds, rfl⟩ := hminus
      rw [integer?_minus] at h
      obtain ⟨k, hk, rfl⟩ := Option.map_eq_some_iff.mp h
      obtain ⟨hrow, rfl⟩ := natural?_eq_some_iff.mp hk
      exact .negative hrow
    · rw [integer?_of_ne_minus fun ds he => hminus ⟨ds, he⟩] at h
      obtain ⟨k, hk, rfl⟩ := Option.map_eq_some_iff.mp h
      obtain ⟨hrow, rfl⟩ := natural?_eq_some_iff.mp hk
      exact .natural hrow
  · intro h
    cases h with
    | natural row =>
      have hminus (ds : List Char) : cs ≠ '-' :: ds := by
        rintro rfl
        exact absurd (row.2 '-' List.mem_cons_self) (by decide)
      rw [integer?_of_ne_minus hminus, natural?_eq_some_iff.mpr ⟨row, rfl⟩, Option.map_some]
    | negative row => rw [integer?_minus, natural?_eq_some_iff.mpr ⟨row, rfl⟩, Option.map_some]

theorem integer?_eq_none_iff : integer? cs = none ↔ ∀ n, ¬ Denotes cs n := by
  simp only [← integer?_eq_some_iff]
  exact Option.eq_none_iff_forall_ne_some

theorem denotes_numeral (n : Int) : Denotes (numeral n) n := integer?_eq_some_iff.mp (integer?_numeral n)

end Text.Decimal

open Text

/-! ## Forms of an integer -/

namespace Value

variable {t : String} {n : Int}

theorem narrowest_eq_integer_iff {s : String} {v : Int32} :
    narrowest n s = .integer v ↔ Fits32 n ∧ v.toInt = n := by
  unfold narrowest
  split
  next h =>
    rw [integer.injEq, ← Int32.toInt_inj, toInt_ofInt32 h, eq_comm]
    exact (and_iff_right h).symm
  next h => split <;> simp [h]

theorem narrowest_eq_wide_iff {s : String} {v : Int64} :
    narrowest n s = .wide v ↔ (Fits64 n ∧ ¬ Fits32 n) ∧ v.toInt = n := by
  unfold narrowest
  split
  next h => simp [h]
  next h =>
    split
    next h' =>
      rw [wide.injEq, ← Int64.toInt_inj, toInt_ofInt64 h', eq_comm]
      exact (and_iff_right ⟨h', h⟩).symm
    next h' => simp [h']

theorem fits64_of_fits32 (h : Fits32 n) : Fits64 n := by
  unfold Fits32 at h
  unfold Fits64
  omega

theorem narrowest_eq_bignum_iff {s s' : String} : narrowest n s = .bignum s' ↔ ¬ Fits64 n ∧ s' = s := by
  unfold narrowest
  split
  next h => simp [fits64_of_fits32 h]
  next => split <;> simp_all [eq_comm]

/-- An integer that a word holds takes the same form from all its numerals. -/
theorem narrowest_eq_ofInt (h : Fits64 n) (s : String) : narrowest n s = ofInt n := by
  simp only [ofInt, narrowest, if_pos h]

theorem denotes_decimal (n : Int) : Decimal.Denotes (decimal n).toList n := by
  rw [decimal, String.toList_ofList]
  exact Decimal.denotes_numeral n

/-- Whatever form it takes, an integer is published as a text that denotes
it. -/
theorem denotes_toText_narrowest (h : Decimal.Denotes t.toList n) :
    Decimal.Denotes (narrowest n t).toText.toList n := by
  by_cases hfits : Fits64 n
  · rw [narrowest_eq_ofInt hfits, toText_ofInt]
    exact denotes_decimal n
  · rw [narrowest_eq_bignum_iff.mpr ⟨hfits, rfl⟩]
    exact h

/-! ## Texts -/

theorem ofText_of_denotes (h : Decimal.Denotes t.toList n) : ofText t = narrowest n t := by
  rw [ofText, Decimal.integer?_eq_some_iff.mpr h]

theorem ofText_of_not_denotes (h : ∀ n, ¬ Decimal.Denotes t.toList n) :
    ofText t = if t = "true" then .boolean true else .text t := by
  rw [ofText, Decimal.integer?_eq_none_iff.mpr h]

/-- A measured number and the text that shows it have the same value. -/
theorem ofText_decimal (n : Int) : ofText (decimal n) = ofInt n :=
  ofText_of_denotes (denotes_decimal n)

/-- What is published of a value has that value. -/
theorem ofText_toText_ofText (t : String) : ofText (ofText t).toText = ofText t := by
  by_cases h : ∃ n, Decimal.Denotes t.toList n
  · obtain ⟨n, hn⟩ := h
    rw [ofText_of_denotes hn]
    by_cases hfits : Fits64 n
    · rw [narrowest_eq_ofInt hfits, toText_ofInt, ofText_decimal]
    · rw [narrowest_eq_bignum_iff.mpr ⟨hfits, rfl⟩, toText, ofText_of_denotes hn]
      exact narrowest_eq_bignum_iff.mpr ⟨hfits, rfl⟩
  · rw [ofText_of_not_denotes (not_exists.mp h)]
    split
    next => rfl
    next htrue => rw [toText, ofText_of_not_denotes (not_exists.mp h), if_neg htrue]

/-- **A text is classified by the integer that it denotes.** Of the texts that
denote an integer, with any number of digits and of leading zeros, those of a
number of 32 bits are integers, those of other numbers of 64 bits are wide
ones, both with just this number, and all others keep their text; what is
published of any of them denotes the same integer. Of all other texts `true` is
a boolean, and the rest stay what they are. What is published of a value is
classified as this value again. -/
theorem ofText_classifies (t : String) :
    (∀ n, Decimal.Denotes t.toList n →
      ((∃ v, ofText t = .integer v ∧ v.toInt = n) ↔ -2 ^ 31 ≤ n ∧ n ≤ 2 ^ 31 - 1) ∧
      ((∃ v, ofText t = .wide v ∧ v.toInt = n) ↔
        (-2 ^ 63 ≤ n ∧ n ≤ 2 ^ 63 - 1) ∧ ¬ (-2 ^ 31 ≤ n ∧ n ≤ 2 ^ 31 - 1)) ∧
      (ofText t = .bignum t ↔ ¬ (-2 ^ 63 ≤ n ∧ n ≤ 2 ^ 63 - 1)) ∧
      Decimal.Denotes (ofText t).toText.toList n) ∧
    ((∀ n, ¬ Decimal.Denotes t.toList n) →
      (ofText t = .boolean true ↔ t = "true") ∧ (ofText t = .text t ↔ t ≠ "true")) ∧
    ofText (ofText t).toText = ofText t := by
  refine ⟨fun n hn => ?_, fun hnone => ?_, ofText_toText_ofText t⟩
  · have h32 : -2 ^ 31 ≤ n ∧ n ≤ 2 ^ 31 - 1 ↔ Fits32 n := Iff.rfl
    have h64 : -2 ^ 63 ≤ n ∧ n ≤ 2 ^ 63 - 1 ↔ Fits64 n := Iff.rfl
    rw [h32, h64, ofText_of_denotes hn]
    refine ⟨⟨?_, fun h => ?_⟩, ⟨?_, fun h => ?_⟩, ?_, denotes_toText_narrowest hn⟩
    · rintro ⟨v, hv, -⟩
      exact (narrowest_eq_integer_iff.mp hv).1
    · exact ⟨_, narrowest_eq_integer_iff.mpr ⟨h, toInt_ofInt32 h⟩, toInt_ofInt32 h⟩
    · rintro ⟨v, hv, -⟩
      exact (narrowest_eq_wide_iff.mp hv).1
    · exact ⟨_, narrowest_eq_wide_iff.mpr ⟨h, toInt_ofInt64 h.1⟩, toInt_ofInt64 h.1⟩
    · rw [narrowest_eq_bignum_iff]
      exact and_iff_left rfl
  · rw [ofText_of_not_denotes hnone]
    split
    next htrue => simp [htrue]
    next htrue => simp [htrue]

/-- Zeros in front do not count, and the digits of a number that no word holds
stay as they are. -/
theorem ofText_classifies_padded :
    (∃ v, ofText "-0002147483649" = .wide v ∧ v.toInt = -2147483649) ∧
    ofText "09223372036854775808" = .bignum "09223372036854775808" ∧
    ofText "+5" = .text "+5" := by
  have hwide : Decimal.Denotes "-0002147483649".toList (-2147483649) :=
    Decimal.integer?_eq_some_iff.mp (by decide +kernel)
  have hlarge : Decimal.Denotes "09223372036854775808".toList 9223372036854775808 :=
    Decimal.integer?_eq_some_iff.mp (by decide +kernel)
  have hplus : ∀ n, ¬ Decimal.Denotes "+5".toList n :=
    Decimal.integer?_eq_none_iff.mp (by decide +kernel)
  exact ⟨((ofText_classifies _).1 _ hwide).2.1.mpr (by decide),
    ((ofText_classifies _).1 _ hlarge).2.2.1.mpr (by decide),
    ((ofText_classifies _).2.1 hplus).2.mpr (by decide)⟩

end Value

end AbiProbe
