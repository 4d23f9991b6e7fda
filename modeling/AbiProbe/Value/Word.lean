/-
The values of machine words of 64 bits. A signed word becomes one of 32 bits
where that holds it. An unsigned word becomes a signed one where that holds it;
the others keep their digits.
-/
import AbiProbe.Value

namespace AbiProbe.Value

/-- The value of a signed word. -/
def ofInt64 (v : Int64) : Value :=
  if -0x80000000 ≤ v ∧ v ≤ 0x7fffffff then .integer v.toInt32 else .wide v

/-- The value of an unsigned word. -/
def ofUInt64 (v : UInt64) : Value :=
  if v ≤ 0x7fffffffffffffff then ofInt64 v.toInt64 else .bignum (decimal v.toNat)

theorem toInt_toInt32 {v : Int64} (h : Fits32 v.toInt) : v.toInt32.toInt = v.toInt := by
  obtain ⟨hlow, hhigh⟩ := h
  rw [Int64.toInt_toInt32]
  exact Int.bmod_eq_of_le (by omega) (by omega)

theorem toInt_toInt64 {v : UInt64} (h : v.toNat ≤ 0x7fffffffffffffff) : v.toInt64.toInt = v.toNat := by
  have hmod : v.toInt64.toInt = (v.toNat : Int).bmod (2 ^ 64) := BitVec.toInt_eq_toNat_bmod v.toBitVec
  rw [hmod]
  exact Int.bmod_eq_of_le (by omega) (by omega)

theorem fits64_toInt (v : Int64) : Fits64 v.toInt := by
  have hlow := v.le_toInt
  have hhigh := v.toInt_lt
  unfold Fits64
  omega

/-- A signed word has the value of its number. -/
theorem ofInt64_eq_ofInt (v : Int64) : ofInt64 v = ofInt v.toInt := by
  have hfits : (-0x80000000 ≤ v ∧ v ≤ 0x7fffffff) ↔ Fits32 v.toInt := by
    rw [Int64.le_iff_toInt_le, Int64.le_iff_toInt_le]
    exact Iff.rfl
  unfold ofInt64 ofInt narrowest
  simp only [hfits, fits64_toInt, if_true]
  split
  next h =>
    rw [integer.injEq, ← Int32.toInt_inj, toInt_toInt32 h, toInt_ofInt32 h]
  next => rw [Int64.ofInt_toInt]

/-- An unsigned word has the value of its number. -/
theorem ofUInt64_eq_ofInt (v : UInt64) : ofUInt64 v = ofInt v.toNat := by
  have hsigned : v ≤ 0x7fffffffffffffff ↔ v.toNat ≤ 0x7fffffffffffffff := UInt64.le_iff_toNat_le
  unfold ofUInt64
  split
  next h => rw [ofInt64_eq_ofInt, toInt_toInt64 (hsigned.mp h)]
  next h =>
    have hlarge : ¬ v.toNat ≤ 0x7fffffffffffffff := mt hsigned.mpr h
    have h32 : ¬ Fits32 v.toNat := fun hfits => hlarge (by have := hfits.2; omega)
    have h64 : ¬ Fits64 v.toNat := fun hfits => hlarge (by have := hfits.2; omega)
    rw [ofInt, narrowest, if_neg h32, if_neg h64]

-- The largest word of 64 bits is no small negative number.
example : ofUInt64 0xffffffffffffffff = .bignum "18446744073709551615" := by decide +kernel

end AbiProbe.Value
