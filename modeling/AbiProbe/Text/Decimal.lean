/-
Decimal numerals: the digits of a number without leading zeros, and the
number that a text of ASCII digits denotes, leading zeros allowed.
Main statements: reading what was written gives the number back
(`natural?_digits`, `integer?_numeral`).
-/
import AbiProbe.Text.Pieces

namespace AbiProbe.Text.Decimal

/-- The character of one decimal digit. -/
def digitChar (d : Nat) : Char := Char.ofNat (0x30 + d)

/-- The decimal digits of a number, the most significant one first. -/
def digits (n : Nat) : List Char :=
  if n < 10 then [digitChar n] else digits (n / 10) ++ [digitChar (n % 10)]
termination_by n
decreasing_by omega

/-- The numeral of an integer: a minus sign for a negative one, then its
digits. -/
def numeral (n : Int) : List Char :=
  if n < 0 then '-' :: digits n.natAbs else digits n.natAbs

def isDigit (c : Char) : Bool := 0x30 ≤ c.toNat && c.toNat ≤ 0x39

/-- The number that a row of ASCII digits denotes after those that denote
`n`. -/
def value (n : Nat) (cs : List Char) : Nat :=
  cs.foldl (fun m c => m * 10 + (c.toNat - 0x30)) n

/-- The number denoted by a non-empty row of ASCII digits; any other text
denotes none. -/
def natural? (cs : List Char) : Option Nat :=
  if cs ≠ [] ∧ cs.all isDigit then some (value 0 cs) else none

/-- The integer denoted by an optional minus sign and ASCII digits. -/
def integer? : List Char → Option Int
  | '-' :: cs => (natural? cs).map fun n => -(n : Int)
  | cs => (natural? cs).map fun n => (n : Int)

theorem toNat_digitChar {d : Nat} (h : d < 10) : (digitChar d).toNat = 0x30 + d := by
  have : d = 0 ∨ d = 1 ∨ d = 2 ∨ d = 3 ∨ d = 4 ∨ d = 5 ∨ d = 6 ∨ d = 7 ∨ d = 8 ∨ d = 9 := by omega
  rcases this with h | h | h | h | h | h | h | h | h | h <;> subst h <;> decide

theorem isDigit_digitChar {d : Nat} (h : d < 10) : isDigit (digitChar d) = true := by
  simp [isDigit, toNat_digitChar h]
  omega

theorem digits_ne_nil (n : Nat) : digits n ≠ [] := by
  rw [digits]
  split <;> simp

theorem all_isDigit_digits (n : Nat) : (digits n).all isDigit = true := by
  induction n using digits.induct with
  | case1 n h =>
    rw [digits, if_pos h]
    simp [isDigit_digitChar h]
  | case2 n h ih =>
    rw [digits, if_neg h, List.all_append, ih]
    simp [isDigit_digitChar (Nat.mod_lt n (by decide : 0 < 10))]

theorem value_digits (n : Nat) : value 0 (digits n) = n := by
  induction n using digits.induct with
  | case1 n h =>
    rw [digits, if_pos h]
    simp [value, toNat_digitChar h]
  | case2 n h ih =>
    rw [digits, if_neg h]
    rw [value, List.foldl_append]
    rw [value] at ih
    rw [ih]
    simp [toNat_digitChar (Nat.mod_lt n (by decide : 0 < 10))]
    omega

theorem natural?_digits (n : Nat) : natural? (digits n) = some n := by
  rw [natural?, if_pos ⟨digits_ne_nil n, all_isDigit_digits n⟩, value_digits]

theorem isDigit_of_mem_digits {n : Nat} {c : Char} (h : c ∈ digits n) : isDigit c = true :=
  List.all_eq_true.mp (all_isDigit_digits n) c h

theorem mem_numeral {n : Int} {c : Char} (h : c ∈ numeral n) : c = '-' ∨ isDigit c = true := by
  unfold numeral at h
  split at h
  · exact (List.mem_cons.mp h).imp_right isDigit_of_mem_digits
  · exact .inr (isDigit_of_mem_digits h)

theorem oneLine_numeral (n : Int) : OneLine (numeral n) := by
  intro c hc
  rcases mem_numeral hc with rfl | hdigit
  · decide
  · constructor <;> (rintro rfl; exact absurd hdigit (by decide))

theorem oneLine_digits (n : Nat) : OneLine (digits n) := oneLine_numeral n

theorem numeral_ne_nil (n : Int) : numeral n ≠ [] := by
  unfold numeral
  split
  · simp
  · exact digits_ne_nil _

theorem integer?_numeral (n : Int) : integer? (numeral n) = some n := by
  unfold numeral
  split
  next hneg =>
    have habs : -(n.natAbs : Int) = n := by omega
    rw [integer?, natural?_digits]
    exact congrArg some habs
  next hnonneg =>
    have habs : (n.natAbs : Int) = n := by omega
    have hminus : ∀ cs, digits n.natAbs ≠ '-' :: cs := by
      intro cs he
      have hmem : '-' ∈ digits n.natAbs := he ▸ List.mem_cons_self
      exact absurd (isDigit_of_mem_digits hmem) (by decide)
    unfold integer?
    split
    next cs he => exact absurd he (hminus cs)
    next =>
      rw [natural?_digits]
      exact congrArg some habs

end AbiProbe.Text.Decimal
