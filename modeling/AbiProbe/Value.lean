/-
The value of a fact, classified once by its text. A decimal integer takes
the narrowest of three forms that holds it: 32 bits, 64 bits, or its own
digits; `true` is a boolean; everything else stays text.
-/
import AbiProbe.Category
import AbiProbe.Text.Decimal

namespace AbiProbe

open Text

/-- The value of a fact in the form in which it is published. -/
inductive Value where
  /-- An integer of 32 bits. -/
  | integer (n : Int32)
  /-- An integer of 64 bits. -/
  | wide (n : Int64)
  /-- An integer of any size, kept as its decimal text. -/
  | bignum (numeral : String)
  | boolean (b : Bool)
  | text (s : String)
  deriving DecidableEq, Repr

/-- The form of a value. -/
inductive Kind where
  | integer32
  | integer64
  | bignum
  | boolean
  | string
  deriving DecidableEq, Repr

namespace Kind

def name : Kind → String
  | .integer32 => "integer32"
  | .integer64 => "integer64"
  | .bignum => "bignum"
  | .boolean => "boolean"
  | .string => "string"

end Kind

namespace Value

def kind : Value → Kind
  | .integer _ => .integer32
  | .wide _ => .integer64
  | .bignum _ => .bignum
  | .boolean _ => .boolean
  | .text _ => .string

/-- Whether an integer fits in 32 bits, signed. -/
def Fits32 (n : Int) : Prop := -0x80000000 ≤ n ∧ n ≤ 0x7fffffff

/-- Whether an integer fits in 64 bits, signed. -/
def Fits64 (n : Int) : Prop := -0x8000000000000000 ≤ n ∧ n ≤ 0x7fffffffffffffff

instance (n : Int) : Decidable (Fits32 n) := inferInstanceAs (Decidable (_ ∧ _))

instance (n : Int) : Decidable (Fits64 n) := inferInstanceAs (Decidable (_ ∧ _))

/-- The narrowest form of an integer; `numeral` is kept where neither word
holds it. -/
def narrowest (n : Int) (numeral : String) : Value :=
  if Fits32 n then .integer (Int32.ofInt n)
  else if Fits64 n then .wide (Int64.ofInt n)
  else .bignum numeral

/-- The decimal text of an integer. -/
def decimal (n : Int) : String := String.ofList (Decimal.numeral n)

/-- The value of a measured number. -/
def ofInt (n : Int) : Value := narrowest n (decimal n)

/-- The value of a text that a probe printed. -/
def ofText (s : String) : Value :=
  match Decimal.integer? s.toList with
  | some n => narrowest n s
  | none => if s = "true" then .boolean true else .text s

def ofCategory (c : Category) : Value := .text c.name

/-- The plain text of a value. Integers are in canonical decimal form. -/
def toText : Value → String
  | .integer n => decimal n.toInt
  | .wide n => decimal n.toInt
  | .bignum numeral => numeral
  | .boolean b => if b then "true" else "false"
  | .text s => s

/-- The integer that a value of one of the three forms denotes. -/
def integer? : Value → Option Int
  | .integer n => some n.toInt
  | .wide n => some n.toInt
  | .bignum numeral => Decimal.integer? numeral.toList
  | .boolean _ | .text _ => none

theorem toInt_ofInt32 {n : Int} (h : Fits32 n) : (Int32.ofInt n).toInt = n :=
  Int32.toInt_ofInt_of_le h.1 (by have := h.2; omega)

theorem toInt_ofInt64 {n : Int} (h : Fits64 n) : (Int64.ofInt n).toInt = n :=
  Int64.toInt_ofInt_of_le h.1 (by have := h.2; omega)

/-- Whatever its form, a measured number has its decimal text. -/
theorem toText_ofInt (n : Int) : (ofInt n).toText = decimal n := by
  unfold ofInt narrowest
  split
  next h => rw [toText, toInt_ofInt32 h]
  next =>
    split
    next h => rw [toText, toInt_ofInt64 h]
    next => rfl

@[simp] theorem integer?_text (s : String) : (text s).integer? = none := rfl

/-- Whatever its form, it denotes itself. -/
@[simp] theorem integer?_ofInt (n : Int) : (ofInt n).integer? = some n := by
  unfold ofInt narrowest
  split
  next h => rw [integer?, toInt_ofInt32 h]
  next =>
    split
    next h => rw [integer?, toInt_ofInt64 h]
    next => rw [integer?, decimal, String.toList_ofList, Decimal.integer?_numeral]

end Value

end AbiProbe
