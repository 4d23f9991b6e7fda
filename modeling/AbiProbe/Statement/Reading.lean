/-
Reading statements back: the key and the value that each one states. A quoted
string ends at the first quote that no backslash escapes, and holds no end of
a line; the character that a literal begins with tells which form it has.
-/
import AbiProbe.Statement
import AbiProbe.Text.Pieces
import AbiProbe.Text.Search

namespace AbiProbe.Statement

open Text

/-! ## Strings -/

/-- The character for which a backslash with `c` after it stands. -/
def escaped? (c : Char) : Option Char :=
  if c = '"' ∨ c = '\\' then some c
  else if c = 'n' then some '\n'
  else if c = 'r' then some '\r'
  else if c = 't' then some '\t'
  else none

/-- The text up to the closing quote of a string, and what follows it. -/
def readToQuote? : List Char → Option (List Char × List Char)
  | [] => none
  | '"' :: rest => some ([], rest)
  | '\\' :: c :: rest =>
    (escaped? c).bind fun d => (readToQuote? rest).map fun (s, after) => (d :: s, after)
  | c :: rest =>
    if c = '\\' ∨ c = '\n' ∨ c = '\r' then none
    else (readToQuote? rest).map fun (s, after) => (c :: s, after)

/-- The text of a quoted string, and what follows its closing quote. -/
def readString? (cs : List Char) : Option (String × List Char) := do
  let (s, after) ← readToQuote? (← after? "\"" cs)
  return (String.ofList s, after)

/-! ## Literals -/

/-- The one string that is passed in a call, and what follows the call; `call`
is all that stands before the string. -/
def readCall? (call : String) (cs : List Char) : Option (String × List Char) := do
  let (s, after) ← readString? (← after? call cs)
  return (s, ← after? ")" after)

/-- The integer that a text begins with. An `L` after the digits makes it one
of 64 bits; without it the integer has to fit in 32. -/
def readNumber? (cs : List Char) : Option (Value × List Char) := do
  let numeral := cs.takeWhile fun c => c == '-' || Decimal.isDigit c
  let n ← Decimal.integer? numeral
  match cs.drop numeral.length with
  | 'L' :: after => if Value.Fits64 n then return (.wide (Int64.ofInt n), after) else none
  | after => if Value.Fits32 n then return (.integer (Int32.ofInt n), after) else none

/-- The value of the literal that a text begins with, and what follows it. -/
def readLiteral? (cs : List Char) : Option (Value × List Char) :=
  match cs.head? with
  | some 't' => (after? "true" cs).map (.boolean true, ·)
  | some 'f' => (after? "false" cs).map (.boolean false, ·)
  | some 'n' => (readCall? "newBignum(context, " cs).map fun (s, after) => (.bignum s, after)
  | some 's' => (readCall? "string(context, " cs).map fun (s, after) => (.text s, after)
  | _ => readNumber? cs

/-! ## Statements -/

/-- The key and the value that a line states. -/
def read? (line : List Char) : Option (String × Value) := do
  let (key, afterKey) ← readString? (← after? "configuration.config(" line)
  let (value, afterValue) ← readLiteral? (← after? ", " afterKey)
  if afterValue = [')', ';'] then return (key, value) else none

/-- What the lines of a text state, one by one; each ends in a line feed and
begins with the indent. -/
def readLines (indent : String) (cs : List Char) : List (Option (String × Value)) :=
  (pieces (· == '\n') cs).dropLast.map fun line => (after? indent line).bind read?

end AbiProbe.Statement
