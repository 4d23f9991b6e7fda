/-
Reading a document from left to right: the characters still ahead, and where
they stand. A line ends in a line feed, a carriage return, both, or one of
the three Unicode breaks; only the line and paragraph separators keep their
own character, every other ending reads as a line feed.
-/

namespace AbiProbe.Yaml

/-- Why a document cannot be read, with the line and column, from 1, of the
place. -/
structure Fault where
  reason : String
  line : Nat
  column : Nat
  deriving DecidableEq, Repr

namespace Fault

def text (f : Fault) : String :=
  f.reason ++ " at line " ++ toString f.line ++ " column " ++ toString f.column

end Fault

def isBreak (c : Char) : Bool :=
  c == '\n' || c == '\r' || c == '\u0085' || c == '\u2028' || c == '\u2029'

/-- A space or a tab. -/
def isSpace (c : Char) : Bool := c == ' ' || c == '\t'

/-- The characters that a document may hold. -/
def isAllowed (c : Char) : Bool :=
  let n := c.toNat
  n == 0x09 || n == 0x0a || n == 0x0d || (0x20 ≤ n && n ≤ 0x7e) || n == 0x85 ||
    (0xa0 ≤ n && n ≤ 0xfffd) || 0x10000 ≤ n

/-- The letters of anchors, handles and directive names. -/
def isNameChar (c : Char) : Bool := c.isAlphanum || c == '_' || c == '-'

/-- The value of a hexadecimal digit. -/
def hexDigit? (ch : Char) : Option Nat :=
  if '0' ≤ ch ∧ ch ≤ '9' then some (ch.toNat - 0x30)
  else if 'a' ≤ ch ∧ ch ≤ 'f' then some (ch.toNat - 0x61 + 10)
  else if 'A' ≤ ch ∧ ch ≤ 'F' then some (ch.toNat - 0x41 + 10)
  else none

/-- What is ahead and where it stands; all counts start at 0. -/
structure Cursor where
  rest : List Char
  index : Nat
  line : Nat
  column : Nat

namespace Cursor

def ofString (s : String) : Cursor := ⟨s.toList, 0, 0, 0⟩

def fault (c : Cursor) (reason : String) : Fault := ⟨reason, c.line + 1, c.column + 1⟩

/-- The character `k` places ahead. -/
def peek? (c : Cursor) (k : Nat) : Option Char := c.rest[k]?

/-- Whether the next character is `ch`. -/
def sees (c : Cursor) (ch : Char) : Bool := c.peek? 0 == some ch

/-- Whether a space, a tab, a line break or the end is `k` places ahead. -/
def gapAt (c : Cursor) (k : Nat) : Bool :=
  match c.peek? k with
  | none => true
  | some ch => isSpace ch || isBreak ch

/-- Whether the next character is a line break. -/
def seesBreak (c : Cursor) : Bool :=
  match c.peek? 0 with
  | none => false
  | some ch => isBreak ch

/-- The cursor after `n` characters of the same line. -/
def skip (c : Cursor) (n : Nat) : Cursor :=
  { c with rest := c.rest.drop n, index := c.index + n, column := c.column + n }

/-- The next characters that satisfy `p`, and the cursor after them. They
must not be line breaks. -/
def takeWhile (c : Cursor) (p : Char → Bool) : List Char × Cursor :=
  let taken := c.rest.takeWhile p
  (taken, c.skip taken.length)

def skipSpaces (c : Cursor) : Cursor := (c.takeWhile isSpace).2

/-- The cursor at the end of the line. -/
def skipToBreak (c : Cursor) : Cursor := (c.takeWhile (!isBreak ·)).2

/-- How the line break ahead reads, and the cursor on the next line. Without
a break ahead nothing happens. -/
def takeBreak (c : Cursor) : List Char × Cursor :=
  match c.rest with
  | '\r' :: '\n' :: rest => (['\n'], ⟨rest, c.index + 2, c.line + 1, 0⟩)
  | ch :: rest =>
    if isBreak ch then
      ([if ch == '\u2028' || ch == '\u2029' then ch else '\n'], ⟨rest, c.index + 1, c.line + 1, 0⟩)
    else ([], c)
  | [] => ([], c)

def skipBreak (c : Cursor) : Cursor := c.takeBreak.2

/-- Whether a line starts here with three times `ch` and nothing more. -/
def seesMark (c : Cursor) (ch : Char) : Bool :=
  c.column == 0 && c.peek? 0 == some ch && c.peek? 1 == some ch && c.peek? 2 == some ch && c.gapAt 3

/-- Whether a line starts here that parts documents. -/
def seesDocumentMark (c : Cursor) : Bool := c.seesMark '-' || c.seesMark '.'

end Cursor

end AbiProbe.Yaml
