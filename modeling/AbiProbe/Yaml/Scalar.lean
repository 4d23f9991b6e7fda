/-
The scalars of a document: plain ones, quoted ones, and the block scalars
introduced by a bar or an angle bracket. Between the parts of a plain or
quoted scalar, blanks on one line are kept, a single line break folds into
a space, and further breaks stand for themselves.
-/
import AbiProbe.Yaml.Cursor

namespace AbiProbe.Yaml

/-! ## Gaps between the parts of a flow scalar -/

/-- Blanks and line breaks between two parts of a scalar. -/
structure Gap where
  /-- Blanks before any break. -/
  spaces : List Char
  /-- The first break. -/
  first : List Char
  /-- The breaks after the first. -/
  more : List Char
  /-- Whether a line has ended. -/
  broken : Bool

namespace Gap

def none : Gap := ⟨[], [], [], false⟩

/-- What the gap reads as once another part follows it. -/
def joined (g : Gap) : List Char :=
  if g.broken then
    if g.first == ['\n'] then (if g.more.isEmpty then [' '] else g.more)
    else g.first ++ g.more
  else g.spaces

/-- The gap at the cursor. On a continuation line a tab left of column
`margin` is an error. -/
def read (margin : Nat) : Nat → Cursor → Gap → Except Fault (Gap × Cursor)
  | 0, c, g => .ok (g, c)
  | fuel + 1, c, g =>
    match c.rest with
    | [] => .ok (g, c)
    | ch :: _ =>
      if isSpace ch then
        if g.broken && c.column < margin && ch == '\t' then
          .error (c.fault "found a tab character that violates indentation")
        else if g.broken then read margin fuel (c.skip 1) g
        else read margin fuel (c.skip 1) { g with spaces := g.spaces ++ [ch] }
      else if isBreak ch then
        let (text, next) := c.takeBreak
        if g.broken then read margin fuel next { g with more := g.more ++ text }
        else read margin fuel next { g with spaces := [], first := text, broken := true }
      else .ok (g, c)

end Gap

/-! ## Plain scalars -/

def isFlowIndicator (ch : Char) : Bool :=
  ch == ',' || ch == '[' || ch == ']' || ch == '\x7b' || ch == '\x7d'

namespace Plain

/-- The characters of one part, in reverse, and the cursor after it. The
part ends at a gap, at a colon before a gap and, inside a flow collection,
at the collection's indicators. -/
def part (inFlow : Bool) : Nat → Cursor → List Char → Except Fault (List Char × Cursor)
  | 0, c, acc => .ok (acc, c)
  | fuel + 1, c, acc =>
    match c.rest with
    | [] => .ok (acc, c)
    | ch :: _ =>
      if isSpace ch || isBreak ch then .ok (acc, c)
      else if inFlow && ch == ':' &&
          (match c.peek? 1 with
          | none => false
          | some next => isFlowIndicator next || next == '?') then
        .error (c.fault "found unexpected ':'")
      else if (ch == ':' && c.gapAt 1) || (inFlow && isFlowIndicator ch) then .ok (acc, c)
      else part inFlow fuel (c.skip 1) (ch :: acc)

/-- The parts of a plain scalar, in reverse after `acc`; with them whether a
line had ended when the scalar did. -/
def parts (inFlow : Bool) (margin : Nat) :
    Nat → Cursor → List Char → Gap → Except Fault (List Char × Bool × Cursor)
  | 0, c, acc, gap => .ok (acc, gap.broken, c)
  | fuel + 1, c, acc, gap => do
    if c.seesDocumentMark || c.sees '#' then return (acc, gap.broken, c)
    let (run, after) ← part inFlow (fuel + 1) c []
    let (acc, gap) := if run.isEmpty then (acc, gap) else (run ++ gap.joined.reverse ++ acc, Gap.none)
    match after.rest with
    | [] => return (acc, gap.broken, after)
    | ch :: _ =>
      if !(isSpace ch || isBreak ch) then return (acc, gap.broken, after)
      let (gap, next) ← Gap.read margin (fuel + 1) after gap
      if !inFlow && next.column < margin then return (acc, gap.broken, next)
      parts inFlow margin fuel next acc gap

/-- A plain scalar, and whether a line had ended when it did. -/
def read (inFlow : Bool) (margin : Nat) (c : Cursor) : Except Fault (String × Bool × Cursor) := do
  let (reversed, broken, next) ← parts inFlow margin (c.rest.length + 1) c [] Gap.none
  return (String.ofList reversed.reverse, broken, next)

end Plain

/-! ## Quoted scalars -/

namespace Quoted

/-- The character of a one-letter escape. -/
def escape? : Char → Option Char
  | '0' => some '\x00'
  | 'a' => some '\x07'
  | 'b' => some '\x08'
  | 't' => some '\t'
  | '\t' => some '\t'
  | 'n' => some '\n'
  | 'v' => some '\x0b'
  | 'f' => some '\x0c'
  | 'r' => some '\r'
  | 'e' => some '\x1b'
  | ' ' => some ' '
  | '"' => some '"'
  | '/' => some '/'
  | '\\' => some '\\'
  | 'N' => some '\u0085'
  | '_' => some '\u00a0'
  | 'L' => some '\u2028'
  | 'P' => some '\u2029'
  | _ => none

/-- How many hexadecimal digits follow the letter of a numeric escape. -/
def escapeLength? : Char → Option Nat
  | 'x' => some 2
  | 'u' => some 4
  | 'U' => some 8
  | _ => none

/-- The number that a row of hexadecimal digits denotes. -/
def hexNumber? (digits : List Char) : Option Nat :=
  digits.foldlM (fun n ch => (hexDigit? ch).map (n * 16 + ·)) 0

/-- The escape sequence at the cursor, which stands on its backslash. -/
def readEscape (c : Cursor) : Except Fault (Char × Cursor) :=
  match c.peek? 1 with
  | none => .error (c.fault "found unknown escape character")
  | some letter =>
    match escape? letter, escapeLength? letter with
    | some ch, _ => .ok (ch, c.skip 2)
    | none, none => .error (c.fault "found unknown escape character")
    | none, some length =>
      let digits := (c.rest.drop 2).take length
      match (if digits.length = length then hexNumber? digits else none) with
      | none => .error (c.fault "did not find expected hexdecimal number")
      | some n =>
        if (0xd800 ≤ n ∧ n ≤ 0xdfff) ∨ 0x10ffff < n then
          .error (c.fault "found invalid Unicode character escape code")
        else .ok (Char.ofNat n, c.skip (2 + length))

/-- How one part of a quoted scalar ends. -/
inductive PartEnd where
  /-- At a gap, the closing quote or the end of the document. -/
  | plain
  /-- At a backslash before a line break, which joins the lines. -/
  | joined
  deriving DecidableEq

/-- The characters of one part, in reverse, and how it ends. -/
def part (single : Bool) :
    Nat → Cursor → List Char → Except Fault (List Char × PartEnd × Cursor)
  | 0, c, acc => .ok (acc, .plain, c)
  | fuel + 1, c, acc =>
    match c.rest with
    | [] => .ok (acc, .plain, c)
    | ch :: _ =>
      if isSpace ch || isBreak ch then .ok (acc, .plain, c)
      else if single then
        if ch == '\'' then
          if c.peek? 1 == some '\'' then part single fuel (c.skip 2) ('\'' :: acc)
          else .ok (acc, .plain, c)
        else part single fuel (c.skip 1) (ch :: acc)
      else if ch == '"' then .ok (acc, .plain, c)
      else if ch == '\\' then
        if (c.skip 1).seesBreak then .ok (acc, .joined, (c.skip 1).skipBreak)
        else
          match readEscape c with
          | .error f => .error f
          | .ok (escaped, next) => part single fuel next (escaped :: acc)
      else part single fuel (c.skip 1) (ch :: acc)

/-- The parts of a quoted scalar up to its closing quote, in reverse after
`acc`. -/
def parts (single : Bool) : Nat → Cursor → List Char → Except Fault (List Char × Cursor)
  | 0, c, _ => .error (c.fault "found unexpected end of stream")
  | fuel + 1, c, acc => do
    if c.seesDocumentMark then throw (c.fault "found unexpected document indicator")
    if c.rest.isEmpty then throw (c.fault "found unexpected end of stream")
    let (acc, ending, after) ← part single (fuel + 1) c acc
    if after.sees (if single then '\'' else '"') then return (acc, after.skip 1)
    let (gap, next) ← Gap.read 0 (fuel + 1) after
      { Gap.none with broken := ending == .joined }
    parts single fuel next (gap.joined.reverse ++ acc)

/-- A quoted scalar; the cursor stands on its opening quote. -/
def read (single : Bool) (c : Cursor) : Except Fault (String × Cursor) := do
  let (reversed, next) ← parts single (c.rest.length + 1) (c.skip 1) []
  return (String.ofList reversed.reverse, next)

end Quoted

/-! ## Block scalars -/

namespace Block

/-- What becomes of the line breaks at the end of a block scalar. -/
inductive Chomping where
  | strip
  | clip
  | keep
  deriving DecidableEq

/-- The indicators after the bar or bracket: the chomping, and how much
deeper than its parent the text stands, 0 if the text tells. -/
def readHeader (c : Cursor) : Except Fault (Chomping × Nat × Cursor) := do
  let chomping? (c : Cursor) : Option Chomping :=
    if c.sees '+' then some .keep else if c.sees '-' then some .strip else none
  let digit (c : Cursor) : Except Fault (Nat × Cursor) :=
    match c.peek? 0 with
    | some ch =>
      if ch == '0' then .error (c.fault "found an indentation indicator equal to 0")
      else if ch.isDigit then .ok (ch.toNat - 0x30, c.skip 1)
      else .ok (0, c)
    | none => .ok (0, c)
  match chomping? c with
  | some chomping =>
    let (depth, next) ← digit (c.skip 1)
    return (chomping, depth, next)
  | none =>
    let (depth, next) ← digit c
    if depth = 0 then return (.clip, 0, next)
    match chomping? next with
    | some chomping => return (chomping, depth, next.skip 1)
    | none => return (.clip, depth, next)

/-- The empty lines and the indentation before a line of text: the breaks,
and the greatest column reached. `indent` is 0 while it is not known. -/
def readBreaks (indent : Nat) :
    Nat → Cursor → List Char → Nat → Except Fault (List Char × Nat × Cursor)
  | 0, c, breaks, deepest => .ok (breaks, deepest, c)
  | fuel + 1, c, breaks, deepest =>
    let spaces := c.rest.takeWhile (· == ' ')
    let c := c.skip (if indent = 0 then spaces.length else min spaces.length (indent - c.column))
    let deepest := max deepest c.column
    if (indent = 0 ∨ c.column < indent) ∧ c.sees '\t' then
      .error (c.fault "found a tab character where an indentation space is expected")
    else if c.seesBreak then
      let (text, next) := c.takeBreak
      readBreaks indent fuel next (breaks ++ text) deepest
    else .ok (breaks, deepest, c)

/-- The lines of a block scalar, in reverse after `acc`, with the breaks
that remain at its end. -/
def readLines (literal : Bool) (indent : Nat) :
    Nat → Cursor → List Char → List Char → List Char → Bool →
      Except Fault (List Char × List Char × List Char × Cursor)
  | 0, c, acc, ending, breaks, _ => .ok (acc, ending, breaks, c)
  | fuel + 1, c, acc, ending, breaks, afterBlank => do
    if c.column ≠ indent ∨ c.rest.isEmpty then return (acc, ending, breaks, c)
    let startsBlank := match c.peek? 0 with
      | none => false
      | some ch => isSpace ch
    let folds := !literal && ending == ['\n'] && !afterBlank && !startsBlank
    let joint := if folds then (if breaks.isEmpty then [' '] else breaks) else ending ++ breaks
    let line := c.rest.takeWhile (!isBreak ·)
    let (ending, next) := (c.skip line.length).takeBreak
    let (breaks, _, next) ← readBreaks indent (fuel + 1) next [] 0
    readLines literal indent fuel next (line.reverse ++ joint.reverse ++ acc) ending breaks startsBlank

/-- A block scalar; the cursor stands on its bar or bracket, and `parent` is
the indentation of the block around it, -1 for none. -/
def read (literal : Bool) (parent : Int) (c : Cursor) : Except Fault (String × Cursor) := do
  let (chomping, depth, c) ← readHeader (c.skip 1)
  let c := c.skipSpaces
  let c := if c.sees '#' then c.skipToBreak else c
  if !c.gapAt 0 then throw (c.fault "did not find expected comment or line break")
  let c := c.skipBreak
  let given := if depth = 0 then 0 else parent.toNat + depth
  let (breaks, deepest, c) ← readBreaks given (c.rest.length + 1) c [] 0
  let indent := if given = 0 then max (max deepest (parent + 1).toNat) 1 else given
  let (acc, ending, breaks, c) ← readLines literal indent (c.rest.length + 1) c [] [] breaks false
  let tail := match chomping with
    | .strip => []
    | .clip => ending
    | .keep => ending ++ breaks
  return (String.ofList (acc.reverse ++ tail), c)

end Block

end AbiProbe.Yaml
