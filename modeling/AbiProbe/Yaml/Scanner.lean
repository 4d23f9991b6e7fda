/-
The tokens of a whole document, from its characters.

Block structure is told by columns: deeper ones open a collection and
shallower ones close it. A key without a question mark is known as a key
only at its colon, so each place where one may begin is remembered, and the
tokens that open the mapping are put in there afterwards.
-/
import AbiProbe.Yaml.Scalar
import AbiProbe.Yaml.Token

namespace AbiProbe.Yaml

/-- A place where a key without a question mark may have begun. -/
structure KeyPlace where
  /-- Whether the block structure leaves no other reading. -/
  required : Bool
  /-- How many tokens stood before it. -/
  tokens : Nat
  cursor : Cursor

/-- How far the tokens of a document are known. -/
structure Scanner where
  cursor : Cursor
  tokens : Array Token
  /-- The column of the innermost block collection, -1 outside all. -/
  indent : Int
  /-- The columns of the block collections around it. -/
  indents : List Int
  /-- How many flow collections are open. -/
  flow : Nat
  /-- Whether a key may begin here. -/
  keyAllowed : Bool
  /-- Where the key of each open flow collection, and of the block around
  them, may have begun; the innermost comes first. -/
  keys : List (Option KeyPlace)

namespace Scanner

def ofString (s : String) : Scanner := ⟨.ofString s, #[], -1, [], 0, true, [none]⟩

def inFlow (s : Scanner) : Bool := s.flow != 0

def push (s : Scanner) (t : Token) : Scanner := { s with tokens := s.tokens.push t }

/-- The scanner with `t` put in after the first `n` tokens. -/
def putIn (s : Scanner) (n : Nat) (t : Token) : Scanner :=
  { s with tokens := s.tokens.insertIdxIfInBounds n t }

/-! ## Places of keys -/

/-- Forgets the innermost place; a required one must have been used. -/
def dropKey (s : Scanner) : Except Fault Scanner :=
  match s.keys with
  | some place :: rest =>
    if place.required then .error (place.cursor.fault "could not find expected ':'")
    else .ok { s with keys := none :: rest }
  | _ => .ok s

/-- Remembers that a key may begin here, if one may. -/
def markKey (s : Scanner) : Except Fault Scanner := do
  if !s.keyAllowed then return s
  let required := !s.inFlow && s.indent == (s.cursor.column : Int)
  let s ← s.dropKey
  return { s with keys := some ⟨required, s.tokens.size, s.cursor⟩ :: s.keys.drop 1 }

/-- Whether a key that began at `place` can still be a key: it stands on one
line and has at most 1024 characters. -/
def keeps (place : KeyPlace) (c : Cursor) : Bool :=
  place.cursor.line == c.line && c.index ≤ place.cursor.index + 1024

/-- Forgets the places that are too far back. -/
def dropStaleKeys (s : Scanner) : Except Fault Scanner := do
  let keys ← s.keys.mapM fun
    | none => pure none
    | some place =>
      if keeps place s.cursor then pure (some place)
      else if place.required then throw (place.cursor.fault "could not find expected ':'")
      else pure none
  return { s with keys }

/-! ## Block structure -/

/-- Opens a block collection at `column` if the block around it is
shallower; `start` is put in after the first `n` tokens. -/
def openBlock (s : Scanner) (column n : Nat) (start : Token) : Scanner :=
  if s.inFlow || (column : Int) ≤ s.indent then s
  else { s.putIn n start with indent := column, indents := s.indent :: s.indents }

/-- Closes the block collections that stand deeper than `column`. -/
def closeBlocks (column : Int) : List Int → Scanner → Scanner
  | [], s => s
  | outer :: rest, s =>
    if s.indent ≤ column then s
    else closeBlocks column rest { s.push .blockEnd with indent := outer, indents := rest }

def closeBlocksTo (s : Scanner) (column : Int) : Scanner :=
  if s.inFlow then s else closeBlocks column s.indents s

/-! ## Tokens -/

/-- Skips blanks, comments and line breaks. Tabs are blanks only where no
key may begin. -/
def skipToToken : Nat → Scanner → Scanner
  | 0, s => s
  | fuel + 1, s =>
    let c := s.cursor
    let c := if c.column = 0 ∧ c.sees '\ufeff' then c.skip 1 else c
    let c := (c.takeWhile fun ch => ch == ' ' || ((s.inFlow || !s.keyAllowed) && ch == '\t')).2
    let c := if c.sees '#' then c.skipToBreak else c
    if c.seesBreak then
      skipToToken fuel { s with cursor := c.skipBreak, keyAllowed := s.keyAllowed || !s.inFlow }
    else { s with cursor := c }

/-- Takes `n` characters as the token `t`. -/
def take (s : Scanner) (n : Nat) (t : Token) : Scanner :=
  { s.push t with cursor := s.cursor.skip n }

def scanDirective (s : Scanner) : Except Fault Scanner := do
  let s ← (s.closeBlocksTo (-1)).dropKey
  let (token, next) ← readDirective s.cursor
  return { s.push token with cursor := next, keyAllowed := false }

def scanDocumentMark (s : Scanner) (t : Token) : Except Fault Scanner := do
  let s ← (s.closeBlocksTo (-1)).dropKey
  return { s.take 3 t with keyAllowed := false }

def scanFlowStart (s : Scanner) (t : Token) : Except Fault Scanner := do
  let s ← s.markKey
  return { s.take 1 t with keyAllowed := true, flow := s.flow + 1, keys := none :: s.keys }

def scanFlowEnd (s : Scanner) (t : Token) : Except Fault Scanner := do
  let s ← s.dropKey
  return { s.take 1 t with
    keyAllowed := false, flow := s.flow - 1, keys := if s.inFlow then s.keys.drop 1 else s.keys }

def scanFlowEntry (s : Scanner) : Except Fault Scanner := do
  let s ← s.dropKey
  return { s.take 1 .flowEntry with keyAllowed := true }

def scanBlockEntry (s : Scanner) : Except Fault Scanner := do
  if !s.inFlow && !s.keyAllowed then
    throw (s.cursor.fault "block sequence entries are not allowed in this context")
  let s ← (s.openBlock s.cursor.column s.tokens.size .blockSequenceStart).dropKey
  return { s.take 1 .blockEntry with keyAllowed := true }

def scanKey (s : Scanner) : Except Fault Scanner := do
  if !s.inFlow && !s.keyAllowed then
    throw (s.cursor.fault "mapping keys are not allowed in this context")
  let s ← (s.openBlock s.cursor.column s.tokens.size .blockMappingStart).dropKey
  return { s.take 1 .key with keyAllowed := !s.inFlow }

def scanValue (s : Scanner) : Except Fault Scanner := do
  match s.keys with
  | some place :: rest =>
    let s := (s.putIn place.tokens .key).openBlock place.cursor.column place.tokens .blockMappingStart
    return { s.take 1 .value with keyAllowed := false, keys := none :: rest }
  | _ =>
    if !s.inFlow && !s.keyAllowed then
      throw (s.cursor.fault "mapping values are not allowed in this context")
    let s := s.openBlock s.cursor.column s.tokens.size .blockMappingStart
    return { s.take 1 .value with keyAllowed := !s.inFlow }

def scanAnchor (s : Scanner) (make : String → Token) : Except Fault Scanner := do
  let s ← s.markKey
  let (name, next) ← readAnchorName s.cursor
  return { s.push (make name) with cursor := next, keyAllowed := false }

def scanTag (s : Scanner) : Except Fault Scanner := do
  let s ← s.markKey
  let (token, next) ← readTag s.inFlow s.cursor
  return { s.push token with cursor := next, keyAllowed := false }

def scanBlockScalar (s : Scanner) (literal : Bool) : Except Fault Scanner := do
  let s ← s.dropKey
  let (text, next) ← Block.read literal s.indent s.cursor
  return { s.push (.scalar text false) with cursor := next, keyAllowed := true }

def scanQuotedScalar (s : Scanner) (single : Bool) : Except Fault Scanner := do
  let s ← s.markKey
  let (text, next) ← Quoted.read single s.cursor
  return { s.push (.scalar text false) with cursor := next, keyAllowed := false }

def scanPlainScalar (s : Scanner) : Except Fault Scanner := do
  let s ← s.markKey
  let (text, broken, next) ← Plain.read s.inFlow (s.indent + 1).toNat s.cursor
  return { s.push (.scalar text true) with cursor := next, keyAllowed := broken }

def scanStreamEnd (s : Scanner) : Except Fault Scanner := do
  let s ← (s.closeBlocksTo (-1)).dropKey
  return s.push .streamEnd

/-- Whether a plain scalar may begin with `ch`, whatever follows it. -/
def startsPlain (ch : Char) : Bool :=
  !(isSpace ch || isBreak ch || isFlowIndicator ch ||
    ['-', '?', ':', '#', '&', '*', '!', '|', '>', '\'', '"', '%', '@', '\x60'].contains ch)

/-- The token that begins with `ch`, the next character. -/
def scanFrom (s : Scanner) (ch : Char) : Except Fault Scanner :=
  let c := s.cursor
  if c.column = 0 ∧ ch = '%' then s.scanDirective
  else if c.seesMark '-' then s.scanDocumentMark .documentStart
  else if c.seesMark '.' then s.scanDocumentMark .documentEnd
  else if ch = '[' then s.scanFlowStart .flowSequenceStart
  else if ch = '\x7b' then s.scanFlowStart .flowMappingStart
  else if ch = ']' then s.scanFlowEnd .flowSequenceEnd
  else if ch = '\x7d' then s.scanFlowEnd .flowMappingEnd
  else if ch = ',' then s.scanFlowEntry
  else if ch = '-' ∧ c.gapAt 1 then s.scanBlockEntry
  else if ch = '?' ∧ (s.inFlow ∨ c.gapAt 1) then s.scanKey
  else if ch = ':' ∧ (s.inFlow ∨ c.gapAt 1) then s.scanValue
  else if ch = '*' then s.scanAnchor .reference
  else if ch = '&' then s.scanAnchor .anchor
  else if ch = '!' then s.scanTag
  else if ch = '|' ∧ !s.inFlow then s.scanBlockScalar true
  else if ch = '>' ∧ !s.inFlow then s.scanBlockScalar false
  else if ch = '\'' then s.scanQuotedScalar true
  else if ch = '"' then s.scanQuotedScalar false
  else if startsPlain ch ∨ ch = '-' ∨ (!s.inFlow ∧ (ch = '?' ∨ ch = ':')) then s.scanPlainScalar
  else .error (c.fault "found character that cannot start any token")

/-- All tokens from here on. Every round takes a character or ends, so the
rounds left are never fewer than the characters. -/
def run : Nat → Scanner → Except Fault Scanner
  | 0, s => .error (s.cursor.fault "could not find the end of the document")
  | fuel + 1, s => do
    let s := skipToToken (fuel + 1) s
    let s ← s.dropStaleKeys
    let s := s.closeBlocksTo s.cursor.column
    match s.cursor.rest with
    | [] => s.scanStreamEnd
    | ch :: _ => run fuel (← s.scanFrom ch)

end Scanner

/-- The tokens of a document. -/
def tokens (text : String) : Except Fault (List Token) := do
  if !text.toList.all isAllowed then
    throw ⟨"control characters are not allowed", 1, 1⟩
  let s ← Scanner.run (text.toList.length + 1) (Scanner.ofString text)
  return s.tokens.toList

end AbiProbe.Yaml
