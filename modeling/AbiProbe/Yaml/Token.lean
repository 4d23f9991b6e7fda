/-
The tokens of a document, and the parts of them that are names: directives,
anchors and tags.
-/
import AbiProbe.Yaml.Cursor
import AbiProbe.Text.Utf8

namespace AbiProbe.Yaml

inductive Token where
  | versionDirective (major minor : Nat)
  | tagDirective (handle lead : String)
  | documentStart
  | documentEnd
  | blockSequenceStart
  | blockMappingStart
  | blockEnd
  | flowSequenceStart
  | flowSequenceEnd
  | flowMappingStart
  | flowMappingEnd
  | blockEntry
  | flowEntry
  | key
  | value
  | anchor (name : String)
  | reference (name : String)
  | tag (handle suffix : String)
  | scalar (text : String) (plain : Bool)
  | streamEnd
  deriving DecidableEq, Repr

/-! ## Anchors and aliases -/

/-- The name of an anchor or alias; the cursor stands on its indicator. -/
def readAnchorName (c : Cursor) : Except Fault (String × Cursor) :=
  let (name, next) := (c.skip 1).takeWhile isNameChar
  let ends := next.gapAt 0 ||
    (match next.peek? 0 with
    | none => true
    | some ch => ['?', ':', ',', ']', '\x7d', '%', '@', '\x60'].contains ch)
  if name.isEmpty || !ends then
    .error (next.fault "did not find expected alphabetic or numeric character")
  else .ok (String.ofList name, next)

/-! ## Tags -/

/-- The characters of a tag's address, the per cent sign of an escape
included. -/
def isAddressChar (verbatim : Bool) (ch : Char) : Bool :=
  isNameChar ch ||
    [';', '/', '?', ':', '@', '&', '=', '+', '$', '.', '!', '~', '*', '\'', '(', ')', '%'].contains ch ||
    (verbatim && [',', '[', ']'].contains ch)

/-- The byte of the escape at the cursor, a per cent sign and two digits. -/
def escapedByte? (c : Cursor) : Option UInt8 :=
  match c.rest with
  | '%' :: high :: low :: _ =>
    match hexDigit? high, hexDigit? low with
    | some h, some l => some (UInt8.ofNat (h * 16 + l))
    | _, _ => none
  | _ => none

/-- The bytes of up to `n` escapes that follow each other. -/
def escapedBytes : Nat → Cursor → List UInt8
  | 0, _ => []
  | n + 1, c =>
    match escapedByte? c with
    | none => []
    | some b => b :: escapedBytes n (c.skip 3)

/-- The character that the escapes at the cursor spell in UTF-8. -/
def readEscapedChar (c : Cursor) : Except Fault (Char × Cursor) :=
  let lead? := (escapedByte? c).bind fun b => Text.Utf8.lead? b.toNat
  match lead? with
  | none => .error (c.fault "found an incorrect leading UTF-8 octet")
  | some lead =>
    let bytes := escapedBytes (lead.following + 1) c
    match (String.fromUTF8? ⟨bytes.toArray⟩).map String.toList with
    | some [ch] => .ok (ch, c.skip (3 * bytes.length))
    | _ => .error (c.fault "found an incorrect trailing UTF-8 octet")

/-- The characters of an address, in reverse after `acc`. -/
def readAddressChars (verbatim : Bool) : Nat → Cursor → List Char → Except Fault (List Char × Cursor)
  | 0, c, acc => .ok (acc, c)
  | fuel + 1, c, acc =>
    match c.rest with
    | [] => .ok (acc, c)
    | ch :: _ =>
      if ch == '%' then
        match readEscapedChar c with
        | .error f => .error f
        | .ok (escaped, next) => readAddressChars verbatim fuel next (escaped :: acc)
      else if isAddressChar verbatim ch then readAddressChars verbatim fuel (c.skip 1) (ch :: acc)
      else .ok (acc, c)

/-- The address of a tag, after the characters `head` that were read as a
handle but belong to it. `head` starts with an exclamation mark, which is
no part of the address. -/
def readAddress (verbatim : Bool) (head : List Char) (c : Cursor) :
    Except Fault (String × Cursor) := do
  let (reversed, next) ← readAddressChars verbatim (c.rest.length + 1) c []
  if head.isEmpty && reversed.isEmpty then throw (c.fault "did not find expected tag URI")
  return (String.ofList (head.drop 1 ++ reversed.reverse), next)

/-- An exclamation mark, name characters, and one more exclamation mark if
it is there. -/
def readHandle (c : Cursor) : Except Fault (List Char × Cursor) :=
  if !c.sees '!' then .error (c.fault "did not find expected '!'")
  else
    let (name, next) := (c.skip 1).takeWhile isNameChar
    if next.sees '!' then .ok ('!' :: name ++ ['!'], next.skip 1)
    else .ok ('!' :: name, next)

/-- A tag, as a handle and the address after it. An empty handle stands for
an address that is complete. -/
def readTag (inFlow : Bool) (c : Cursor) : Except Fault (Token × Cursor) := do
  let (handle, suffix, next) ← (do
    if c.peek? 1 == some '<' then
      let (address, next) ← readAddress true [] (c.skip 2)
      if !next.sees '>' then throw (next.fault "did not find the expected '>'")
      return ("", address, next.skip 1)
    let (handle, next) ← readHandle c
    if handle.length > 1 && handle.getLast? == some '!' then
      let (address, next) ← readAddress false [] next
      return (String.ofList handle, address, next)
    let (address, next) ← readAddress false handle next
    if address.isEmpty then return ("", "!", next)
    return ("!", address, next) : Except Fault (String × String × Cursor))
  if next.gapAt 0 || (inFlow && next.sees ',') then return (.tag handle suffix, next)
  throw (next.fault "did not find expected whitespace or line break")

/-! ## Directives -/

/-- One number of a version, of at most nine digits. -/
def readVersionNumber (c : Cursor) : Except Fault (Nat × Cursor) :=
  let (digits, next) := c.takeWhile Char.isDigit
  if digits.isEmpty then .error (c.fault "did not find expected version number")
  else if digits.length > 9 then .error (c.fault "found extremely long version number")
  else .ok (digits.foldl (fun n ch => n * 10 + (ch.toNat - 0x30)) 0, next)

/-- What a directive says, after its name. -/
def readDirectiveValue (name : String) (c : Cursor) : Except Fault (Token × Cursor) := do
  if name = "YAML" then
    let (major, next) ← readVersionNumber c.skipSpaces
    if !next.sees '.' then throw (next.fault "did not find expected digit or '.' character")
    let (minor, next) ← readVersionNumber (next.skip 1)
    return (.versionDirective major minor, next)
  if name = "TAG" then
    let (handle, next) ← readHandle c.skipSpaces
    if handle.length > 1 && handle.getLast? != some '!' then
      throw (next.fault "did not find expected '!'")
    match next.peek? 0 with
    | some ch => if !isSpace ch then throw (next.fault "did not find expected whitespace")
    | none => throw (next.fault "did not find expected whitespace")
    let (lead, next) ← readAddress true [] next.skipSpaces
    if !next.gapAt 0 then throw (next.fault "did not find expected whitespace or line break")
    return (.tagDirective (String.ofList handle) lead, next)
  throw (c.fault "found unknown directive name")

/-- A directive with its line; the cursor stands on its per cent sign. -/
def readDirective (c : Cursor) : Except Fault (Token × Cursor) := do
  let (name, next) := (c.skip 1).takeWhile isNameChar
  if name.isEmpty then throw (next.fault "could not find expected directive name")
  if !next.gapAt 0 then throw (next.fault "found unexpected non-alphabetical character")
  let (token, next) ← readDirectiveValue (String.ofList name) next
  let next := next.skipSpaces
  let next := if next.sees '#' then next.skipToBreak else next
  if !next.gapAt 0 then throw (next.fault "did not find expected comment or line break")
  return (token, next.skipBreak)

end AbiProbe.Yaml
