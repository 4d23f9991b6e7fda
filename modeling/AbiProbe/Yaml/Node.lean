/-
Documents as trees of nodes, from their tokens. A text is one document; the
empty text is the document of an empty scalar.

An alias refers to an anchor by number. Anchors are numbered by the names
known before them, so a name that is given twice has a new number, which a
later name may take over; an alias means the node that took its number last.
-/
import AbiProbe.Yaml.Scanner

namespace AbiProbe.Yaml

/-- One node of a document. -/
inductive Node where
  /-- A scalar with its text; `plain` tells that it stands without quotes
  and outside block scalars. -/
  | scalar (tag : Option String) (text : String) (plain : Bool)
  | sequence (tag : Option String) (items : List Node)
  | mapping (tag : Option String) (pairs : List (Node × Node))
  | reference (anchor : Nat)

namespace Node

/-- The scalar that stands where nothing is written. -/
def absent : Node := .scalar none "" true

end Node

/-- A document: its tree, and the node of every anchor. -/
structure Document where
  root : Node
  anchors : List (Nat × Node)

/-- The anchors of a document as far as it is read. Nodes are counted in the
order in which they begin. -/
structure Anchors where
  /-- The number of each name. -/
  numbers : List (String × Nat)
  /-- How many anchored nodes have begun. -/
  begun : Nat
  /-- Which node took each number, the latest first. -/
  owners : List (Nat × Nat)
  /-- The nodes that are complete, by their count. -/
  nodes : List (Nat × Node)

namespace Anchors

def none : Anchors := ⟨[], 0, [], []⟩

/-- Begins a node with an anchor; gives its count. -/
def start (a : Anchors) (name : String) : Nat × Anchors :=
  let number := a.numbers.length
  let numbers := match a.numbers.lookup name with
    | some _ => a.numbers.map fun p => if p.1 == name then (name, number) else p
    | _ => (name, number) :: a.numbers
  (a.begun, { a with numbers, begun := a.begun + 1, owners := (number, a.begun) :: a.owners })

def complete (a : Anchors) (count : Nat) (n : Node) : Anchors :=
  { a with nodes := (count, n) :: a.nodes }

/-- The node of each number. -/
def table (a : Anchors) : List (Nat × Node) :=
  a.owners.filterMap fun (number, count) => (a.nodes.lookup count).map fun n => (number, n)

end Anchors

/-- The tokens ahead, what tag handles stand for, and the anchors. -/
structure Reader where
  tokens : List Token
  handles : List (String × String)
  anchors : Anchors

/-- A step of reading nodes. -/
abbrev Read (α : Type) := StateT Reader (Except String) α

namespace Read

/-- The next token; the end of the stream goes on for ever. -/
def peek : Read Token := do return (← get).tokens.headD .streamEnd

def skip : Read Unit := modify fun r => { r with tokens := r.tokens.drop 1 }

/-- The tag of a node, from a handle and the address after it. -/
def resolveTag (handle suffix : String) : Read String := do
  if handle.isEmpty then return suffix
  match (← get).handles.lookup handle with
  | some lead => return lead ++ suffix
  | none => throw "found undefined tag handle"

/-- The anchor and tag before a node, in either order. -/
def properties : Read (Option String × Option String) := do
  match ← peek with
  | .anchor name =>
    skip
    match ← peek with
    | .tag handle suffix => skip; return (some name, some (← resolveTag handle suffix))
    | _ => return (some name, none)
  | .tag handle suffix =>
    skip
    match ← peek with
    | .anchor name => skip; return (some name, some (← resolveTag handle suffix))
    | _ => return (none, some (← resolveTag handle suffix))
  | _ => return (none, none)

/-- Reads a node's content between the beginning and the completion of its
anchor. -/
def anchored (anchor : Option String) (content : Read Node) : Read Node := do
  match anchor with
  | none => content
  | some name =>
    let (count, anchors) := (← get).anchors.start name
    modify fun r => { r with anchors }
    let node ← content
    modify fun r => { r with anchors := r.anchors.complete count node }
    return node

/-- Whether a token cannot begin the value or key it stands at the place
of, in a block mapping. -/
def endsBlockPart : Token → Bool
  | .key | .value | .blockEnd => true
  | _ => false

def endsSequenceItem : Token → Bool
  | .flowEntry | .flowSequenceEnd => true
  | _ => false

def endsMappingPart : Token → Bool
  | .flowEntry | .flowMappingEnd => true
  | _ => false

mutual

/-- A node. `block` allows block collections, `indentless` a sequence whose
entries stand at the column of the mapping around it. A tag that is nothing
but its mark is dropped from a scalar that is written out. -/
def node (fuel : Nat) (block indentless : Bool) : Read Node := do
  match fuel with
  | 0 => throw "the document is nested too deeply"
  | fuel + 1 =>
    if let .reference name ← peek then
      skip
      match (← get).anchors.numbers.lookup name with
      | some number => return .reference number
      | none => throw "unknown anchor"
    let (anchor, tag) ← properties
    anchored anchor (do
      match ← peek with
      | .blockEntry =>
        if indentless then return .sequence tag (← indentlessItems fuel)
        else if anchor.isSome || tag.isSome then return .scalar tag "" true
        else throw "did not find expected node content"
      | .scalar text plain => skip; return .scalar (tag.filter (· != "!")) text plain
      | .flowSequenceStart => skip; return .sequence tag (← flowItems fuel true)
      | .flowMappingStart => skip; return .mapping tag (← flowPairs fuel true)
      | .blockSequenceStart =>
        if block then skip; return .sequence tag (← blockItems fuel)
        else if anchor.isSome || tag.isSome then return .scalar tag "" true
        else throw "did not find expected node content"
      | .blockMappingStart =>
        if block then skip; return .mapping tag (← blockPairs fuel)
        else if anchor.isSome || tag.isSome then return .scalar tag "" true
        else throw "did not find expected node content"
      | _ =>
        if anchor.isSome || tag.isSome then return .scalar tag "" true
        else throw "did not find expected node content")

/-- The items of a block sequence, up to its end. -/
def blockItems (fuel : Nat) : Read (List Node) := do
  match fuel with
  | 0 => throw "the document is nested too deeply"
  | fuel + 1 =>
    match ← peek with
    | .blockEntry =>
      skip
      let item ← (do
        match ← peek with
        | .blockEntry | .blockEnd => return Node.absent
        | _ => node fuel true false)
      return item :: (← blockItems fuel)
    | .blockEnd => skip; return []
    | _ => throw "did not find expected '-' indicator"

/-- The items of a sequence without an indentation of its own. -/
def indentlessItems (fuel : Nat) : Read (List Node) := do
  match fuel with
  | 0 => throw "the document is nested too deeply"
  | fuel + 1 =>
    match ← peek with
    | .blockEntry =>
      skip
      let item ← (do
        match ← peek with
        | .blockEntry | .key | .value | .blockEnd => return Node.absent
        | _ => node fuel true false)
      return item :: (← indentlessItems fuel)
    | _ => return []

/-- The pairs of a block mapping, up to its end. -/
def blockPairs (fuel : Nat) : Read (List (Node × Node)) := do
  match fuel with
  | 0 => throw "the document is nested too deeply"
  | fuel + 1 =>
    match ← peek with
    | .key =>
      skip
      let key ← (do if endsBlockPart (← peek) then return Node.absent else node fuel true true)
      let value ← (do
        match ← peek with
        | .value =>
          skip
          if endsBlockPart (← peek) then return Node.absent else node fuel true true
        | _ => return Node.absent)
      return (key, value) :: (← blockPairs fuel)
    | .blockEnd => skip; return []
    | _ => throw "did not find expected key"

/-- The items of a flow sequence, up to its end. -/
def flowItems (fuel : Nat) (first : Bool) : Read (List Node) := do
  match fuel with
  | 0 => throw "the document is nested too deeply"
  | fuel + 1 =>
    if (← peek) = .flowSequenceEnd then skip; return []
    if !first then
      if (← peek) = .flowEntry then skip
      else throw "did not find expected ',' or ']'"
    match ← peek with
    | .flowSequenceEnd => skip; return []
    | .key =>
      skip
      let pair ← flowPair fuel
      return .mapping none [pair] :: (← flowItems fuel false)
    | _ =>
      let item ← node fuel false false
      return item :: (← flowItems fuel false)

/-- A pair that stands alone in a flow sequence, after its key indicator.
Where the key is not written, the token that ends it is passed over. -/
def flowPair (fuel : Nat) : Read (Node × Node) := do
  match fuel with
  | 0 => throw "the document is nested too deeply"
  | fuel + 1 =>
    let t ← peek
    let key ← (do
      if t = .value ∨ endsSequenceItem t then skip; return Node.absent
      else node fuel false false)
    match ← peek with
    | .value =>
      skip
      if endsSequenceItem (← peek) then return (key, Node.absent)
      else return (key, ← node fuel false false)
    | _ => return (key, Node.absent)

/-- The pairs of a flow mapping, up to its end. -/
def flowPairs (fuel : Nat) (first : Bool) : Read (List (Node × Node)) := do
  match fuel with
  | 0 => throw "the document is nested too deeply"
  | fuel + 1 =>
    if (← peek) = .flowMappingEnd then skip; return []
    if !first then
      if (← peek) = .flowEntry then skip
      else throw "did not find expected ',' or '\x7d'"
    match ← peek with
    | .flowMappingEnd => skip; return []
    | .key =>
      skip
      let t ← peek
      let key ← (do
        if t = .value ∨ endsMappingPart t then return Node.absent
        else node fuel false false)
      let value ← (do
        match ← peek with
        | .value =>
          skip
          if endsMappingPart (← peek) then return Node.absent else node fuel false false
        | _ => return Node.absent)
      return (key, value) :: (← flowPairs fuel false)
    | _ =>
      let key ← node fuel false false
      return (key, Node.absent) :: (← flowPairs fuel false)

end

/-- The directives before a document, put into effect. -/
def directives : Nat → Bool → Read Unit
  | 0, _ => return
  | fuel + 1, versioned => do
    match ← peek with
    | .versionDirective major minor =>
      if versioned then throw "found duplicate %YAML directive"
      if major ≠ 1 ∨ (minor ≠ 1 ∧ minor ≠ 2) then throw "found incompatible YAML document"
      skip
      directives fuel true
    | .tagDirective handle lead =>
      if ((← get).handles.lookup handle).isSome then throw "found duplicate %TAG directive"
      skip
      modify fun r => { r with handles := (handle, lead) :: r.handles }
      directives fuel versioned
    | _ => return

/-- The handles that every document knows, unless it gives them anew. -/
def standardHandles : List (String × String) :=
  [("!", "!"), ("!!", "tag:yaml.org,2002:")]

/-- The root of a document that is not empty. -/
def root (fuel : Nat) : Read Node := do
  match ← peek with
  | .versionDirective _ _ | .tagDirective _ _ | .documentStart =>
    directives fuel false
    if (← peek) ≠ .documentStart then throw "did not find expected <document start>"
    skip
    modify fun r => { r with handles := r.handles ++ standardHandles }
    match ← peek with
    | .versionDirective _ _ | .tagDirective _ _ | .documentStart | .documentEnd | .streamEnd =>
      return Node.absent
    | _ => node fuel true false
  | _ =>
    modify fun r => { r with handles := standardHandles }
    node fuel true false

/-- The only document of a stream. -/
def document (fuel : Nat) : Read Document := do
  if (← peek) = .streamEnd then return ⟨Node.absent, []⟩
  let root ← root fuel
  modify fun r => { r with tokens := r.tokens.dropWhile (· == .documentEnd) }
  if (← peek) ≠ .streamEnd then throw "deserializing from YAML containing more than one document"
  return ⟨root, (← get).anchors.table⟩

end Read

/-- The document that a text holds. -/
def read (text : String) : Except String Document := do
  let ts ← (tokens text).mapError Fault.text
  let (document, _) ← (Read.document (2 * ts.length + 2)).run ⟨ts, [], Anchors.none⟩
  return document

/-- The document of some tokens. -/
theorem read_eq_ok {text : String} {ts : List Token} {doc : Document} (hts : (tokens text).toOption = some ts)
    (hdoc : ((Read.document (2 * ts.length + 2)).run ⟨ts, [], Anchors.none⟩).map (·.1) = .ok doc) :
    read text = .ok doc := by
  rw [read]
  cases htokens : tokens text with
  | error e => simp [htokens, Except.toOption] at hts
  | ok found =>
    obtain rfl : found = ts := by simpa [htokens, Except.toOption] using hts
    change ((Read.document (2 * found.length + 2)).run ⟨found, [], Anchors.none⟩ >>= fun r => pure r.1) = _
    rw [← hdoc]
    cases (Read.document (2 * found.length + 2)).run ⟨found, [], Anchors.none⟩ <;> rfl

end AbiProbe.Yaml
