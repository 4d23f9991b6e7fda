/-
How the nodes of a document answer a reader. Scalars are texts verbatim;
nothing written at all is an empty list and an empty mapping, and only a
plain `~`, `null` or nothing is an absent text.
-/
import AbiProbe.Data
import AbiProbe.Yaml.Node

namespace AbiProbe.Yaml

/-- The plain spellings of null. -/
def isNull (text : String) : Bool := ["null", "Null", "NULL", "~"].contains text

/-- The tag of null. -/
def nullTag : String := "tag:yaml.org,2002:null"

namespace Document

/-- The node itself, or the one that an alias refers to. -/
def resolve (doc : Document) (n : Node) : Node :=
  match n with
  | .reference anchor => (doc.anchors.lookup anchor).getD Node.absent
  | _ => n

def text? (doc : Document) (n : Node) : Option String :=
  match doc.resolve n with
  | .scalar _ text _ => some text
  | _ => none

def optionalText? (doc : Document) (n : Node) : Option (Option String) :=
  match doc.resolve n with
  | .scalar tag text plain =>
    if !plain then some (some text)
    else if tag = some nullTag then (if isNull text then some none else none)
    else if tag.isNone && (text.isEmpty || isNull text) then some none
    else some (some text)
  | _ => none

def items? (doc : Document) (n : Node) : Option (List Node) :=
  match doc.resolve n with
  | .sequence _ items => some items
  | .scalar _ text plain => if plain && text.isEmpty then some [] else none
  | _ => none

def members? (doc : Document) (n : Node) : Option (List (String × Node)) :=
  match doc.resolve n with
  | .mapping _ pairs => pairs.mapM fun (key, value) => (doc.text? key).map fun name => (name, value)
  | .scalar _ text plain => if plain && text.isEmpty then some [] else none
  | _ => none

/-- The name in a tag of the document's own, without its exclamation mark. -/
def localTag? (tag : Option String) : Option String :=
  match tag.map String.toList with
  | some ['!'] => some "!"
  | some ('!' :: name) => some (String.ofList name)
  | _ => none

/-- An alternative is written as a scalar, or as the tag of a null. -/
def choice? (doc : Document) (n : Node) : Option String :=
  match doc.resolve n with
  | .scalar tag text plain =>
    match localTag? tag with
    | some name => if plain && (text.isEmpty || isNull text) then some name else none
    | none => some text
  | _ => none

def view (doc : Document) : View Node where
  text? := doc.text?
  optionalText? := doc.optionalText?
  items? := doc.items?
  members? := fun _ n => doc.members? n
  choice? := doc.choice?

end Document

end AbiProbe.Yaml
