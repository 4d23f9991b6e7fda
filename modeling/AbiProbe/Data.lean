/-
Plain data, and how a reader looks at it. A reader of a configuration or a
catalog asks for texts, lists and named members; a `View` answers for one
data format, so each reader is written once and serves all formats.
-/

namespace AbiProbe

/-- A tree of plain data. -/
inductive Data where
  | null
  | boolean (b : Bool)
  /-- A number, by its text. -/
  | number (numeral : String)
  | text (s : String)
  | list (items : List Data)
  | record (members : List (String × Data))
  deriving Inhabited

/-- Why data does not have the expected shape. -/
inductive Misfit where
  | expected (what : String)
  | missing (name : String)
  | repeated (name : String)
  deriving DecidableEq, Repr

namespace Misfit

def text : Misfit → String
  | .expected what => "expected " ++ what
  | .missing name => "missing field " ++ name
  | .repeated name => "duplicate field " ++ name

end Misfit

/-- How values of type `δ` answer a reader; `none` is an answer that the
value does not have the shape asked for. -/
structure View (δ : Type) where
  text? : δ → Option String
  /-- A text that may be absent; `some none` tells that it is. -/
  optionalText? : δ → Option (Option String)
  items? : δ → Option (List δ)
  /-- The members of a record. The names are those that the reader knows, in
  their order, for a format whose records may leave the names out. -/
  members? : List String → δ → Option (List (String × δ))
  /-- One of several alternatives, by its name. -/
  choice? : δ → Option String

namespace View

variable {δ α : Type}

def text (v : View δ) (d : δ) : Except Misfit String :=
  match v.text? d with
  | some s => .ok s
  | none => .error (.expected "a string")

def optionalText (v : View δ) (d : δ) : Except Misfit (Option String) :=
  match v.optionalText? d with
  | some s => .ok s
  | none => .error (.expected "an optional string")

def choice (v : View δ) (d : δ) : Except Misfit String :=
  match v.choice? d with
  | some s => .ok s
  | none => .error (.expected "one of several names")

/-- A list whose items `read` reads. -/
def list (v : View δ) (read : δ → Except Misfit α) (d : δ) : Except Misfit (List α) :=
  match v.items? d with
  | some items => items.mapM read
  | none => .error (.expected "a sequence")

/-- The first name that occurs more than once. -/
def repeated? : List String → Option String
  | [] => none
  | name :: rest => if name ∈ rest then some name else repeated? rest

/-- The members of a record that have known names; others are ignored, and a
known name must not be repeated. -/
def members (v : View δ) (known : List String) (d : δ) : Except Misfit (List (String × δ)) :=
  match v.members? known d with
  | none => .error (.expected "a mapping")
  | some pairs =>
    let pairs := pairs.filter fun p => known.contains p.1
    match repeated? (pairs.map (·.1)) with
    | some name => .error (.repeated name)
    | none => .ok pairs

end View

/-- The member of a name, which must be there. -/
def required {δ α : Type} (members : List (String × δ)) (name : String)
    (read : δ → Except Misfit α) : Except Misfit α :=
  match members.lookup name with
  | some d => read d
  | none => .error (.missing name)

/-- The member of a name, or a default where it is not there. -/
def optional {δ α : Type} (members : List (String × δ)) (name : String) (default : α)
    (read : δ → Except Misfit α) : Except Misfit α :=
  match members.lookup name with
  | some d => read d
  | none => .ok default

namespace Data

/-- Plain data answers strictly: a text is a text, only null is absent. A
list in place of a record gives its members in order, the last ones possibly
missing. -/
def view : View Data where
  text?
    | .text s => some s
    | _ => none
  optionalText?
    | .text s => some (some s)
    | .null => some none
    | _ => none
  items?
    | .list items => some items
    | _ => none
  members? known
    | .record pairs => some pairs
    | .list items => if items.length ≤ known.length then some (known.zip items) else none
    | _ => none
  choice?
    | .text s => some s
    | _ => none

end Data

end AbiProbe
