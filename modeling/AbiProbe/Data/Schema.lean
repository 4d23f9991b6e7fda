/-
The shape that a reader expects of data, and what a reader of that shape does
not see. Members of a record come in any order, members that it does not know
come and go, and one that holds what its absence means can be left out (`Edit`).
What it cannot read is data of another shape (`Misfits`).
-/
import AbiProbe.Data.Members
import Mathlib.Data.List.Forall2
import Mathlib.Logic.Relation

namespace AbiProbe

/-- A shape of data. -/
inductive Schema where
  | text
  /-- A text that may be absent. -/
  | optionalText
  /-- One of several alternatives, by its name. -/
  | choice (names : List String)
  | list (item : Schema)
  /-- Members with their names, their shapes, and the data that an absent one
  stands for. A member without such data is required. -/
  | record (members : List (String × Schema × Option Data))

namespace Schema

/-- The members of a record. -/
abbrev Members := List (String × Schema × Option Data)

/-- One edit that keeps what data of a shape means, anywhere in the data. -/
inductive Edit : Schema → Data → Data → Prop where
  | reorder {members : Members} {pairs pairs' : List (String × Data)}
      (h : pairs.Perm pairs') : Edit (.record members) (.record pairs) (.record pairs')
  /-- A member with an unknown name is put in. -/
  | add {members : Members} (before after : List (String × Data)) {name : String}
      (d : Data) (h : name ∉ members.map (·.1)) :
      Edit (.record members) (.record (before ++ after)) (.record (before ++ (name, d) :: after))
  /-- A member is left out that holds what its absence stands for. -/
  | drop {members : Members} (before after : List (String × Data)) {name : String}
      {s : Schema} {d : Data} (h : (name, s, some d) ∈ members) :
      Edit (.record members) (.record (before ++ (name, d) :: after)) (.record (before ++ after))
  | member {members : Members} (before after : List (String × Data))
      {name : String} {s : Schema} {absent : Option Data} {d d' : Data} (h : (name, s, absent) ∈ members)
      (he : Edit s d d') :
      Edit (.record members) (.record (before ++ (name, d) :: after)) (.record (before ++ (name, d') :: after))
  | item {s : Schema} (before after : List Data) {d d' : Data} (he : Edit s d d') :
      Edit (.list s) (.list (before ++ d :: after)) (.list (before ++ d' :: after))

/-- What edits make of a member, they make of its record. -/
theorem edits_member {members : Members} (before after : List (String × Data)) {name : String} {s : Schema}
    {absent : Option Data} {d d' : Data} (h : (name, s, absent) ∈ members) (he : Relation.ReflTransGen s.Edit d d') :
    Relation.ReflTransGen (Edit (.record members)) (.record (before ++ (name, d) :: after))
      (.record (before ++ (name, d') :: after)) := by
  induction he with
  | refl => exact .refl
  | tail _ he ih => exact ih.tail (.member before after h he)

/-- What edits make of an item, they make of its list. -/
theorem edits_item {s : Schema} (before after : List Data) {d d' : Data} (he : Relation.ReflTransGen s.Edit d d') :
    Relation.ReflTransGen (Edit (.list s)) (.list (before ++ d :: after)) (.list (before ++ d' :: after)) := by
  induction he with
  | refl => exact .refl
  | tail _ he ih => exact ih.tail (.item before after he)

/-- A value departs from a shape: at one place in it there is not what the shape
has there, or a known name is repeated, or a required one is missing. -/
inductive Misfits {δ : Type} (v : View δ) : Schema → δ → Prop where
  | text {d : δ} (h : v.text? d = none) : Misfits v .text d
  | optionalText {d : δ} (h : v.optionalText? d = none) : Misfits v .optionalText d
  | choice {names : List String} {d : δ} (h : ∀ name ∈ names, v.choice? d ≠ some name) : Misfits v (.choice names) d
  | list {s : Schema} {d : δ} (h : v.items? d = none) : Misfits v (.list s) d
  | item {s : Schema} {d e : δ} {items : List δ} (hitems : v.items? d = some items) (he : e ∈ items)
      (h : Misfits v s e) : Misfits v (.list s) d
  | record {members : Members} {d : δ}
      (h : v.members? (members.map (·.1)) d = none) : Misfits v (.record members) d
  | repeated {members : Members} {d : δ} {pairs : List (String × δ)} {name : String}
      (hpairs : v.members? (members.map (·.1)) d = some pairs) (hname : name ∈ members.map (·.1))
      (h : 1 < (valuesOf name pairs).length) : Misfits v (.record members) d
  | missing {members : Members} {d : δ} {pairs : List (String × δ)} {name : String}
      {s : Schema} (hpairs : v.members? (members.map (·.1)) d = some pairs) (hname : (name, s, none) ∈ members)
      (h : name ∉ pairs.map (·.1)) : Misfits v (.record members) d
  | member {members : Members} {d e : δ} {pairs : List (String × δ)} {name : String}
      {s : Schema} {absent : Option Data} (hpairs : v.members? (members.map (·.1)) d = some pairs)
      (hname : (name, s, absent) ∈ members) (he : (name, e) ∈ pairs) (h : Misfits v s e) :
      Misfits v (.record members) d

end Schema

/-- A value of some format denotes data. A view is asked neither for truth values
nor for numbers, so it does not tell what denotes them. -/
inductive View.Presents {δ : Type} (v : View δ) : δ → Data → Prop where
  | null {x : δ} (h : v.optionalText? x = some none) : v.Presents x .null
  | boolean (x : δ) (b : Bool) : v.Presents x (.boolean b)
  | number (x : δ) (numeral : String) : v.Presents x (.number numeral)
  | text {x : δ} {s : String} (h : v.text? x = some s) (hoptional : v.optionalText? x = some (some s)) :
      v.Presents x (.text s)
  | list {x : δ} {xs : List δ} {ds : List Data} (hxs : v.items? x = some xs)
      (h : List.Forall₂ v.Presents xs ds) : v.Presents x (.list ds)
  | record {x : δ} {pairs : List (String × δ)} {members : List (String × Data)}
      (hpairs : ∀ known, v.members? known x = some pairs) (hnames : pairs.map (·.1) = members.map (·.1))
      (h : List.Forall₂ v.Presents (pairs.map (·.2)) (members.map (·.2))) : v.Presents x (.record members)

/-- Plain data denotes itself. -/
theorem Data.presents_self : ∀ d : Data, Data.view.Presents d d
  | .null => .null rfl
  | .boolean b => .boolean _ b
  | .number numeral => .number _ numeral
  | .text _ => .text rfl rfl
  | .list items => .list rfl (List.forall₂_same.mpr fun d _ => presents_self d)
  | .record members => .record (fun _ => rfl) rfl (List.forall₂_same.mpr fun d hd => by
      obtain ⟨member, _, rfl⟩ := List.mem_map.mp hd
      exact presents_self member.2)
termination_by d => d
decreasing_by
  · have hsize := List.sizeOf_lt_of_mem ‹d ∈ items›
    simp only [Data.list.sizeOf_spec]
    omega
  · have hsize := List.sizeOf_lt_of_mem ‹member ∈ members›
    obtain ⟨name, d⟩ := member
    simp only [Data.record.sizeOf_spec, Prod.mk.sizeOf_spec] at hsize ⊢
    omega

/-- Plain data whose records are written with the names of their members. -/
def Data.namedView : View Data where
  text? := Data.view.text?
  optionalText? := Data.view.optionalText?
  items? := Data.view.items?
  members? _
    | .record pairs => some pairs
    | _ => none
  choice? := Data.view.choice?

end AbiProbe
