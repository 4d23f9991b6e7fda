/-
Readers that follow a schema. What such a reader gets from data it also gets
from data edited as the schema allows, and from every value of any format that
denotes the data (`Carries`); and it gets nothing from a value that departs from
the schema (`Refuses`). A list passes both on from its items, and a record from
its members, each of which is looked at by itself (`MemberSlot`).
-/
import AbiProbe.Data.Schema
import AbiProbe.Error
import AbiProbe.Yaml.View
import Mathlib.Data.List.Nodup

namespace AbiProbe

variable {α β : Type}

/-! ## Edits and what they leave told -/

theorem valuesOf_append_cons {δ : Type} (name : String) (before after : List (String × δ)) (p : String × δ) :
    valuesOf name (before ++ p :: after) =
      if p.1 = name then valuesOf name before ++ p.2 :: valuesOf name after
      else valuesOf name (before ++ after) := by
  rw [valuesOf_append, valuesOf_cons]
  split
  · rfl
  · rw [valuesOf_append]

theorem perm_valuesOf {δ : Type} {pairs pairs' : List (String × δ)} (h : pairs.Perm pairs') (name : String) :
    (valuesOf name pairs).Perm (valuesOf name pairs') :=
  (h.filter _).map _

theorem forall₂_valuesOf {δ ε : Type} {R : δ → ε → Prop} {pairs : List (String × δ)} {pairs' : List (String × ε)}
    (hnames : pairs.map (·.1) = pairs'.map (·.1)) (hvalues : List.Forall₂ R (pairs.map (·.2)) (pairs'.map (·.2)))
    (name : String) : List.Forall₂ R (valuesOf name pairs) (valuesOf name pairs') := by
  induction pairs generalizing pairs' with
  | nil =>
    obtain rfl : pairs' = [] := by simpa using hnames
    exact .nil
  | cons p pairs ih =>
    obtain ⟨p', pairs', rfl⟩ : ∃ p' rest, pairs' = p' :: rest := by
      cases pairs' with
      | nil => simp at hnames
      | cons p' rest => exact ⟨p', rest, rfl⟩
    simp only [List.map_cons, List.cons.injEq, List.forall₂_cons] at hnames hvalues
    rw [valuesOf_cons, valuesOf_cons, hnames.1]
    split
    · exact .cons hvalues.1 (ih hnames.2 hvalues.2)
    · exact ih hnames.2 hvalues.2

namespace Told

open Schema

variable {members : Members} {name : String} {s : Schema} {absent : Option Data} {P : Data → Prop} {left : Prop}
  {pairs pairs' : List (String × Data)}

/-- Only the values of a name matter. -/
theorem congr (hvalues : valuesOf name pairs = valuesOf name pairs') (h : Told pairs name P left) :
    Told pairs' name P left := by
  cases h with
  | given hvalue hd => exact .given (hvalues ▸ hvalue) hd
  | leftOut hnone hleft => exact .leftOut (hvalues ▸ hnone) hleft

/-- A value that stands among those of a name is the only one, and `P` accepts
it. -/
theorem alone {A B : List Data} {d : Data} (hvalues : valuesOf name pairs = A ++ d :: B)
    (h : Told pairs name P left) : P d ∧ A = [] ∧ B = [] := by
  cases h with
  | given hvalue hd =>
    obtain ⟨rfl, rfl, rfl⟩ : A = [] ∧ d = _ ∧ B = [] := by
      simpa [List.append_eq_singleton_iff] using hvalues.symm.trans hvalue
    exact ⟨hd, rfl, rfl⟩
  | leftOut hnone hleft => simp [hnone] at hvalues

/-- An edit of a record changes nothing for a member, if it changes nothing in
its value and if the member can be left out where its absence says the same. -/
theorem edit (hnodup : (members.map (·.1)).Nodup) (hname : (name, s, absent) ∈ members)
    (hP : ∀ d d', Edit s d d' → P d → P d') (hleft : ∀ d, absent = some d → P d → left)
    (he : Edit (.record members) (.record pairs) (.record pairs')) (h : Told pairs name P left) :
    Told pairs' name P left := by
  have hsame {s' : Schema} {absent' : Option Data} (hmem : (name, s', absent') ∈ members) :
      s = s' ∧ absent = absent' := by
    simpa using List.inj_on_of_nodup_map hnodup hname hmem rfl
  cases he with
  | reorder hperm =>
    have hvalues := perm_valuesOf hperm name
    cases h with
    | given hvalue hd => exact .given (List.singleton_perm.mp (hvalue ▸ hvalues)).symm hd
    | leftOut hnone hleft => exact .leftOut (List.nil_perm.mp (hnone ▸ hvalues)) hleft
  | @add _ before after other d hunknown =>
    have hne : other ≠ name := fun heq => hunknown (heq ▸ List.mem_map_of_mem hname)
    exact h.congr (by rw [valuesOf_append_cons, if_neg hne])
  | @drop _ before after other s' d hdrop =>
    by_cases heq : other = name
    · subst heq
      obtain ⟨-, habsent⟩ := hsame hdrop
      obtain ⟨hd, hbefore, hafter⟩ := h.alone (by rw [valuesOf_append_cons, if_pos rfl])
      exact .leftOut (by rw [valuesOf_append, hbefore, hafter, List.append_nil]) (hleft d habsent hd)
    · exact h.congr (by rw [valuesOf_append_cons, if_neg heq])
  | @member _ before after other s' absent' d d' hmember he =>
    by_cases heq : other = name
    · subst heq
      obtain ⟨rfl, -⟩ := hsame hmember
      obtain ⟨hd, hbefore, hafter⟩ := h.alone (by rw [valuesOf_append_cons, if_pos rfl])
      refine .given (d := d') ?_ (hP d d' he hd)
      rw [valuesOf_append_cons, if_pos rfl, hbefore, hafter, List.nil_append]
    · exact h.congr (by rw [valuesOf_append_cons, valuesOf_append_cons, if_neg heq, if_neg heq])

/-- A member of a record is told in the same way of what denotes the record. -/
theorem present {δ : Type} {v : View δ} {found : List (String × δ)} {Q : δ → Prop}
    (hnames : found.map (·.1) = pairs.map (·.1))
    (hvalues : List.Forall₂ v.Presents (found.map (·.2)) (pairs.map (·.2)))
    (hP : ∀ x d, v.Presents x d → P d → Q x) (h : Told pairs name P left) : Told found name Q left := by
  have hfound := forall₂_valuesOf hnames hvalues name
  cases h with
  | given hvalue hd =>
    rw [hvalue] at hfound
    obtain ⟨x, hx, hvalue'⟩ : ∃ x, v.Presents x _ ∧ valuesOf name found = [x] := by
      simpa [List.forall₂_cons_right_iff, and_comm] using hfound
    exact .given hvalue' (hP x _ hx hd)
  | leftOut hnone hleft =>
    rw [hnone, List.forall₂_nil_right_iff] at hfound
    exact .leftOut hfound hleft

end Told

/-! ## Readers -/

/-- A reader of values of any format. -/
abbrev Reader (α : Type) : Type 1 := ∀ {δ : Type}, View δ → δ → Except Misfit α

/-- A reader gets the same from edited data, and from all that denotes data. -/
structure Carries (s : Schema) (read : Reader α) : Prop where
  edited : ∀ {d d' : Data} {a : α}, Schema.Edit s d d' → read Data.namedView d = .ok a →
    read Data.namedView d' = .ok a
  presented : ∀ {δ : Type} {v : View δ} {x : δ} {d : Data} {a : α}, v.Presents x d →
    read Data.namedView d = .ok a → read v x = .ok a

/-- A reader gets nothing from what departs from a schema. -/
structure Refuses (s : Schema) (read : Reader α) : Prop where
  fits : ∀ {δ : Type} {v : View δ} {x : δ} {a : α}, read v x = .ok a → ¬ Schema.Misfits v s x

theorem Refuses.error {s : Schema} {read : Reader α} (h : Refuses s read) {δ : Type} {v : View δ} {x : δ}
    (hmisfits : s.Misfits v x) : ∃ m, read v x = .error m := by
  cases hread : read v x with
  | error m => exact ⟨m, rfl⟩
  | ok a => exact absurd hmisfits (h.fits hread)

theorem View.text_eq_ok_iff {δ : Type} {v : View δ} {x : δ} {s : String} : v.text x = .ok s ↔ v.text? x = some s := by
  rw [View.text]
  cases v.text? x <;> simp

theorem View.optionalText_eq_ok_iff {δ : Type} {v : View δ} {x : δ} {s : Option String} :
    v.optionalText x = .ok s ↔ v.optionalText? x = some s := by
  rw [View.optionalText]
  cases v.optionalText? x <;> simp

theorem Carries.text : Carries .text View.text where
  edited he := by cases he
  presented hx h := by
    rw [View.text_eq_ok_iff] at h ⊢
    cases hx <;> simp_all [Data.namedView, Data.view]

theorem Carries.optionalText : Carries .optionalText View.optionalText where
  edited he := by cases he
  presented hx h := by
    rw [View.optionalText_eq_ok_iff] at h ⊢
    cases hx <;> simp_all [Data.namedView, Data.view]

/-! ## Lists -/

theorem mapM_eq_ok_iff {δ ε : Type} {f : δ → Except ε α} {ds : List δ} {as : List α} :
    ds.mapM f = .ok as ↔ List.Forall₂ (fun d a => f d = .ok a) ds as := by
  induction ds generalizing as with
  | nil => simp [pure, Except.pure, eq_comm]
  | cons d ds ih =>
    rw [List.mapM_cons, bind_eq_ok_iff, List.forall₂_cons_left_iff]
    simp only [bind_eq_ok_iff, ih, pure, Except.pure, Except.ok.injEq]
    constructor
    · rintro ⟨a, ha, as, has, rfl⟩
      exact ⟨a, as, ha, has, rfl⟩
    · rintro ⟨a, as, ha, has, rfl⟩
      exact ⟨a, ha, as, has, rfl⟩

theorem list_eq_ok_iff {δ : Type} {v : View δ} {read : δ → Except Misfit α} {x : δ} {as : List α} :
    v.list read x = .ok as ↔ ∃ xs, v.items? x = some xs ∧ List.Forall₂ (fun x a => read x = .ok a) xs as := by
  rw [View.list]
  cases v.items? x <;> simp [mapM_eq_ok_iff]

theorem forall₂_trans {γ : Type} {R : α → β → Prop} {S : β → γ → Prop} {T : α → γ → Prop}
    (h : ∀ a b c, R a b → S b c → T a c) {as : List α} {bs : List β} {cs : List γ}
    (hR : List.Forall₂ R as bs) (hS : List.Forall₂ S bs cs) : List.Forall₂ T as cs := by
  induction hR generalizing cs with
  | nil =>
    cases hS
    exact .nil
  | cons hr _ ih =>
    cases hS with
    | cons hs hrest => exact .cons (h _ _ _ hr hs) (ih hrest)

theorem exists_of_forall₂ {R : α → β → Prop} {as : List α} {bs : List β} (h : List.Forall₂ R as bs) {a : α}
    (ha : a ∈ as) : ∃ b, R a b := by
  induction h with
  | nil => cases ha
  | cons hr _ ih =>
    rcases List.mem_cons.mp ha with rfl | ha
    · exact ⟨_, hr⟩
    · exact ih ha

theorem Carries.list {s : Schema} {read : Reader α} (h : Carries s read) :
    Carries (.list s) (fun v => v.list (read v)) where
  edited he hread := by
    cases he with
    | @item _ before after d d' he =>
      obtain ⟨items, hitems, has⟩ := list_eq_ok_iff.mp hread
      obtain rfl : before ++ d :: after = items := Option.some.inj hitems
      -- Item by item, the new list has the old item or its edited form.
      have hitems' : List.Forall₂ (fun e' e => Schema.Edit s e e' ∨ e' = e) (before ++ d' :: after)
          (before ++ d :: after) :=
        List.rel_append (List.forall₂_same.mpr fun _ _ => .inr rfl)
          (.cons (.inl he) (List.forall₂_same.mpr fun _ _ => .inr rfl))
      refine list_eq_ok_iff.mpr ⟨_, rfl, forall₂_trans ?_ hitems' has⟩
      rintro e' e a (he | rfl) ha
      · exact h.edited he ha
      · exact ha
  presented {δ v x d as} hx hread := by
    obtain ⟨items, hitems, has⟩ := list_eq_ok_iff.mp hread
    cases hx with
    | list hxs hpresents =>
      obtain rfl := Option.some.inj hitems
      refine list_eq_ok_iff.mpr ⟨_, hxs, forall₂_trans ?_ hpresents has⟩
      exact fun y e a => h.presented
    | null | boolean | number | text | record => simp [Data.namedView, Data.view] at hitems

theorem Refuses.text : Refuses .text View.text where
  fits h hmisfits := by
    rw [View.text_eq_ok_iff] at h
    cases hmisfits with
    | text hnone => simp [h] at hnone

theorem Refuses.optionalText : Refuses .optionalText View.optionalText where
  fits h hmisfits := by
    rw [View.optionalText_eq_ok_iff] at h
    cases hmisfits with
    | optionalText hnone => simp [h] at hnone

theorem Refuses.list {s : Schema} {read : Reader α} (h : Refuses s read) :
    Refuses (.list s) (fun v => v.list (read v)) where
  fits hread hmisfits := by
    obtain ⟨items, hitems, has⟩ := list_eq_ok_iff.mp hread
    cases hmisfits with
    | list hnone => simp [hitems] at hnone
    | item hitems' he hmisfits =>
      obtain rfl := Option.some.inj (hitems.symm.trans hitems')
      obtain ⟨a, ha⟩ := exists_of_forall₂ has he
      exact h.fits ha hmisfits

/-! ## Records -/

/-- One member of a record as a reader sees it: what its value has to say for the
reader to get `a`, and which `a` it may get without it. -/
structure MemberSlot (α : Type) where
  name : String
  schema : Schema
  absent : Option Data
  tells : ∀ {δ : Type}, View δ → δ → α → Prop
  leaves : α → Prop

namespace MemberSlot

/-- A member that has to be there, and the part of `a` that is read from it. -/
def required (name : String) (schema : Schema) (read : Reader β) (part : α → β) : MemberSlot α :=
  ⟨name, schema, none, fun v x a => read v x = .ok (part a), fun _ => False⟩

/-- A member that may be left out, which then stands for `absent`, read as
`default`. -/
def optional (name : String) (schema : Schema) (absent : Data) (default : β) (read : Reader β) (part : α → β) :
    MemberSlot α :=
  ⟨name, schema, some absent, fun v x a => read v x = .ok (part a), fun a => default = part a⟩

/-- The member in a schema. -/
def member (slot : MemberSlot α) : String × Schema × Option Data := (slot.name, slot.schema, slot.absent)

structure Carries (slot : MemberSlot α) : Prop where
  edited : ∀ {d d' : Data} {a : α}, Schema.Edit slot.schema d d' → slot.tells Data.namedView d a →
    slot.tells Data.namedView d' a
  presented : ∀ {δ : Type} {v : View δ} {x : δ} {d : Data} {a : α}, v.Presents x d →
    slot.tells Data.namedView d a → slot.tells v x a
  absent : ∀ {d : Data} {a : α}, slot.absent = some d → slot.tells Data.namedView d a → slot.leaves a

structure Refuses (slot : MemberSlot α) : Prop where
  fits : ∀ {δ : Type} {v : View δ} {x : δ} {a : α}, slot.tells v x a → ¬ Schema.Misfits v slot.schema x
  needed : ∀ {a : α}, slot.absent = none → ¬ slot.leaves a

variable {name : String} {s : Schema} {read : Reader β} {part : α → β} {absent : Data} {default : β}

theorem Carries.required (h : AbiProbe.Carries s read) : (MemberSlot.required name s read part).Carries where
  edited := h.edited
  presented := h.presented
  absent hnone := by cases hnone

theorem Carries.optional (h : AbiProbe.Carries s read) (habsent : read Data.namedView absent = .ok default) :
    (MemberSlot.optional name s absent default read part).Carries where
  edited := h.edited
  presented := h.presented
  absent hsome hread := by
    cases hsome
    exact Except.ok.inj (habsent.symm.trans hread)

theorem Refuses.required (h : AbiProbe.Refuses s read) : (MemberSlot.required name s read part).Refuses where
  fits := h.fits
  needed _ hleaves := hleaves

theorem Refuses.optional (h : AbiProbe.Refuses s read) :
    (MemberSlot.optional name s absent default read part).Refuses where
  fits := h.fits
  needed hnone := by cases hnone

end MemberSlot

/-- A reader takes records apart into members. -/
def TakesApart (slots : List (MemberSlot α)) (read : Reader α) : Prop :=
  ∀ {δ : Type} (v : View δ) (x : δ) (a : α), read v x = .ok a ↔
    ∃ pairs, v.members? (slots.map (·.name)) x = some pairs ∧
      ∀ slot ∈ slots, Told pairs slot.name (slot.tells v · a) (slot.leaves a)

/-- A reader takes a record apart if it goes on, where no name is repeated, to
what the members say. -/
theorem takesApart_iff {slots : List (MemberSlot α)} {known : List String} (hknown : known = slots.map (·.name))
    {δ : Type} {v : View δ} {x : δ} {a : α} {k : List (String × δ) → Except Misfit α}
    (hk : ∀ pairs : List (String × δ), (∀ name ∈ known, (valuesOf name pairs).length ≤ 1) →
      (k (knownMembers known pairs) = .ok a ↔
        ∀ slot ∈ slots, Told pairs slot.name (slot.tells v · a) (slot.leaves a))) :
    (v.members known x >>= k) = .ok a ↔
      ∃ pairs, v.members? (slots.map (·.name)) x = some pairs ∧
        ∀ slot ∈ slots, Told pairs slot.name (slot.tells v · a) (slot.leaves a) := by
  subst hknown
  rw [View.members_bind_eq_ok_iff]
  refine exists_congr fun pairs => and_congr_right fun _ => ?_
  have hlength (h : ∀ slot ∈ slots, Told pairs slot.name (slot.tells v · a) (slot.leaves a)) :
      ∀ name ∈ slots.map (·.name), (valuesOf name pairs).length ≤ 1 :=
    List.forall_mem_map.mpr fun slot hslot => (h slot hslot).length_le
  exact ⟨fun h => (hk pairs h.1).mp h.2, fun h => ⟨hlength h, (hk pairs (hlength h)).mpr h⟩⟩

section

variable {slots : List (MemberSlot α)} {read : Reader α}

theorem Carries.record (hread : TakesApart slots read) (hnodup : (slots.map (·.name)).Nodup)
    (h : ∀ slot ∈ slots, slot.Carries) : Carries (.record (slots.map MemberSlot.member)) read where
  edited {d d' a} he hok := by
    obtain ⟨pairs, hpairs, htold⟩ := (hread _ _ _).mp hok
    obtain ⟨pairs', rfl⟩ : ∃ pairs', d' = .record pairs' := by
      cases he <;> exact ⟨_, rfl⟩
    obtain rfl : d = .record pairs := by
      cases he <;> exact congrArg Data.record (Option.some.inj hpairs)
    refine (hread _ _ _).mpr ⟨pairs', rfl, fun slot hslot => ?_⟩
    have hnames : ((slots.map MemberSlot.member).map (·.1)).Nodup := by rwa [List.map_map]
    refine (htold slot hslot).edit hnames (List.mem_map_of_mem hslot) ?_ ?_ he
    · exact fun e e' => (h slot hslot).edited
    · exact fun e => (h slot hslot).absent
  presented {δ v x d a} hx hok := by
    obtain ⟨pairs, hpairs, htold⟩ := (hread _ _ _).mp hok
    cases hx with
    | @record _ found members hfound hnames hvalues =>
      obtain rfl : members = pairs := Option.some.inj hpairs
      refine (hread _ _ _).mpr ⟨found, hfound _, fun slot hslot => ?_⟩
      exact (htold slot hslot).present hnames hvalues fun y e => (h slot hslot).presented
    | null | boolean | number | text | list => cases hpairs

theorem Refuses.record (hread : TakesApart slots read) (h : ∀ slot ∈ slots, slot.Refuses) :
    Refuses (.record (slots.map MemberSlot.member)) read where
  fits {δ v x a} hok hmisfits := by
    obtain ⟨pairs, hpairs, htold⟩ := (hread v x a).mp hok
    have hnames : (slots.map MemberSlot.member).map (·.1) = slots.map (·.name) := List.map_map
    cases hmisfits with
    | record hnone => simp [hnames, hpairs] at hnone
    | repeated hpairs' hname hlength =>
      rw [hnames] at hpairs' hname
      obtain rfl := Option.some.inj (hpairs.symm.trans hpairs')
      obtain ⟨slot, hslot, rfl⟩ := List.mem_map.mp hname
      exact Nat.not_le_of_lt hlength (htold slot hslot).length_le
    | missing hpairs' hname hmissing =>
      rw [hnames] at hpairs'
      obtain rfl := Option.some.inj (hpairs.symm.trans hpairs')
      obtain ⟨slot, hslot, heq⟩ := List.mem_map.mp hname
      obtain ⟨rfl, -, habsent⟩ : slot.name = _ ∧ slot.schema = _ ∧ slot.absent = none := by
        simpa [MemberSlot.member] using heq
      have hleaves := (Told.iff_of_nil (valuesOf_eq_nil_iff.mpr hmissing)).mp (htold slot hslot)
      exact (h slot hslot).needed habsent hleaves
    | member hpairs' hname he hmisfits =>
      rw [hnames] at hpairs'
      obtain rfl := Option.some.inj (hpairs.symm.trans hpairs')
      obtain ⟨slot, hslot, heq⟩ := List.mem_map.mp hname
      obtain ⟨rfl, rfl, -⟩ : slot.name = _ ∧ slot.schema = _ ∧ slot.absent = _ := by
        simpa [MemberSlot.member] using heq
      exact (h slot hslot).fits ((htold slot hslot).of_mem he) hmisfits

end

/-! ## Documents -/

section

variable {read : Reader α} {check : α → Except Error Unit} {text : String} {doc : Yaml.Document}

/-- What is read from a document is checked, and is the result if nothing is
reported. -/
theorem checked_of_read {a : α} (hdoc : Yaml.read text = .ok doc) (hread : read doc.view doc.root = .ok a) :
    (do
      let doc ← (Yaml.read text).mapError Error.yaml
      let a ← (read doc.view doc.root).mapError fun m : Misfit => Error.yaml m.text
      check a
      return a) = (check a).map fun _ => a := by
  rw [hdoc]
  change ((read doc.view doc.root).mapError _ >>= _) = _
  rw [hread]
  change (check a >>= fun _ => pure a) = _
  cases check a <;> rfl

theorem unread_of_misfits {s : Schema} (h : Refuses s read) (hdoc : Yaml.read text = .ok doc)
    (hmisfits : s.Misfits doc.view doc.root) :
    ∃ m : Misfit, (do
      let doc ← (Yaml.read text).mapError Error.yaml
      let a ← (read doc.view doc.root).mapError fun m : Misfit => Error.yaml m.text
      check a
      return a) = .error (.yaml m.text) := by
  obtain ⟨m, hread⟩ := h.error hmisfits
  refine ⟨m, ?_⟩
  rw [hdoc]
  change ((read doc.view doc.root).mapError _ >>= _) = _
  rw [hread]
  rfl

end

end AbiProbe
