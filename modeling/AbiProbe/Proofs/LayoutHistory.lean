/-
A struct that is asked to analyse output after output knows the layout of the
last one that told any, or nothing at all (`requests_layout`). One request does
this: an output that is accepted is the last one from then on, and any other
changes nothing (`Knows.request`). The numbers of a layout come back in the
facts unchanged, in whatever form they are published (`integers_slotEntries`).
-/
import AbiProbe.Proofs.LayoutReading
import Mathlib.Data.List.Induction

namespace AbiProbe

open Text

namespace StructProbe

/-! ## Facts -/

theorem length_fieldEntries (p : StructProbe) (f : FieldDecl) (slot : Slot) :
    (p.fieldEntries f slot).length = 2 + if f.tag.isSome then 1 else 0 := by
  unfold fieldEntries
  cases f.tag <;> rfl

/-- The integers among the facts of a field are its offset and its size; its
type is a text. -/
theorem integers_fieldEntries (p : StructProbe) (f : FieldDecl) (slot : Slot) :
    (p.fieldEntries f slot).filterMap (·.value.integer?) = [(slot.offset : Int), (slot.size : Int)] := by
  unfold fieldEntries
  cases f.tag <;> simp

theorem length_slotEntries (p : StructProbe) {fields : List FieldDecl} {slots : List Slot}
    (h : slots.length = fields.length) :
    ((fields.zip slots).flatMap fun (f, slot) => p.fieldEntries f slot).length =
      2 * fields.length + fields.countP (·.tag.isSome) := by
  induction fields generalizing slots with
  | nil => rfl
  | cons f fields ih =>
    cases slots with
    | nil => cases h
    | cons slot slots =>
      have hrest := ih (Nat.succ.inj h)
      rw [List.zip_cons_cons, List.flatMap_cons, List.length_append, hrest, length_fieldEntries,
        List.length_cons, List.countP_cons]
      omega

theorem integers_slotEntries (p : StructProbe) {fields : List FieldDecl} {slots : List Slot}
    (h : slots.length = fields.length) :
    ((fields.zip slots).flatMap fun (f, slot) => p.fieldEntries f slot).filterMap (·.value.integer?) =
      slots.flatMap fun slot => [(slot.offset : Int), (slot.size : Int)] := by
  induction fields generalizing slots with
  | nil =>
    rw [List.length_eq_zero_iff.mp h]
    rfl
  | cons f fields ih =>
    cases slots with
    | nil => cases h
    | cons slot slots =>
      rw [List.zip_cons_cons, List.flatMap_cons, List.filterMap_append, integers_fieldEntries,
        ih (Nat.succ.inj h), List.flatMap_cons]

/-! ## Requests -/

/-- What a struct is after some outputs: as it was declared if none of them
was accepted, and else what the last one made of it that was. -/
inductive Knows (start : StructProbe) : List String → StructProbe → Prop where
  | nothing {outputs : List String} (fail : ∀ o ∈ outputs, ∃ err, start.analyse o = (.error err, start)) :
      Knows start outputs start
  | last {before later : List String} {output : String} {p : StructProbe}
      (told : (start.requests before).analyse output = (.ok (), p))
      (fail : ∀ o ∈ later, ∃ err, p.analyse o = (.error err, p)) : Knows start (before ++ output :: later) p

variable {start p : StructProbe} {outputs : List String}

theorem requests_concat (start : StructProbe) (outputs : List String) (output : String) :
    start.requests (outputs ++ [output]) = (start.requests outputs).request output :=
  List.foldl_append ..

theorem Knows.request (h : Knows start outputs (start.requests outputs)) (output : String) :
    Knows start (outputs ++ [output]) ((start.requests outputs).request output) := by
  unfold StructProbe.request
  rcases (start.requests outputs).analyse_cases output with ⟨layout, -, hok⟩ | ⟨k, reason, -, herr⟩
  · rw [hok]
    exact .last hok fun o ho => absurd ho List.not_mem_nil
  · rw [herr]
    generalize start.requests outputs = p at h herr
    cases h with
    | nothing fail =>
      exact .nothing (List.forall_mem_append.mpr ⟨fail, List.forall_mem_singleton.mpr ⟨_, herr⟩⟩)
    | last told fail =>
      rw [List.append_assoc, List.cons_append]
      exact .last told (List.forall_mem_append.mpr ⟨fail, List.forall_mem_singleton.mpr ⟨_, herr⟩⟩)

theorem requests_knows (start : StructProbe) (outputs : List String) :
    Knows start outputs (start.requests outputs) := by
  induction outputs using List.reverseRecOn with
  | nil => exact .nothing fun o ho => absurd ho List.not_mem_nil
  | append_singleton outputs output ih =>
    rw [requests_concat]
    exact ih.request output

/-- No output changes what was declared. -/
theorem requests_keeps (start : StructProbe) (outputs : List String) :
    (start.requests outputs).name = start.name ∧ (start.requests outputs).declared = start.declared := by
  induction outputs using List.reverseRecOn with
  | nil => exact ⟨rfl, rfl⟩
  | append_singleton outputs output ih =>
    obtain ⟨hname, hfields⟩ := @analyse_keeps (start.requests outputs) _ output _ rfl
    rw [requests_concat, StructProbe.request]
    exact ⟨hname.trans ih.1, hfields.trans ih.2⟩

/-- **A struct knows the layout that was told last, or nothing.** Whatever
outputs a struct is asked to analyse, one after the other: if none of them is
accepted, neither its size nor any number of a field is known, and there are
no facts. Otherwise one was accepted last, and the struct has the numbers of
the layout that its lines tell, all of them: the size, and for every field an
offset and a size inside it. The facts are then the size and, field by field,
the offset, the size and the type if one is declared, and the integers among
them are those of the layout. -/
theorem requests_layout (d : StructDecl) (outputs : List String) :
    let p := (ofDecl d).requests outputs
    ((∀ o ∈ outputs, ∃ err, (ofDecl d).analyse o = (.error err, p)) ∧
      p.size = none ∧ p.fields = d.fields.map (fun f => ⟨f, none, none⟩) ∧ p.entries = []) ∨
    ∃ before output later layout, outputs = before ++ output :: later ∧
      ((ofDecl d).requests before).analyse output = (.ok (), p) ∧
      (∀ o ∈ later, ∃ err, p.analyse o = (.error err, p)) ∧
      (ofDecl d).TellsLayout (lines output.toList) layout ∧
      p.size = some layout.size ∧ layout.slots.length = d.fields.length ∧
      p.fields = List.zipWith (fun f slot => ⟨f, some slot.offset, some slot.size⟩) d.fields layout.slots ∧
      (∀ slot ∈ layout.slots, slot.offset + slot.size ≤ layout.size) ∧
      p.entries = ⟨d.name ++ ".sizeof", .ofInt layout.size⟩ ::
        (d.fields.zip layout.slots).flatMap (fun (f, slot) =>
          [⟨d.name ++ "." ++ f.name ++ ".offset", .ofInt slot.offset⟩,
            ⟨d.name ++ "." ++ f.name ++ ".size", .ofInt slot.size⟩] ++
          (f.tag.map fun tag => (⟨d.name ++ "." ++ f.name ++ ".type", .text tag⟩ : Entry)).toList) ∧
      p.entries.length = 1 + 2 * d.fields.length + d.fields.countP (·.tag.isSome) ∧
      p.entries.filterMap (·.value.integer?) =
        (layout.size : Int) :: layout.slots.flatMap fun slot => [(slot.offset : Int), (slot.size : Int)] := by
  intro p
  have hknows : Knows (ofDecl d) outputs p := requests_knows (ofDecl d) outputs
  clear_value p
  cases hknows with
  | nothing fail => exact .inl ⟨fail, rfl, rfl, rfl⟩
  | @last before later output _ told fail =>
    obtain ⟨hname, hfields⟩ := requests_keeps (ofDecl d) before
    obtain ⟨layout, htells, hp⟩ := analyse_eq_ok_iff.mp told
    have hcount := length_of_tellsLayout htells
    have hpname : p.name = d.name := hp ▸ hname
    have hdeclared : p.declared = d.fields := by
      rw [hp, declared_withLayout hcount, hfields, declared_ofDecl]
    have htold : (ofDecl d).TellsLayout (lines output.toList) layout :=
      (tellsLayout_congr hname hfields).mp htells
    have ⟨_, _, _, _, hslots⟩ := htold
    rw [declared_ofDecl] at hslots
    have hlength := hslots.length_eq
    have hentries : p.entries = ⟨d.name ++ ".sizeof", .ofInt layout.size⟩ ::
        (d.fields.zip layout.slots).flatMap fun (f, slot) => (ofDecl d).fieldEntries f slot := by
      rw [entries_of_layout? (hp ▸ layout?_withLayout hcount), hdeclared]
      simp only [fieldEntries, hpname, ofDecl]
    refine .inr ⟨before, output, later, layout, rfl, told, fail, htold, by rw [hp]; rfl, hlength, ?_,
      hslots.inside, hentries, ?_, ?_⟩
    · rw [← declared_ofDecl d, ← hfields, declared, List.zipWith_map_left, hp]
      rfl
    · rw [hentries, List.length_cons, length_slotEntries _ hlength]
      omega
    · rw [hentries, List.filterMap_cons, Value.integer?_ofInt, integers_slotEntries _ hlength]

end StructProbe

end AbiProbe
