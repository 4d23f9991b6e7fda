/-
Catalogs as data. What a catalog writes is read as that catalog again, and so is
all that edits make of it which its schema allows: members that hold a default
are left out, unknown ones put in, all of them reordered, in every record
(`reads_what_it_writes`). The same holds of each document that denotes such
data, if the catalog is valid; and none of it is read where a record lacks a
required member.
-/
import AbiProbe.Catalog.Reading
import AbiProbe.Proofs.SchemaReading
import AbiProbe.Proofs.ValidCatalog

namespace AbiProbe

/-! ## The schema of a catalog, record by record -/

namespace FieldDecl

def schema : Schema := .record [("name", .text, none), ("type", .optionalText, some .null)]

def slots : List (MemberSlot FieldDecl) :=
  [.required "name" .text View.text (·.name),
    .optional "type" .optionalText .null none View.optionalText (·.tag)]

theorem takesApart : TakesApart slots readFrom := by
  intro δ v x f
  unfold readFrom
  refine takesApart_iff (rfl : memberNames = _) fun pairs hlength => ?_
  obtain ⟨name, tag⟩ := f
  simp (disch := decide) [bind_eq_ok_iff, required_eq_ok_iff hlength, optional_eq_ok_iff hlength, slots,
    MemberSlot.required, MemberSlot.optional, pure, Except.pure]

theorem carries : Carries schema readFrom := by
  refine .record takesApart (by decide) ?_
  simp only [slots, List.forall_mem_cons]
  exact ⟨.required .text, .optional .optionalText rfl, nofun⟩

theorem refuses : Refuses schema readFrom := by
  refine .record takesApart ?_
  simp only [slots, List.forall_mem_cons]
  exact ⟨.required .text, .optional .optionalText, nofun⟩

end FieldDecl

namespace StructDecl

def schema : Schema :=
  .record [("name", .text, none), ("includes", .list .text, some (.list [])),
    ("fields", .list FieldDecl.schema, none)]

def slots : List (MemberSlot StructDecl) :=
  [.required "name" .text View.text (·.name),
    .optional "includes" (.list .text) (.list []) [] (fun v => v.list v.text) (·.includes),
    .required "fields" (.list FieldDecl.schema) (fun v => v.list (FieldDecl.readFrom v)) (·.fields)]

theorem takesApart : TakesApart slots readFrom := by
  intro δ v x d
  unfold readFrom
  refine takesApart_iff (rfl : memberNames = _) fun pairs hlength => ?_
  obtain ⟨name, includes, fields⟩ := d
  simp (disch := decide) [bind_eq_ok_iff, required_eq_ok_iff hlength, optional_eq_ok_iff hlength, slots,
    MemberSlot.required, MemberSlot.optional, pure, Except.pure]

theorem carries : Carries schema readFrom := by
  refine .record takesApart (by decide) ?_
  simp only [slots, List.forall_mem_cons]
  exact ⟨.required .text, .optional (.list .text) rfl,
    .required (.list FieldDecl.carries), nofun⟩

theorem refuses : Refuses schema readFrom := by
  refine .record takesApart ?_
  simp only [slots, List.forall_mem_cons]
  exact ⟨.required .text, .optional (.list .text),
    .required (.list FieldDecl.refuses), nofun⟩

end StructDecl

namespace ConstantBatch

def schema : Schema :=
  .record [("names", .list .text, none), ("format", .text, some (.text defaultFormat)),
    ("cast", .text, some (.text defaultCast))]

def slots : List (MemberSlot ConstantBatch) :=
  [.required "names" (.list .text) (fun v => v.list v.text) (·.names),
    .optional "format" .text (.text defaultFormat) defaultFormat View.text (·.format),
    .optional "cast" .text (.text defaultCast) defaultCast View.text (·.cast)]

theorem takesApart : TakesApart slots readFrom := by
  intro δ v x b
  unfold readFrom
  refine takesApart_iff (rfl : memberNames = _) fun pairs hlength => ?_
  obtain ⟨names, format, cast⟩ := b
  simp (disch := decide) [bind_eq_ok_iff, required_eq_ok_iff hlength, optional_eq_ok_iff hlength, slots,
    MemberSlot.required, MemberSlot.optional, pure, Except.pure]

theorem carries : Carries schema readFrom := by
  refine .record takesApart (by decide) ?_
  simp only [slots, List.forall_mem_cons]
  exact ⟨.required (.list .text), .optional .text rfl, .optional .text rfl, nofun⟩

theorem refuses : Refuses schema readFrom := by
  refine .record takesApart ?_
  simp only [slots, List.forall_mem_cons]
  exact ⟨.required (.list .text), .optional .text, .optional .text, nofun⟩

end ConstantBatch

namespace GroupDecl

def schema : Schema :=
  .record [("name", .text, none), ("includes", .list .text, some (.list [])),
    ("batches", .list ConstantBatch.schema, none)]

def slots : List (MemberSlot GroupDecl) :=
  [.required "name" .text View.text (·.name),
    .optional "includes" (.list .text) (.list []) [] (fun v => v.list v.text) (·.includes),
    .required "batches" (.list ConstantBatch.schema) (fun v => v.list (ConstantBatch.readFrom v)) (·.batches)]

theorem takesApart : TakesApart slots readFrom := by
  intro δ v x d
  unfold readFrom
  refine takesApart_iff (rfl : memberNames = _) fun pairs hlength => ?_
  obtain ⟨name, includes, batches⟩ := d
  simp (disch := decide) [bind_eq_ok_iff, required_eq_ok_iff hlength, optional_eq_ok_iff hlength, slots,
    MemberSlot.required, MemberSlot.optional, pure, Except.pure]

theorem carries : Carries schema readFrom := by
  refine .record takesApart (by decide) ?_
  simp only [slots, List.forall_mem_cons]
  exact ⟨.required .text, .optional (.list .text) rfl, .required (.list ConstantBatch.carries), nofun⟩

theorem refuses : Refuses schema readFrom := by
  refine .record takesApart ?_
  simp only [slots, List.forall_mem_cons]
  exact ⟨.required .text, .optional (.list .text), .required (.list ConstantBatch.refuses), nofun⟩

end GroupDecl

namespace Catalog

def schema : Schema :=
  .record [("structs", .list StructDecl.schema, some (.list [])),
    ("constant_groups", .list GroupDecl.schema, some (.list [])),
    ("typedef_headers", .list .text, some (.list []))]

def slots : List (MemberSlot Catalog) :=
  [.optional "structs" (.list StructDecl.schema) (.list []) [] (fun v => v.list (StructDecl.readFrom v)) (·.structs),
    .optional "constant_groups" (.list GroupDecl.schema) (.list []) [] (fun v => v.list (GroupDecl.readFrom v))
      (·.groups),
    .optional "typedef_headers" (.list .text) (.list []) [] (fun v => v.list v.text) (·.typedefHeaders)]

theorem takesApart : TakesApart slots readFrom := by
  intro δ v x c
  unfold readFrom
  refine takesApart_iff (rfl : memberNames = _) fun pairs hlength => ?_
  obtain ⟨structs, groups, typedefHeaders⟩ := c
  simp (disch := decide) [bind_eq_ok_iff, optional_eq_ok_iff hlength, slots,
    MemberSlot.optional, pure, Except.pure]

theorem carries : Carries schema readFrom := by
  refine .record takesApart (by decide) ?_
  simp only [slots, List.forall_mem_cons]
  exact ⟨.optional (.list StructDecl.carries) rfl, .optional (.list GroupDecl.carries) rfl,
    .optional (.list .text) rfl, nofun⟩

theorem refuses : Refuses schema readFrom := by
  refine .record takesApart ?_
  simp only [slots, List.forall_mem_cons]
  exact ⟨.optional (.list StructDecl.refuses), .optional (.list GroupDecl.refuses), .optional (.list .text), nofun⟩

end Catalog

/-! ## What is written -/

theorem list_toData {α : Type} {toData : α → Data} {read : Data → Except Misfit α}
    (h : ∀ a, read (toData a) = .ok a) (as : List α) :
    Data.namedView.list read (.list (as.map toData)) = .ok as :=
  list_eq_ok_iff.mpr ⟨_, rfl, List.forall₂_map_left_iff.mpr (List.forall₂_same.mpr fun a _ => h a)⟩

theorem list_texts (names : List String) :
    Data.namedView.list Data.namedView.text (.list (names.map Data.text)) = .ok names := by
  have htext (s : String) : Data.namedView.text (Data.text s) = .ok s := rfl
  exact list_toData htext names

theorem FieldDecl.readFrom_toData (f : FieldDecl) : readFrom Data.namedView f.toData = .ok f := by
  obtain ⟨name, tag⟩ := f
  cases tag <;> rfl

theorem StructDecl.readFrom_toData (d : StructDecl) : readFrom Data.namedView d.toData = .ok d := by
  refine (takesApart _ _ _).mpr ⟨_, rfl, ?_⟩
  simp only [slots, List.forall_mem_cons]
  exact ⟨.given rfl rfl, .given rfl (list_texts d.includes),
    .given rfl (list_toData FieldDecl.readFrom_toData d.fields), nofun⟩

theorem ConstantBatch.readFrom_toData (b : ConstantBatch) : readFrom Data.namedView b.toData = .ok b := by
  refine (takesApart _ _ _).mpr ⟨_, rfl, ?_⟩
  simp only [slots, List.forall_mem_cons]
  exact ⟨.given rfl (list_texts b.names), .given rfl rfl, .given rfl rfl, nofun⟩

theorem GroupDecl.readFrom_toData (d : GroupDecl) : readFrom Data.namedView d.toData = .ok d := by
  refine (takesApart _ _ _).mpr ⟨_, rfl, ?_⟩
  simp only [slots, List.forall_mem_cons]
  exact ⟨.given rfl rfl, .given rfl (list_texts d.includes),
    .given rfl (list_toData ConstantBatch.readFrom_toData d.batches), nofun⟩

theorem Catalog.readFrom_toData (c : Catalog) : readFrom Data.namedView c.toData = .ok c := by
  refine (takesApart _ _ _).mpr ⟨_, rfl, ?_⟩
  simp only [slots, List.forall_mem_cons]
  exact ⟨.given rfl (list_toData StructDecl.readFrom_toData c.structs),
    .given rfl (list_toData GroupDecl.readFrom_toData c.groups), .given rfl (list_texts c.typedefHeaders), nofun⟩

/-! ## What is read -/

namespace Catalog

/-- Data that comes by edits from what a catalog writes is read as that
catalog. -/
theorem readFrom_of_edits {c : Catalog} {d : Data} (h : Relation.ReflTransGen schema.Edit c.toData d) :
    readFrom Data.namedView d = .ok c := by
  induction h with
  | refl => exact c.readFrom_toData
  | tail _ he ih => exact carries.edited he ih

/-- **A catalog is read from what it writes**, also after any edits of that data
that the schema allows, at any depth: members in another order, unknown ones put
in, and those left out that hold the default. A document that denotes such data
gives the catalog if it is valid, and else the misuse that its validation
reports. What departs from the schema, such as a record without a required
member, is not read in any format. -/
theorem reads_what_it_writes (c : Catalog) :
    (∀ d, Relation.ReflTransGen schema.Edit c.toData d →
      readFrom Data.view d = .ok c ∧
      ∀ text doc, Yaml.read text = .ok doc → doc.view.Presents doc.root d →
        (c.validate = .ok () → ofYaml text = .ok c) ∧
        ∀ e, c.validate = .error e → ofYaml text = .error e ∧ ∃ m, e = .config m) ∧
    (∀ d, schema.Misfits Data.view d → ∃ m, readFrom Data.view d = .error m) ∧
    ∀ text doc, Yaml.read text = .ok doc → schema.Misfits doc.view doc.root →
      ∃ m : Misfit, ofYaml text = .error (.yaml m.text) := by
  refine ⟨fun d hd => ⟨?_, fun text doc hdoc hpresents => ?_⟩, fun d => refuses.error,
    fun text doc hdoc hmisfits => ?_⟩
  · exact carries.presented d.presents_self (readFrom_of_edits hd)
  · have hyaml : ofYaml text = c.validate.map fun _ => c :=
      checked_of_read hdoc (carries.presented hpresents (readFrom_of_edits hd))
    refine ⟨fun hvalid => ?_, fun e hinvalid => ⟨?_, c.reportsMisuse_validate e hinvalid⟩⟩
    · rw [hyaml, hvalid]; rfl
    · rw [hyaml, hinvalid]; rfl
  · exact unread_of_misfits refuses hdoc hmisfits

open Relation in
/-- A document leaves out all defaults of a catalog, has a member with an unknown
name and gives a name last; another one lacks the fields of a struct. -/
theorem reads_what_it_writes_minimal :
    ofYaml "structs:\n- fields:\n  - note: 1\n    name: a\n  name: s\n" = .ok ⟨[⟨"s", [], [⟨"a", none⟩]⟩], [], []⟩ ∧
    ∃ m : Misfit, ofYaml "structs:\n- name: s\n" = .error (.yaml m.text) := by
  obtain ⟨hread, -, hmisfits⟩ := reads_what_it_writes ⟨[⟨"s", [], [⟨"a", none⟩]⟩], [], []⟩
  constructor
  · have hfield : ReflTransGen FieldDecl.schema.Edit (FieldDecl.toData ⟨"a", none⟩)
        (.record [("note", .text "1"), ("name", .text "a")]) :=
      .tail (.single (.drop [_] [] (.tail _ (.head _)))) (.add [] [_] (.text "1") (by decide))
    have hstruct : ReflTransGen StructDecl.schema.Edit (StructDecl.toData ⟨"s", [], [⟨"a", none⟩]⟩)
        (.record [("fields", .list [.record [("note", .text "1"), ("name", .text "a")]]), ("name", .text "s")]) := by
      have hfields := Schema.edits_item [] [] hfield
      have hmember : ReflTransGen StructDecl.schema.Edit _ _ :=
        Schema.edits_member [("name", .text "s"), ("includes", .list [])] [] (.tail _ (.tail _ (.head _))) hfields
      exact (hmember.tail (.drop [_] [_] (.tail _ (.head _)))).tail (.reorder (.swap _ _ _))
    have hcatalog : ReflTransGen schema.Edit (toData ⟨[⟨"s", [], [⟨"a", none⟩]⟩], [], []⟩)
        (.record [("structs", .list [.record [("fields", .list [.record [("note", .text "1"), ("name", .text "a")]]),
          ("name", .text "s")]])]) := by
      have hstructs := Schema.edits_item [] [] hstruct
      have hmember : ReflTransGen schema.Edit _ _ :=
        Schema.edits_member [] [("constant_groups", .list []), ("typedef_headers", .list [])] (.head _) hstructs
      exact (hmember.tail (.drop [_] [_] (.tail _ (.head _)))).tail (.drop [_] [] (.tail _ (.tail _ (.head _))))
    have htokens : (Yaml.tokens "structs:\n- fields:\n  - note: 1\n    name: a\n  name: s\n").toOption =
        some [.blockMappingStart, .key, .scalar "structs" true, .value, .blockEntry,
          .blockMappingStart, .key, .scalar "fields" true, .value, .blockEntry,
          .blockMappingStart, .key, .scalar "note" true, .value, .scalar "1" true,
          .key, .scalar "name" true, .value, .scalar "a" true, .blockEnd,
          .key, .scalar "name" true, .value, .scalar "s" true, .blockEnd, .blockEnd, .streamEnd] := by
      decide +kernel
    have hdoc : Yaml.read "structs:\n- fields:\n  - note: 1\n    name: a\n  name: s\n" =
        .ok ⟨.mapping none [(.scalar none "structs" true, .sequence none [.mapping none
          [(.scalar none "fields" true, .sequence none [.mapping none
            [(.scalar none "note" true, .scalar none "1" true), (.scalar none "name" true, .scalar none "a" true)]]),
          (.scalar none "name" true, .scalar none "s" true)]])], []⟩ :=
      Yaml.read_eq_ok htokens rfl
    refine ((hread _ hcatalog).2 _ _ hdoc ?_).1 (by decide +kernel)
    refine .record (fun _ => rfl) rfl (.cons (.list rfl (.cons ?_ .nil)) .nil)
    refine .record (fun _ => rfl) rfl (.cons (.list rfl (.cons ?_ .nil)) (.cons (.text rfl rfl) .nil))
    exact .record (fun _ => rfl) rfl (.cons (.text rfl rfl) (.cons (.text rfl rfl) .nil))
  · have htokens : (Yaml.tokens "structs:\n- name: s\n").toOption =
        some [.blockMappingStart, .key, .scalar "structs" true, .value, .blockEntry,
          .blockMappingStart, .key, .scalar "name" true, .value, .scalar "s" true,
          .blockEnd, .blockEnd, .streamEnd] := by
      decide +kernel
    have hdoc : Yaml.read "structs:\n- name: s\n" = .ok ⟨.mapping none [(.scalar none "structs" true,
        .sequence none [.mapping none [(.scalar none "name" true, .scalar none "s" true)]])], []⟩ :=
      Yaml.read_eq_ok htokens rfl
    refine hmisfits _ _ hdoc (.member rfl (.head _) (.head _) (.item rfl (.head _) ?_))
    exact .missing rfl (.tail _ (.tail _ (.head _))) (by decide)

end Catalog

end AbiProbe
