/-
Configurations that are given in part. A reader takes each field from the member
of its name and from nothing else (`takesApart`), so every field that is given is
read as it is given, and every other one is the default, in the patch settings as
in the configuration around them. Validation comes after that, so a misuse is
reported of well-typed documents only.
-/
import AbiProbe.Config.Given
import AbiProbe.Proofs.SchemaReading

namespace AbiProbe

variable {δ : Type}

namespace SinkKind

theorem ofExactName?_eq_some_iff {s : String} {kind : SinkKind} : ofExactName? s = some kind ↔ s = kind.name := by
  constructor
  · intro h
    rw [ofExactName?, List.lookup_cons, List.lookup_cons, List.lookup_nil] at h
    split at h
    next hflat =>
      obtain rfl := Option.some.inj h
      exact eq_of_beq hflat
    next =>
      split at h
      next hembedded =>
        obtain rfl := Option.some.inj h
        exact eq_of_beq hembedded
      next => cases h
  · rintro rfl
    cases kind <;> rfl

theorem readFrom_eq_ok_iff {v : View δ} {d : δ} {kind : SinkKind} :
    readFrom v d = .ok kind ↔ v.choice? d = some kind.name := by
  unfold readFrom View.choice
  cases v.choice? d with
  | none => simp [bind, Except.bind]
  | some s =>
    rw [Option.some.injEq, ← ofExactName?_eq_some_iff]
    cases hkind : ofExactName? s with
    | none => simp [bind, Except.bind, throw, throwThe, MonadExceptOf.throw, hkind]
    | some found => simp [bind, Except.bind, pure, Except.pure, hkind]

theorem refuses : Refuses (.choice [flat.name, embedded.name]) readFrom where
  fits {δ v x kind} hread hmisfits := by
    rw [readFrom_eq_ok_iff] at hread
    cases hmisfits with
    | choice hnone => exact hnone kind.name (by cases kind <;> simp) hread

end SinkKind

/-! ## What fits a schema gives its fields -/

section

variable {α : Type} {v : View δ} {means : δ → α → Prop}

/-- In a record that fits its schema, the name of each member is given a value or
none, if a value of the member's shape means one. -/
theorem exists_gives {members : Schema.Members} {d : δ} {pairs : List (String × δ)}
    (hfits : ¬ Schema.Misfits v (.record members) d) (hpairs : v.members? (members.map (·.1)) d = some pairs)
    (i : Nat) {name : String} {s : Schema} {absent : Option Data} (hi : members[i]? = some (name, s, absent))
    (hmeans : ∀ e, ¬ s.Misfits v e → ∃ a, means e a) : ∃ given, Gives pairs name given means := by
  have hname : (name, s, absent) ∈ members := List.mem_of_getElem? hi
  match hvalues : valuesOf name pairs with
  | [] => exact ⟨none, .leftOut hvalues rfl⟩
  | [e] =>
    have hmem : (name, e) ∈ pairs := mem_valuesOf.mp (by rw [hvalues]; exact List.mem_singleton_self e)
    obtain ⟨a, ha⟩ := hmeans e fun hmisfits => hfits (.member hpairs hname hmem hmisfits)
    exact ⟨some a, .given hvalues ⟨a, rfl, ha⟩⟩
  | e :: e' :: rest =>
    have hlength : 1 < (valuesOf name pairs).length := by simp [hvalues]
    exact absurd (.repeated hpairs (List.mem_map_of_mem hname) hlength) hfits

theorem exists_forall₂ {es : List δ} (h : ∀ e ∈ es, ∃ a, means e a) : ∃ as, List.Forall₂ means es as := by
  induction es with
  | nil => exact ⟨[], .nil⟩
  | cons e es ih =>
    obtain ⟨ha, hrest⟩ := List.forall_mem_cons.mp h
    obtain ⟨a, ha⟩ := ha
    obtain ⟨as, has⟩ := ih hrest
    exact ⟨a :: as, .cons ha has⟩

theorem exists_text {e : δ} (hfits : ¬ Schema.Misfits v .text e) : ∃ s, v.text? e = some s :=
  Option.ne_none_iff_exists'.mp fun hnone => hfits (.text hnone)

theorem exists_optionalText {e : δ} (hfits : ¬ Schema.Misfits v .optionalText e) : ∃ s, v.optionalText? e = some s :=
  Option.ne_none_iff_exists'.mp fun hnone => hfits (.optionalText hnone)

theorem exists_texts {e : δ} (hfits : ¬ Schema.Misfits v (.list .text) e) :
    ∃ texts, ∃ items, v.items? e = some items ∧ List.Forall₂ (fun item s => v.text? item = some s) items texts := by
  obtain ⟨items, hitems⟩ := Option.ne_none_iff_exists'.mp fun hnone => hfits (.list hnone)
  obtain ⟨texts, htexts⟩ := exists_forall₂ fun item hitem =>
    exists_text fun hmisfits => hfits (.item hitems hitem hmisfits)
  exact ⟨texts, items, hitems, htexts⟩

theorem exists_sinkKind {e : δ}
    (hfits : ¬ Schema.Misfits v (.choice [SinkKind.flat.name, SinkKind.embedded.name]) e) :
    ∃ kind : SinkKind, v.choice? e = some kind.name := by
  by_contra hnone
  rw [not_exists] at hnone
  refine hfits (.choice ?_)
  simp only [List.forall_mem_cons]
  exact ⟨hnone .flat, hnone .embedded, nofun⟩

end

namespace PatchConfig

def slots : List (MemberSlot PatchConfig) :=
  [.optional "target" .optionalText .null default.target View.optionalText (·.target),
    .optional "begin_marker" .text (.text default.beginMarker) default.beginMarker View.text (·.beginMarker),
    .optional "end_marker" .text (.text default.endMarker) default.endMarker View.text (·.endMarker),
    .optional "indent" .text (.text default.indent) default.indent View.text (·.indent)]

theorem takesApart : TakesApart slots readFrom := by
  intro δ v x p
  unfold readFrom
  refine takesApart_iff (rfl : memberNames = _) fun pairs hlength => ?_
  obtain ⟨target, beginMarker, endMarker, indent⟩ := p
  simp (disch := decide) [bind_eq_ok_iff, optional_eq_ok_iff hlength, slots,
    MemberSlot.optional, pure, Except.pure]

theorem refuses : Refuses schema readFrom := by
  refine .record takesApart ?_
  simp only [slots, List.forall_mem_cons]
  exact ⟨.optional .optionalText, .optional .text, .optional .text, .optional .text, nofun⟩

theorem Given.StandsIn.readFrom {g : Given} {v : View δ} {d : δ} {pairs : List (String × δ)}
    (hpairs : v.members? memberNames d = some pairs) (h : g.StandsIn v pairs) :
    PatchConfig.readFrom v d = .ok g.filled := by
  refine (takesApart v d _).mpr ⟨pairs, hpairs, ?_⟩
  simp only [slots, List.forall_mem_cons]
  exact ⟨h.target.told fun _ _ => View.optionalText_eq_ok_iff.mpr,
    h.beginMarker.told fun _ _ => View.text_eq_ok_iff.mpr, h.endMarker.told fun _ _ => View.text_eq_ok_iff.mpr,
    h.indent.told fun _ _ => View.text_eq_ok_iff.mpr, nofun⟩

theorem exists_given {v : View δ} {d : δ} (hfits : ¬ schema.Misfits v d) :
    ∃ g : Given, ∃ pairs, v.members? memberNames d = some pairs ∧ g.StandsIn v pairs := by
  obtain ⟨pairs, hpairs⟩ := Option.ne_none_iff_exists'.mp fun hnone => hfits (.record hnone)
  obtain ⟨target, htarget⟩ := exists_gives hfits hpairs 0 rfl fun _ => exists_optionalText
  obtain ⟨beginMarker, hbegin⟩ := exists_gives hfits hpairs 1 rfl fun _ => exists_text
  obtain ⟨endMarker, hend⟩ := exists_gives hfits hpairs 2 rfl fun _ => exists_text
  obtain ⟨indent, hindent⟩ := exists_gives hfits hpairs 3 rfl fun _ => exists_text
  exact ⟨⟨target, beginMarker, endMarker, indent⟩, pairs, hpairs, htarget, hbegin, hend, hindent⟩

end PatchConfig

namespace Config

def slots : List (MemberSlot Config) :=
  [.optional "prefix" .text (.text default.root) default.root View.text (·.root),
    .optional "compiler" .optionalText .null default.compiler View.optionalText (·.compiler),
    .optional "compiler_env" .text (.text default.compilerVariable) default.compilerVariable View.text
      (·.compilerVariable),
    .optional "extra_cflags" (.list .text) (.list []) default.extraFlags (fun v => v.list v.text) (·.extraFlags),
    .optional "work_dir" .optionalText .null default.workDir View.optionalText (·.workDir),
    .optional "sink" (.choice [SinkKind.flat.name, SinkKind.embedded.name]) (.text default.sink.name) default.sink
      SinkKind.readFrom (·.sink),
    .optional "flat_output" .text (.text default.flatOutput) default.flatOutput View.text (·.flatOutput),
    .optional "patch" PatchConfig.schema (.record []) default.patch PatchConfig.readFrom (·.patch)]

theorem takesApart : TakesApart slots readFrom := by
  intro δ v x c
  unfold readFrom
  refine takesApart_iff (rfl : memberNames = _) fun pairs hlength => ?_
  obtain ⟨root, compiler, compilerVariable, extraFlags, workDir, sink, flatOutput, patch⟩ := c
  simp (disch := decide) [bind_eq_ok_iff, optional_eq_ok_iff hlength, slots,
    MemberSlot.optional, pure, Except.pure]

theorem refuses : Refuses schema readFrom := by
  refine .record takesApart ?_
  simp only [slots, List.forall_mem_cons]
  exact ⟨.optional .text, .optional .optionalText, .optional .text, .optional (.list .text), .optional .optionalText,
    .optional SinkKind.refuses, .optional .text, .optional PatchConfig.refuses, nofun⟩

theorem Given.StandsIn.readFrom {g : Given} {v : View δ} {d : δ} {pairs : List (String × δ)}
    (hpairs : v.members? memberNames d = some pairs) (h : g.StandsIn v pairs) :
    Config.readFrom v d = .ok g.filled := by
  have hpatch : Gives pairs "patch" (g.patch.map PatchConfig.Given.filled)
      fun d p => PatchConfig.readFrom v d = .ok p := by
    refine h.patch.imp ?_ fun hnone => by rw [hnone, Option.map_none]
    rintro d ⟨patch, hgiven, settings, hsettings, hstands⟩
    exact ⟨patch.filled, by rw [hgiven, Option.map_some], hstands.readFrom hsettings⟩
  have hflags (d : δ) (flags : List String) (hd : ∃ items, v.items? d = some items ∧
      List.Forall₂ (fun item s => v.text? item = some s) items flags) : v.list v.text d = .ok flags := by
    obtain ⟨items, hitems, htexts⟩ := hd
    exact list_eq_ok_iff.mpr ⟨items, hitems, htexts.imp fun _ _ => View.text_eq_ok_iff.mpr⟩
  refine (takesApart v d _).mpr ⟨pairs, hpairs, ?_⟩
  simp only [slots, List.forall_mem_cons]
  exact ⟨h.root.told fun _ _ => View.text_eq_ok_iff.mpr, h.compiler.told fun _ _ => View.optionalText_eq_ok_iff.mpr,
    h.compilerVariable.told fun _ _ => View.text_eq_ok_iff.mpr, h.extraFlags.told hflags,
    h.workDir.told fun _ _ => View.optionalText_eq_ok_iff.mpr, h.sink.told fun _ _ => SinkKind.readFrom_eq_ok_iff.mpr,
    h.flatOutput.told fun _ _ => View.text_eq_ok_iff.mpr, hpatch.told fun _ _ => id, nofun⟩

/-- A mapping that fits the schema gives some of the fields. -/
theorem exists_given {v : View δ} {d : δ} {pairs : List (String × δ)} (hfits : ¬ schema.Misfits v d)
    (hpairs : v.members? memberNames d = some pairs) : ∃ g : Given, g.StandsIn v pairs := by
  obtain ⟨root, hroot⟩ := exists_gives hfits hpairs 0 rfl fun _ => exists_text
  obtain ⟨compiler, hcompiler⟩ := exists_gives hfits hpairs 1 rfl fun _ => exists_optionalText
  obtain ⟨compilerVariable, hvariable⟩ := exists_gives hfits hpairs 2 rfl fun _ => exists_text
  obtain ⟨extraFlags, hflags⟩ := exists_gives hfits hpairs 3 rfl fun _ => exists_texts
  obtain ⟨workDir, hdir⟩ := exists_gives hfits hpairs 4 rfl fun _ => exists_optionalText
  obtain ⟨sink, hsink⟩ := exists_gives hfits hpairs 5 rfl fun _ => exists_sinkKind
  obtain ⟨flatOutput, houtput⟩ := exists_gives hfits hpairs 6 rfl fun _ => exists_text
  obtain ⟨patch, hpatch⟩ := exists_gives hfits hpairs 7 rfl fun _ => PatchConfig.exists_given
  exact ⟨⟨root, compiler, compilerVariable, extraFlags, workDir, sink, flatOutput, patch⟩,
    hroot, hcompiler, hvariable, hflags, hdir, hsink, houtput, hpatch⟩

theorem validate_eq (c : Config) :
    c.validate =
      if c.compilerVariable = "" then .error (.config .emptyCompilerVariable)
      else if c.patch.beginMarker = "" ∨ c.patch.endMarker = "" then .error (.config .emptyMarker)
      else .ok () := by
  simp only [validate, String.isEmpty_iff, Bool.or_eq_true]

/-- **What is given is read, and defaults fill the rest.** Wherever in a mapping
the given fields stand, among whichever members with other names, the
configuration has them and the default of each other field; patch settings that
are given in part keep the other defaults of a patch. It is the result exactly if
the variable and both markers are not empty; an empty variable is reported before
an empty marker. Any other mapping departs from the schema, since a known name is
repeated or a value has another type, at either level; then it is not read,
whatever validation would make of the rest. -/
theorem given_over_defaults {text : String} {doc : Yaml.Document} {pairs : List (String × Yaml.Node)}
    (hdoc : Yaml.read text = .ok doc) (hpairs : doc.members? doc.root = some pairs) :
    (∀ g : Given, g.StandsIn doc.view pairs →
      readFrom doc.view doc.root = .ok g.filled ∧
      (ofYaml text = .ok g.filled ↔
        g.filled.compilerVariable ≠ "" ∧ g.filled.patch.beginMarker ≠ "" ∧ g.filled.patch.endMarker ≠ "") ∧
      (g.filled.compilerVariable = "" → ofYaml text = .error (.config .emptyCompilerVariable)) ∧
      (g.filled.compilerVariable ≠ "" → g.filled.patch.beginMarker = "" ∨ g.filled.patch.endMarker = "" →
        ofYaml text = .error (.config .emptyMarker))) ∧
    ((∃ g : Given, g.StandsIn doc.view pairs) ∨ schema.Misfits doc.view doc.root) ∧
    (schema.Misfits doc.view doc.root → ∃ m : Misfit, ofYaml text = .error (.yaml m.text)) := by
  refine ⟨fun g hg => ?_, ?_, fun hmisfits => ?_⟩
  · have hread : readFrom doc.view doc.root = .ok g.filled := hg.readFrom hpairs
    have hyaml : ofYaml text = g.filled.validate.map fun _ => g.filled := checked_of_read hdoc hread
    rw [hyaml, validate_eq]
    refine ⟨hread, ?_⟩
    by_cases hvariable : g.filled.compilerVariable = ""
    · simp [hvariable, Except.map]
    · by_cases hmarker : g.filled.patch.beginMarker = "" ∨ g.filled.patch.endMarker = "" <;>
        simp [hvariable, hmarker, Except.map, ← not_or]
  · rw [or_iff_not_imp_right]
    exact fun hfits => exists_given hfits hpairs
  · exact unread_of_misfits refuses hdoc hmisfits

/-- A sink and one patch setting are given, between other members; and a sink of
an unknown kind stands beside an empty variable. -/
theorem given_over_defaults_sink :
    ofYaml "x: 1\npatch:\n  y: 1\n  indent: z\nsink: embedded\n" =
      .ok { default with sink := .embedded, patch := { PatchConfig.default with indent := "z" } } ∧
    ∃ m : Misfit, ofYaml "compiler_env: ''\nsink: x\n" = .error (.yaml m.text) := by
  constructor
  · have htokens : (Yaml.tokens "x: 1\npatch:\n  y: 1\n  indent: z\nsink: embedded\n").toOption =
        some [.blockMappingStart, .key, .scalar "x" true, .value, .scalar "1" true,
          .key, .scalar "patch" true, .value, .blockMappingStart, .key, .scalar "y" true, .value, .scalar "1" true,
          .key, .scalar "indent" true, .value, .scalar "z" true, .blockEnd,
          .key, .scalar "sink" true, .value, .scalar "embedded" true, .blockEnd, .streamEnd] := by
      decide +kernel
    have hdoc : Yaml.read "x: 1\npatch:\n  y: 1\n  indent: z\nsink: embedded\n" =
        .ok ⟨.mapping none [(.scalar none "x" true, .scalar none "1" true),
          (.scalar none "patch" true, .mapping none [(.scalar none "y" true, .scalar none "1" true),
            (.scalar none "indent" true, .scalar none "z" true)]),
          (.scalar none "sink" true, .scalar none "embedded" true)], []⟩ :=
      Yaml.read_eq_ok htokens rfl
    let g : Given := ⟨none, none, none, none, none, some .embedded, none, some ⟨none, none, none, some "z"⟩⟩
    obtain ⟨-, hok, -⟩ := (given_over_defaults hdoc rfl).1 g
      ⟨.leftOut rfl rfl, .leftOut rfl rfl, .leftOut rfl rfl, .leftOut rfl rfl, .leftOut rfl rfl,
        .given rfl ⟨_, rfl, rfl⟩, .leftOut rfl rfl, .given rfl ⟨_, rfl, _, rfl,
          .leftOut rfl rfl, .leftOut rfl rfl, .leftOut rfl rfl, .given rfl ⟨_, rfl, rfl⟩⟩⟩
    exact hok.mpr (by decide)
  · have htokens : (Yaml.tokens "compiler_env: ''\nsink: x\n").toOption =
        some [.blockMappingStart, .key, .scalar "compiler_env" true, .value, .scalar "" false,
          .key, .scalar "sink" true, .value, .scalar "x" true, .blockEnd, .streamEnd] := by
      decide +kernel
    have hdoc : Yaml.read "compiler_env: ''\nsink: x\n" =
        .ok ⟨.mapping none [(.scalar none "compiler_env" true, .scalar none "" false),
          (.scalar none "sink" true, .scalar none "x" true)], []⟩ :=
      Yaml.read_eq_ok htokens rfl
    refine (given_over_defaults hdoc rfl).2.2 (.member rfl (.tail _ (.tail _ (.tail _ (.tail _ (.tail _ (.head _))))))
      (.tail _ (.head _)) (.choice ?_))
    decide

end Config

end AbiProbe
