/-
Keys are distinct over a whole run (`keys_distinct`). Every key begins with the
name of a struct or of a group, or with `typedef`, and then comes a dot; none
of these names holds one, so keys of different probes differ (`Keyed.append`).
Within a probe keys differ because fields do, or because a table has a key
once (`StructProbe.keyed_entries`, `ConstantProbe.keyed_entries`,
`TypedefProbe.keyed_entries`).

What is registered in a run is what its state has recorded (`Records`). That
covers the trace of a watched run into any sink, and the entries of the sink
in memory.
-/
import AbiProbe.Proofs.LayoutReading
import AbiProbe.Proofs.SinkAgreement
import AbiProbe.Proofs.ValidCatalog
import AbiProbe.Run.Trace

namespace AbiProbe

/-! ## Keys under a scope -/

/-- The part of a key before its first dot. -/
def keyScope (key : String) : List Char := key.toList.takeWhile (· != '.')

theorem keyScope_append {scope : String} (h : '.' ∉ scope.toList) (rest : String) :
    keyScope (scope ++ "." ++ rest) = scope.toList := by
  have hall : ∀ c ∈ scope.toList, (c != '.') = true := by
    intro c hc
    rw [bne_iff_ne]
    rintro rfl
    exact h hc
  simp only [keyScope, String.toList_append, List.append_assoc]
  rw [List.takeWhile_append_of_pos hall]
  simp

theorem append_dot_injective (scope : String) : Function.Injective fun rest => scope ++ "." ++ rest :=
  fun _ _ h => (String.append_right_inj _).mp h

/-- Keys that are distinct, each under one of some scopes. -/
structure Keyed (scopes keys : List String) : Prop where
  inScope : ∀ k ∈ keys, ∃ s ∈ scopes, keyScope k = s.toList
  nodup : keys.Nodup

namespace Keyed

variable {scope : String} {scopes keys keys' : List String}

theorem nil : Keyed scopes [] := ⟨by simp, .nil⟩

theorem sublist (h : Keyed scopes keys) (hs : keys'.Sublist keys) : Keyed scopes keys' :=
  ⟨fun k hk => h.inScope k (hs.subset hk), h.nodup.sublist hs⟩

/-- Distinct texts after a scope and its dot. -/
theorem under (hscope : '.' ∉ scope.toList) (h : keys.Nodup) :
    Keyed [scope] (keys.map fun rest => scope ++ "." ++ rest) where
  inScope k hk := by
    obtain ⟨rest, -, rfl⟩ := List.mem_map.mp hk
    exact ⟨scope, List.mem_singleton_self scope, keyScope_append hscope rest⟩
  nodup := h.map (append_dot_injective scope)

/-- Keys under different scopes are different. -/
theorem append (h : Keyed [scope] keys) (h' : Keyed scopes keys') (hnew : scope ∉ scopes) :
    Keyed (scope :: scopes) (keys ++ keys') where
  inScope k hk := by
    rcases List.mem_append.mp hk with hk | hk
    · obtain ⟨s, hs, hscope⟩ := h.inScope k hk
      exact ⟨s, List.mem_cons.mpr (.inl (List.mem_singleton.mp hs)), hscope⟩
    · obtain ⟨s, hs, hscope⟩ := h'.inScope k hk
      exact ⟨s, List.mem_cons_of_mem scope hs, hscope⟩
  nodup := by
    refine List.nodup_append.mpr ⟨h.nodup, h'.nodup, fun k hk k' hk' he => ?_⟩
    subst he
    obtain ⟨s, hs, hscope⟩ := h.inScope k hk
    obtain ⟨s', hs', hscope'⟩ := h'.inScope k hk'
    obtain rfl := List.mem_singleton.mp hs
    obtain rfl := String.toList_inj.mp (hscope.symm.trans hscope')
    exact hnew hs'

end Keyed

/-! ## The keys of a struct -/

namespace StructProbe

/-- What the keys of a field have after the name of its struct. -/
def fieldKeys (f : FieldDecl) : List String :=
  [f.name ++ ".offset", f.name ++ ".size"] ++ (f.tag.map fun _ => f.name ++ ".type").toList

theorem fieldKeys_sublist (f : FieldDecl) :
    (fieldKeys f).Sublist [f.name ++ ".offset", f.name ++ ".size", f.name ++ ".type"] := by
  unfold fieldKeys
  cases f.tag <;> simp

theorem keyed_fieldKeys {f : FieldDecl} (h : '.' ∉ f.name.toList) : Keyed [f.name] (fieldKeys f) := by
  have hall : Keyed [f.name] (["offset", "size", "type"].map fun rest => f.name ++ "." ++ rest) :=
    .under h (by decide)
  have hwords : (["offset", "size", "type"].map fun rest => f.name ++ "." ++ rest) =
      [f.name ++ ".offset", f.name ++ ".size", f.name ++ ".type"] := by
    simp only [List.map_cons, List.map_nil, String.append_assoc]
    rfl
  exact (hwords ▸ hall).sublist (fieldKeys_sublist f)

theorem dot_mem_of_mem_fieldKeys {f : FieldDecl} {k : String} (h : k ∈ fieldKeys f) : '.' ∈ k.toList := by
  have hk := (fieldKeys_sublist f).subset h
  simp only [List.mem_cons, List.not_mem_nil, or_false] at hk
  rcases hk with rfl | rfl | rfl <;> simp

theorem keyed_fields {fields : List FieldDecl} (hnodup : (fields.map (·.name)).Nodup)
    (hdot : ∀ f ∈ fields, '.' ∉ f.name.toList) :
    Keyed (fields.map (·.name)) (fields.flatMap fieldKeys) := by
  induction fields with
  | nil => exact .nil
  | cons f fields ih =>
    rw [List.map_cons, List.nodup_cons] at hnodup
    have hrest := ih hnodup.2 fun g hg => hdot g (List.mem_cons_of_mem f hg)
    rw [List.flatMap_cons, List.map_cons]
    exact (keyed_fieldKeys (hdot f List.mem_cons_self)).append hrest hnodup.1

theorem map_key_fieldEntries (p : StructProbe) (f : FieldDecl) (slot : Slot) :
    (p.fieldEntries f slot).map (·.key) = (fieldKeys f).map fun rest => p.name ++ "." ++ rest := by
  unfold fieldEntries fieldKeys
  cases f.tag <;> simp [String.append_assoc]

theorem map_key_entries {p : StructProbe} {size : Nat} (h : p.size = some size) :
    p.entries.map (·.key) = ("sizeof" :: (p.placed.map (·.1)).flatMap fieldKeys).map
      fun rest => p.name ++ "." ++ rest := by
  simp only [entries, h, List.map_cons, List.map_flatMap, List.flatMap_map, map_key_fieldEntries,
    String.append_assoc]
  rfl

/-- Of the declared fields some are placed, in the same order. -/
theorem map_placed_sublist (p : StructProbe) : (p.placed.map (·.1)).Sublist p.declared := by
  unfold placed declared
  induction p.fields with
  | nil => exact .slnil
  | cons f fields ih =>
    rw [List.filterMap_cons, List.map_cons]
    cases f.slot? with
    | none => exact ih.cons _
    | some slot => exact ih.cons_cons _

/-- Distinct fields have distinct keys, and none of them is that of the size. -/
theorem keyed_entries {p : StructProbe} (hname : '.' ∉ p.name.toList)
    (hnodup : (p.declared.map (·.name)).Nodup) (hdot : ∀ f ∈ p.declared, '.' ∉ f.name.toList) :
    Keyed [p.name] (p.entries.map (·.key)) := by
  cases h : p.size with
  | none =>
    rw [entries, h]
    exact .nil
  | some size =>
    have hplaced := p.map_placed_sublist
    have hkeyed := keyed_fields (hnodup.sublist (hplaced.map (·.name))) fun f hf => hdot f (hplaced.subset hf)
    rw [map_key_entries h]
    refine .under hname (List.nodup_cons.mpr ⟨fun hmem => ?_, hkeyed.nodup⟩)
    obtain ⟨f, -, hk⟩ := List.mem_flatMap.mp hmem
    exact absurd (dot_mem_of_mem_fieldKeys hk) (by decide)

end StructProbe

/-! ## The keys of a group -/

namespace ConstantProbe

theorem nodup_declare {p : ConstantProbe} (h : p.constants.keys.Nodup) (b : ConstantBatch) :
    (p.declare b).constants.keys.Nodup :=
  List.foldlRecOn (motive := fun t : Table Constant => t.keys.Nodup) b.names _ h
    fun _ ht _ _ => Table.nodup_insert ht ..

theorem ofDecl_facts (d : GroupDecl) :
    (ofDecl d).group = d.name ∧ (ofDecl d).constants.keys.Nodup :=
  List.foldlRecOn (motive := fun p : ConstantProbe => p.group = d.name ∧ p.constants.keys.Nodup)
    d.batches _ ⟨rfl, List.nodup_nil⟩ fun _ hp b _ => ⟨hp.1, nodup_declare hp.2 b⟩

theorem nodup_setValue {t : Table Constant} (h : t.keys.Nodup) (found : String × Value) :
    (setValue t found).keys.Nodup := by
  unfold setValue
  split
  · exact Table.nodup_insert h ..
  · exact h

/-- An analysis keeps the group, and a name is still declared once. -/
theorem analyse_facts {p q : ConstantProbe} {output : String} {r : Except Error Unit}
    (h : p.analyse output = (r, q)) (hnodup : p.constants.keys.Nodup) :
    q.group = p.group ∧ q.constants.keys.Nodup := by
  rw [analyse, readLines_eq] at h
  cases hread : (Text.lines output.toList).mapM p.readLine with
  | error err =>
    rw [hread] at h
    cases h
    exact ⟨rfl, hnodup⟩
  | ok found =>
    rw [hread] at h
    cases h
    exact ⟨rfl, List.foldlRecOn (motive := fun t : Table Constant => t.keys.Nodup) found _ hnodup
      fun _ ht f _ => nodup_setValue ht f⟩

theorem keyed_entries {p : ConstantProbe} (hgroup : '.' ∉ p.group.toList)
    (hnodup : p.constants.keys.Nodup) : Keyed [p.group] (p.entries.map (·.key)) := by
  refine (Keyed.under hgroup hnodup).sublist ?_
  unfold entries Table.keys
  rw [List.map_map]
  induction p.constants.toList with
  | nil => exact .slnil
  | cons c cs ih =>
    rw [List.filterMap_cons, List.map_cons]
    cases hvalue : c.2.value with
    | none => simpa [hvalue] using ih.cons _
    | some v => simpa [hvalue] using ih.cons_cons (p.group ++ "." ++ c.1)

end ConstantProbe

/-! ## The keys of typedefs -/

namespace TypedefProbe

theorem nodup_step {p : TypedefProbe} (h : p.aliases.keys.Nodup) (line : List Char) :
    (p.step line).aliases.keys.Nodup := by
  unfold step
  split
  · split
    · exact Table.nodup_insert h ..
    · exact h
  · exact h

theorem nodup_analyse {p : TypedefProbe} (h : p.aliases.keys.Nodup) (output : String) :
    (p.analyse output).aliases.keys.Nodup := by
  have hsteps : ((Text.lines output.toList).foldl step p).aliases.keys.Nodup :=
    List.foldlRecOn (motive := fun p : TypedefProbe => p.aliases.keys.Nodup) _ _ h
      fun _ hp line _ => nodup_step hp line
  exact List.foldlRecOn (motive := fun t : Table Category => t.keys.Nodup) _ _ hsteps
    fun _ ht _ _ => Table.nodup_insert ht ..

theorem keyed_entries {p : TypedefProbe} (hnodup : p.aliases.keys.Nodup) :
    Keyed ["typedef"] (p.entries.map (·.key)) := by
  refine (Keyed.under (by decide) hnodup).sublist ?_
  unfold entries Table.keys
  rw [List.map_map, List.map_map]
  exact List.filter_sublist.map _

end TypedefProbe

/-! ## The keys of a catalog -/

namespace Catalog

/-- Structs and groups have distinct names, none of which is that under which
typedefs are published, and the fields of a struct have distinct names. -/
structure Distinct (c : Catalog) : Prop where
  names : (c.structs.map (·.name) ++ c.groups.map (·.name)).Nodup
  typedef : "typedef" ∉ c.structs.map (·.name) ++ c.groups.map (·.name)
  fields : ∀ d ∈ c.structs, (d.fields.map (·.name)).Nodup

theorem distinct_builtin : builtin.Distinct where
  names := by decide +kernel
  typedef := by decide +kernel
  fields := by decide +kernel

end Catalog

/-- What the keys of a probe begin with. -/
def Probe.scope : Probe → String
  | .struct p => p.name
  | .constants p => p.group
  | .typedefs _ => "typedef"

theorem map_scope_probes (c : Catalog) (platform : Platform) :
    (c.probes platform).map Probe.scope = c.structs.map (·.name) ++ c.groups.map (·.name) ++
      if c.typedefHeaders.isEmpty then [] else ["typedef"] := by
  have hgroup : ∀ d : GroupDecl, (ConstantProbe.ofDecl d).group = d.name :=
    fun d => (ConstantProbe.ofDecl_facts d).1
  unfold Catalog.probes
  rw [List.map_append, List.map_append, List.map_map, List.map_map, apply_ite (List.map Probe.scope)]
  simp [Function.comp_def, Probe.scope, StructProbe.ofDecl, hgroup]

theorem nodup_scopes {c : Catalog} (h : c.Distinct) (platform : Platform) :
    ((c.probes platform).map Probe.scope).Nodup := by
  rw [map_scope_probes]
  refine List.nodup_append.mpr ⟨h.names, by split <;> simp, fun s hs s' hs' he => ?_⟩
  split at hs'
  · cases hs'
  · obtain rfl := List.mem_singleton.mp hs'
    exact h.typedef (he ▸ hs)

/-- The probes of a catalog, each before and after it has read an output. -/
inductive Catalog.Reads (c : Catalog) (platform : Platform) (output : String) : Probe → Probe → Prop where
  | struct {d q} : d ∈ c.structs → (StructProbe.ofDecl d).analyse output = (.ok (), q) →
      Reads c platform output (.struct (.ofDecl d)) (.struct q)
  | constants {d q} : d ∈ c.groups → (ConstantProbe.ofDecl d).analyse output = (.ok (), q) →
      Reads c platform output (.constants (.ofDecl d)) (.constants q)
  | typedefs : Reads c platform output (.typedefs (.forPlatform c.typedefHeaders platform))
      (.typedefs ((TypedefProbe.forPlatform c.typedefHeaders platform).analyse output))

theorem Catalog.reads_of_analyse {c : Catalog} {platform : Platform} {p q : Probe}
    (hp : p ∈ c.probes platform) {output : String} (hq : p.analyse output = (.ok (), q)) :
    c.Reads platform output p q := by
  rcases List.mem_append.mp hp with hp | hp
  · rcases List.mem_append.mp hp with hp | hp
    · obtain ⟨d, hd, rfl⟩ := List.mem_map.mp hp
      rcases hread : (StructProbe.ofDecl d).analyse output with ⟨r, r'⟩
      rw [Probe.analyse, hread] at hq
      cases hq
      exact .struct hd hread
    · obtain ⟨d, hd, rfl⟩ := List.mem_map.mp hp
      rcases hread : (ConstantProbe.ofDecl d).analyse output with ⟨r, r'⟩
      rw [Probe.analyse, hread] at hq
      cases hq
      exact .constants hd hread
  · split at hp
    · cases hp
    · obtain rfl := List.mem_singleton.mp hp
      cases hq
      exact .typedefs

/-- Whatever a probe of a valid catalog finds, it finds under distinct keys. -/
theorem keyed_of_analyse {c : Catalog} (hvalid : c.Valid) (h : c.Distinct) {platform : Platform}
    {p q : Probe} (hp : p ∈ c.probes platform) {output : String} (hq : p.analyse output = (.ok (), q)) :
    Keyed [p.scope] (q.entries.map (·.key)) := by
  cases Catalog.reads_of_analyse hp hq with
  | @struct d q hd hread =>
    have hstruct := hvalid.structs d hd
    obtain ⟨hname, hfields⟩ := StructProbe.analyse_keeps hread
    rw [StructProbe.declared_ofDecl] at hfields
    have hdot : '.' ∉ q.name.toList := by
      rw [hname]
      exact dot_not_mem_of_isIdentifier hstruct.name
    rw [show Probe.scope (.struct (StructProbe.ofDecl d)) = q.name from hname.symm]
    exact StructProbe.keyed_entries hdot (hfields ▸ h.fields d hd)
      (hfields ▸ fun f hf => dot_not_mem_of_isIdentifier (hstruct.fields f hf))
  | @constants d q hd hread =>
    obtain ⟨hgroup, hnodup⟩ := ConstantProbe.ofDecl_facts d
    obtain ⟨hq, hnodup'⟩ := ConstantProbe.analyse_facts hread hnodup
    have hdot : '.' ∉ q.group.toList := by
      rw [hq, hgroup]
      exact dot_not_mem_of_isIdentifier (hvalid.groups d hd).name
    rw [show Probe.scope (.constants (ConstantProbe.ofDecl d)) = q.group from hq.symm]
    exact ConstantProbe.keyed_entries hdot hnodup'
  | typedefs =>
    refine TypedefProbe.keyed_entries (TypedefProbe.nodup_analyse ?_ output)
    unfold TypedefProbe.forPlatform
    split <;> exact List.nodup_nil

/-! ## What a run registers -/

variable {σ τ : Type}

/-- Part of a state is a record of the entries that the sink was offered, or of
some of them; nothing else is recorded there. -/
structure Records (t : Toolchain σ) (k : Sink σ) (record : σ → List Entry) : Prop where
  call : ∀ mode source s, record (t.call mode source s).2 = record s
  register : ∀ e s, record (k.register e s).2 = record s ∨ record (k.register e s).2 = record s ++ [e]
  finish : ∀ s, record (k.finish s).2 = record s

namespace Records

variable {t : Toolchain σ} {k : Sink σ} {record : σ → List Entry}

theorem saveAll (h : Records t k record) (es : List Entry) (s : σ) :
    ∃ es', record (saveAll k es s).2 = record s ++ es' ∧ es'.Sublist es := by
  induction es generalizing s with
  | nil => exact ⟨[], (List.append_nil _).symm, .slnil⟩
  | cons e es ih =>
    have hstep := h.register e s
    rcases hk : k.register e s with ⟨r, s₁⟩
    rw [hk] at hstep
    simp only [AbiProbe.saveAll, hk]
    cases r with
    | error err =>
      rcases hstep with he | he
      · exact ⟨[], by simpa using he, List.nil_sublist _⟩
      · exact ⟨[e], he, by simp⟩
    | ok _ =>
      obtain ⟨es', hes, hsub⟩ := ih s₁
      dsimp only
      rw [hes]
      rcases hstep with he | he
      · exact ⟨es', by rw [he], hsub.cons e⟩
      · exact ⟨e :: es', by rw [he, List.append_assoc, List.singleton_append], hsub.cons_cons e⟩

/-- A probe records entries with distinct keys under its scope. -/
theorem runProbe (h : Records t k record) {p : Probe}
    (hp : ∀ output q, p.analyse output = (.ok (), q) → Keyed [p.scope] (q.entries.map (·.key))) (s : σ) :
    ∃ es, record (runProbe t k p s).2 = record s ++ es ∧ Keyed [p.scope] (es.map (·.key)) := by
  have hcall := h.call p.mode p.source s
  rcases hc : t.call p.mode p.source s with ⟨r, s₁⟩
  rw [hc] at hcall
  dsimp only at hcall
  have hnone : ∃ es, record s₁ = record s ++ es ∧ Keyed [p.scope] (es.map (·.key)) :=
    ⟨[], by rw [hcall, List.append_nil], .nil⟩
  simp only [AbiProbe.runProbe, hc]
  cases r with
  | error err => exact hnone
  | ok output =>
    dsimp only
    rcases hq : p.analyse output with ⟨_ | _, q⟩
    · exact hnone
    · obtain ⟨es, hes, hsub⟩ := h.saveAll q.entries s₁
      have hkeyed := (hp output q hq).sublist (hsub.map (·.key))
      rw [hcall] at hes
      dsimp only
      rcases hsaved : AbiProbe.saveAll k q.entries s₁ with ⟨r, s₂⟩
      rw [hsaved] at hes
      cases r <;> exact ⟨es, hes, hkeyed⟩

theorem runProbes (h : Records t k record) {ps : List Probe} (hscopes : (ps.map Probe.scope).Nodup)
    (hps : ∀ p ∈ ps, ∀ output q, p.analyse output = (.ok (), q) → Keyed [p.scope] (q.entries.map (·.key)))
    (s : σ) :
    ∃ es, record (runProbes t k ps s).2 = record s ++ es ∧
      Keyed (ps.map Probe.scope) (es.map (·.key)) := by
  induction ps generalizing s with
  | nil => exact ⟨[], (List.append_nil _).symm, .nil⟩
  | cons p ps ih =>
    rw [List.map_cons, List.nodup_cons] at hscopes
    obtain ⟨es, hes, hkeyed⟩ := h.runProbe (hps p List.mem_cons_self) s
    rcases hp : AbiProbe.runProbe t k p s with ⟨r, s₁⟩
    rw [hp] at hes
    obtain ⟨es', hes', hkeyed'⟩ := ih hscopes.2 (fun q hq => hps q (List.mem_cons_of_mem p hq)) s₁
    simp only [AbiProbe.runProbes, hp]
    cases r with
    | error err =>
      have hfirst := hkeyed.append .nil hscopes.1
      exact ⟨es, hes, by rwa [List.append_nil] at hfirst⟩
    | ok entries =>
      have hboth := hkeyed.append hkeyed' hscopes.1
      rw [← List.map_append] at hboth
      rcases hrest : AbiProbe.runProbes t k ps s₁ with ⟨r, s₂⟩
      rw [hrest] at hes'
      dsimp only at hes hes' ⊢
      rw [hrest]
      rw [hes, List.append_assoc] at hes'
      cases r <;> exact ⟨es ++ es', hes', hboth⟩

/-- What a run records has distinct keys, whether the run succeeds or fails. -/
theorem run (h : Records t k record) {c : Catalog} (hvalid : c.Valid) (hc : c.Distinct)
    (platform : Platform) {s : σ} (hs : record s = []) :
    ((record (run t k platform c s).2).map (·.key)).Nodup := by
  obtain ⟨es, hes, hkeyed⟩ := h.runProbes (nodup_scopes hc platform)
    (fun p hp output q hq => keyed_of_analyse hvalid hc hp hq) s
  rw [hs, List.nil_append] at hes
  rcases hp : AbiProbe.runProbes t k (c.probes platform) s with ⟨r, s₁⟩
  rw [hp] at hes
  dsimp only at hes
  simp only [AbiProbe.run, hp]
  cases r with
  | error err => exact hes ▸ hkeyed.nodup
  | ok probes =>
    have hfinish := h.finish s₁
    rcases hf : k.finish s₁ with ⟨r, s₂⟩
    rw [hf] at hfinish
    dsimp only at hfinish ⊢
    rw [hf]
    have hlast : ((record s₂).map (·.key)).Nodup := by
      rw [hfinish, hes]
      exact hkeyed.nodup
    cases r <;> exact hlast

end Records

/-- The trace of a watched run records all that its sink is offered. -/
theorem records_offers (t : Toolchain σ) (k : Sink σ) :
    Records t.watched k.watched fun s => s.2.offers where
  call mode source s := by simp [Toolchain.watched, Trace.add, Trace.offers]
  register e s := .inr (by simp [Sink.watched, Trace.add, Trace.offers])
  finish s := by simp [Sink.watched, Trace.add, Trace.offers]

/-- The sink in memory records what it takes. -/
theorem records_entries (t : Toolchain τ) :
    Records t.beside MemorySink.sink.beside fun s => s.1.entries where
  call mode source s := rfl
  register e s := by
    simp only [Sink.beside, MemorySink.sink, MemorySink.register]
    split
    · exact .inl rfl
    · exact .inr rfl
  finish s := rfl

/-! ## Published keys -/

theorem qualifiedKey_injective {root : String} {e e' : Entry}
    (h : e.qualifiedKey root = e'.qualifiedKey root) : e.key = e'.key := by
  unfold Entry.qualifiedKey at h
  split at h
  · exact h
  · exact append_dot_injective root h

theorem nodup_qualifiedKeys {es : List Entry} (h : (es.map (·.key)).Nodup) (root : String) :
    (es.map (·.qualifiedKey root)).Nodup := by
  rw [List.Nodup, List.pairwise_map] at h ⊢
  exact h.imp fun hne he => hne (qualifiedKey_injective he)

/-- Where keys are distinct, a key has the value of its entry. -/
theorem MemorySink.get?_of_mem {m : MemorySink} (h : (m.entries.map (·.key)).Nodup) {e : Entry}
    (he : e ∈ m.entries) : m.get? e.key = some e.value := by
  have hfound : (m.entries.find? (·.key == e.key)).isSome := by
    rw [List.find?_isSome]
    exact ⟨e, he, by simp⟩
  obtain ⟨e', hfind⟩ := Option.isSome_iff_exists.mp hfound
  have hkey : e'.key = e.key := by simpa using List.find?_some hfind
  obtain rfl : e' = e := List.inj_on_of_nodup_map h (List.mem_of_find?_eq_some hfind) he hkey
  rw [MemorySink.get?, hfind, Option.map_some]

/-- **A run registers a key once.** Let a catalog be valid, with distinct names
for its structs and groups, none of them `typedef`, and distinct fields in
each struct. Whatever its toolchain answers, its sink refuses and makes it
fail: the published keys of all entries that a run offers to its sink are
pairwise distinct. So a sink in memory has one value for each key. The
built-in catalog is such a one. -/
theorem keys_distinct {c : Catalog} (hvalid : c.validate = .ok ()) (hc : c.Distinct)
    (platform : Platform) (root : String) :
    (∀ {σ : Type} (t : Toolchain σ) (k : Sink σ) (s : σ),
      ((run t.watched k.watched platform c (s, .empty)).2.2.offers.map (·.qualifiedKey root)).Nodup) ∧
    (∀ {τ : Type} (t : Toolchain τ) (u : τ), ∃ r m u',
      run t.beside MemorySink.sink.beside platform c (.new, u) = (r, m, u') ∧
        (m.entries.map (·.qualifiedKey root)).Nodup ∧
        ∀ e ∈ m.entries, m.get? e.key = some e.value) ∧
    Catalog.builtin.validate = .ok () ∧ Catalog.builtin.Distinct := by
  have hvalid' := Catalog.validate_eq_ok_iff.mp hvalid
  refine ⟨fun t k s => ?_, fun t u => ?_, Catalog.validate_builtin, Catalog.distinct_builtin⟩
  · exact nodup_qualifiedKeys ((records_offers t k).run hvalid' hc platform rfl) root
  · have hnodup := (records_entries t).run hvalid' hc platform (s := (.new, u)) rfl
    exact ⟨_, _, _, rfl, nodup_qualifiedKeys hnodup root, fun e he => MemorySink.get?_of_mem hnodup he⟩

/-- A catalog whose probes find some things twice. -/
def repeated : Catalog :=
  ⟨[⟨"s", [], [⟨"sizeof", none⟩]⟩], [⟨"g", [], [⟨["A", "A"], "%d", ""⟩]⟩], ["h"]⟩

/-- A toolchain that gives one of some outputs after the other. -/
def replies : Toolchain (List String) where
  call _ _
    | [] => (.error (.toolFailure "cc" ""), [])
    | output :: rest => (.ok output, rest)

theorem keys_distinct_repeated :
    repeated.validate = .ok () ∧ repeated.Distinct ∧ ∃ r m u',
      run replies.beside MemorySink.sink.beside .x86Linux repeated (.new,
        ["sizeof(struct s) 4\nsizeof 0 4\n", "A 1\nA 2\n", "typedef int t;\ntypedef long t;\n"]) =
          (r, m, u') ∧
      m.entries.map (·.qualifiedKey "r") =
        ["r.s.sizeof", "r.s.sizeof.offset", "r.s.sizeof.size", "r.g.A", "r.typedef.t"] ∧
      (m.entries.map (·.qualifiedKey "r")).Nodup ∧ m.get? "g.A" = some (.integer 2) := by
  have hvalid : repeated.validate = .ok () := by rfl
  have hdistinct : repeated.Distinct := ⟨by decide, by decide, by decide⟩
  obtain ⟨-, hmemory, -⟩ := keys_distinct hvalid hdistinct .x86Linux "r"
  obtain ⟨r, m, u', hrun, hnodup, hget⟩ := hmemory replies
    ["sizeof(struct s) 4\nsizeof 0 4\n", "A 1\nA 2\n", "typedef int t;\ntypedef long t;\n"]
  have hm : m = ⟨[⟨"s.sizeof", .integer 4⟩, ⟨"s.sizeof.offset", .integer 0⟩, ⟨"s.sizeof.size", .integer 4⟩,
      ⟨"g.A", .integer 2⟩, ⟨"typedef.t", .text "long"⟩], true⟩ := by
    rw [show m = _ from (congrArg (fun x => x.2.1) hrun).symm]
    decide +kernel
  refine ⟨hvalid, hdistinct, r, m, u', hrun, ?_, hnodup, hget ⟨"g.A", .integer 2⟩ (by simp [hm])⟩
  rw [hm]
  decide +kernel

end AbiProbe
