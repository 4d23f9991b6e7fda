/-
Probes that analyse several outputs, one after the other. A struct forgets the
outputs before the last one, but a group keeps the values, and the typedefs the
aliases, that an output has not told anew: both know what they would know of
all outputs as one text (`facts_after_analyses`). So what they report need not
come from the last output (`earlier_facts_stay`).

A group takes several outputs as it takes their lines in one
(`ConstantProbe.analyseAll_iff`). A typedef probe puts its overrides into
effect after each output, so it differs from one that reads all lines first,
but not in what it knows in the end (`TypedefProbe.Agrees`).
-/
import AbiProbe.Proofs.DefinedConstants
import AbiProbe.Proofs.LayoutReading
import AbiProbe.Proofs.TypedefChains

namespace AbiProbe

open Text

/-- The lines of some outputs, one output after the other. -/
def allLines (os : List String) : List (List Char) := os.flatMap fun o => lines o.toList

/-- One output with the lines of several. -/
def joined (os : List String) : String := String.ofList ((allLines os).flatMap (· ++ ['\r', '\n']))

theorem lines_joined (os : List String) : lines (joined os).toList = allLines os := by
  rw [joined, String.toList_ofList]
  refine lines_flatMap_return fun l hl => ?_
  obtain ⟨o, -, hl⟩ := List.mem_flatMap.mp hl
  exact newline_not_mem_of_mem_lines hl

theorem allLines_append (os os' : List String) : allLines (os ++ os') = allLines os ++ allLines os' :=
  List.flatMap_append

theorem allLines_singleton (o : String) : allLines [o] = lines o.toList :=
  List.flatMap_singleton ..

/-- Analyses outputs, the first one first, up to one that is refused. -/
def analyseAll {π : Type} (analyse : π → String → Except Error Unit × π) :
    List String → π → Except Error Unit × π
  | [], p => (.ok (), p)
  | o :: os, p =>
    match analyse p o with
    | (.error err, p) => (.error err, p)
    | (.ok (), p) => analyseAll analyse os p

theorem analyseAll_cons_eq_ok_iff {π : Type} {analyse : π → String → Except Error Unit × π} {p q : π}
    {o : String} {os : List String} : analyseAll analyse (o :: os) p = (.ok (), q) ↔
      ∃ r, analyse p o = (.ok (), r) ∧ analyseAll analyse os r = (.ok (), q) := by
  rw [analyseAll]
  rcases analyse p o with ⟨_ | _, r⟩ <;> simp

/-! ## Structs -/

namespace StructProbe

theorem zipWith_place_zipWith {fields : List StructField} {slots : List Slot}
    (h : slots.length = fields.length) (slots' : List Slot) :
    List.zipWith StructField.place (List.zipWith StructField.place fields slots) slots' =
      List.zipWith StructField.place fields slots' := by
  induction fields generalizing slots slots' with
  | nil => rfl
  | cons f fields ih =>
    cases slots with
    | nil => cases h
    | cons slot slots =>
      cases slots' with
      | nil => rfl
      | cons slot' slots' => exact congrArg (f.place slot' :: ·) (ih (Nat.succ.inj h) slots')

/-- An analysis that succeeds after another one forgets that one. -/
theorem analyse_of_analyse {p r q : StructProbe} {o last : String} (hr : p.analyse o = (.ok (), r))
    (hq : r.analyse last = (.ok (), q)) : p.analyse last = (.ok (), q) := by
  obtain ⟨hname, hfields⟩ := analyse_keeps hr
  obtain ⟨layout, htells, rfl⟩ := analyse_eq_ok_iff.mp hr
  obtain ⟨layout', htells', rfl⟩ := analyse_eq_ok_iff.mp hq
  refine analyse_eq_ok_iff.mpr ⟨layout', (tellsLayout_congr hname hfields).mp htells', ?_⟩
  exact congrArg (StructProbe.mk p.name p.includes · (some layout'.size))
    (zipWith_place_zipWith (length_of_tellsLayout htells) layout'.slots)

/-- A struct that has analysed an output knows no other one. -/
theorem analyse_of_analyseAll_concat {p q : StructProbe} {os : List String} {last : String}
    (h : analyseAll analyse (os ++ [last]) p = (.ok (), q)) : p.analyse last = (.ok (), q) := by
  induction os generalizing p with
  | nil =>
    obtain ⟨r, hr, hq⟩ := analyseAll_cons_eq_ok_iff.mp h
    exact hr.trans hq
  | cons o os ih =>
    obtain ⟨r, hr, hrest⟩ := analyseAll_cons_eq_ok_iff.mp h
    exact analyse_of_analyse hr (ih hrest)

end StructProbe

/-! ## Groups -/

namespace ConstantProbe

theorem accepts_joined (known : List String) (os : List String) :
    accepts known (joined os) = os.all (accepts known) := by
  rw [accepts, lines_joined, allLines, List.all_flatMap]
  rfl

theorem given_joined (os : List String) : given (joined os) = os.flatMap given := by
  rw [given, lines_joined, allLines, List.filterMap_flatMap]
  rfl

theorem textsOf_joined (name : String) (os : List String) :
    textsOf name (joined os) = os.flatMap (textsOf name) := by
  rw [textsOf, given_joined, List.filterMap_flatMap]
  rfl

theorem textsOf_joined_ne_nil {name o : String} {os : List String} (ho : o ∈ os)
    (hname : textsOf name o ≠ []) : textsOf name (joined os) ≠ [] := by
  rw [textsOf_joined]
  exact fun hnil => hname (List.flatMap_eq_nil_iff.mp hnil o ho)

theorem found_joined (os : List String) : found (joined os) = os.flatMap found := by
  rw [found, given_joined, List.map_flatMap]
  rfl

/-- A group takes several outputs as it takes all their lines as one. -/
theorem analyseAll_iff {p q : ConstantProbe} {os : List String} :
    analyseAll analyse os p = (.ok (), q) ↔ p.analyse (joined os) = (.ok (), q) := by
  induction os generalizing p with
  | nil =>
    rw [analyse_eq_ok_iff, accepts_joined, found_joined]
    exact ⟨fun h => ⟨rfl, (Prod.mk.inj h).2.symm⟩, fun h => congrArg (Except.ok (), ·) h.2.symm⟩
  | cons o os ih =>
    rw [analyseAll_cons_eq_ok_iff, analyse_eq_ok_iff, accepts_joined, found_joined, List.all_cons,
      Bool.and_eq_true, List.flatMap_cons, List.foldl_append]
    constructor
    · rintro ⟨r, hr, hq⟩
      rw [ih, analyse_eq_ok_iff, keys_analyse hr, accepts_joined, found_joined] at hq
      obtain ⟨ho, rfl⟩ := analyse_eq_ok_iff.mp hr
      exact ⟨⟨ho, hq.1⟩, hq.2⟩
    · rintro ⟨⟨ho, hos⟩, hq⟩
      have hr := analyse_eq_ok_iff.mpr ⟨ho, rfl⟩
      refine ⟨_, hr, ?_⟩
      rw [ih, analyse_eq_ok_iff, keys_analyse hr, accepts_joined, found_joined]
      exact ⟨hos, hq⟩

/-- An accepted output gives texts to declared names only. -/
theorem mem_keys_of_textsOf {p q : ConstantProbe} {output name : String} (h : p.analyse output = (.ok (), q))
    (hname : textsOf name output ≠ []) : name ∈ p.constants.keys := by
  obtain ⟨text, htext⟩ := List.exists_mem_of_ne_nil _ hname
  obtain ⟨g, hg, hgiven⟩ := List.mem_filterMap.mp htext
  obtain ⟨line, hline, hread⟩ := List.mem_filterMap.mp hg
  obtain ⟨n, t, hnt, hkey⟩ := exists_analyse_iff.mp ⟨q, h⟩ line hline
  rw [hnt, Option.map_some, Option.some.injEq] at hread
  subst hread
  dsimp only at hgiven
  split at hgiven
  next he => exact he ▸ hkey
  · cases hgiven

theorem mem_entries_analyse_ofDecl {d : GroupDecl} {q : ConstantProbe} {output : String}
    (h : (ofDecl d).analyse output = (.ok (), q)) {e : Entry} : e ∈ q.entries ↔
      ∃ name text, (textsOf name output).getLast? = some text ∧ e = ⟨d.name ++ "." ++ name, .ofText text⟩ := by
  rw [entries_analyse_ofDecl h, List.mem_filterMap]
  constructor
  · rintro ⟨name, -, he⟩
    obtain ⟨text, htext, rfl⟩ := Option.map_eq_some_iff.mp he
    exact ⟨name, text, htext, rfl⟩
  · rintro ⟨name, text, htext, rfl⟩
    have hne : textsOf name output ≠ [] := fun hnil => by simp [hnil] at htext
    exact ⟨name, keys_ofDecl d ▸ mem_keys_of_textsOf h hne, by rw [htext, Option.map_some]⟩

/-- What several outputs tell is what the last one tells, exactly if it names
all that the others name. -/
theorem entries_eq_iff {d : GroupDecl} {q fresh : ConstantProbe} {os : List String} {last : String}
    (hq : (ofDecl d).analyse (joined (os ++ [last])) = (.ok (), q))
    (hfresh : (ofDecl d).analyse last = (.ok (), fresh)) : q.entries = fresh.entries ↔
      ∀ name, (∃ o ∈ os, textsOf name o ≠ []) → textsOf name last ≠ [] := by
  have htexts (name : String) :
      textsOf name (joined (os ++ [last])) = os.flatMap (textsOf name) ++ textsOf name last := by
    rw [textsOf_joined, List.flatMap_append, List.flatMap_singleton]
  constructor
  · rintro he name ⟨o, ho, hname⟩ hlast
    have hne := textsOf_joined_ne_nil (List.mem_append_left [last] ho) hname
    have hmem := (mem_entries_analyse_ofDecl hq).mpr ⟨name, _, List.getLast?_eq_some_getLast hne, rfl⟩
    rw [he, mem_entries_analyse_ofDecl hfresh] at hmem
    obtain ⟨name', text, htext, hentry⟩ := hmem
    obtain rfl : name = name' := append_dot_injective d.name (congrArg Entry.key hentry)
    rw [hlast] at htext
    cases htext
  · intro h
    rw [entries_analyse_ofDecl hq, entries_analyse_ofDecl hfresh]
    refine List.filterMap_congr fun name _ => ?_
    rw [htexts, List.getLast?_append]
    by_cases hlast : textsOf name last = []
    · have hnone : os.flatMap (textsOf name) = [] :=
        List.flatMap_eq_nil_iff.mpr fun o ho => by_contra fun hne => h name ⟨o, ho, hne⟩ hlast
      rw [hlast, hnone]
      rfl
    · rw [List.getLast?_eq_some_getLast hlast, Option.some_or]

end ConstantProbe

/-! ## Typedefs -/

namespace TypedefProbe

/-- A probe that has analysed nothing. -/
def fresh (headers : List String) (overrides : List (String × Category)) : TypedefProbe :=
  { new headers with overrides := overrides }

variable {p w : TypedefProbe} {name : String}

/-- An override counts before all that a line says. -/
theorem resolved_applyOverrides (p : TypedefProbe) (name : String) :
    p.applyOverrides.resolved name = ((Table.ofList p.overrides).get? name).or (p.resolved name) :=
  Table.get?_foldl_insert p.overrides p.aliases name

/-- Two probes know the same types, and the same aliases once overrides are in
effect. -/
structure Agrees (p w : TypedefProbe) : Prop where
  types : p.types = w.types
  overrides : p.overrides = w.overrides
  resolved : ∀ name, p.applyOverrides.resolved name = w.applyOverrides.resolved name

namespace Agrees

theorem insert (h : Agrees p w) (name : String) (c : Category) :
    Agrees { p with types := p.types.insert name c, aliases := p.aliases.insert name c }
      { w with types := w.types.insert name c, aliases := w.aliases.insert name c } := by
  refine ⟨congrArg (·.insert name c) h.types, h.overrides, fun other => ?_⟩
  have hother := h.resolved other
  rw [resolved_applyOverrides, resolved_applyOverrides, h.overrides] at hother ⊢
  simp only [TypedefProbe.resolved, Table.get?_insert] at hother ⊢
  split
  · rfl
  · exact hother

theorem keep (h : Agrees p w) (ignored ignored' : List String) :
    Agrees { p with ignored := ignored } { w with ignored := ignored' } :=
  ⟨h.types, h.overrides, h.resolved⟩

/-- The types decide what a line declares. -/
theorem step (h : Agrees p w) (line : List Char) : Agrees (p.step line) (w.step line) := by
  rcases step_cases p line with ⟨d, c, hd, hc, hp⟩ | ⟨hnone, ignored, hp⟩
  · rcases step_cases w line with ⟨d', c', hd', hc', hw⟩ | ⟨hnone, -⟩
    · obtain rfl : d = d' := Option.some.inj (hd.symm.trans hd')
      rw [h.types, hc', Option.some.injEq] at hc
      rw [hp, hw, hc]
      exact h.insert d.name c
    · rw [h.types, hnone d hd] at hc
      cases hc
  · rcases step_cases w line with ⟨d, c, hd, hc, -⟩ | ⟨-, ignored', hw⟩
    · rw [← h.types, hnone d hd] at hc
      cases hc
    · rw [hp, hw]
      exact h.keep ignored ignored'

theorem foldl_step (h : Agrees p w) (ls : List (List Char)) :
    Agrees (ls.foldl TypedefProbe.step p) (ls.foldl TypedefProbe.step w) := by
  induction ls generalizing p w with
  | nil => exact h
  | cons line ls ih => exact ih (h.step line)

theorem applyOverrides (h : Agrees p w) : Agrees p.applyOverrides w := by
  refine ⟨h.types, h.overrides, fun name => ?_⟩
  have hsame : p.applyOverrides.overrides = p.overrides := rfl
  rw [← h.resolved, resolved_applyOverrides, hsame, resolved_applyOverrides, ← Option.or_assoc,
    Option.or_self]

/-- Overrides that are put into effect between the outputs change nothing. -/
theorem foldl_analyse (p : TypedefProbe) (os : List String) :
    Agrees (os.foldl analyse p) ((allLines os).foldl TypedefProbe.step p) := by
  induction os using List.reverseRecOn with
  | nil => exact ⟨rfl, rfl, fun _ => rfl⟩
  | append_singleton os o ih =>
    rw [allLines_append, allLines_singleton, List.foldl_append, List.foldl_append]
    exact (ih.foldl_step (lines o.toList)).applyOverrides

end Agrees

/-- Several outputs make known what all their lines make known as one output. -/
theorem resolved_foldl_analyse (p : TypedefProbe) (os : List String) (last name : String) :
    ((os ++ [last]).foldl analyse p).resolved name = (p.analyse (joined (os ++ [last]))).resolved name := by
  have hagrees := (Agrees.foldl_analyse p os).foldl_step (lines last.toList)
  rw [List.foldl_append, analyse, lines_joined, allLines_append, allLines_singleton, List.foldl_append]
  exact hagrees.resolved name

theorem applyOverrides_of_nil (h : p.overrides = []) : p.applyOverrides = p := by
  obtain ⟨_, _, _, _, _⟩ := p
  subst h
  rfl

/-- Without overrides the probes are the same. -/
theorem foldl_analyse_of_overrides_nil (h : p.overrides = []) (os : List String) :
    os.foldl analyse p = p.analyse (joined os) := by
  have hsteps (ls : List (List Char)) : (ls.foldl step p).applyOverrides = ls.foldl step p :=
    applyOverrides_of_nil ((foldl_step_overrides ls p).trans h)
  induction os using List.reverseRecOn with
  | nil => rw [analyse, lines_joined, hsteps]; rfl
  | append_singleton os o ih =>
    rw [List.foldl_append, ih, analyse, lines_joined, hsteps, List.foldl_cons, List.foldl_nil, analyse,
      ← List.foldl_append, analyse, lines_joined, allLines_append, allLines_singleton]

/-- The facts are the aliases that are not private to the platform. -/
theorem mem_entries (h : p.aliases.keys.Nodup) {e : Entry} : e ∈ p.entries ↔ ∃ name c,
    name.toList.head? ≠ some '_' ∧ p.resolved name = some c ∧ e = ⟨"typedef." ++ name, .ofCategory c⟩ := by
  simp only [entries, List.mem_map, List.mem_filter, resolved, Table.get?_eq_some_iff h, Prod.exists,
    bne_iff_ne, and_assoc]
  constructor
  · rintro ⟨name, c, hmem, hpublic, rfl⟩
    exact ⟨name, c, hpublic, hmem, rfl⟩
  · rintro ⟨name, c, hpublic, hmem, rfl⟩
    exact ⟨name, c, hmem, hpublic, rfl⟩

theorem ofCategory_injective {c c' : Category} (h : Value.ofCategory c = .ofCategory c') : c = c' := by
  have hname : c.name = c'.name := by simpa [Value.ofCategory] using h
  exact Option.some.inj (by rw [← Category.ofName?_name c, hname, Category.ofName?_name])

theorem alias_mem_entries (h : p.aliases.keys.Nodup) {c : Category} :
    (⟨"typedef." ++ name, .ofCategory c⟩ : Entry) ∈ p.entries ↔
      name.toList.head? ≠ some '_' ∧ p.resolved name = some c := by
  rw [mem_entries h]
  constructor
  · rintro ⟨name', c', hpublic, hresolved, he⟩
    obtain ⟨hkey, hvalue⟩ := Entry.mk.inj he
    obtain rfl : name = name' := (String.append_right_inj _).mp hkey
    obtain rfl : c = c' := ofCategory_injective hvalue
    exact ⟨hpublic, hresolved⟩
  · rintro ⟨hpublic, hresolved⟩
    exact ⟨name, c, hpublic, hresolved, rfl⟩

/-- Two probes report the same facts if they know the same of the aliases that
are not private. -/
theorem perm_entries_iff (hp : p.aliases.keys.Nodup) (hw : w.aliases.keys.Nodup) :
    p.entries.Perm w.entries ↔
      ∀ name, name.toList.head? ≠ some '_' → p.resolved name = w.resolved name := by
  have hnodup {p : TypedefProbe} (h : p.aliases.keys.Nodup) : p.entries.Nodup := (keyed_entries h).nodup.of_map
  rw [List.perm_ext_iff_of_nodup (hnodup hp) (hnodup hw)]
  constructor
  · intro h name hpublic
    refine Option.ext fun c => ?_
    have hentry := h ⟨"typedef." ++ name, .ofCategory c⟩
    rwa [alias_mem_entries hp, alias_mem_entries hw, and_congr_right_iff, forall_prop_of_true hpublic] at hentry
  · intro h e
    rw [mem_entries hp, mem_entries hw]
    refine exists₂_congr fun name c => and_congr_right fun hpublic => ?_
    rw [h name hpublic]

/-- What is known of an alias stays known, if not as what it was. -/
theorem isSome_resolved_step (h : (p.resolved name).isSome) (line : List Char) :
    ((p.step line).resolved name).isSome := by
  rcases step_cases p line with ⟨d, c, -, -, hs⟩ | ⟨-, ignored, hs⟩
  · rw [hs, resolved, Table.get?_insert]
    split
    · rfl
    · exact h
  · rw [hs]
    exact h

theorem isSome_resolved_analyse (h : (p.resolved name).isSome) (o : String) :
    ((p.analyse o).resolved name).isSome := by
  have hsteps : (((lines o.toList).foldl step p).resolved name).isSome :=
    List.foldlRecOn (motive := fun p : TypedefProbe => (p.resolved name).isSome) _ _ h
      fun _ hp line _ => isSome_resolved_step hp line
  rw [analyse, resolved_applyOverrides, Option.isSome_or, hsteps, Bool.or_true]

section

variable {headers : List String} {overrides : List (String × Category)}

theorem nodup_foldl_analyse (os : List String) :
    (os.foldl analyse (fresh headers overrides)).aliases.keys.Nodup :=
  List.foldlRecOn (motive := fun p : TypedefProbe => p.aliases.keys.Nodup) _ _ List.nodup_nil
    fun _ hp o _ => nodup_analyse hp o

/-- What the lines of one output give an alias that has no override. -/
theorem resolved_analyse_fresh (hname : name ∉ overrides.map (·.1)) (o : String) (c : Category) :
    ((fresh headers overrides).analyse o).resolved name = some c ↔
      Gives (lines o.toList) (lines o.toList).length name c := by
  have hstart : Tables (lines o.toList) 0 (fresh headers overrides) :=
    ⟨(Tables.new _ headers).aliases, (Tables.new _ headers).types⟩
  have htables := hstart.foldl_take _ (Nat.le_refl _)
  rw [List.take_length] at htables
  have hnone : (Table.ofList (fresh headers overrides).overrides).get? name = none :=
    Table.get?_ofList_eq_none_iff.mpr hname
  rw [← htables.aliases name c, analyse, resolved_applyOverrides, foldl_step_overrides, hnone, Option.none_or]
  rfl

/-- An alias with an override has the same category after any output. -/
theorem resolved_analyse_override (hname : name ∈ overrides.map (·.1)) (o o' : String) :
    ((fresh headers overrides).analyse o).resolved name =
      ((fresh headers overrides).analyse o').resolved name := by
  have hsome : (Table.ofList (fresh headers overrides).overrides).get? name ≠ none :=
    fun hnone => Table.get?_ofList_eq_none_iff.mp hnone hname
  obtain ⟨c, hc⟩ := Option.ne_none_iff_exists'.mp hsome
  rw [analyse, analyse, resolved_applyOverrides, resolved_applyOverrides, foldl_step_overrides,
    foldl_step_overrides, hc, Option.some_or, Option.some_or]

/-- What is reported before an output is reported after it. -/
theorem exists_mem_entries (os : List String) (last : String) :
    ∀ e ∈ (os.foldl analyse (fresh headers overrides)).entries,
      ∃ e' ∈ ((os ++ [last]).foldl analyse (fresh headers overrides)).entries, e'.key = e.key := by
  intro e he
  obtain ⟨name, c, hpublic, hc, rfl⟩ := (mem_entries (nodup_foldl_analyse os)).mp he
  have hkept := isSome_resolved_analyse (Option.isSome_of_eq_some hc) last
  obtain ⟨c', hc'⟩ := Option.isSome_iff_exists.mp hkept
  refine ⟨_, (mem_entries (nodup_foldl_analyse _)).mpr ⟨name, c', hpublic, ?_, rfl⟩, rfl⟩
  rw [List.foldl_append]
  exact hc'

theorem perm_entries_joined (os : List String) (last : String) :
    ((os ++ [last]).foldl analyse (fresh headers overrides)).entries.Perm
      ((fresh headers overrides).analyse (joined (os ++ [last]))).entries :=
  (perm_entries_iff (nodup_foldl_analyse _) (nodup_foldl_analyse [_])).mpr
    fun name _ => resolved_foldl_analyse _ os last name

/-- The last output alone tells what all outputs tell, exactly if its lines give
the aliases that are published what all lines give them. -/
theorem perm_entries_last_iff (os : List String) (last : String) :
    ((os ++ [last]).foldl analyse (fresh headers overrides)).entries.Perm
      ((fresh headers overrides).analyse last).entries ↔
    ∀ name, name.toList.head? ≠ some '_' → name ∉ overrides.map (·.1) → ∀ c,
      (Gives (allLines (os ++ [last])) (allLines (os ++ [last])).length name c ↔
        Gives (lines last.toList) (lines last.toList).length name c) := by
  have hgives {name : String} (hname : name ∉ overrides.map (·.1)) (c : Category) :
      (Gives (allLines (os ++ [last])) (allLines (os ++ [last])).length name c ↔
        Gives (lines last.toList) (lines last.toList).length name c) ↔
      (((fresh headers overrides).analyse (joined (os ++ [last]))).resolved name = some c ↔
        ((fresh headers overrides).analyse last).resolved name = some c) := by
    rw [resolved_analyse_fresh hname, resolved_analyse_fresh hname, lines_joined]
  have hlast : ((fresh headers overrides).analyse last).aliases.keys.Nodup := nodup_foldl_analyse [last]
  rw [perm_entries_iff (nodup_foldl_analyse _) hlast]
  refine forall₂_congr fun name _ => ?_
  rw [resolved_foldl_analyse]
  by_cases hname : name ∈ overrides.map (·.1)
  · exact iff_of_true (resolved_analyse_override hname _ _) (absurd hname)
  · simp only [hname, not_false_eq_true, forall_const, hgives hname]
    exact Option.ext_iff

end

end TypedefProbe

/-- **What probes report after several outputs.** Let a fresh probe analyse
some outputs and then a last one. A struct then is as after the last output
alone. A group is as after one output with all their lines, which tells the
same as the last output exactly if that names each constant that the others
name. Typedefs, with any overrides, are reported as after one output with all
their lines, up to the order that the overrides take part in; none of those
reported before the last output is gone; and they are those of the last output
alone exactly if its chains of lines give the aliases that are published what
the chains of all lines give them. -/
theorem facts_after_analyses (os : List String) (last : String) :
    (∀ (d : StructDecl) (q : StructProbe),
      analyseAll StructProbe.analyse (os ++ [last]) (.ofDecl d) = (.ok (), q) →
      (StructProbe.ofDecl d).analyse last = (.ok (), q)) ∧
    (∀ (d : GroupDecl) (q : ConstantProbe),
      analyseAll ConstantProbe.analyse (os ++ [last]) (.ofDecl d) = (.ok (), q) →
      (ConstantProbe.ofDecl d).analyse (joined (os ++ [last])) = (.ok (), q) ∧
      ∃ r, (ConstantProbe.ofDecl d).analyse last = (.ok (), r) ∧
        (q.entries = r.entries ↔ ∀ name, (∃ o ∈ os, ConstantProbe.textsOf name o ≠ []) →
          ConstantProbe.textsOf name last ≠ [])) ∧
    ∀ (headers : List String) (overrides : List (String × Category)) (p q : TypedefProbe),
      p = .fresh headers overrides → q = (os ++ [last]).foldl TypedefProbe.analyse p →
      q.entries.Perm (p.analyse (joined (os ++ [last]))).entries ∧
      (overrides = [] → q.entries = (p.analyse (joined (os ++ [last]))).entries) ∧
      (∀ e ∈ (os.foldl TypedefProbe.analyse p).entries, ∃ e' ∈ q.entries, e'.key = e.key) ∧
      (q.entries.Perm (p.analyse last).entries ↔
        ∀ name, name.toList.head? ≠ some '_' → name ∉ overrides.map (·.1) → ∀ c,
          (TypedefProbe.Gives (allLines (os ++ [last])) (allLines (os ++ [last])).length name c ↔
            TypedefProbe.Gives (lines last.toList) (lines last.toList).length name c)) := by
  refine ⟨fun d q => StructProbe.analyse_of_analyseAll_concat, fun d q hq => ?_, ?_⟩
  · have hjoined := ConstantProbe.analyseAll_iff.mp hq
    obtain ⟨haccepts, -⟩ := ConstantProbe.analyse_eq_ok_iff.mp hjoined
    rw [ConstantProbe.accepts_joined, List.all_append, Bool.and_eq_true] at haccepts
    have hlast := haccepts.2
    rw [List.all_cons, List.all_nil, Bool.and_true] at hlast
    have hfresh := ConstantProbe.analyse_eq_ok_iff.mpr ⟨hlast, rfl⟩
    exact ⟨hjoined, _, hfresh, ConstantProbe.entries_eq_iff hjoined hfresh⟩
  · rintro headers overrides p q rfl rfl
    refine ⟨TypedefProbe.perm_entries_joined os last, fun hnil => ?_, TypedefProbe.exists_mem_entries os last,
      TypedefProbe.perm_entries_last_iff os last⟩
    exact congrArg TypedefProbe.entries (TypedefProbe.foldl_analyse_of_overrides_nil hnil _)

/-- A struct with one field. -/
def single : StructDecl := ⟨"s", [], [⟨"f", none⟩]⟩

/-- A group of two constants. -/
def pair : GroupDecl := ⟨"g", [], [⟨["A", "B"], "%d", ""⟩]⟩

theorem facts_after_analyses_renewed :
    (∃ q, analyseAll StructProbe.analyse (["sizeof(struct s) 8\nf 4 4\n"] ++ ["sizeof(struct s) 4\nf 0 4\n"])
        (.ofDecl single) = (.ok (), q) ∧
      (StructProbe.ofDecl single).analyse "sizeof(struct s) 4\nf 0 4\n" = (.ok (), q)) ∧
    (∃ q r, analyseAll ConstantProbe.analyse (["A 1\n", "A 2\nB 3"] ++ ["B 4\nA 5\n"]) (.ofDecl pair) =
        (.ok (), q) ∧
      (ConstantProbe.ofDecl pair).analyse "B 4\nA 5\n" = (.ok (), r) ∧ q.entries = r.entries) ∧
    ((["typedef int a;\n", "typedef a *b;\n"] ++ ["typedef long a;\n"]).foldl TypedefProbe.analyse
        (.fresh ["h"] [("t", .pointer)])).entries.Perm
      [⟨"typedef.a", .text "long"⟩, ⟨"typedef.b", .text "pointer"⟩, ⟨"typedef.t", .text "pointer"⟩] := by
  refine ⟨?_, ?_, ?_⟩
  · have hq : analyseAll StructProbe.analyse
        (["sizeof(struct s) 8\nf 4 4\n"] ++ ["sizeof(struct s) 4\nf 0 4\n"]) (.ofDecl single) =
          (.ok (), ⟨"s", [], [⟨⟨"f", none⟩, some 0, some 4⟩], some 4⟩) := by
      rfl
    exact ⟨_, hq, (facts_after_analyses _ _).1 single _ hq⟩
  · have hq := ConstantProbe.analyseAll_iff.mpr (ConstantProbe.analyse_eq_ok_iff.mpr
      ⟨(by decide +kernel : ConstantProbe.accepts (ConstantProbe.ofDecl pair).constants.keys
        (joined (["A 1\n", "A 2\nB 3"] ++ ["B 4\nA 5\n"])) = true), rfl⟩)
    obtain ⟨-, r, hr, hsame⟩ := (facts_after_analyses _ _).2.1 pair _ hq
    have hkeys : (ConstantProbe.ofDecl pair).constants.keys = ["A", "B"] := by decide +kernel
    have hgiven : ∀ name ∈ ["A", "B"], ConstantProbe.textsOf name "B 4\nA 5\n" ≠ [] := by decide +kernel
    refine ⟨_, r, hq, hr, hsame.mpr fun name ⟨o, ho, hne⟩ => hgiven name ?_⟩
    have hjoined := ConstantProbe.textsOf_joined_ne_nil (List.mem_append_left ["B 4\nA 5\n"] ho) hne
    exact hkeys ▸ ConstantProbe.mem_keys_of_textsOf (ConstantProbe.analyseAll_iff.mp hq) hjoined
  · have hperm := ((facts_after_analyses ["typedef int a;\n", "typedef a *b;\n"] "typedef long a;\n").2.2
      ["h"] [("t", .pointer)] _ _ rfl rfl).1
    refine hperm.trans (.of_eq ?_)
    decide +kernel

/-- Facts of an earlier output stay where the last one does not have them: the
value of a constant, and an alias, which also explains another one. -/
theorem earlier_facts_stay :
    (∃ q r, analyseAll ConstantProbe.analyse ["A 1\n", "B 2\n"] (.ofDecl pair) = (.ok (), q) ∧
      (ConstantProbe.ofDecl pair).analyse "B 2\n" = (.ok (), r) ∧
      q.entries = [⟨"g.A", .integer 1⟩, ⟨"g.B", .integer 2⟩] ∧ r.entries = [⟨"g.B", .integer 2⟩]) ∧
    (["typedef int a;\n", "typedef a b;\n"].foldl TypedefProbe.analyse (.new ["h"])).entries =
      [⟨"typedef.a", .text "int"⟩, ⟨"typedef.b", .text "int"⟩] ∧
    ((TypedefProbe.new ["h"]).analyse "typedef a b;\n").entries = [] := by
  refine ⟨⟨_, _, rfl, rfl, ?_, ?_⟩, ?_, ?_⟩
  · decide +kernel
  · decide +kernel
  · decide +kernel
  · decide +kernel

end AbiProbe
