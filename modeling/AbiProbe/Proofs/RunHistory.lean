/-
How a run goes, whatever its toolchain answers and its sink refuses: the
probes of the catalog in order, each one asked for once and its entries
offered once, up to the first thing that fails. `History` lists the three
ways: all goes well and the sink is finished, a probe finds nothing, or the
sink refuses an entry.

`run_watched` says that every run goes one of these ways. The steps are
`saveAll` (`saveAll_of_takes`, `saveAll_of_refused`), one probe
(`runProbe_cases`) and the probes of a catalog (`runProbes_course`).
-/
import AbiProbe.Run.Trace

namespace AbiProbe

variable {σ : Type}

/-! ## What a sink takes -/

namespace Sink

/-- The state of a sink after it was offered some entries. -/
def after (k : Sink σ) (es : List Entry) (s : σ) : σ := es.foldl (fun s e => (k.register e s).2) s

/-- Whether a sink takes some entries, each in the state that those before it
left. -/
def Takes (k : Sink σ) : List Entry → σ → Prop
  | [], _ => True
  | e :: es, s => (k.register e s).1 = .ok () ∧ k.Takes es (k.register e s).2

variable (k : Sink σ)

@[simp] theorem after_nil (s : σ) : k.after [] s = s := rfl

@[simp] theorem after_cons (e : Entry) (es : List Entry) (s : σ) :
    k.after (e :: es) s = k.after es (k.register e s).2 := rfl

theorem after_append (es es' : List Entry) (s : σ) :
    k.after (es ++ es') s = k.after es' (k.after es s) := by
  simp [after]

theorem takes_append (es es' : List Entry) (s : σ) :
    k.Takes (es ++ es') s ↔ k.Takes es s ∧ k.Takes es' (k.after es s) := by
  induction es generalizing s with
  | nil => simp [Takes]
  | cons e es ih => simp [Takes, ih, and_assoc]

/-- A sink takes all of some entries, or refuses a first one. -/
theorem takes_or_refuses (es : List Entry) (s : σ) :
    k.Takes es s ∨ ∃ before e rest err s', es = before ++ e :: rest ∧ k.Takes before s ∧
      k.register e (k.after before s) = (.error err, s') := by
  induction es generalizing s with
  | nil => exact .inl trivial
  | cons e es ih =>
    cases hr : k.register e s with
    | mk r s₁ =>
      cases r with
      | error err => exact .inr ⟨[], e, es, err, s₁, rfl, trivial, hr⟩
      | ok u =>
        rcases ih s₁ with h | ⟨before, e', rest, err, s', rfl, hb, he⟩
        · exact .inl (by simp [Takes, hr, h])
        · exact .inr ⟨e :: before, e', rest, err, s', rfl, by simp [Takes, hr, hb], by simp [hr, he]⟩

end Sink

theorem saveAll_of_takes {k : Sink σ} {es : List Entry} {s : σ} (h : k.Takes es s) :
    saveAll k es s = (.ok (), k.after es s) := by
  induction es generalizing s with
  | nil => rfl
  | cons e es ih =>
    obtain ⟨he, hes⟩ := h
    cases hr : k.register e s with
    | mk r s₁ =>
      simp only [hr] at he hes
      subst he
      simp [saveAll, hr, ih hes]

theorem saveAll_of_refused {k : Sink σ} {before rest : List Entry} {e : Entry} {err : Error}
    {s s' : σ} (h : k.Takes before s) (he : k.register e (k.after before s) = (.error err, s')) :
    saveAll k (before ++ e :: rest) s = (.error err, s') := by
  induction before generalizing s with
  | nil =>
    simp only [Sink.after_nil] at he
    simp [saveAll, he]
  | cons b before ih =>
    obtain ⟨hb, hbs⟩ := h
    cases hr : k.register b s with
    | mk r s₁ =>
      simp only [hr] at hb hbs
      subst hb
      simp only [Sink.after_cons, hr] at he
      simp [saveAll, hr, ih hbs he]

/-! ## How a run goes -/

/-- The entries of a probe where the toolchain answers like `answer`. -/
def Probe.found (answer : Mode → String → Except Error String) (p : Probe) :
    Except Error (List Entry) :=
  match answer p.mode p.source with
  | .error err => .error err
  | .ok output =>
    match p.analyse output with
    | (.error err, _) => .error err
    | (.ok (), q) => .ok q.entries

/-- Probes that were run to their end, with the entries of each. -/
abbrev Done := List (Probe × List Entry)

namespace Done

def probes (done : Done) : List Probe := done.map (·.1)

def entries (done : Done) : List Entry := done.flatMap (·.2)

/-- What was asked for: of each probe its program, then its entries. -/
def events (done : Done) : List Event :=
  done.flatMap fun (p, es) => .call p.mode p.source :: es.map .offer

def summaries (done : Done) : List ProbeSummary :=
  done.map fun (p, es) => ⟨p.label, p.kind, es.length⟩

theorem entries_cons (p : Probe) (es : List Entry) (done : Done) :
    Done.entries ((p, es) :: done) = es ++ done.entries := rfl

theorem events_cons (p : Probe) (es : List Entry) (done : Done) :
    Done.events ((p, es) :: done) = .call p.mode p.source :: es.map .offer ++ done.events := rfl

/-- The toolchain's answers gave each probe its entries. -/
def Found (answer : Mode → String → Except Error String) (done : Done) : Prop :=
  ∀ d ∈ done, d.1.found answer = .ok d.2

end Done

/-- How a run over some probes goes before the sink is finished: what it asks
for in order, its result, and the state that it leaves. -/
inductive Course (answer : Mode → String → Except Error String) (k : Sink σ) (ps : List Probe) (s : σ) :
    List Event → Except Error (List ProbeSummary) → σ → Prop where
  /-- Every probe finds its entries and the sink takes them. -/
  | all {done : Done} : done.probes = ps → done.Found answer → k.Takes done.entries s →
      Course answer k ps s done.events (.ok done.summaries) (k.after done.entries s)
  /-- The toolchain or the analysis fails for a probe, which offers nothing. -/
  | probe {done : Done} {p rest err} : done.probes ++ p :: rest = ps → done.Found answer →
      k.Takes done.entries s → p.found answer = .error err →
      Course answer k ps s (done.events ++ [.call p.mode p.source]) (.error err)
        (k.after done.entries s)
  /-- The sink refuses an entry of a probe; those after it are not offered. -/
  | entry {done : Done} {p rest before e others err s'} : done.probes ++ p :: rest = ps →
      done.Found answer → p.found answer = .ok (before ++ e :: others) →
      k.Takes (done.entries ++ before) s →
      k.register e (k.after (done.entries ++ before) s) = (.error err, s') →
      Course answer k ps s
        (done.events ++ .call p.mode p.source :: (before ++ [e]).map .offer) (.error err) s'

/-- How a whole run goes: the sink is finished once, after the last probe, and
not at all where something failed before. -/
inductive History (answer : Mode → String → Except Error String) (k : Sink σ) (platform : Platform)
    (ps : List Probe) (s : σ) : List Event → Except Error Summary → σ → Prop where
  | finished {events summaries s₁ r s₂} : Course answer k ps s events (.ok summaries) s₁ →
      k.finish s₁ = (r, s₂) →
      History answer k platform ps s (events ++ [.finish])
        (r.map fun _ => ⟨platform, k.name, summaries⟩) s₂
  | aborted {events err s₁} : Course answer k ps s events (.error err) s₁ →
      History answer k platform ps s events (.error err) s₁

section

variable {answer : Mode → String → Except Error String} {k : Sink σ} {p : Probe} {ps : List Probe}
  {es : List Entry} {s : σ}

theorem Done.Found.nil : Done.Found answer [] := by
  intro d hd
  cases hd

theorem Done.Found.cons {done : Done} (hp : p.found answer = .ok es) (hd : done.Found answer) :
    Done.Found answer ((p, es) :: done) := by
  intro d hmem
  rcases List.mem_cons.mp hmem with rfl | hmem
  · exact hp
  · exact hd d hmem

/-- One more probe in front, whose entries the sink takes. -/
theorem Course.cons {s' : σ} {events : List Event} {r : Except Error (List ProbeSummary)}
    (hp : p.found answer = .ok es) (hs : k.Takes es s)
    (h : Course answer k ps (k.after es s) events r s') :
    Course answer k (p :: ps) s (.call p.mode p.source :: es.map .offer ++ events)
      (r.map fun summaries => ⟨p.label, p.kind, es.length⟩ :: summaries) s' := by
  cases h with
  | @all done hps hd ht =>
    rw [← k.after_append, ← Done.entries_cons p, ← Done.events_cons]
    exact .all (congrArg (p :: ·) hps) (.cons hp hd) ((k.takes_append ..).mpr ⟨hs, ht⟩)
  | @probe done q rest err hps hd ht hq =>
    rw [← List.append_assoc, ← k.after_append, ← Done.entries_cons p, ← Done.events_cons]
    exact .probe (congrArg (p :: ·) hps) (.cons hp hd) ((k.takes_append ..).mpr ⟨hs, ht⟩) hq
  | @entry done q rest before e others err s' hps hd hq ht he =>
    rw [← List.append_assoc, ← Done.events_cons]
    refine .entry (congrArg (p :: ·) hps) (.cons hp hd) hq ?_ ?_
    · rw [Done.entries_cons, List.append_assoc]
      exact (k.takes_append ..).mpr ⟨hs, ht⟩
    · rw [Done.entries_cons, List.append_assoc, k.after_append]
      exact he

/-! ## Watching a run -/

theorem after_watched (k : Sink σ) (es : List Entry) (s : σ) (t : Trace) :
    k.watched.after es (s, t) = (k.after es s, ⟨t.events ++ es.map .offer⟩) := by
  induction es generalizing s t with
  | nil => simp
  | cons e es ih =>
    rw [Sink.after_cons, Sink.after_cons, show (k.watched.register e (s, t)).2 =
      ((k.register e s).2, t.add (.offer e)) from rfl, ih]
    simp [Trace.add]

theorem takes_watched (k : Sink σ) (es : List Entry) (s : σ) (t : Trace) :
    k.watched.Takes es (s, t) ↔ k.Takes es s := by
  induction es generalizing s t with
  | nil => rfl
  | cons e es ih => exact and_congr Iff.rfl (ih (k.register e s).2 (t.add (.offer e)))

/-- The one call of a probe. -/
theorem call_watched (answer : Mode → String → Except Error String) (mode : Mode) (source : String)
    (s : σ) (t : Trace) :
    (Toolchain.ofFunction answer).watched.call mode source (s, t) =
      (answer mode source, s, t.add (.call mode source)) := rfl

theorem Probe.found_eq_ok (h : p.found answer = .ok es) :
    ∃ output q, answer p.mode p.source = .ok output ∧ p.analyse output = (.ok (), q) ∧ q.entries = es := by
  unfold Probe.found at h
  split at h
  · cases h
  next output ha =>
    split at h
    · cases h
    next q hq =>
      cases h
      exact ⟨output, q, ha, hq, rfl⟩

/-- A probe that finds nothing asks for its program only. -/
theorem runProbe_of_error {err : Error} (t : Trace) (hp : p.found answer = .error err) :
    runProbe (Toolchain.ofFunction answer).watched k.watched p (s, t) =
      (.error err, s, ⟨t.events ++ [.call p.mode p.source]⟩) := by
  unfold Probe.found at hp
  unfold runProbe
  rw [call_watched]
  split at hp
  next err' ha =>
    cases hp
    simp only [ha]
    rfl
  next output ha =>
    split at hp
    next err' _ hq =>
      cases hp
      simp only [ha, hq]
      rfl
    · cases hp

/-- A probe whose entries the sink takes. -/
theorem runProbe_of_takes (t : Trace) (hp : p.found answer = .ok es) (hs : k.Takes es s) :
    runProbe (Toolchain.ofFunction answer).watched k.watched p (s, t) =
      (.ok es.length, k.after es s, ⟨t.events ++ .call p.mode p.source :: es.map .offer⟩) := by
  obtain ⟨output, q, ha, hq, rfl⟩ := Probe.found_eq_ok hp
  have hsave := saveAll_of_takes ((takes_watched k q.entries s (t.add (.call p.mode p.source))).mpr hs)
  rw [after_watched] at hsave
  unfold runProbe
  rw [call_watched]
  simp only [ha, hq, hsave]
  simp [Trace.add]

/-- A probe of whose entries the sink refuses one. -/
theorem runProbe_of_refused {before others : List Entry} {e : Entry} {err : Error} {s' : σ} (t : Trace)
    (hp : p.found answer = .ok (before ++ e :: others)) (hs : k.Takes before s)
    (he : k.register e (k.after before s) = (.error err, s')) :
    runProbe (Toolchain.ofFunction answer).watched k.watched p (s, t) =
      (.error err, s', ⟨t.events ++ .call p.mode p.source :: (before ++ [e]).map .offer⟩) := by
  obtain ⟨output, q, ha, hq, hentries⟩ := Probe.found_eq_ok hp
  have htakes := (takes_watched k before s (t.add (.call p.mode p.source))).mpr hs
  have hrefused : k.watched.register e (k.watched.after before (s, t.add (.call p.mode p.source))) =
      (.error err, s', ⟨t.events ++ .call p.mode p.source :: (before ++ [e]).map .offer⟩) := by
    rw [after_watched]
    simp [Sink.watched, he, Trace.add]
  unfold runProbe
  rw [call_watched]
  simp [ha, hq, hentries, saveAll_of_refused htakes hrefused]

/-- What the probes of a run ask for, come to and leave is some course. -/
theorem runProbes_course (answer : Mode → String → Except Error String) (k : Sink σ) (ps : List Probe)
    (s : σ) (t : Trace) :
    ∃ events r s', Course answer k ps s events r s' ∧
      runProbes (Toolchain.ofFunction answer).watched k.watched ps (s, t) =
        (r, s', ⟨t.events ++ events⟩) := by
  induction ps generalizing s t with
  | nil =>
    refine ⟨_, _, _, @Course.all _ _ _ _ _ [] rfl .nil trivial, ?_⟩
    simp [runProbes, Done.events, Done.summaries, Done.entries]
  | cons p ps ih =>
    cases hp : p.found answer with
    | error err =>
      refine ⟨_, _, _, @Course.probe _ _ _ _ _ [] p ps err rfl .nil trivial hp, ?_⟩
      simp [runProbes, runProbe_of_error t hp, Done.events, Done.entries]
    | ok es =>
      rcases k.takes_or_refuses es s with hs | ⟨before, e, others, err, s', rfl, hs, he⟩
      · obtain ⟨events, r, s', hcourse, hrun⟩ :=
          ih (k.after es s) ⟨t.events ++ .call p.mode p.source :: es.map .offer⟩
        refine ⟨_, _, _, hcourse.cons hp hs, ?_⟩
        simp only [runProbes, runProbe_of_takes t hp hs, hrun]
        cases r <;> simp [Except.map]
      · refine ⟨_, _, _, @Course.entry _ _ _ _ _ [] p ps before e others err s' rfl .nil hp hs he, ?_⟩
        simp [runProbes, runProbe_of_refused t hp hs he, Done.events]

/-- A watched run goes some way, which its trace tells. -/
theorem run_history (answer : Mode → String → Except Error String) (k : Sink σ) (platform : Platform)
    (c : Catalog) (s : σ) :
    ∃ events r s', History answer k platform (c.probes platform) s events r s' ∧
      run (Toolchain.ofFunction answer).watched k.watched platform c (s, .empty) =
        (r, s', ⟨events⟩) := by
  obtain ⟨events, r, s₁, hcourse, hrun⟩ := runProbes_course answer k (c.probes platform) s .empty
  unfold run
  rw [hrun]
  cases r with
  | error err => exact ⟨_, _, _, .aborted hcourse, rfl⟩
  | ok summaries =>
    cases hf : k.finish s₁ with
    | mk r s₂ =>
      refine ⟨_, _, _, .finished hcourse hf, ?_⟩
      cases r <;> simp [Sink.watched, hf, Trace.add, Trace.empty, Except.map]

end

/-! ## Watching changes nothing -/

theorem saveAll_watched (k : Sink σ) (es : List Entry) (s : σ) (t : Trace) :
    ∃ t', saveAll k.watched es (s, t) = ((saveAll k es s).1, (saveAll k es s).2, t') := by
  induction es generalizing s t with
  | nil => exact ⟨t, rfl⟩
  | cons e es ih =>
    cases hr : k.register e s with
    | mk r s₁ =>
      have hw : k.watched.register e (s, t) = (r, s₁, t.add (.offer e)) := by simp [Sink.watched, hr]
      cases r with
      | error err => exact ⟨t.add (.offer e), by simp only [saveAll, hw, hr]⟩
      | ok u =>
        obtain ⟨t', ht⟩ := ih s₁ (t.add (.offer e))
        exact ⟨t', by simp only [saveAll, hw, hr, ht]⟩

theorem runProbe_watched (tc : Toolchain σ) (k : Sink σ) (p : Probe) (s : σ) (t : Trace) :
    ∃ t', runProbe tc.watched k.watched p (s, t) =
      ((runProbe tc k p s).1, (runProbe tc k p s).2, t') := by
  cases hc : tc.call p.mode p.source s with
  | mk r s₁ =>
    have hw : tc.watched.call p.mode p.source (s, t) = (r, s₁, t.add (.call p.mode p.source)) := by
      simp [Toolchain.watched, hc]
    cases r with
    | error err => exact ⟨t.add (.call p.mode p.source), by simp only [runProbe, hw, hc]⟩
    | ok output =>
      rcases hq : p.analyse output with ⟨_ | _, q⟩
      · exact ⟨t.add (.call p.mode p.source), by simp only [runProbe, hw, hc, hq]⟩
      · obtain ⟨t', ht⟩ := saveAll_watched k q.entries s₁ (t.add (.call p.mode p.source))
        refine ⟨t', ?_⟩
        simp only [runProbe, hw, hc, hq, ht]
        rcases saveAll k q.entries s₁ with ⟨_ | _, s₂⟩ <;> rfl

theorem runProbes_watched (tc : Toolchain σ) (k : Sink σ) (ps : List Probe) (s : σ) (t : Trace) :
    ∃ t', runProbes tc.watched k.watched ps (s, t) =
      ((runProbes tc k ps s).1, (runProbes tc k ps s).2, t') := by
  induction ps generalizing s t with
  | nil => exact ⟨t, rfl⟩
  | cons p ps ih =>
    obtain ⟨t₁, ht₁⟩ := runProbe_watched tc k p s t
    rcases hp : runProbe tc k p s with ⟨_ | entries, s₁⟩
    · exact ⟨t₁, by simp only [runProbes, ht₁, hp]⟩
    · obtain ⟨t₂, ht₂⟩ := ih s₁ t₁
      refine ⟨t₂, ?_⟩
      simp only [runProbes, ht₁, hp, ht₂]
      rcases runProbes tc k ps s₁ with ⟨_ | _, s₂⟩ <;> rfl

theorem run_watched_eq (tc : Toolchain σ) (k : Sink σ) (platform : Platform) (c : Catalog) (s : σ)
    (t : Trace) :
    ∃ t', run tc.watched k.watched platform c (s, t) =
      ((run tc k platform c s).1, (run tc k platform c s).2, t') := by
  obtain ⟨t₁, ht₁⟩ := runProbes_watched tc k (c.probes platform) s t
  rcases hp : runProbes tc k (c.probes platform) s with ⟨_ | summaries, s₁⟩
  · exact ⟨t₁, by simp only [run, ht₁, hp]⟩
  · rcases hf : k.finish s₁ with ⟨r, s₂⟩
    have hw : k.watched.finish (s₁, t₁) = (r, s₂, t₁.add .finish) := by simp [Sink.watched, hf]
    refine ⟨t₁.add .finish, ?_⟩
    simp only [run, ht₁, hp, hw, hf]
    cases r <;> rfl

/-- A run goes some way, watched or not. -/
theorem History.of_run (answer : Mode → String → Except Error String) (k : Sink σ)
    (platform : Platform) (c : Catalog) (s : σ) :
    ∃ events, History answer k platform (c.probes platform) s events
      (run (.ofFunction answer) k platform c s).1 (run (.ofFunction answer) k platform c s).2 := by
  obtain ⟨events, r, s', hh, hrun⟩ := run_history answer k platform c s
  obtain ⟨t', ht⟩ := run_watched_eq (.ofFunction answer) k platform c s .empty
  rw [hrun, Prod.mk.injEq, Prod.mk.injEq] at ht
  obtain ⟨rfl, rfl, -⟩ := ht
  exact ⟨events, hh⟩

/-! ## The programs of a catalog -/

/-- The programs that a catalog asks for, in order: those of its structs and
of its groups are run, and the one for its typedefs, if it names headers, is
preprocessed. -/
def Catalog.requests (c : Catalog) : List (Mode × String) :=
  c.structs.map (fun d => (.execute, (StructProbe.ofDecl d).source)) ++
    c.groups.map (fun d => (.execute, (ConstantProbe.ofDecl d).source)) ++
    (if c.typedefHeaders = [] then [] else [(.preprocess, Program.includeLines c.typedefHeaders)])

theorem forPlatform_headers (headers : List String) (platform : Platform) :
    (TypedefProbe.forPlatform headers platform).headers = headers := by
  unfold TypedefProbe.forPlatform
  split <;> rfl

theorem map_request_probes (c : Catalog) (platform : Platform) :
    (c.probes platform).map (fun p => (p.mode, p.source)) = c.requests := by
  unfold Catalog.probes Catalog.requests
  simp only [List.map_append, List.map_map, List.isEmpty_iff]
  congr 1
  split
  · rfl
  · simp [Probe.mode, Probe.source, TypedefProbe.source, forPlatform_headers]

section

variable {answer : Mode → String → Except Error String} {k : Sink σ} {ps : List Probe} {s s' : σ}
  {events : List Event}

theorem calls_append (a b : List Event) : Trace.calls ⟨a ++ b⟩ = Trace.calls ⟨a⟩ ++ Trace.calls ⟨b⟩ := by
  simp [Trace.calls]

theorem calls_probe (p : Probe) (es : List Entry) :
    Trace.calls ⟨.call p.mode p.source :: es.map .offer⟩ = [(p.mode, p.source)] := by
  simp [Trace.calls, List.filterMap_map]

theorem calls_events (done : Done) :
    Trace.calls ⟨done.events⟩ = done.probes.map fun p => (p.mode, p.source) := by
  induction done with
  | nil => rfl
  | cons d done ih =>
    obtain ⟨p, es⟩ := d
    rw [Done.events_cons, calls_append, calls_probe, ih]
    rfl

theorem offers_append (a b : List Event) :
    Trace.offers ⟨a ++ b⟩ = Trace.offers ⟨a⟩ ++ Trace.offers ⟨b⟩ := by
  simp [Trace.offers]

theorem offers_probe (p : Probe) (es : List Entry) :
    Trace.offers ⟨.call p.mode p.source :: es.map .offer⟩ = es := by
  induction es with
  | nil => rfl
  | cons e es ih => exact congrArg (e :: ·) ih

theorem offers_events (done : Done) : Trace.offers ⟨done.events⟩ = done.entries := by
  induction done with
  | nil => rfl
  | cons d done ih =>
    obtain ⟨p, es⟩ := d
    rw [Done.events_cons, offers_append, offers_probe, ih, Done.entries_cons]

/-- The entries of a summary are counted probe by probe. -/
theorem total_summaries (platform : Platform) (name : String) (done : Done) :
    Summary.total ⟨platform, name, done.summaries⟩ = done.entries.length := by
  induction done with
  | nil => rfl
  | cons d done ih =>
    obtain ⟨p, es⟩ := d
    rw [Done.entries_cons, List.length_append, ← ih]
    rfl

/-- A run calls the toolchain for its first probes, in order. -/
theorem Course.calls_prefix {r : Except Error (List ProbeSummary)}
    (h : Course answer k ps s events r s') :
    Trace.calls ⟨events⟩ <+: ps.map fun p => (p.mode, p.source) := by
  cases h with
  | @all done hps =>
    have hcalls := calls_events done
    rw [hps] at hcalls
    exact hcalls ▸ List.prefix_refl _
  | @probe done p rest err hps =>
    rw [calls_append, calls_events, ← hps, List.map_append]
    exact (List.prefix_append_right_inj _).mpr ⟨rest.map _, rfl⟩
  | @entry done p rest before e others err s' hps =>
    rw [calls_append, calls_events, calls_probe, ← hps, List.map_append]
    exact (List.prefix_append_right_inj _).mpr ⟨rest.map _, rfl⟩

theorem History.calls_prefix {platform : Platform} {r : Except Error Summary}
    (h : History answer k platform ps s events r s') :
    Trace.calls ⟨events⟩ <+: ps.map fun p => (p.mode, p.source) := by
  cases h with
  | finished hc =>
    rw [calls_append]
    simpa [Trace.calls] using hc.calls_prefix
  | aborted hc => exact hc.calls_prefix

/-- A run that succeeds has called the toolchain for every probe, and its
summary counts all that the sink was offered. -/
theorem History.of_ok {platform : Platform} {summary : Summary}
    (h : History answer k platform ps s events (.ok summary) s') :
    Trace.calls ⟨events⟩ = ps.map (fun p => (p.mode, p.source)) ∧
      summary.total = (Trace.offers ⟨events⟩).length := by
  generalize hr : (Except.ok summary : Except Error Summary) = r at h
  cases h with
  | @finished events summaries s₁ r s₂ hc hf =>
    cases r with
    | error err => cases hr
    | ok u =>
      cases hr
      cases hc with
      | @all done hps =>
        rw [calls_append, offers_append, calls_events, offers_events, hps, total_summaries]
        exact ⟨List.append_nil _, congrArg List.length (List.append_nil _).symm⟩
  | aborted => cases hr

end

/-- **A run goes in order, up to the first failure.** Whatever the toolchain
answers and whatever the sink refuses: watching a run changes neither its
result nor its sink, and the trace is a history of its probes (`History`).
The programs asked for are the first of those of the catalog; if the run
succeeds, they are all of them, and its summary counts the entries offered. -/
theorem run_watched (answer : Mode → String → Except Error String) (k : Sink σ) (platform : Platform)
    (c : Catalog) (s : σ) :
    ∃ t, run (Toolchain.ofFunction answer).watched k.watched platform c (s, .empty) =
        ((run (.ofFunction answer) k platform c s).1, (run (.ofFunction answer) k platform c s).2, t) ∧
      History answer k platform (c.probes platform) s t.events
        (run (.ofFunction answer) k platform c s).1 (run (.ofFunction answer) k platform c s).2 ∧
      t.calls <+: c.requests ∧
      ∀ summary, (run (.ofFunction answer) k platform c s).1 = .ok summary →
        t.calls = c.requests ∧ summary.total = t.offers.length := by
  obtain ⟨events, r, s', hh, hrun⟩ := run_history answer k platform c s
  obtain ⟨t, ht⟩ := run_watched_eq (.ofFunction answer) k platform c s .empty
  refine ⟨t, ht, ?_⟩
  rw [hrun, Prod.mk.injEq, Prod.mk.injEq] at ht
  obtain ⟨rfl, rfl, rfl⟩ := ht
  refine ⟨hh, map_request_probes c platform ▸ hh.calls_prefix, fun summary hok => ?_⟩
  rw [hok] at hh
  rw [← map_request_probes c platform]
  exact hh.of_ok

end AbiProbe
