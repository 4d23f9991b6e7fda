/-
What a run comes to that succeeds, with its sink apart. What the probes find
depends on the toolchain alone (`Finds`); a run succeeds if every probe finds
its entries, the sink takes all of them and then finishes (`run_eq_ok_iff`).
So where a run into one sink succeeds, it is known what a run into another
one offers to it.
-/
import AbiProbe.Proofs.RunHistory
import AbiProbe.Proofs.SinkAgreement

namespace AbiProbe

variable {σ τ : Type}

/-! ## Saving -/

/-- Entries are saved if the sink takes each of them. -/
theorem saveAll_eq_ok_iff {k : Sink σ} {es : List Entry} {s s' : σ} :
    saveAll k es s = (.ok (), s') ↔ k.Takes es s ∧ k.after es s = s' := by
  rcases k.takes_or_refuses es s with ht | ⟨before, e, rest, err, s₁, rfl, hb, he⟩
  · simp [saveAll_of_takes ht, ht]
  · have hnot : ¬ k.Takes (before ++ e :: rest) s := by
      rw [Sink.takes_append]
      intro h
      have hrefused := h.2.1
      rw [he] at hrefused
      cases hrefused
    simp [saveAll_of_refused hb he, hnot]

/-- Two rows of entries are saved one after the other. -/
theorem saveAll_append_eq_ok_iff {k : Sink σ} {es es' : List Entry} {s s' : σ} :
    saveAll k (es ++ es') s = (.ok (), s') ↔
      ∃ s₁, saveAll k es s = (.ok (), s₁) ∧ saveAll k es' s₁ = (.ok (), s') := by
  simp only [saveAll_eq_ok_iff, Sink.takes_append, Sink.after_append]
  constructor
  · rintro ⟨⟨h, h'⟩, rfl⟩
    exact ⟨_, ⟨h, rfl⟩, h', rfl⟩
  · rintro ⟨s₁, ⟨h, rfl⟩, h', rfl⟩
    exact ⟨⟨h, h'⟩, rfl⟩

theorem saveAll_beside (k : Sink σ) (es : List Entry) (s : σ) (u : τ) :
    saveAll k.beside es (s, u) = ((saveAll k es s).1, (saveAll k es s).2, u) := by
  induction es generalizing s with
  | nil => rfl
  | cons e es ih =>
    rcases hr : k.register e s with ⟨r, s₁⟩
    simp only [saveAll, Sink.beside, hr]
    cases r with
    | error err => rfl
    | ok _ => exact ih s₁

/-! ## Finding -/

/-- Probes find their entries, one after the other, by the outputs that a
toolchain gives. -/
inductive Finds (t : Toolchain τ) : List Probe → τ → Done → τ → Prop where
  | nil {u} : Finds t [] u [] u
  | cons {p ps u output u₁ q done u₂} : t.call p.mode p.source u = (.ok output, u₁) →
      p.analyse output = (.ok (), q) → Finds t ps u₁ done u₂ →
      Finds t (p :: ps) u ((p, q.entries) :: done) u₂

/-- Whatever is found, some probe has read it in some output. -/
theorem Finds.exists_analyse {t : Toolchain τ} {ps : List Probe} {u u' : τ} {done : Done}
    (h : Finds t ps u done u') : ∀ e ∈ done.entries, ∃ p ∈ ps, ∃ output q,
      p.analyse output = (.ok (), q) ∧ e ∈ q.entries := by
  induction h with
  | nil => simp [Done.entries]
  | @cons p ps u output u₁ q done u₂ _ hq _ ih =>
    intro e he
    rw [Done.entries_cons, List.mem_append] at he
    rcases he with he | he
    · exact ⟨p, List.mem_cons_self, output, q, hq, he⟩
    · obtain ⟨p', hp', hread⟩ := ih e he
      exact ⟨p', List.mem_cons_of_mem p hp', hread⟩

/-! ## Running -/

variable {t : Toolchain τ} {k : Sink σ} {s s' : σ} {u u' : τ}

theorem runProbe_eq_ok_iff {p : Probe} {n : Nat} :
    runProbe t.beside k.beside p (s, u) = (.ok n, s', u') ↔
      ∃ output q, t.call p.mode p.source u = (.ok output, u') ∧ p.analyse output = (.ok (), q) ∧
        saveAll k q.entries s = (.ok (), s') ∧ n = q.entries.length := by
  constructor
  · intro h
    rcases hcall : t.call p.mode p.source u with ⟨r, u₁⟩
    simp only [runProbe, Toolchain.beside, hcall] at h
    cases r with
    | error err => cases h
    | ok output =>
      rcases hq : p.analyse output with ⟨_ | _, q⟩
      · simp [hq] at h
      · simp only [hq, saveAll_beside] at h
        rcases hsave : saveAll k q.entries s with ⟨r, s₁⟩
        rw [hsave] at h
        cases r with
        | error err => cases h
        | ok _ =>
          cases h
          exact ⟨output, q, rfl, hq, hsave, rfl⟩
  · rintro ⟨output, q, hcall, hq, hsave, rfl⟩
    simp only [runProbe, Toolchain.beside, hcall, hq, saveAll_beside, hsave]

theorem runProbes_eq_ok_iff {ps : List Probe} {summaries : List ProbeSummary} :
    runProbes t.beside k.beside ps (s, u) = (.ok summaries, s', u') ↔
      ∃ done, Finds t ps u done u' ∧ saveAll k done.entries s = (.ok (), s') ∧
        summaries = done.summaries := by
  induction ps generalizing s u summaries with
  | nil =>
    simp only [runProbes, Prod.mk.injEq, Except.ok.injEq]
    constructor
    · rintro ⟨rfl, rfl, rfl⟩
      exact ⟨[], .nil, rfl, rfl⟩
    · rintro ⟨done, hfinds, hsave, rfl⟩
      cases hfinds
      cases hsave
      exact ⟨rfl, rfl, rfl⟩
  | cons p ps ih =>
    constructor
    · intro h
      rcases hp : runProbe t.beside k.beside p (s, u) with ⟨r, s₁, u₁⟩
      simp only [runProbes, hp] at h
      cases r with
      | error err => cases h
      | ok n =>
        dsimp only at h
        rcases hps : runProbes t.beside k.beside ps (s₁, u₁) with ⟨r, s₂, u₂⟩
        rw [hps] at h
        cases r with
        | error err => cases h
        | ok rest =>
          cases h
          obtain ⟨output, q, hcall, hq, hsave, rfl⟩ := runProbe_eq_ok_iff.mp hp
          obtain ⟨done, hfinds, hsaved, rfl⟩ := ih.mp hps
          exact ⟨_, .cons hcall hq hfinds, saveAll_append_eq_ok_iff.mpr ⟨_, hsave, hsaved⟩, rfl⟩
    · rintro ⟨done, hfinds, hsave, rfl⟩
      cases hfinds with
      | @cons _ _ _ output u₁ q done _ hcall hq hfinds =>
        obtain ⟨s₁, hfirst, hrest⟩ := saveAll_append_eq_ok_iff.mp hsave
        have hp := runProbe_eq_ok_iff.mpr ⟨output, q, hcall, hq, hfirst, rfl⟩
        have hps := ih.mpr ⟨done, hfinds, hrest, rfl⟩
        simp only [runProbes, hp, hps]
        rfl

/-- A run succeeds if all that its probes find goes into the sink, and the
sink then finishes. -/
theorem run_eq_ok_iff {platform : Platform} {c : Catalog} {summary : Summary} :
    run t.beside k.beside platform c (s, u) = (.ok summary, s', u') ↔
      ∃ done s₁, Finds t (c.probes platform) u done u' ∧ saveAll k done.entries s = (.ok (), s₁) ∧
        k.finish s₁ = (.ok (), s') ∧ summary = ⟨platform, k.name, done.summaries⟩ := by
  constructor
  · intro h
    rcases hps : runProbes t.beside k.beside (c.probes platform) (s, u) with ⟨r, s₁, u₁⟩
    simp only [run, hps] at h
    cases r with
    | error err => cases h
    | ok summaries =>
      rcases hf : k.finish s₁ with ⟨r, s₂⟩
      simp only [Sink.beside, hf] at h
      cases r with
      | error err => cases h
      | ok _ =>
        cases h
        obtain ⟨done, hfinds, hsave, rfl⟩ := runProbes_eq_ok_iff.mp hps
        exact ⟨done, s₁, hfinds, hsave, hf, rfl⟩
  · rintro ⟨done, s₁, hfinds, hsave, hf, rfl⟩
    have hps := runProbes_eq_ok_iff.mpr ⟨done, hfinds, hsave, rfl⟩
    have hfinish : k.beside.finish (s₁, u') = (.ok (), s', u') := by simp only [Sink.beside, hf]
    simp only [run, hps, hfinish]
    rfl

end AbiProbe
