/-
A run that fails leaves the files as they were, whatever made it fail: the
configuration or the catalog, the opening of the sink, the toolchain, the
analysis of a probe, the sink's refusal of an entry, or a step of its end.
The destination is as it was and no temporary file is left
(`generate_files`).

Both sinks wait with what they take: the flat one beside a temporary file
that nothing else uses, the embedded one in memory. `Careful` says what a
sink has to keep at each step, and `Careful.files` what a run into it then
leaves.
-/
import AbiProbe.CommandLine
import AbiProbe.Proofs.RunHistory
import AbiProbe.Proofs.SinkFacts

namespace AbiProbe

open CommandLine FileSystem

variable {σ : Type}

/-! ## Sinks that wait -/

/-- What a run leaves of the files: if it fails all of them as they were, else
all but the one that a path names. -/
def FilesAfter {ε α : Type} (path : String) (before : FileSystem) :
    Except ε α × FileSystem → Prop
  | (.error _, after) => after = before
  | (.ok _, after) => ∃ content mode, Replaced path content mode before after

/-- A sink that changes a file only where its end succeeds. While it `Waits`,
giving it up leaves the files `before`. -/
structure Careful (path : String) (before : FileSystem) (k : Sink (σ × FileSystem))
    (drop : σ → FileSystem → FileSystem) (Waits : σ × FileSystem → Prop) : Prop where
  register : ∀ e s, Waits s → Waits (k.register e s).2
  dropped : ∀ s, Waits s → drop s.1 s.2 = before
  finish : ∀ s, Waits s →
    FilesAfter path before ((k.finish s).1, drop (k.finish s).2.1 (k.finish s).2.2)

/-- What holds after each entry holds after all. -/
theorem Sink.after_induction {k : Sink σ} {P : σ → Prop} (h : ∀ e s, P s → P (k.register e s).2)
    (es : List Entry) {s : σ} (hs : P s) : P (k.after es s) := by
  induction es generalizing s with
  | nil => exact hs
  | cons e es ih => exact ih (h e s hs)

section

variable {path : String} {before : FileSystem} {k : Sink (σ × FileSystem)}
  {drop : σ → FileSystem → FileSystem} {Waits : σ × FileSystem → Prop}
  {answer : Mode → String → Except Error String} {ps : List Probe} {s s' : σ × FileSystem}
  {events : List Event}

/-- A careful sink still waits when the last probe is done, and also if one
fails or an entry is refused. -/
theorem Careful.course (h : Careful path before k drop Waits) (hs : Waits s)
    {r : Except Error (List ProbeSummary)} (hc : Course answer k ps s events r s') : Waits s' := by
  cases hc with
  | all => exact Sink.after_induction h.register _ hs
  | probe => exact Sink.after_induction h.register _ hs
  | @entry done p rest taken e others err s' hps hd hp ht he =>
    have hlast := h.register e _ (Sink.after_induction h.register (done.entries ++ taken) hs)
    rw [he] at hlast
    exact hlast

theorem Careful.history (h : Careful path before k drop Waits) (hs : Waits s) {platform : Platform}
    {r : Except Error Summary} (hh : History answer k platform ps s events r s') :
    FilesAfter path before (r, drop s'.1 s'.2) := by
  cases hh with
  | @finished _ summaries s₁ r s₂ hc hf =>
    have hend := h.finish s₁ (h.course hs hc)
    rw [hf] at hend
    cases r with
    | error err => exact hend
    | ok u => exact hend
  | aborted hc => exact h.dropped _ (h.course hs hc)

theorem FilesAfter.during {α : Type} {context : String} {r : Except Error α} {after : FileSystem}
    (h : FilesAfter path before (r, after)) :
    FilesAfter path before (during context r, after) := by
  cases r with
  | error err => exact h
  | ok a => exact h

/-- What a run into a careful sink leaves. -/
theorem Careful.files (h : Careful path before k drop Waits) (hs : Waits s)
    (answer : Mode → String → Except Error String) (setting : Setting) (c : Catalog) :
    FilesAfter path before (runInto (.ofFunction answer) setting c k drop s) := by
  obtain ⟨events, hh⟩ := History.of_run answer k setting.platform c s
  exact (h.history hs hh).during

end

/-! ## The two file sinks -/

theorem FlatSink.careful (faults : Faults) (path : String) (before : FileSystem) :
    Careful path before (FlatSink.sink faults) FlatSink.discard
      (fun s => s.1.path = path ∧ FlatSink.Waits before s) where
  register e s h := ⟨(FlatSink.append_path faults e s.1).trans h.1, h.2.append e⟩
  dropped s h := h.2.discard
  finish s h := by
    obtain ⟨s, fs⟩ := s
    obtain ⟨rfl, hw⟩ := h
    cases hf : s.finish faults fs with
    | mk r s' =>
      obtain ⟨s', fs'⟩ := s'
      simp only [FlatSink.sink, hf]
      cases r with
      | error err =>
        obtain ⟨rfl, rfl⟩ := FlatSink.finish_error hw hf
        rfl
      | ok u =>
        obtain ⟨rfl, d, -, hreplaced⟩ := FlatSink.finish_ok hw hf
        exact ⟨_, _, hreplaced⟩

theorem PatchSink.careful (faults : Faults) (path : String) (before : FileSystem) :
    Careful path before (PatchSink.sink faults) (fun _ fs => fs)
      (fun s => s.1.path = path ∧ s.1.finished = false ∧ s.2 = before) where
  register e s h := by
    obtain ⟨s, fs⟩ := s
    obtain ⟨hpath, hopen, hfs⟩ := h
    simp only [PatchSink.sink, PatchSink.register_open hopen]
    exact ⟨hpath, hopen, hfs⟩
  dropped s h := h.2.2
  finish s h := by
    obtain ⟨s, fs⟩ := s
    obtain ⟨rfl, hopen, rfl⟩ := h
    cases hf : s.finish faults fs with
    | mk r s' =>
      obtain ⟨s', fs'⟩ := s'
      simp only [PatchSink.sink, hf]
      cases r with
      | error err => exact (PatchSink.finish_error hf).2.1
      | ok u =>
        obtain ⟨-, target, -, hreplaced⟩ := PatchSink.finish_ok hopen hf
        exact ⟨_, _, hreplaced⟩

/-! ## The program -/

variable (answer : Mode → String → Except Error String) (faults : Faults) (s : Setting) (c : Catalog)

theorem runFlat_files (config : Config) (fs : FileSystem) :
    FilesAfter config.flatOutput fs (runFlat (.ofFunction answer) faults s config c fs) := by
  unfold runFlat
  cases hopen : FlatSink.start faults fs config.flatOutput config.root with
  | error err => rfl
  | ok start => exact (FlatSink.careful ..).files (FlatSink.start_ok hopen) answer s c

theorem runEmbedded_files (config : Config) (fs : FileSystem) :
    FilesAfter (config.patchTarget s.platform) fs
      (runEmbedded (.ofFunction answer) faults s config c fs) := by
  unfold runEmbedded
  cases hopen : PatchSink.start faults fs (config.patchTarget s.platform) config.patch config.root
      s.platform s.stamp with
  | error err =>
    simp only [hopen]
    rfl
  | ok start =>
    simp only [hopen]
    obtain ⟨hpath, hunfinished⟩ := PatchSink.load_ok (PatchSink.start_ok hopen)
    exact (PatchSink.careful ..).files ⟨hpath, hunfinished, rfl⟩ answer s c

/-- A run that can read its configuration and its catalog is one into the sink
that it asks for. -/
theorem generate_cases (toolchain : Config → Toolchain FileSystem) (a : Arguments) (fs : FileSystem) :
    (∃ failure, generate toolchain faults s a fs = (.error failure, fs)) ∨
    ∃ config c, loadConfig a fs = .ok config ∧ loadCatalog a fs = .ok c ∧
      generate toolchain faults s a fs = match config.sink with
        | .flat => runFlat (toolchain config) faults s config c fs
        | .embedded => runEmbedded (toolchain config) faults s config c fs := by
  unfold generate
  cases loadConfig a fs with
  | error failure => exact .inl ⟨failure, rfl⟩
  | ok config =>
    cases loadCatalog a fs with
    | error failure => exact .inl ⟨failure, rfl⟩
    | ok c => exact .inr ⟨config, c, rfl, rfl, rfl⟩

/-- **A failed run changes no file.** Whatever the arguments, the files they
name, the toolchain and the faults of the device: if the run fails, the files
are exactly as they were. If it succeeds, only the destination is not. -/
theorem generate_files (answer : Config → Mode → String → Except Error String) (faults : Faults)
    (s : Setting) (a : Arguments) (fs : FileSystem) :
    match generate (fun config => .ofFunction (answer config)) faults s a fs with
    | (.error _, after) => after = fs
    | (.ok _, after) => ∃ config content mode, loadConfig a fs = .ok config ∧
        Replaced (destination config s.platform) content mode fs after := by
  rcases generate_cases faults s (fun config => .ofFunction (answer config)) a fs with
    ⟨failure, hrun⟩ | ⟨config, c, hconfig, -, hrun⟩
  · rw [hrun]
  · have hfiles : FilesAfter (destination config s.platform) fs
        (generate (fun config => .ofFunction (answer config)) faults s a fs) := by
      rw [hrun]
      unfold destination
      cases config.sink with
      | flat => exact runFlat_files ..
      | embedded => exact runEmbedded_files ..
    split
    next failure after hgen =>
      rw [hgen] at hfiles
      exact hfiles
    next summary after hgen =>
      rw [hgen] at hfiles
      obtain ⟨content, mode, hreplaced⟩ := hfiles
      exact ⟨config, content, mode, hconfig, hreplaced⟩

end AbiProbe
