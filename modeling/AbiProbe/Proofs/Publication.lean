/-
When a file can be replaced. A place can be written if a path leads there and
no directory stands there (`Writable`); that of a file can be
(`writable_of_find`). On a device without faults a temporary file can then be
created beside it and put in its place (`Writable.createTemporary`,
`Writable.publish`), so both file sinks open and finish.

Both need the directory to be there. A path is only resolved through
directories, so all places on the way to its own are (`reached_of_walk`).
-/
import AbiProbe.Proofs.PathFacts
import AbiProbe.Proofs.SinkFacts

namespace AbiProbe

namespace FileSystem

/-! ## The way to a place -/

/-- Whether the places on the way to a place are directories. -/
def Reached (fs : FileSystem) (place : Place) : Prop :=
  ∀ n < place.length, ∃ mode, fs.node? (place.take n) = some (.directory mode)

/-- A part leads on from a directory: nowhere else, back, or into it. -/
theorem enter_eq_ok {fs : FileSystem} {place q : Place} {part : String} (h : fs.enter place part = .ok q) :
    (∃ mode, fs.node? place = some (.directory mode)) ∧
      (q = place ∨ (place ≠ [] ∧ q = place.dropLast) ∨ q = place ++ [part]) := by
  unfold enter at h
  split at h
  · cases h
  · cases h
  next mode hn =>
    refine ⟨⟨mode, hn⟩, ?_⟩
    split at h
    · cases h
    · split at h
      · cases h
        exact .inl rfl
      · split at h
        · split at h
          · cases h
          next hne =>
            split at h
            · cases h
              exact .inl rfl
            · cases h
              exact .inr (.inl ⟨by simpa using hne, rfl⟩)
        · cases h
          exact .inr (.inr rfl)

theorem Reached.dropLast {fs : FileSystem} {place : Place} (h : fs.Reached place) :
    fs.Reached place.dropLast := by
  intro n hn
  rw [List.length_dropLast] at hn
  rw [List.dropLast_eq_take, List.take_take, Nat.min_eq_left (by omega)]
  exact h n (by omega)

theorem Reached.enter {fs : FileSystem} {place q : Place} {part : String} (h : fs.Reached place)
    (he : fs.enter place part = .ok q) : fs.Reached q := by
  obtain ⟨hdir, rfl | ⟨-, rfl⟩ | rfl⟩ := enter_eq_ok he
  · exact h
  · exact h.dropLast
  · intro n hn
    rw [List.length_append, List.length_singleton] at hn
    rw [List.take_append_of_le_length (by omega)]
    rcases Nat.lt_or_eq_of_le (Nat.le_of_lt_succ hn) with hlt | rfl
    · exact h n hlt
    · rw [List.take_length]
      exact hdir

theorem Reached.foldlM_enter {fs : FileSystem} {parts : List String} {start place : Place}
    (h : fs.Reached start) (hp : parts.foldlM fs.enter start = .ok place) : fs.Reached place := by
  induction parts generalizing start with
  | nil =>
    cases hp
    exact h
  | cons part parts ih =>
    rw [List.foldlM_cons] at hp
    cases he : fs.enter start part with
    | error f => simp [he, bind, Except.bind] at hp
    | ok q =>
      rw [he] at hp
      exact ih (h.enter he) hp

theorem reached_of_walk {fs : FileSystem} {parts : List String} {place : Place}
    (h : fs.walk parts = .ok place) : fs.Reached place := by
  have htop : fs.Reached [Path.top] := by
    intro n hn
    obtain rfl : n = 0 := by simpa using hn
    exact ⟨0o755, rfl⟩
  unfold walk at h
  split at h
  · cases h
  · split at h
    · exact htop.foldlM_enter h
    · exact Reached.foldlM_enter (by intro n hn; simp at hn) h

/-- The last part is entered from where those before it lead. -/
theorem walk_append (fs : FileSystem) {parts : List String} (hne : parts ≠ []) (last : String) :
    fs.walk (parts ++ [last]) = (fs.walk parts).bind fun dir => fs.enter dir last := by
  have hsplit : ∀ (ps : List String) start, (ps ++ [last]).foldlM fs.enter start =
      (ps.foldlM fs.enter start).bind fun dir => fs.enter dir last := by
    intro ps start
    rw [List.foldlM_append]
    refine congrArg (Except.bind _) (funext fun dir => ?_)
    simp
  cases parts with
  | nil => exact absurd rfl hne
  | cons first rest =>
    simp only [walk, List.cons_append]
    split
    · exact hsplit rest _
    · exact hsplit (first :: rest) _

theorem walk_concat {fs : FileSystem} {parts : List String} (hne : parts ≠ []) {last : String}
    {place : Place} (h : fs.walk (parts ++ [last]) = .ok place) :
    ∃ dir, fs.walk parts = .ok dir ∧ fs.enter dir last = .ok place := by
  rw [walk_append fs hne] at h
  cases hd : fs.walk parts with
  | error f => simp [hd, Except.bind] at h
  | ok dir =>
    rw [hd] at h
    exact ⟨dir, rfl, h⟩

theorem resolve_eq_ok {fs : FileSystem} {path : String} {place : Place} (h : fs.resolve path = .ok place) :
    '\x00' ∉ path.toList ∧ fs.walk (Path.parts path) = .ok place := by
  unfold resolve at h
  split at h
  · cases h
  next hnul =>
    refine ⟨by simpa using hnul, ?_⟩
    split at h
    · cases h
    next found hwalk =>
      rw [hwalk]
      split at h
      · split at h
        · cases h
        · cases h
        · exact h
      · exact h

/-- Parts that lead to a directory. -/
theorem resolve_of_walk {fs : FileSystem} {path : String} {place : Place} {mode : Nat}
    (hnul : '\x00' ∉ path.toList) (hwalk : fs.walk (Path.parts path) = .ok place)
    (hdir : fs.node? place = some (.directory mode)) : fs.resolve path = .ok place := by
  simp [resolve, hnul, hwalk, hdir]

/-! ## Files that can be written -/

/-- A path names a place that can be written: it can be reached, and no
directory stands there. -/
structure Writable (fs : FileSystem) (path : String) (place : Place) : Prop where
  resolves : fs.resolve path = .ok place
  noDirectory : ∀ mode, fs.node? place ≠ some (.directory mode)

theorem find_eq_ok {fs : FileSystem} {path : String} {n : FileNode} (h : fs.find path = .ok n) :
    ∃ place, fs.resolve path = .ok place ∧ fs.node? place = some n := by
  unfold find at h
  cases hp : fs.resolve path with
  | error f => simp [hp, bind, Except.bind] at h
  | ok place =>
    cases hn : fs.node? place with
    | none => simp [hp, hn, bind, Except.bind] at h
    | some m =>
      obtain rfl : m = n := by simpa [hp, hn, bind, Except.bind, pure, Except.pure] using h
      exact ⟨place, rfl, hn⟩

/-- A file that is there can be written. -/
theorem writable_of_find {fs : FileSystem} {path : String} {content : ByteArray} {mode : Nat}
    (h : fs.find path = .ok (.file content mode)) :
    ∃ place, fs.Writable path place ∧ fs.node? place = some (.file content mode) := by
  obtain ⟨place, hp, hn⟩ := find_eq_ok h
  exact ⟨place, ⟨hp, by simp [hn]⟩, hn⟩

namespace Writable

variable {fs : FileSystem} {path : String} {place : Place}

/-- The directory of a file that can be written is there. -/
theorem directory (h : fs.Writable path place) :
    ∃ dir mode, fs.resolve (Path.directory path) = .ok dir ∧ fs.node? dir = some (.directory mode) := by
  obtain ⟨hnul, hwalk⟩ := resolve_eq_ok h.resolves
  have hne : Path.parts path ≠ [] := by
    intro he
    rw [he] at hwalk
    cases hwalk
  have hnul' : '\x00' ∉ (Path.directory path).toList := by
    intro hmem
    rcases Path.mem_directory hmem with hc | hc | hc
    · exact absurd hc (by decide)
    · exact absurd hc (by decide)
    · exact hnul hc
  have hparts := Path.parts_directory hne
  by_cases hnil : (Path.parts path).dropLast = []
  · rw [if_pos hnil] at hparts
    have hhere : fs.walk (Path.parts (Path.directory path)) = .ok [] := by
      rw [hparts]
      rfl
    exact ⟨[], 0o755, resolve_of_walk hnul' hhere rfl, rfl⟩
  · rw [if_neg hnil] at hparts
    rw [← List.dropLast_concat_getLast hne] at hwalk
    obtain ⟨dir, hdir, henter⟩ := walk_concat hnil hwalk
    obtain ⟨⟨mode, hn⟩, -⟩ := enter_eq_ok henter
    rw [← hparts] at hdir
    exact ⟨dir, mode, resolve_of_walk hnul' hdir hn, hn⟩

/-- Beside a file that can be written a temporary one can be created. -/
theorem createTemporary (h : fs.Writable path place) (stem suffix : String) :
    ∃ name source, fs.node? source = none ∧
      fs.createTemporary (Path.directory path) stem suffix =
        .ok (name, source, fs.put source (.file ByteArray.empty 0o600)) := by
  obtain ⟨dir, mode, hresolve, hdir⟩ := h.directory
  have hin : ∀ (d : Place) m, fs.node? d = some (.directory m) → ∃ name source,
      fs.temporaryIn d stem suffix = .ok (name, source, fs.put source (.file ByteArray.empty 0o600)) := by
    intro d m hd
    unfold temporaryIn
    rw [hd]
    exact ⟨_, _, rfl⟩
  have hcreated : ∃ name source, fs.createTemporary (Path.directory path) stem suffix =
      .ok (name, source, fs.put source (.file ByteArray.empty 0o600)) := by
    unfold FileSystem.createTemporary
    split
    · exact hin [] 0o755 rfl
    · rw [hresolve]
      exact hin dir mode hdir
  obtain ⟨name, source, hcreate⟩ := hcreated
  exact ⟨name, source, (createTemporary_eq_ok hcreate).1, hcreate⟩

theorem ne_nil (h : fs.Writable path place) : place ≠ [] := by
  rintro rfl
  exact h.noDirectory 0o755 rfl

/-- The directory that holds the place is there, by whatever path. -/
theorem parent (h : fs.Writable path place) :
    ∃ mode, fs.node? place.dropLast = some (.directory mode) := by
  have hpos := List.length_pos_iff.mpr h.ne_nil
  rw [List.dropLast_eq_take]
  exact reached_of_walk (resolve_eq_ok h.resolves).2 (place.length - 1) (by omega)

/-- A file that was written is found. -/
theorem find_put (h : fs.Writable path place) (content : ByteArray) (mode : Nat) :
    (fs.put place (.file content mode)).find path = .ok (.file content mode) :=
  find_of_resolve ((keepsDirectories_put h.noDirectory).resolve h.resolves) (node?_put_self h.ne_nil)

/-- A file that was written can be written again. -/
theorem put (h : fs.Writable path place) (content : ByteArray) (mode : Nat) :
    (fs.put place (.file content mode)).Writable path place where
  resolves := (keepsDirectories_put h.noDirectory).resolve h.resolves
  noDirectory m := by simp [node?_put_self h.ne_nil]

/-- Something else may be put where nothing was. -/
theorem put_other (h : fs.Writable path place) {source : Place} (hfree : fs.node? source = none)
    (content : ByteArray) (mode : Nat) :
    (fs.put source (.file content mode)).Writable path place where
  resolves := (keepsDirectories_put fun m => by simp [hfree]).resolve h.resolves
  noDirectory m hm := by
    by_cases he : source = place
    · subst he
      simp [node?_put_self h.ne_nil] at hm
    · exact h.noDirectory m ((node?_put_other he ..).symm.trans hm)

/-- On a device without faults a file that can be written is replaced, and
nothing else is changed. -/
theorem publish (h : fs.Writable path place) {source : Place} (hfree : fs.node? source = none)
    (old content : ByteArray) (oldMode mode : Nat) :
    (fs.put source (.file old oldMode)).publish Faults.none source content mode path =
      (.ok (), fs.put place (.file content mode)) := by
  have hsource := ne_nil_of_absent hfree
  obtain ⟨m, hparent⟩ := (h.put_other hfree content mode).parent
  -- simp takes this to leave out the case of a directory in the target's place
  have hnot := (h.put_other hfree content mode).noDirectory
  have hreplace : (fs.put source (.file content mode)).replace source path =
      .ok (fs.put place (.file content mode)) := by
    simp only [replace, (h.put_other hfree content mode).resolves, bind, Except.bind,
      node?_put_self hsource, hasDirectory, hparent, FileNode.isDirectory, if_true,
      erase_put_of_absent hfree]
    rfl
  simp [FileSystem.publish, Faults.none, setContent_put hsource, setMode_put hsource, hreplace]

end Writable

/-- A publication on a device without faults succeeds only where a file can be
written. -/
theorem exists_writable_iff {fs : FileSystem} {path : String} {source : Place}
    (hfree : fs.node? source = none) (old content : ByteArray) (oldMode mode : Nat) :
    (∃ place, fs.Writable path place) ↔
      ∃ after, (fs.put source (.file old oldMode)).publish Faults.none source content mode path =
        (.ok (), after) := by
  have hsource := ne_nil_of_absent hfree
  refine ⟨fun ⟨place, h⟩ => ⟨_, h.publish hfree old content oldMode mode⟩, fun ⟨after, h⟩ => ?_⟩
  simp only [FileSystem.publish, Faults.none, Bool.false_eq_true, if_false, setContent_put hsource,
    setMode_put hsource] at h
  split at h
  · cases h
  next hreplace =>
    obtain ⟨place, n, hp, hnot, -, -⟩ := replace_eq_ok hreplace
    exact ⟨place, (keepsDirectories_of_put hfree _ _).resolve hp, noDirectory_of_put hfree hnot⟩

end FileSystem

/-! ## The two file sinks -/

open FileSystem

/-- A flat sink opens on a destination that can be written. -/
theorem FlatSink.create_of_writable {fs : FileSystem} {path : String} {place : Place}
    (h : fs.Writable path place) (root : String) :
    ∃ source, fs.node? source = none ∧ create fs path root =
      .ok (⟨path, root, some ⟨source, []⟩⟩, fs.put source (.file ByteArray.empty 0o600)) := by
  obtain ⟨name, source, hfree, hcreate⟩ := h.createTemporary temporaryStem ""
  exact ⟨source, hfree, by simp only [create, hcreate]⟩

/-- A flat sink that waits beside a destination that can be written puts its
lines there. -/
theorem FlatSink.finish_of_writable {fs : FileSystem} {s : FlatSink} {place : Place}
    (h : fs.Writable s.path place) {d : FlatDraft} (hd : s.draft = some d)
    (hfree : fs.node? d.place = none) :
    s.finish Faults.none (fs.put d.place (.file ByteArray.empty 0o600)) =
      (.ok (), { s with draft := none }, fs.put place (.file (content d.lines).toUTF8 fileMode)) := by
  simp only [finish, hd, h.publish hfree]
  rfl

/-- An embedded sink whose file is there puts its text into it. -/
theorem PatchSink.finish_of_writable {fs : FileSystem} {s : PatchSink} (hopen : s.finished = false)
    {place : Place} {content : ByteArray} {mode : Nat} (h : fs.Writable s.path place)
    (hn : fs.node? place = some (.file content mode)) :
    s.finish Faults.none fs =
      (.ok (), { s with finished := true }, fs.put place (.file s.render.toUTF8 mode)) := by
  obtain ⟨name, source, hfree, hcreate⟩ := h.createTemporary temporaryStem ""
  simp only [finish, hopen, find_of_resolve h.resolves hn, hcreate, FileNode.mode, h.publish hfree,
    Faults.none, Bool.false_eq_true, if_false]

end AbiProbe
