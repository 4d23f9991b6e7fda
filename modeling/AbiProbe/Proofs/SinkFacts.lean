/-
What the steps of the two file sinks do, one lemma for each step and result:
opening one, registering entries, and finishing it. Files are changed by no
step but a finish that succeeds (`finish_error`, `finish_ok`).
-/
import AbiProbe.Proofs.FileFacts
import AbiProbe.Run
import AbiProbe.Sink.Flat
import AbiProbe.Sink.Patch

namespace AbiProbe

open FileSystem

/-! ## The flat sink -/

namespace FlatSink

/-- A sink with lines that wait beside a temporary file, which is the only
thing that was not there `before`. -/
def Waits (before : FileSystem) : FlatSink × FileSystem → Prop
  | (s, fs) => ∃ d, s.draft = some d ∧ before.node? d.place = none ∧
      fs = before.put d.place (.file ByteArray.empty 0o600)

/-- A sink that was opened has no lines yet. -/
theorem create_eq_ok {before : FileSystem} {path root : String} {start : FlatSink × FileSystem}
    (h : create before path root = .ok start) :
    ∃ place, before.node? place = none ∧ start = (⟨path, root, some ⟨place, []⟩⟩,
      before.put place (.file ByteArray.empty 0o600)) := by
  unfold create at h
  split at h
  · cases h
  next name place fs hcreate =>
    cases h
    obtain ⟨hfree, rfl⟩ := createTemporary_eq_ok hcreate
    exact ⟨place, hfree, rfl⟩

theorem start_eq_ok {faults : Faults} {before : FileSystem} {path root : String}
    {start : FlatSink × FileSystem} (h : FlatSink.start faults before path root = .ok start) :
    ∃ place, before.node? place = none ∧ start = (⟨path, root, some ⟨place, []⟩⟩,
      before.put place (.file ByteArray.empty 0o600)) := by
  unfold FlatSink.start at h
  split at h
  · cases h
  · exact create_eq_ok h

theorem start_ok {faults : Faults} {before : FileSystem} {path root : String}
    {start : FlatSink × FileSystem} (h : FlatSink.start faults before path root = .ok start) :
    start.1.path = path ∧ Waits before start := by
  obtain ⟨place, hfree, rfl⟩ := start_eq_ok h
  exact ⟨rfl, ⟨place, []⟩, rfl, hfree, rfl⟩

/-- Entries that were all taken wait as lines, in the order in which they came. -/
theorem saveAll_ok {faults : Faults} {path root : String} {place : Place} {lines : List String}
    {fs : FileSystem} {es : List Entry} {s : FlatSink × FileSystem}
    (h : saveAll (sink faults) es (⟨path, root, some ⟨place, lines⟩⟩, fs) = (.ok (), s)) :
    s = (⟨path, root, some ⟨place, lines ++ es.map (formatLine root)⟩⟩, fs) := by
  induction es generalizing lines with
  | nil =>
    cases h
    simp
  | cons e es ih =>
    by_cases hf : faults (.line lines.length) = true
    · simp [saveAll, sink, append, hf] at h
    · simp only [saveAll, sink, append, register, if_neg hf] at h
      rw [ih h]
      simp

theorem append_path (faults : Faults) (e : Entry) (s : FlatSink) :
    (s.append faults e).2.path = s.path := by
  unfold append register
  split
  · rfl
  · split <;> rfl

theorem Waits.append {faults : Faults} {before fs : FileSystem} {s : FlatSink} (e : Entry)
    (h : Waits before (s, fs)) : Waits before ((s.append faults e).2, fs) := by
  obtain ⟨d, hd, hfree, hfs⟩ := h
  by_cases hf : faults (.line d.lines.length) = true
  · simp only [FlatSink.append, hd, hf, if_true]
    exact ⟨d, hd, hfree, hfs⟩
  · simp only [FlatSink.append, register, hd, if_neg hf]
    exact ⟨{ d with lines := d.lines ++ [formatLine s.root e] }, rfl, hfree, hfs⟩

theorem Waits.discard {before fs : FileSystem} {s : FlatSink} (h : Waits before (s, fs)) :
    s.discard fs = before := by
  obtain ⟨d, hd, hfree, rfl⟩ := h
  simp only [FlatSink.discard, hd]
  exact erase_put_of_absent hfree _

/-- A sink that fails to finish is closed, and its temporary file is gone. -/
theorem finish_error {faults : Faults} {before fs fs' : FileSystem} {s s' : FlatSink} {err : Error}
    (hw : Waits before (s, fs)) (h : s.finish faults fs = (.error err, s', fs')) :
    s' = { s with draft := none } ∧ fs' = before := by
  obtain ⟨d, hd, hfree, rfl⟩ := hw
  simp only [finish, hd] at h
  cases hp : (before.put d.place (.file ByteArray.empty 0o600)).publish faults d.place
      (content d.lines).toUTF8 fileMode s.path with
  | mk r after =>
    rw [hp] at h
    cases r with
    | error f =>
      cases h
      exact ⟨rfl, (publish_error hp).trans (erase_put_of_absent hfree _)⟩
    | ok u => cases h

/-- A sink that finishes has put its lines into the target. -/
theorem finish_ok {faults : Faults} {before fs fs' : FileSystem} {s s' : FlatSink}
    (hw : Waits before (s, fs)) (h : s.finish faults fs = (.ok (), s', fs')) :
    s' = { s with draft := none } ∧ ∃ d, s.draft = some d ∧
      Replaced s.path (content d.lines).toUTF8 fileMode before fs' := by
  obtain ⟨d, hd, hfree, rfl⟩ := hw
  simp only [finish, hd] at h
  cases hp : (before.put d.place (.file ByteArray.empty 0o600)).publish faults d.place
      (content d.lines).toUTF8 fileMode s.path with
  | mk r after =>
    rw [hp] at h
    cases r with
    | error f => cases h
    | ok u =>
      cases h
      exact ⟨rfl, d, hd, publish_ok hfree hp⟩

end FlatSink

/-! ## The embedded sink -/

namespace PatchSink

/-- A sink opens on a file that is text if the text has both markers. -/
theorem load_of_read {fs : FileSystem} {path contents : String}
    (h : fs.readText path = .ok contents) (config : PatchConfig) (root : String) (platform : Platform)
    (stamp : Nat) :
    load fs path config root platform stamp =
      match splitRegion contents config.beginMarker config.endMarker with
      | .error marker => .error (.missingMarker path marker)
      | .ok (head, tail) =>
        .ok ⟨path, root, config.indent, head, tail, generatedBy platform stamp, [], false⟩ := by
  unfold load
  rw [h]
  rfl

/-- A sink that was opened has the two outer parts of its file, and nothing to
put between them yet. -/
theorem load_eq_ok {fs : FileSystem} {path root : String} {config : PatchConfig} {platform : Platform}
    {stamp : Nat} {s : PatchSink} (h : load fs path config root platform stamp = .ok s) :
    ∃ contents head tail, fs.readText path = .ok contents ∧
      splitRegion contents config.beginMarker config.endMarker = .ok (head, tail) ∧
      s = ⟨path, root, config.indent, head, tail, generatedBy platform stamp, [], false⟩ := by
  cases hread : fs.readText path with
  | error f =>
    unfold load at h
    rw [hread] at h
    cases h
  | ok contents =>
    rw [load_of_read hread] at h
    split at h
    · cases h
    next head tail hsplit =>
      cases h
      exact ⟨contents, head, tail, rfl, hsplit, rfl⟩

theorem load_ok {fs : FileSystem} {path root : String} {config : PatchConfig} {platform : Platform}
    {stamp : Nat} {s : PatchSink} (h : load fs path config root platform stamp = .ok s) :
    s.path = path ∧ s.finished = false := by
  obtain ⟨contents, head, tail, -, -, rfl⟩ := load_eq_ok h
  exact ⟨rfl, rfl⟩

theorem start_ok {faults : Faults} {fs : FileSystem} {path root : String} {config : PatchConfig}
    {platform : Platform} {stamp : Nat} {s : PatchSink}
    (h : PatchSink.start faults fs path config root platform stamp = .ok s) :
    load fs path config root platform stamp = .ok s := by
  unfold PatchSink.start at h
  split at h
  · cases h
  · exact h

theorem register_open {s : PatchSink} (h : s.finished = false) (e : Entry) :
    s.register e = (.ok (), { s with statements := s.statements ++ [Statement.render s.root e] }) := by
  simp [register, h]

/-- Entries wait as statements, in the order in which they come. -/
theorem saveAll_sink {s : PatchSink} (h : s.finished = false) (faults : Faults) (es : List Entry)
    (fs : FileSystem) :
    saveAll (sink faults) es (s, fs) =
      (.ok (), { s with statements := s.statements ++ es.map (Statement.render s.root) }, fs) := by
  induction es generalizing s with
  | nil => simp [saveAll]
  | cons e es ih =>
    have hstep : (sink faults).register e (s, fs) =
        (.ok (), { s with statements := s.statements ++ [Statement.render s.root e] }, fs) := by
      simp only [sink, register_open h]
    have hrest := @ih { s with statements := s.statements ++ [Statement.render s.root e] } h
    simp only [saveAll, hstep, hrest, List.append_assoc, List.map_cons, List.singleton_append]

/-- A sink that fails to finish can be finished again, and changes no file. It
only fails because of the files. -/
theorem finish_error {faults : Faults} {fs fs' : FileSystem} {s s' : PatchSink} {err : Error}
    (h : s.finish faults fs = (.error err, s', fs')) :
    s' = s ∧ fs' = fs ∧ ∃ f, err = .file f := by
  unfold finish at h
  split at h
  · cases h
  · split at h
    · cases h
      exact ⟨rfl, rfl, _, rfl⟩
    · split at h
      · cases h
        exact ⟨rfl, rfl, _, rfl⟩
      · split at h
        · cases h
          exact ⟨rfl, rfl, _, rfl⟩
        · split at h
          · cases h
            exact ⟨rfl, rfl, _, rfl⟩
          next name place created hcreate =>
            obtain ⟨hfree, rfl⟩ := createTemporary_eq_ok hcreate
            split at h
            next f after hp =>
              cases h
              exact ⟨rfl, (publish_error hp).trans (erase_put_of_absent hfree _), _, rfl⟩
            · cases h

/-- A sink that finishes has put its text into the target, which was there
and keeps its mode. -/
theorem finish_ok {faults : Faults} {fs fs' : FileSystem} {s s' : PatchSink} (hopen : s.finished = false)
    (h : s.finish faults fs = (.ok (), s', fs')) :
    s' = { s with finished := true } ∧ ∃ target, fs.find s.path = .ok target ∧
      Replaced s.path s.render.toUTF8 target.mode fs fs' := by
  simp only [finish, hopen, Bool.false_eq_true, if_false] at h
  split at h
  · cases h
  · split at h
    · cases h
    next target hfind =>
      split at h
      · cases h
      · split at h
        · cases h
        next name place created hcreate =>
          obtain ⟨hfree, rfl⟩ := createTemporary_eq_ok hcreate
          split at h
          · cases h
          next after hp =>
            cases h
            exact ⟨rfl, target, hfind, publish_ok hfree hp⟩

end PatchSink

end AbiProbe
