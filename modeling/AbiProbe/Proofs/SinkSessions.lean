/-
The two file sinks over a longer time: calls that fail, calls after a failure,
and for the embedded sink also files that others change in between.

A flat sink can publish once (`FlatSink.Phase`). If its first finish succeeds,
the target has the lines of all entries that were taken; if it fails, the
lines are gone, and what is said of a later finish is not what happened
(`FlatSink.files_after_calls`, `FlatSink.succeeded_without_file`).

An embedded sink keeps its statements until a finish succeeds, and what it is
follows from the calls so far (`PatchSink.Standing`). So it does not matter to
it what others do to the files, its target apart
(`PatchSink.calls_under_interference`).
-/
import AbiProbe.Proofs.Publication
import AbiProbe.Proofs.Splice
import AbiProbe.Sink.Session

namespace AbiProbe

open FileSystem

/-! ## The flat sink -/

namespace FlatSink

/-- How far a flat sink has come that was opened over the files `before`. -/
inductive Phase (before : FileSystem) (path root : String) (s : Session FlatSink) : Prop where
  /-- There was no finish yet. The temporary file is all that is new. -/
  | waiting {place : Place} : s.failed = false → s.succeeded = false → before.node? place = none →
      s.sink = ⟨path, root, some ⟨place, s.taken.map (formatLine root)⟩⟩ →
      s.files = before.put place (.file ByteArray.empty 0o600) → Phase before path root s
  /-- The first finish has succeeded. -/
  | published : s.failed = false → s.succeeded = true → s.sink = ⟨path, root, none⟩ →
      Replaced path (content (s.taken.map (formatLine root))).toUTF8 fileMode before s.files →
      Phase before path root s
  /-- The first finish has failed. -/
  | lost : s.failed = true → s.sink = ⟨path, root, none⟩ → s.files = before → Phase before path root s

namespace Phase

variable {before : FileSystem} {path root : String} {s : Session FlatSink}

theorem ofOpened {opened : FlatSink × FileSystem} (h : create before path root = .ok opened) :
    Phase before path root (.ofOpened opened.1 opened.2) := by
  obtain ⟨place, hfree, rfl⟩ := create_eq_ok h
  exact .waiting rfl rfl hfree rfl rfl

theorem register (h : Phase before path root s) (e : Entry) :
    Phase before path root (s.step sink (.call (.register e))) := by
  cases h with
  | @waiting place hfailed hsucceeded hfree hsink hfiles =>
    have hstep : (sink Faults.none).register e (s.sink, s.files) =
        (.ok (), ⟨path, root, some ⟨place, s.taken.map (formatLine root) ++ [formatLine root e]⟩⟩,
          s.files) := by
      simp [sink, append, FlatSink.register, hsink, Faults.none]
    simp only [Session.step, hstep]
    exact .waiting (by simpa) (by simpa) hfree (by simp) hfiles
  | published hfailed hsucceeded hsink hfiles =>
    have hstep : (sink Faults.none).register e (s.sink, s.files) =
        (.error (.config (.alreadyClosed path)), ⟨path, root, none⟩, s.files) := by
      simp [sink, append, FlatSink.register, hsink]
    simp only [Session.step, hstep]
    exact .published (by simpa) (by simpa) rfl (by simpa)
  | lost hfailed hsink hfiles =>
    have hstep : (sink Faults.none).register e (s.sink, s.files) =
        (.error (.config (.alreadyClosed path)), ⟨path, root, none⟩, s.files) := by
      simp [sink, append, FlatSink.register, hsink]
    simp only [Session.step, hstep]
    exact .lost (by simpa) rfl hfiles

/-- A closed sink says that it has finished, and does nothing. -/
theorem finish_closed (h : s.sink = ⟨path, root, none⟩) (faults : Faults) :
    s.sink.finish faults s.files = (.ok (), s.sink, s.files) := by
  simp [FlatSink.finish, h]

theorem finish (h : Phase before path root s) (faults : Faults) :
    Phase before path root (s.step sink (.call (.finish faults))) := by
  cases h with
  | @waiting place hfailed hsucceeded hfree hsink hfiles =>
    have hwaits : Waits before (s.sink, s.files) := ⟨_, by rw [hsink], hfree, hfiles⟩
    rcases hfinish : s.sink.finish faults s.files with ⟨r, closed, after⟩
    simp only [Session.step, sink, hfinish]
    cases r with
    | error err =>
      obtain ⟨rfl, rfl⟩ := finish_error hwaits hfinish
      exact .lost (by simp) (by simp [hsink]) rfl
    | ok u =>
      cases u
      obtain ⟨rfl, d, hd, hreplaced⟩ := finish_ok hwaits hfinish
      rw [hsink] at hd hreplaced
      obtain rfl := (Option.some.inj hd).symm
      exact .published (by simpa) (by simp) (by simp [hsink]) (by simpa)
  | published hfailed hsucceeded hsink hfiles =>
    simp only [Session.step, sink, finish_closed hsink]
    exact .published (by simpa) (by simp) hsink (by simpa)
  | lost hfailed hsink hfiles =>
    simp only [Session.step, sink, finish_closed hsink]
    exact .lost (by simpa) hsink hfiles

theorem run (h : Phase before path root s) (cs : List Call) :
    Phase before path root (s.run sink (cs.map .call)) := by
  refine Session.run_induction (fun s hap hmem hs => ?_) h
  obtain ⟨c, -, rfl⟩ := List.mem_map.mp hmem
  cases c with
  | register e => exact hs.register e
  | finish faults => exact hs.finish faults

end Phase

/-- **A flat sink has one chance to publish.** Whatever calls were made on it
and whatever made them fail: before the first finish only a temporary file is
new. If no finish has failed and one has succeeded, the target was replaced
by the lines of all entries that were taken, and a further finish changes
nothing. Once a finish has failed, the files are as they were before the sink
was opened and remain so, but every further finish says that it succeeded. -/
theorem files_after_calls {before : FileSystem} {path root : String} {opened : FlatSink × FileSystem}
    (hopen : create before path root = .ok opened) (cs : List Call) :
    let s := (Session.ofOpened opened.1 opened.2).run sink (cs.map .call)
    (s.failed = false → s.succeeded = false → ∃ place, before.node? place = none ∧
      s.files = before.put place (.file ByteArray.empty 0o600)) ∧
    (s.failed = false → s.succeeded = true →
      Replaced path (content (s.taken.map (formatLine root))).toUTF8 fileMode before s.files ∧
      ∀ faults, s.sink.finish faults s.files = (.ok (), s.sink, s.files)) ∧
    (s.failed = true → s.files = before ∧
      ∀ faults, s.sink.finish faults s.files = (.ok (), s.sink, before)) := by
  intro s
  cases (Phase.ofOpened hopen).run cs with
  | waiting hfailed hsucceeded hfree hsink hfiles =>
    exact ⟨fun _ _ => ⟨_, hfree, hfiles⟩, fun _ h => absurd h (by simp [s, hsucceeded]),
      fun h => absurd h (by simp [s, hfailed])⟩
  | published hfailed hsucceeded hsink hfiles =>
    exact ⟨fun _ h => absurd h (by simp [s, hsucceeded]),
      fun _ _ => ⟨hfiles, Phase.finish_closed hsink⟩, fun h => absurd h (by simp [s, hfailed])⟩
  | lost hfailed hsink hfiles =>
    exact ⟨fun h => absurd h (by simp [s, hfailed]), fun h => absurd h (by simp [s, hfailed]),
      fun _ => ⟨hfiles, fun faults => hfiles ▸ Phase.finish_closed hsink faults⟩⟩

/-- A directory where a file is to be published. -/
def obstructed : FileSystem := ⟨[(["dir"], .directory 0o755)]⟩

/-- An entry, and a finish that is made again after it failed. -/
def retried : List Call := [.register ⟨"a", .integer 1⟩, .finish Faults.none, .finish Faults.none]

theorem files_after_calls_retried :
    (∃ opened, create obstructed "dir" "p" = .ok opened ∧
      let s := (Session.ofOpened opened.1 opened.2).run sink (retried.map .call)
      s.failed = true ∧ s.files = obstructed) ∧
    ∃ opened, create obstructed "out" "p" = .ok opened ∧
      let s := (Session.ofOpened opened.1 opened.2).run sink (retried.map .call)
      s.failed = false ∧ s.succeeded = true ∧
      Replaced "out" (content ["p.a = 1"]).toUTF8 fileMode obstructed s.files := by
  have hopen (path : String) (h : Path.directory path = ".") : create obstructed path "p" =
      .ok (⟨path, "p", some ⟨[".tmpXXXXXX"], []⟩⟩,
        obstructed.put [".tmpXXXXXX"] (.file ByteArray.empty 0o600)) := by
    rw [create, h]
    rfl
  have hdir := hopen "dir" (by decide)
  have hout := hopen "out" (by decide)
  obtain ⟨-, -, hlost⟩ := files_after_calls hdir retried
  obtain ⟨-, hpublished, -⟩ := files_after_calls hout retried
  have hline : formatLine "p" ⟨"a", .integer 1⟩ = "p.a = 1" := by decide +kernel
  exact ⟨⟨_, hdir, rfl, (hlost rfl).1⟩, _, hout, rfl, rfl, hline ▸ (hpublished rfl rfl).1⟩

/-- A sink can say that it has published and not have done so: where a
directory is in the place of the target, the first finish fails and the
second one is said to have succeeded, but no file was ever there. -/
theorem succeeded_without_file :
    ∃ opened, create obstructed "dir" "p" = .ok opened ∧
      let s := (Session.ofOpened opened.1 opened.2).run sink (retried.map .call)
      s.log.map (·.2) = [.ok (), .error (.file .isDirectory), .ok ()] ∧ s.succeeded = true ∧
      s.files.find "dir" = .ok (.directory 0o755) := by
  refine ⟨_, rfl, ?_, ?_, ?_⟩ <;> rfl

end FlatSink

/-! ## The embedded sink -/

namespace PatchSink

/-- What an embedded sink is that was opened as `opened`: it has a statement
for each entry that was taken, and it has finished if a finish has succeeded. -/
def Standing (opened : PatchSink) (s : Session PatchSink) : Prop :=
  s.sink = { opened with
    statements := s.taken.map (Statement.render opened.root), finished := s.succeeded }

/-- A sink that has finished is done. -/
theorem finish_done {s : PatchSink} (h : s.finished = true) (faults : Faults) (fs : FileSystem) :
    s.finish faults fs = (.ok (), s, fs) := by
  simp [finish, h]

theorem register_done {s : PatchSink} (h : s.finished = true) (e : Entry) :
    s.register e = (.error (.config (.alreadyWritten s.path)), s) := by
  simp [register, h]

namespace Standing

variable {opened : PatchSink} {s : Session PatchSink}

theorem ofOpened (hnew : opened.statements = []) (hopen : opened.finished = false) (fs : FileSystem) :
    Standing opened (.ofOpened opened fs) := by
  cases opened
  simp_all [Standing, Session.ofOpened, Session.taken, Session.succeeded]

theorem finished_eq (h : Standing opened s) : s.sink.finished = s.succeeded := by
  rw [h]

theorem register (h : Standing opened s) (e : Entry) :
    Standing opened (s.step sink (.call (.register e))) := by
  have hsink := h
  rw [Standing] at hsink
  simp only [Session.step, sink]
  cases hdone : s.succeeded with
  | false =>
    rw [register_open (h.finished_eq.trans hdone)]
    simp [Standing, hsink, hdone]
  | true =>
    rw [register_done (h.finished_eq.trans hdone)]
    simpa [Standing] using h

theorem finish (h : Standing opened s) (faults : Faults) :
    Standing opened (s.step sink (.call (.finish faults))) := by
  have hsink := h
  rw [Standing] at hsink
  simp only [Session.step, sink]
  cases hdone : s.succeeded with
  | true =>
    rw [finish_done (h.finished_eq.trans hdone)]
    simpa [Standing, hdone] using h
  | false =>
    rcases hfinish : s.sink.finish faults s.files with ⟨r, closed, after⟩
    cases r with
    | error err =>
      obtain ⟨rfl, rfl, -⟩ := finish_error hfinish
      simpa [Standing] using h
    | ok u =>
      cases u
      obtain ⟨rfl, -⟩ := finish_ok (h.finished_eq.trans hdone) hfinish
      simp [Standing, hsink]

/-- Only calls matter to a sink. -/
theorem outside (h : Standing opened s) (change : FileSystem → FileSystem) :
    Standing opened (s.step sink (.outside change)) := h

theorem run (h : Standing opened s) (hs : List Happening) : Standing opened (s.run sink hs) := by
  refine Session.run_induction (fun s hap _ hs => ?_) h
  cases hap with
  | call c =>
    cases c with
    | register e => exact hs.register e
    | finish faults => exact hs.finish faults
  | outside change => exact hs.outside change

/-- What the sink would write: the statements of the entries that were taken,
between the parts that it was opened with. -/
theorem render_eq (h : Standing opened s) :
    s.sink.render = opened.head ++ (if opened.head.toList.getLast? = some '\n' then "" else "\n") ++
      (opened.indent ++ opened.comment ++ "\n") ++
      String.join (s.taken.map fun e => opened.indent ++ Statement.render opened.root e ++ "\n") ++
      opened.tail := by
  rw [h, PatchSink.render_eq, List.map_map]
  rfl

end Standing

/-- **An embedded sink writes its target once.** A sink is opened on a file, and
then called while others do to the files whatever they like. As long as no
finish has succeeded, it takes every entry, and a finish either fails because
of the files, and changes neither them nor the sink, or replaces the target
by the two parts that were read when the sink was opened, around the
statements of all entries that were taken until then; the target keeps the
mode that it has at that moment. It fails if the target is missing, and it
succeeds on a device without faults if the target is a file. Once a finish
has succeeded, the sink refuses every entry, says of every finish that it
succeeded, and changes nothing any more. -/
theorem calls_under_interference {fs : FileSystem} {path root : String} {config : PatchConfig}
    {platform : Platform} {stamp : Nat} {opened : PatchSink}
    (hopen : load fs path config root platform stamp = .ok opened) (comment : String)
    (hs : List Happening) :
    let s := (Session.ofOpened (opened.withComment comment) fs).run sink hs
    (∃ contents, fs.readText path = .ok contents ∧
      splitRegion contents config.beginMarker config.endMarker = .ok (opened.head, opened.tail)) ∧
    (s.succeeded = false →
      (∀ e, ∃ next, (sink Faults.none).register e (s.sink, s.files) = (.ok (), next, s.files)) ∧
      (∀ faults,
        (∃ f, s.sink.finish faults s.files = (.error (.file f), s.sink, s.files)) ∨
        ∃ target closed after, s.files.find path = .ok target ∧
          s.sink.finish faults s.files = (.ok (), closed, after) ∧
          Replaced path (opened.head ++ (if opened.head.toList.getLast? = some '\n' then "" else "\n") ++
            (config.indent ++ comment ++ "\n") ++
            String.join (s.taken.map fun e => config.indent ++ Statement.render root e ++ "\n") ++
            opened.tail).toUTF8 target.mode s.files after) ∧
      (∀ missing, s.files.find path = .error missing → ∀ faults, ∃ f,
        s.sink.finish faults s.files = (.error (.file f), s.sink, s.files)) ∧
      ∀ bytes mode, s.files.find path = .ok (.file bytes mode) → ∃ closed after,
        s.sink.finish Faults.none s.files = (.ok (), closed, after)) ∧
    (s.succeeded = true →
      (∀ e, (sink Faults.none).register e (s.sink, s.files) =
        (.error (.config (.alreadyWritten path)), s.sink, s.files)) ∧
      ∀ faults, s.sink.finish faults s.files = (.ok (), s.sink, s.files)) := by
  intro s
  obtain ⟨contents, head, tail, hread, hsplit, rfl⟩ := load_eq_ok hopen
  have hstanding : Standing (withComment ⟨path, root, config.indent, head, tail,
      generatedBy platform stamp, [], false⟩ comment) s := (Standing.ofOpened rfl rfl fs).run hs
  have hpath : s.sink.path = path := by rw [hstanding]; rfl
  refine ⟨⟨contents, hread, hsplit⟩, fun hpending => ?_, fun hdone => ?_⟩
  · have hunfinished := hstanding.finished_eq.trans hpending
    have hfinish (faults : Faults) : (∃ f, s.sink.finish faults s.files = (.error (.file f), s.sink, s.files)) ∨
        ∃ target closed after, s.files.find path = .ok target ∧
          s.sink.finish faults s.files = (.ok (), closed, after) ∧
          Replaced path s.sink.render.toUTF8 target.mode s.files after := by
      rcases hf : s.sink.finish faults s.files with ⟨r, closed, after⟩
      cases r with
      | error err =>
        obtain ⟨rfl, rfl, f, rfl⟩ := finish_error hf
        exact .inl ⟨f, rfl⟩
      | ok u =>
        obtain ⟨-, target, hfind, hreplaced⟩ := finish_ok hunfinished hf
        rw [hpath] at hfind hreplaced
        exact .inr ⟨target, closed, after, hfind, rfl, hreplaced⟩
    refine ⟨fun e => ?_, fun faults => ?_, fun missing hmissing faults => ?_, fun bytes mode hfile => ?_⟩
    · simp only [sink, register_open hunfinished]
      exact ⟨_, rfl⟩
    · rw [hstanding.render_eq] at hfinish
      exact hfinish faults
    · rcases hfinish faults with hfail | ⟨target, closed, after, hfind, -, -⟩
      · exact hfail
      · rw [hmissing] at hfind
        cases hfind
    · obtain ⟨place, hplace, hn⟩ := writable_of_find hfile
      rw [← hpath] at hplace
      exact ⟨_, _, finish_of_writable hunfinished hplace hn⟩
  · have hfinished := hstanding.finished_eq.trans hdone
    refine ⟨fun e => ?_, fun faults => finish_done hfinished faults s.files⟩
    simp only [sink, register_done hfinished, hpath]

/-- The target is removed between two entries, so that a finish fails, and
then something else is written there. -/
def interrupted : List Happening :=
  [.call (.register ⟨"k", .boolean true⟩),
    .outside fun fs => (fs.removeFile "T").toOption.getD fs,
    .call (.finish Faults.none),
    .call (.register ⟨"l", .integer 1⟩),
    .outside fun fs => (fs.writeFile "T" "other".toUTF8).toOption.getD fs]

theorem calls_under_interference_interrupted :
    ∃ opened, load lettered "T" ⟨none, "A", "B", " "⟩ "r" .x86Linux 0 = .ok opened ∧
      let s := (Session.ofOpened (opened.withComment "c") lettered).run sink interrupted
      s.log.map (·.2) = [.ok (), .error (.file .notFound), .ok ()] ∧ s.succeeded = false ∧
      s.files.find "T" = .ok (.file "other".toUTF8 0o644) ∧
      ∃ closed after, s.sink.finish Faults.none s.files = (.ok (), closed, after) ∧
        Replaced "T" ("aA\n c\n configuration.config(\"r.k\", true);\n" ++
          " configuration.config(\"r.l\", 1);\nBc").toUTF8 0o644 s.files after := by
  have hopen : load lettered "T" ⟨none, "A", "B", " "⟩ "r" .x86Linux 0 =
      .ok ⟨"T", "r", " ", "aA", "Bc", generatedBy .x86Linux 0, [], false⟩ := by rfl
  obtain ⟨-, hpending, -⟩ := calls_under_interference hopen "c" interrupted
  obtain ⟨-, hfinish, -, hfile⟩ := hpending rfl
  have htarget : ((Session.ofOpened (withComment ⟨"T", "r", " ", "aA", "Bc", generatedBy .x86Linux 0, [],
      false⟩ "c") lettered).run sink interrupted).files.find "T" = .ok (.file "other".toUTF8 0o644) := rfl
  obtain ⟨closed, after, hok⟩ := hfile _ _ htarget
  rcases hfinish Faults.none with ⟨f, hfail⟩ | ⟨target, closed', after', hfind, hok', hreplaced⟩
  · rw [hok] at hfail
    cases hfail
  · rw [htarget] at hfind
    cases hfind
    have htext : "aA" ++ (if "aA".toList.getLast? = some '\n' then "" else "\n") ++ (" " ++ "c" ++ "\n") ++
        String.join ([⟨"k", .boolean true⟩, ⟨"l", .integer 1⟩].map fun e =>
          " " ++ Statement.render "r" e ++ "\n") ++ "Bc" =
        "aA\n c\n configuration.config(\"r.k\", true);\n" ++
          " configuration.config(\"r.l\", 1);\nBc" := by
      decide +kernel
    exact ⟨_, hopen, rfl, rfl, htarget, closed', after', hok', htext ▸ hreplaced⟩

end PatchSink

end AbiProbe
