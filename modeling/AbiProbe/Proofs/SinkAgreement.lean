/-
The sinks agree. A run into memory, one into a flat file and one into a patched
file give the same result up to the name of the sink, and where they succeed
both files hold what the first sink has in memory (`sinks_agree`).

`Alike` is what two sinks have to show for this, one field for each step; that
runs into them go alike follows once for all sinks (`Alike.run`). The two file
sinks are each compared with the one in memory: lines in a draft and statements
in a list both stand for its entries, in order (`FlatSink.Holds`,
`PatchSink.Holds`).
-/
import AbiProbe.Proofs.Publication
import AbiProbe.Proofs.Splice
import AbiProbe.Sink.Memory

namespace AbiProbe

open FileSystem Text

variable {σ σ' τ : Type}

/-! ## Runs that go alike -/

/-- A sink on a state that stands beside that of a toolchain. -/
def Sink.beside (k : Sink σ) : Sink (σ × τ) where
  name := k.name
  register e := fun (s, u) =>
    let (r, s) := k.register e s
    (r, s, u)
  finish := fun (s, u) =>
    let (r, s) := k.finish s
    (r, s, u)

/-- Two sinks give the same results in states that are related by `R`, which
they keep until they are finished; the last states are related by `Q`. -/
structure Alike (k : Sink σ) (k' : Sink σ') (R Q : σ → σ' → Prop) : Prop where
  register : ∀ e s s', R s s' →
    (k.register e s).1 = (k'.register e s').1 ∧ R (k.register e s).2 (k'.register e s').2
  finish : ∀ s s', R s s' → (k.finish s).1 = (k'.finish s').1 ∧ Q (k.finish s).2 (k'.finish s').2

/-- Two steps have the same result and leave the toolchain in the same state,
and the sinks in related ones. -/
def Agree {α : Type} (R : σ → σ' → Prop) (a : Except Error α × σ × τ) (b : Except Error α × σ' × τ) :
    Prop :=
  ∃ r s s' u, a = (r, s, u) ∧ b = (r, s', u) ∧ R s s'

namespace Alike

variable {k : Sink σ} {k' : Sink σ'} {R Q : σ → σ' → Prop} {s : σ} {s' : σ'}

theorem saveAll (h : Alike k k' R Q) (hs : R s s') (es : List Entry) (u : τ) :
    Agree R (saveAll k.beside es (s, u)) (saveAll k'.beside es (s', u)) := by
  induction es generalizing s s' with
  | nil => exact ⟨_, _, _, _, rfl, rfl, hs⟩
  | cons e es ih =>
    obtain ⟨hresult, hnext⟩ := h.register e s s' hs
    rcases hk : k.register e s with ⟨r, s₁⟩
    rcases hk' : k'.register e s' with ⟨r', s₁'⟩
    rw [hk, hk'] at hresult hnext
    obtain rfl : r = r' := hresult
    simp only [AbiProbe.saveAll, Sink.beside, hk, hk']
    cases r with
    | error err => exact ⟨_, _, _, _, rfl, rfl, hnext⟩
    | ok _ => exact ih hnext

theorem runProbe (h : Alike k k' R Q) (hs : R s s') (t : Toolchain τ) (p : Probe) (u : τ) :
    Agree R (runProbe t.beside k.beside p (s, u)) (runProbe t.beside k'.beside p (s', u)) := by
  rcases hc : t.call p.mode p.source u with ⟨r, u₁⟩
  simp only [AbiProbe.runProbe, Toolchain.beside, hc]
  cases r with
  | error err => exact ⟨_, _, _, _, rfl, rfl, hs⟩
  | ok output =>
    dsimp only
    rcases p.analyse output with ⟨_ | _, q⟩
    · exact ⟨_, _, _, _, rfl, rfl, hs⟩
    · obtain ⟨r, s₁, s₁', u₂, ha, hb, hnext⟩ := h.saveAll hs q.entries u₁
      dsimp only
      rw [ha, hb]
      cases r with
      | error err => exact ⟨_, _, _, _, rfl, rfl, hnext⟩
      | ok _ => exact ⟨_, _, _, _, rfl, rfl, hnext⟩

theorem runProbes (h : Alike k k' R Q) (hs : R s s') (t : Toolchain τ) (ps : List Probe) (u : τ) :
    Agree R (runProbes t.beside k.beside ps (s, u)) (runProbes t.beside k'.beside ps (s', u)) := by
  induction ps generalizing s s' u with
  | nil => exact ⟨_, _, _, _, rfl, rfl, hs⟩
  | cons p ps ih =>
    obtain ⟨r, s₁, s₁', u₁, ha, hb, hnext⟩ := h.runProbe hs t p u
    simp only [AbiProbe.runProbes, ha, hb]
    cases r with
    | error err => exact ⟨_, _, _, _, rfl, rfl, hnext⟩
    | ok entries =>
      obtain ⟨r, s₂, s₂', u₂, ha, hb, hlast⟩ := ih hnext u₁
      simp only [ha, hb]
      cases r <;> exact ⟨_, _, _, _, rfl, rfl, hlast⟩

/-- Runs into sinks that are alike fail with the same error, or succeed with
summaries that differ in the name of the sink only. -/
theorem run (h : Alike k k' R Q) (hs : R s s') (t : Toolchain τ) (platform : Platform) (c : Catalog)
    (u : τ) :
    ∃ r s₁ s₁' u₁, run t.beside k.beside platform c (s, u) = (r, s₁, u₁) ∧
      run t.beside k'.beside platform c (s', u) =
        (r.map fun summary => { summary with sinkName := k'.name }, s₁', u₁) ∧
      ∀ summary, r = .ok summary → Q s₁ s₁' := by
  obtain ⟨r, s₁, s₁', u₁, ha, hb, hnext⟩ := h.runProbes hs t (c.probes platform) u
  simp only [AbiProbe.run, ha, hb]
  cases r with
  | error err => exact ⟨_, _, _, _, rfl, rfl, by simp⟩
  | ok summaries =>
    obtain ⟨hresult, hlast⟩ := h.finish s₁ s₁' hnext
    rcases hk : k.finish s₁ with ⟨r, s₂⟩
    rcases hk' : k'.finish s₁' with ⟨r', s₂'⟩
    rw [hk, hk'] at hresult hlast
    obtain rfl : r = r' := hresult
    simp only [Sink.beside, hk, hk']
    cases r with
    | error err => exact ⟨_, _, _, _, rfl, rfl, by simp⟩
    | ok _ => exact ⟨_, _, _, _, rfl, rfl, fun _ _ => hlast⟩

end Alike

/-! ## The two file sinks -/

theorem MemorySink.register_open {m : MemorySink} (h : m.finished = false) (e : Entry) :
    m.register e = (.ok (), { m with entries := m.entries ++ [e] }) := by
  simp [MemorySink.register, h]

/-- A flat sink that has a line for each entry in memory, and its temporary
file beside the files `before`. -/
def FlatSink.Holds (before : FileSystem) (path root : String) (m : MemorySink)
    (f : FlatSink × FileSystem) : Prop :=
  m.finished = false ∧ ∃ source, before.node? source = none ∧
    f = (⟨path, root, some ⟨source, m.entries.map (formatLine root)⟩⟩,
      before.put source (.file ByteArray.empty 0o600))

theorem FlatSink.alike {before : FileSystem} {path : String} {place : Place}
    (h : before.Writable path place) (root : String) :
    Alike MemorySink.sink (FlatSink.sink Faults.none) (Holds before path root) fun m f =>
      f.2 = before.put place (.file (content (m.entries.map (formatLine root))).toUTF8 fileMode) where
  register e m f hf := by
    obtain ⟨hopen, source, hfree, rfl⟩ := hf
    simp only [MemorySink.sink, MemorySink.register_open hopen]
    exact ⟨rfl, hopen, source, hfree, by simp [FlatSink.sink, append, register, Faults.none]⟩
  finish m f hf := by
    obtain ⟨hopen, source, hfree, rfl⟩ := hf
    have hfinish := @finish_of_writable before
      ⟨path, root, some ⟨source, m.entries.map (formatLine root)⟩⟩ place h _ rfl hfree
    simp only [FlatSink.sink, hfinish]
    exact ⟨rfl, rfl⟩

/-- An embedded sink that was opened as `s` and has a statement for each entry
in memory, over the files `before`. -/
def PatchSink.Holds (before : FileSystem) (s : PatchSink) (m : MemorySink) (p : PatchSink × FileSystem) :
    Prop :=
  m.finished = false ∧ p = ({ s with statements := m.entries.map (Statement.render s.root) }, before)

theorem PatchSink.alike {before : FileSystem} {s : PatchSink} (hopen : s.finished = false)
    {place : Place} {content : ByteArray} {mode : Nat} (h : before.Writable s.path place)
    (hn : before.node? place = some (.file content mode)) :
    Alike MemorySink.sink (PatchSink.sink Faults.none) (Holds before s) fun m p =>
      p.2 = before.put place (.file
        (render { s with statements := m.entries.map (Statement.render s.root) }).toUTF8 mode) where
  register e m p hp := by
    obtain ⟨hm, rfl⟩ := hp
    simp only [MemorySink.sink, MemorySink.register_open hm, PatchSink.sink]
    rw [register_open (by exact hopen)]
    exact ⟨rfl, hm, by simp⟩
  finish m p hp := by
    obtain ⟨hm, rfl⟩ := hp
    have hfinish := @finish_of_writable before
      { s with statements := m.entries.map (Statement.render s.root) } hopen place _ mode h hn
    simp only [PatchSink.sink, hfinish]
    exact ⟨rfl, rfl⟩

/-! ## The three sinks -/

/-- **The three sinks publish the same facts.** Let the destination of a flat
sink be writable, and let the file of an embedded one hold both markers. On a
device without faults both sinks open, and for every toolchain and catalog
the runs into them go like the one into memory: they fail with the same
error, or succeed with summaries that differ in the name of the sink only.
Then the flat file holds a line for each entry in memory, and the embedded
file a statement for each one between its two outer parts, in order. -/
theorem sinks_agree (t : Toolchain τ) (u : τ) (platform : Platform) (c : Catalog) (root : String)
    {fs : FileSystem} {path : String} {place : Place} (hpath : fs.Writable path place)
    {target contents : String} {mode : Nat} (hfile : fs.find target = .ok (.file contents.toUTF8 mode))
    {config : PatchConfig} {before after middle rest : List Char}
    (hbegin : FirstOccurrence config.beginMarker.toList contents.toList before after)
    (hend : FirstOccurrence config.endMarker.toList after middle rest) (stamp : Nat) :
    ∃ flat patch, FlatSink.start Faults.none fs path root = .ok flat ∧
      PatchSink.start Faults.none fs target config root platform stamp = .ok patch ∧
      ∃ r memory flat' patch' u', run t.beside MemorySink.sink.beside platform c (.new, u) =
          (r, memory, u') ∧
        run t.beside (FlatSink.sink Faults.none).beside platform c (flat, u) =
          (r.map fun summary => { summary with sinkName := "flat" }, flat', u') ∧
        run t.beside (PatchSink.sink Faults.none).beside platform c ((patch, fs), u) =
          (r.map fun summary => { summary with sinkName := "embedded" }, patch', u') ∧
        ∀ summary, r = .ok summary →
          flat'.2.find path = .ok (.file (String.join (memory.entries.map fun e =>
            FlatSink.formatLine root e ++ "\n")).toUTF8 0o644) ∧
          patch.head = String.ofList before ++ config.beginMarker ∧
          patch.tail = config.endMarker ++ String.ofList rest ∧
          patch'.2.find target = .ok (.file (patch.head ++
            (if patch.head.toList.getLast? = some '\n' then "" else "\n") ++
            (config.indent ++ PatchSink.generatedBy platform stamp ++ "\n") ++
            String.join (memory.entries.map fun e => config.indent ++ Statement.render root e ++ "\n") ++
            patch.tail).toUTF8 mode) := by
  obtain ⟨source, hfree, hflat⟩ := FlatSink.create_of_writable hpath root
  obtain ⟨spot, hspot, hn⟩ := writable_of_find hfile
  let patch : PatchSink := ⟨target, root, config.indent, String.ofList (before ++ config.beginMarker.toList),
    String.ofList (config.endMarker.toList ++ rest), PatchSink.generatedBy platform stamp, [], false⟩
  have hload : PatchSink.load fs target config root platform stamp = .ok patch := by
    rw [PatchSink.load_of_read (readText_of_find hfile), PatchSink.splitRegion_eq_ok_iff.mpr
      ⟨before, after, middle, rest, hbegin, hend, rfl, rfl⟩]
  have hlines : FlatSink.Holds fs path root .new (⟨path, root, some ⟨source, []⟩⟩,
      fs.put source (.file ByteArray.empty 0o600)) := ⟨rfl, source, hfree, rfl⟩
  have hstatements : PatchSink.Holds fs patch .new (patch, fs) := ⟨rfl, rfl⟩
  refine ⟨_, patch, hflat, hload, ?_⟩
  obtain ⟨r, memory, flat', u', hmemory, hflat', hflatLast⟩ :=
    (FlatSink.alike hpath root).run hlines t platform c u
  obtain ⟨r₂, memory₂, patch', u₂, hmemory₂, hpatch', hpatchLast⟩ :=
    (PatchSink.alike rfl hspot hn).run hstatements t platform c u
  rw [hmemory, Prod.mk.injEq, Prod.mk.injEq] at hmemory₂
  obtain ⟨rfl, rfl, rfl⟩ := hmemory₂
  refine ⟨r, memory, flat', patch', u', hmemory, hflat', hpatch', fun summary hok => ?_⟩
  refine ⟨?_, ?_, ?_, ?_⟩
  · rw [hflatLast summary hok, hpath.find_put, FlatSink.content, List.map_map]
    rfl
  · simp [patch]
  · simp [patch]
  · rw [hpatchLast summary hok, hspot.find_put, PatchSink.render_eq, List.map_map]
    rfl

/-- A catalog of one struct without fields. -/
def fieldless : Catalog := ⟨[⟨"s", [], []⟩], [], []⟩

theorem sinks_agree_fieldless :
    ∃ flat patch flat' patch', FlatSink.start Faults.none PatchSink.lettered "F" "r" = .ok flat ∧
      PatchSink.start Faults.none PatchSink.lettered "T" ⟨none, "A", "B", " "⟩ "r" .x86Linux 0 =
        .ok patch ∧
      run (Toolchain.ofFunction fun _ _ => .ok "sizeof(struct s) 4\n").beside
          (FlatSink.sink Faults.none).beside .x86Linux fieldless (flat, ()) =
        (.ok ⟨.x86Linux, "flat", [⟨"struct s", .struct, 1⟩]⟩, flat', ()) ∧
      run (Toolchain.ofFunction fun _ _ => .ok "sizeof(struct s) 4\n").beside
          (PatchSink.sink Faults.none).beside .x86Linux fieldless ((patch, PatchSink.lettered), ()) =
        (.ok ⟨.x86Linux, "embedded", [⟨"struct s", .struct, 1⟩]⟩, patch', ()) ∧
      flat'.2.find "F" = .ok (.file "r.s.sizeof = 4\n".toUTF8 0o644) ∧
      patch'.2.find "T" = .ok (.file ("aA\n // Generated by nativeconf on x86_64-linux at 0\n" ++
        " configuration.config(\"r.s.sizeof\", 4);\nBc").toUTF8 0o640) := by
  have hpath : PatchSink.lettered.Writable "F" ["F"] := ⟨rfl, fun _ h => nomatch h⟩
  have hfile : PatchSink.lettered.find "T" = .ok (.file "aAbBc".toUTF8 0o640) := rfl
  have hbegin : FirstOccurrence "A".toList "aAbBc".toList ['a'] ['b', 'B', 'c'] :=
    splitAtFirst?_eq_some_iff.mp (by rfl)
  have hend : FirstOccurrence "B".toList ['b', 'B', 'c'] ['b'] ['c'] :=
    splitAtFirst?_eq_some_iff.mp (by rfl)
  obtain ⟨flat, patch, hflat, hpatch, r, memory, flat', patch', u', hmemory, hflat', hpatch', hfiles⟩ :=
    @sinks_agree _ (Toolchain.ofFunction fun _ _ => .ok "sizeof(struct s) 4\n") () .x86Linux fieldless "r"
      _ _ _ hpath _ _ _ hfile ⟨none, "A", "B", " "⟩ _ _ _ _ hbegin hend 0
  have hrun : run (Toolchain.ofFunction fun _ _ => .ok "sizeof(struct s) 4\n").beside
      MemorySink.sink.beside .x86Linux fieldless (.new, ()) =
      (.ok ⟨.x86Linux, "memory", [⟨"struct s", .struct, 1⟩]⟩, ⟨[⟨"s.sizeof", .integer 4⟩], true⟩, ()) := by
    rfl
  rw [hrun, Prod.mk.injEq, Prod.mk.injEq] at hmemory
  obtain ⟨rfl, rfl, rfl⟩ := hmemory
  obtain ⟨hflatFile, hhead, htail, hpatchFile⟩ := hfiles _ rfl
  rw [hhead, htail] at hpatchFile
  have hlines : String.join ([⟨"s.sizeof", .integer 4⟩].map fun e => FlatSink.formatLine "r" e ++ "\n") =
      "r.s.sizeof = 4\n" := by
    decide +kernel
  have htext : String.ofList ['a'] ++ "A" ++
      (if (String.ofList ['a'] ++ "A").toList.getLast? = some '\n' then "" else "\n") ++
      (" " ++ PatchSink.generatedBy .x86Linux 0 ++ "\n") ++
      String.join ([⟨"s.sizeof", .integer 4⟩].map fun e => " " ++ Statement.render "r" e ++ "\n") ++
      ("B" ++ String.ofList ['c']) =
      "aA\n // Generated by nativeconf on x86_64-linux at 0\n" ++
        " configuration.config(\"r.s.sizeof\", 4);\nBc" := by
    decide +kernel
  exact ⟨flat, patch, flat', patch', hflat, hpatch, hflat', hpatch', hlines ▸ hflatFile,
    htext ▸ hpatchFile⟩

end AbiProbe
