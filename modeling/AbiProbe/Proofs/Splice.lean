/-
The embedded sink cuts a file at its markers and puts it together again
around what it generates. `Lacks` and `Region` say where it cuts, in bytes
and without saying how it searches; `load_splice` says that the sink opens
exactly where there is such a cut, and that all it writes lies between the
two parts that it keeps.
-/
import AbiProbe.Proofs.FirstOccurrence
import AbiProbe.Proofs.SinkFacts

namespace AbiProbe.PatchSink

open FileSystem Text

/-! ## Where a file is cut -/

/-- The marker that a text lacks. The end marker has to occur after the first
begin marker; what comes before does not count. -/
inductive Lacks (contents beginMarker endMarker : String) : String → Prop where
  | noBegin : (∀ i, ¬ OccursAt beginMarker.toUTF8 contents.toUTF8 i) →
      Lacks contents beginMarker endMarker beginMarker
  | noEnd {i : Nat} : FirstFrom beginMarker.toUTF8 contents.toUTF8 0 i →
      (∀ j, i + beginMarker.utf8ByteSize ≤ j → ¬ OccursAt endMarker.toUTF8 contents.toUTF8 j) →
      Lacks contents beginMarker endMarker endMarker

/-- What a text keeps that is cut at its markers, the first begin marker after
`i` bytes and the first end marker after that after `j` bytes. -/
structure Region (contents beginMarker endMarker head tail : String) (i j : Nat) : Prop where
  begins : FirstFrom beginMarker.toUTF8 contents.toUTF8 0 i
  ends : FirstFrom endMarker.toUTF8 contents.toUTF8 (i + beginMarker.utf8ByteSize) j
  head_eq : head.toUTF8 = contents.toUTF8.extract 0 (i + beginMarker.utf8ByteSize)
  tail_eq : tail.toUTF8 = contents.toUTF8.extract j contents.utf8ByteSize
  /-- The head has the begin marker at its end only. -/
  begins_once : ∀ k, OccursAt beginMarker.toUTF8 head.toUTF8 k ↔ k = i
  tail_starts : OccursAt endMarker.toUTF8 tail.toUTF8 0

section

variable {contents beginMarker endMarker : String} {before after middle rest : List Char}

/-- The bytes of a text around its first begin marker. -/
theorem toUTF8_of_cut (h : FirstOccurrence beginMarker.toList contents.toList before after) :
    contents.toUTF8 = before.utf8Encode ++ beginMarker.toUTF8 ++ (String.ofList after).toUTF8 := by
  rw [← utf8Encode_toList, h.cut, List.utf8Encode_append, List.utf8Encode_append, utf8Encode_toList,
    toUTF8_ofList]

theorem size_head : (before.utf8Encode ++ beginMarker.toUTF8).size =
    before.utf8Encode.size + beginMarker.utf8ByteSize :=
  ByteArray.size_append

/-- What the search for the end marker finds after the begin marker, from the
beginning of the text. -/
theorem firstFrom_end (hend : endMarker ≠ "")
    (hb : FirstOccurrence beginMarker.toList contents.toList before after)
    (he : FirstOccurrence endMarker.toList after middle rest) :
    FirstFrom endMarker.toUTF8 contents.toUTF8 (before.utf8Encode.size + beginMarker.utf8ByteSize)
      (before.utf8Encode.size + beginMarker.utf8ByteSize + middle.utf8Encode.size) := by
  have hafter : FirstOccurrence endMarker.toList (String.ofList after).toList middle rest := by
    rw [String.toList_ofList]
    exact he
  have hfrom := (hafter.firstFrom hend).append_left (before.utf8Encode ++ beginMarker.toUTF8)
  rw [size_head, ← toUTF8_of_cut hb] at hfrom
  exact hfrom

/-- Without an end marker after the begin marker there is none from there on. -/
theorem not_occursAt_end (hend : endMarker ≠ "")
    (hb : FirstOccurrence beginMarker.toList contents.toList before after)
    (he : ¬ endMarker.toList <:+: after) :
    ∀ j, before.utf8Encode.size + beginMarker.utf8ByteSize ≤ j →
      ¬ OccursAt endMarker.toUTF8 contents.toUTF8 j := by
  have hafter : ¬ endMarker.toList <:+: (String.ofList after).toList := by
    rw [String.toList_ofList]
    exact he
  have hnone := not_occursAt_append_left ((not_occursAt_iff hend).mpr hafter)
    (before.utf8Encode ++ beginMarker.toUTF8)
  rw [size_head, ← toUTF8_of_cut hb] at hnone
  exact hnone

theorem region_of_firstOccurrences (hbegin : beginMarker ≠ "") (hend : endMarker ≠ "")
    (hb : FirstOccurrence beginMarker.toList contents.toList before after)
    (he : FirstOccurrence endMarker.toList after middle rest) :
    Region contents beginMarker endMarker (String.ofList (before ++ beginMarker.toList))
      (String.ofList (endMarker.toList ++ rest)) before.utf8Encode.size
      (before.utf8Encode.size + beginMarker.utf8ByteSize + middle.utf8Encode.size) := by
  have hfirst := hb.firstFrom hbegin
  have hcut := toUTF8_of_cut hb
  have hhead : (String.ofList (before ++ beginMarker.toList)).toUTF8 =
      before.utf8Encode ++ beginMarker.toUTF8 := by
    rw [toUTF8_ofList, List.utf8Encode_append, utf8Encode_toList]
  have htail : (String.ofList (endMarker.toList ++ rest)).toUTF8 =
      endMarker.toUTF8 ++ rest.utf8Encode := by
    rw [toUTF8_ofList, List.utf8Encode_append, utf8Encode_toList]
  have hafter : (String.ofList after).toUTF8 =
      middle.utf8Encode ++ (endMarker.toUTF8 ++ rest.utf8Encode) := by
    rw [toUTF8_ofList, he.cut, List.utf8Encode_append, List.utf8Encode_append, utf8Encode_toList,
      ByteArray.append_assoc]
  have hsize : contents.utf8ByteSize =
      (before.utf8Encode ++ beginMarker.toUTF8 ++ middle.utf8Encode).size +
        (endMarker.toUTF8 ++ rest.utf8Encode).size := by
    rw [← String.size_toByteArray, ← String.toUTF8_eq_toByteArray, hcut, hafter,
      ← ByteArray.append_assoc, ByteArray.size_append]
  refine { begins := hfirst, ends := firstFrom_end hend hb he, head_eq := ?head, tail_eq := ?tail,
           begins_once := fun k => ⟨?once, ?last⟩, tail_starts := ?starts }
  case head => rw [hhead, hcut, ByteArray.extract_append_eq_left size_head.symm]
  case tail =>
    rw [htail, hcut, hafter, ← ByteArray.append_assoc, ByteArray.extract_append_eq_right _ hsize]
    rw [ByteArray.size_append, size_head]
  case once =>
    intro hk
    rw [hhead] at hk
    have hle := hk.size_le
    rw [ByteArray.size_append] at hle
    have hge := hfirst.first k (Nat.zero_le k) (hcut ▸ hk.append_right _)
    omega
  case last =>
    intro he
    subst he
    rw [hhead]
    exact ⟨before.utf8Encode, ByteArray.empty, ByteArray.append_empty.symm, rfl⟩
  case starts =>
    rw [htail]
    exact ⟨ByteArray.empty, rest.utf8Encode, by rw [ByteArray.empty_append], rfl⟩

end

/-- A text lacks a marker, or is cut at both. -/
theorem splitRegion_cases {beginMarker endMarker : String} (hbegin : beginMarker ≠ "")
    (hend : endMarker ≠ "") (contents : String) :
    (∃ marker, splitRegion contents beginMarker endMarker = .error marker ∧
      ∀ m, Lacks contents beginMarker endMarker m ↔ m = marker) ∨
    ∃ head tail i j, splitRegion contents beginMarker endMarker = .ok (head, tail) ∧
      Region contents beginMarker endMarker head tail i j ∧
      ∀ m, ¬ Lacks contents beginMarker endMarker m := by
  unfold splitRegion
  cases hb : splitAtFirst? beginMarker.toList contents.toList with
  | none =>
    have hnone := (not_occursAt_iff hbegin).mpr ((splitAtFirst?_eq_none_iff ..).mp hb)
    refine .inl ⟨beginMarker, rfl, fun m => ⟨fun h => ?_, ?_⟩⟩
    · cases h with
      | noBegin => rfl
      | noEnd hfirst => exact absurd hfirst.occurs (hnone _)
    · intro he
      subst he
      exact .noBegin hnone
  | some found =>
    obtain ⟨before, after⟩ := found
    have hcut := splitAtFirst?_eq_some_iff.mp hb
    have hfirst := hcut.firstFrom hbegin
    dsimp only
    cases he : splitAtFirst? endMarker.toList after with
    | none =>
      have hnone := not_occursAt_end hend hcut ((splitAtFirst?_eq_none_iff ..).mp he)
      refine .inl ⟨endMarker, rfl, fun m => ⟨fun h => ?_, ?_⟩⟩
      · cases h with
        | noBegin habsent => exact absurd hfirst.occurs (habsent _)
        | noEnd => rfl
      · intro he
        subst he
        exact .noEnd hfirst hnone
    | some found =>
      obtain ⟨middle, rest⟩ := found
      have hregion := region_of_firstOccurrences hbegin hend hcut (splitAtFirst?_eq_some_iff.mp he)
      refine .inr ⟨_, _, _, _, rfl, hregion, fun m h => ?_⟩
      cases h with
      | noBegin habsent => exact habsent _ hfirst.occurs
      | noEnd hfirst' habsent =>
        obtain rfl := hfirst'.unique hfirst
        exact habsent _ hregion.ends.start_le hregion.ends.occurs

theorem splitRegion_eq_ok_iff {contents beginMarker endMarker head tail : String} :
    splitRegion contents beginMarker endMarker = .ok (head, tail) ↔
      ∃ before after middle rest, FirstOccurrence beginMarker.toList contents.toList before after ∧
        FirstOccurrence endMarker.toList after middle rest ∧
        head = String.ofList (before ++ beginMarker.toList) ∧
        tail = String.ofList (endMarker.toList ++ rest) := by
  unfold splitRegion
  constructor
  · intro h
    split at h
    · cases h
    next before after hb =>
      split at h
      · cases h
      next middle rest he =>
        cases h
        exact ⟨before, after, middle, rest, splitAtFirst?_eq_some_iff.mp hb,
          splitAtFirst?_eq_some_iff.mp he, rfl, rfl⟩
  · rintro ⟨before, after, middle, rest, hb, he, rfl, rfl⟩
    simp only [splitAtFirst?_eq_some_iff.mpr hb, splitAtFirst?_eq_some_iff.mpr he]

/-! ## What is written back -/

theorem render_eq (s : PatchSink) :
    s.render = s.head ++ (if s.head.toList.getLast? = some '\n' then "" else "\n") ++
      (s.indent ++ s.comment ++ "\n") ++
      String.join (s.statements.map fun line => s.indent ++ line ++ "\n") ++ s.tail := by
  simp only [render, region, List.map_cons, String.join_cons, String.append_assoc]

/-- What an open sink without statements does with some entries. -/
theorem finish_after_saveAll {s : PatchSink} (hopen : s.finished = false) (hnew : s.statements = [])
    (fs : FileSystem) (comment : String) (es : List Entry) (faults : Faults) :
    ∃ s', saveAll (sink faults) es (s.withComment comment, fs) = (.ok (), s', fs) ∧
      ∀ now s'' after, s'.finish faults now = (.ok (), s'', after) →
        ∃ target, now.find s.path = .ok target ∧ Replaced s.path
          (s.head ++ (if s.head.toList.getLast? = some '\n' then "" else "\n") ++
            (s.indent ++ comment ++ "\n") ++
            String.join (es.map fun e => s.indent ++ Statement.render s.root e ++ "\n") ++
            s.tail).toUTF8 target.mode now after := by
  have hcommented : (s.withComment comment).finished = false := hopen
  refine ⟨_, saveAll_sink hcommented faults es fs, fun now s'' after hfinish => ?_⟩
  obtain ⟨-, target, hfind, hreplaced⟩ := finish_ok (by exact hopen) hfinish
  rw [render_eq] at hreplaced
  simp only [withComment, hnew, List.nil_append, List.map_map] at hreplaced
  exact ⟨target, hfind, hreplaced⟩

/-- **The splice is exact.** On a file of some text a sink opens if the text
has both markers, and otherwise names the one that it lacks. Registering
entries changes no file. A finish that succeeds replaces the file by its two
outer parts as they were, and between them the comment and the statements
of the entries in order, each indented and on a line of its own. -/
theorem load_splice {fs : FileSystem} {path contents : String} {mode : Nat}
    (hfile : fs.find path = .ok (.file contents.toUTF8 mode)) {config : PatchConfig}
    (hbegin : config.beginMarker ≠ "") (hend : config.endMarker ≠ "") (root : String)
    (platform : Platform) (stamp : Nat) :
    (∀ marker, load fs path config root platform stamp = .error (.missingMarker path marker) ↔
      Lacks contents config.beginMarker config.endMarker marker) ∧
    ((∃ s, load fs path config root platform stamp = .ok s) ↔
      ∀ marker, ¬ Lacks contents config.beginMarker config.endMarker marker) ∧
    ∀ s, load fs path config root platform stamp = .ok s →
      (∃ i j, Region contents config.beginMarker config.endMarker s.head s.tail i j) ∧
      ∀ (comment : String) (es : List Entry) (faults : Faults), ∃ s',
        saveAll (sink faults) es (s.withComment comment, fs) = (.ok (), s', fs) ∧
        ∀ now s'' after, s'.finish faults now = (.ok (), s'', after) →
          ∃ target, now.find path = .ok target ∧ Replaced path
            (s.head ++ (if s.head.toList.getLast? = some '\n' then "" else "\n") ++
              (config.indent ++ comment ++ "\n") ++
              String.join (es.map fun e => config.indent ++ Statement.render root e ++ "\n") ++
              s.tail).toUTF8 target.mode now after := by
  have hload := load_of_read (readText_of_find hfile) config root platform stamp
  rcases splitRegion_cases hbegin hend contents with
    ⟨missing, hsplit, hlacks⟩ | ⟨head, tail, i, j, hsplit, hregion, hnone⟩
  · rw [hsplit] at hload
    simp only [hload]
    refine ⟨fun marker => ?_, ⟨?_, fun h => ?_⟩, ?_⟩
    · rw [hlacks marker, Except.error.injEq, Error.missingMarker.injEq]
      exact ⟨fun h => h.2.symm, fun h => ⟨rfl, h.symm⟩⟩
    · intro ⟨s, hs⟩
      cases hs
    · exact absurd ((hlacks missing).mpr rfl) (h missing)
    · intro s hs
      cases hs
  · rw [hsplit] at hload
    simp only [hload]
    refine ⟨fun marker => ⟨?_, fun h => absurd h (hnone marker)⟩,
      ⟨fun _ => hnone, fun _ => ⟨_, rfl⟩⟩, ?_⟩
    · intro h
      cases h
    · intro s hs
      cases hs
      exact ⟨⟨i, j, hregion⟩, finish_after_saveAll rfl rfl fs⟩

/-- A file with something between an `A` and a `B`. -/
def lettered : FileSystem := ⟨[(["T"], .file "aAbBc".toUTF8 0o640)]⟩

theorem load_splice_lettered :
    ∃ s s' s'' after, load lettered "T" ⟨none, "A", "B", " "⟩ "r" .x86Linux 0 = .ok s ∧
      saveAll (sink Faults.none) [⟨"k", .boolean true⟩] (s.withComment "c", lettered) =
        (.ok (), s', lettered) ∧
      s'.finish Faults.none lettered = (.ok (), s'', after) ∧
      Replaced "T" "aA\n c\n configuration.config(\"r.k\", true);\nBc".toUTF8 0o640 lettered after := by
  have hfile : lettered.find "T" = .ok (.file "aAbBc".toUTF8 0o640) := rfl
  obtain ⟨-, -, hsplice⟩ :=
    @load_splice _ _ _ _ hfile ⟨none, "A", "B", " "⟩ (by decide) (by decide) "r" .x86Linux 0
  have hload : load lettered "T" ⟨none, "A", "B", " "⟩ "r" .x86Linux 0 =
      .ok ⟨"T", "r", " ", "aA", "Bc", generatedBy .x86Linux 0, [], false⟩ := by rfl
  obtain ⟨-, hwrites⟩ := hsplice _ hload
  obtain ⟨s', hsaved, hfinish⟩ := hwrites "c" [⟨"k", .boolean true⟩] Faults.none
  have hstatement : saveAll (sink Faults.none) [⟨"k", .boolean true⟩]
      (withComment ⟨"T", "r", " ", "aA", "Bc", generatedBy .x86Linux 0, [], false⟩ "c", lettered) =
      (.ok (), ⟨"T", "r", " ", "aA", "Bc", "c", ["configuration.config(\"r.k\", true);"], false⟩,
        lettered) := by
    rfl
  obtain rfl : _ = s' := congrArg (fun r => r.2.1) (hstatement.symm.trans hsaved)
  rcases hfin : finish Faults.none
      ⟨"T", "r", " ", "aA", "Bc", "c", ["configuration.config(\"r.k\", true);"], false⟩
      lettered with ⟨r, s'', after⟩
  have hok : r = .ok () := (congrArg (fun x => x.1) hfin).symm.trans (by rfl)
  rw [hok] at hfin
  obtain ⟨target, hfind, hreplaced⟩ := hfinish lettered s'' after hfin
  rw [hfile] at hfind
  cases hfind
  exact ⟨_, _, _, _, hload, hstatement, hfin, hreplaced⟩

end AbiProbe.PatchSink
