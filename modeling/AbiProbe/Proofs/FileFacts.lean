/-
What the file operations of a run leave behind. A temporary file is put where
nothing was (`createTemporary_eq_ok`), so removing it gives back the files as
they were (`erase_put_of_absent`). A publication either fails and removes it
(`publish_error`), or replaces one file and nothing else (`publish_ok`).

A path goes through directories only, so what is done to files does not
change where it leads (`KeepsDirectories.resolve`).
-/
import AbiProbe.Sink.Publish
import Mathlib.Data.List.Nodup
import Mathlib.Data.List.Perm.Subperm
import Std.Data.String.ToNat

namespace AbiProbe.FileSystem

/-! ## Nodes -/

theorem lookup_eq_none_iff (place : Place) (nodes : List (Place × FileNode)) :
    lookup place nodes = none ↔ place ∉ nodes.map (·.1) := by
  induction nodes with
  | nil => simp [lookup]
  | cons p rest ih =>
    obtain ⟨q, n⟩ := p
    by_cases h : q = place
    · simp [lookup, h]
    · simp [lookup, h, ih, Ne.symm h]

theorem ne_nil_of_absent {fs : FileSystem} {place : Place} (h : fs.node? place = none) :
    place ≠ [] := by
  intro he
  subst he
  simp [node?] at h

theorem erase_of_absent {fs : FileSystem} {place : Place} (h : fs.node? place = none) :
    fs.erase place = fs := by
  rw [node?, if_neg (ne_nil_of_absent h), lookup_eq_none_iff] at h
  have hall : fs.nodes.filter (fun p => p.1 != place) = fs.nodes := by
    refine List.filter_eq_self.mpr fun p hp => ?_
    have : p.1 ≠ place := fun he => h (he ▸ List.mem_map_of_mem hp)
    simpa using this
  rw [erase, hall]

theorem erase_put (fs : FileSystem) (place : Place) (n : FileNode) :
    (fs.put place n).erase place = fs.erase place := by
  simp [put, erase]

/-- Putting something where nothing was, and erasing it. -/
theorem erase_put_of_absent {fs : FileSystem} {place : Place} (h : fs.node? place = none)
    (n : FileNode) : (fs.put place n).erase place = fs := by
  rw [erase_put, erase_of_absent h]

theorem put_put (fs : FileSystem) (place : Place) (m n : FileNode) :
    (fs.put place m).put place n = fs.put place n := by
  rw [put, erase_put, put]

/-! ## Fresh names -/

theorem freshPart_injective : Function.Injective freshPart := by
  have hX : ∀ k : Nat, "X" ≠ toString k := by
    intro k hk
    have hmem : 'X' ∈ (toString k).toList := by
      rw [← hk]
      decide
    rw [show toString k = k.repr from rfl, Nat.toList_repr] at hmem
    exact absurd (Nat.isDigit_of_mem_toDigits (by decide) (by decide) hmem) (by decide)
  have hzero : "XXXXXX" = "XXXXX" ++ "X" := by decide
  intro j k h
  unfold freshPart at h
  split at h <;> split at h
  next hj hk => rw [hj, hk]
  next => rw [hzero, String.append_right_inj] at h; exact absurd h (hX k)
  next => rw [hzero, String.append_right_inj] at h; exact absurd h.symm (hX j)
  next => exact Nat.repr_injective ((String.append_right_inj _).mp h)

/-- Among more places than there are nodes, one is free. -/
theorem exists_free {fs : FileSystem} {places : List Place} (hnodup : places.Nodup)
    (hlen : fs.nodes.length < places.length) (hne : [] ∉ places) :
    ∃ place ∈ places, fs.node? place = none := by
  by_contra hall
  have hsub : places ⊆ fs.nodes.map (·.1) := by
    intro place hp
    by_contra hmem
    refine hall ⟨place, hp, ?_⟩
    have hnil : place ≠ [] := by
      intro he
      subst he
      exact hne hp
    rw [node?, if_neg hnil, lookup_eq_none_iff]
    exact hmem
  have hle := (hnodup.subperm hsub).length_le
  rw [List.length_map] at hle
  omega

theorem node?_freshName (fs : FileSystem) (dir : Place) (stem suffix : String) :
    fs.node? (dir ++ [fs.freshName dir stem suffix]) = none := by
  let name (k : Nat) := stem ++ freshPart k ++ suffix
  have hinj : Function.Injective fun k => dir ++ [name k] := by
    intro j k h
    have hname : name j = name k := by simpa using h
    exact freshPart_injective ((String.append_right_inj _).mp ((String.append_left_inj _).mp hname))
  obtain ⟨place, hp, hfree⟩ : ∃ place ∈ (List.range (fs.nodes.length + 1)).map (fun k => dir ++ [name k]),
      fs.node? place = none := by
    refine exists_free (List.Nodup.map hinj List.nodup_range) (by simp) ?_
    simp
  obtain ⟨k, hk, rfl⟩ := List.mem_map.mp hp
  unfold freshName
  dsimp only
  split
  next k' hfind => simpa using List.find?_some hfind
  next hnone =>
    have := List.find?_eq_none.mp hnone k hk
    exact absurd hfree (by simpa using this)

theorem temporaryIn_eq_ok {fs fs' : FileSystem} {dir place : Place} {stem suffix name : String}
    (h : fs.temporaryIn dir stem suffix = .ok (name, place, fs')) :
    fs.node? place = none ∧ fs' = fs.put place (.file ByteArray.empty 0o600) := by
  unfold temporaryIn at h
  split at h
  · cases h
  · cases h
  · cases h
    exact ⟨node?_freshName .., rfl⟩

/-- A temporary file is put where nothing was. -/
theorem createTemporary_eq_ok {fs fs' : FileSystem} {dir stem suffix name : String} {place : Place}
    (h : fs.createTemporary dir stem suffix = .ok (name, place, fs')) :
    fs.node? place = none ∧ fs' = fs.put place (.file ByteArray.empty 0o600) := by
  unfold createTemporary at h
  simp only [bind, Except.bind, pure, Except.pure] at h
  split at h
  · exact temporaryIn_eq_ok h
  · split at h
    · cases h
    · exact temporaryIn_eq_ok h

/-! ## Paths and directories -/

/-- Every directory of one file system is one in another. -/
def KeepsDirectories (fs fs' : FileSystem) : Prop :=
  ∀ place mode, fs.node? place = some (.directory mode) → fs'.node? place = some (.directory mode)

theorem KeepsDirectories.enter {fs fs' : FileSystem} (h : fs.KeepsDirectories fs') {place q : Place}
    {part : String} (he : fs.enter place part = .ok q) : fs'.enter place part = .ok q := by
  unfold FileSystem.enter at he ⊢
  split at he
  · cases he
  · cases he
  next mode hn =>
    rw [h _ _ hn]
    exact he

theorem KeepsDirectories.foldlM_enter {fs fs' : FileSystem} (h : fs.KeepsDirectories fs')
    {parts : List String} {start place : Place} (hp : parts.foldlM fs.enter start = .ok place) :
    parts.foldlM fs'.enter start = .ok place := by
  induction parts generalizing start with
  | nil => exact hp
  | cons part parts ih =>
    rw [List.foldlM_cons] at hp ⊢
    cases he : fs.enter start part with
    | error f => simp [he, bind, Except.bind] at hp
    | ok q =>
      rw [he] at hp
      rw [h.enter he]
      exact ih hp

theorem KeepsDirectories.walk {fs fs' : FileSystem} (h : fs.KeepsDirectories fs') {parts : List String}
    {place : Place} (hp : fs.walk parts = .ok place) : fs'.walk parts = .ok place := by
  unfold FileSystem.walk at hp ⊢
  split at hp
  · cases hp
  · split at hp
    next htop =>
      rw [if_pos htop]
      exact h.foldlM_enter hp
    next htop =>
      rw [if_neg htop]
      exact h.foldlM_enter hp

/-- A path names the same place where all directories are still there. -/
theorem KeepsDirectories.resolve {fs fs' : FileSystem} (h : fs.KeepsDirectories fs') {path : String}
    {place : Place} (hp : fs.resolve path = .ok place) : fs'.resolve path = .ok place := by
  unfold FileSystem.resolve at hp ⊢
  split at hp
  · cases hp
  next hnul =>
    rw [if_neg hnul]
    split at hp
    · cases hp
    next found hwalk =>
      rw [h.walk hwalk]
      split at hp
      next hdir =>
        split at hp
        · cases hp
        · cases hp
        next mode hn =>
          simp only [hdir, if_true, h _ _ hn]
          exact hp
      next hdir => simpa [hdir] using hp

/-- Where a file is put, if no directory is in its place, all directories
stay. -/
theorem keepsDirectories_put {fs : FileSystem} {place : Place} {n : FileNode}
    (h : ∀ mode, fs.node? place ≠ some (.directory mode)) : fs.KeepsDirectories (fs.put place n) := by
  intro other mode ho
  have hne : place ≠ other := by
    intro he
    subst he
    exact h mode ho
  rw [node?_put_other hne]
  exact ho

theorem keepsDirectories_erase {fs : FileSystem} {place : Place}
    (h : ∀ mode, fs.node? place ≠ some (.directory mode)) : fs.KeepsDirectories (fs.erase place) := by
  intro other mode ho
  have hne : place ≠ other := by
    intro he
    subst he
    exact h mode ho
  rw [node?_erase_other hne]
  exact ho

/-- A file where nothing was hides no directory. -/
theorem keepsDirectories_of_put {fs : FileSystem} {source : Place} (hfree : fs.node? source = none)
    (content : ByteArray) (mode : Nat) :
    (fs.put source (.file content mode)).KeepsDirectories fs := by
  have hfile : ∀ m, (fs.put source (.file content mode)).node? source ≠ some (.directory m) := by
    intro m hm
    rw [node?_put_self (ne_nil_of_absent hfree)] at hm
    cases hm
  have hkeep := keepsDirectories_erase hfile
  rwa [erase_put_of_absent hfree] at hkeep

theorem noDirectory_of_put {fs : FileSystem} {source place : Place} {n : FileNode}
    (hfree : fs.node? source = none)
    (h : ∀ mode, (fs.put source n).node? place ≠ some (.directory mode)) :
    ∀ mode, fs.node? place ≠ some (.directory mode) := by
  intro mode hm
  by_cases he : source = place
  · rw [← he, hfree] at hm
    cases hm
  · exact h mode ((node?_put_other he ..).trans hm)

theorem find_of_resolve {fs : FileSystem} {path : String} {place : Place} {n : FileNode}
    (hp : fs.resolve path = .ok place) (hn : fs.node? place = some n) : fs.find path = .ok n := by
  simp [find, hp, hn, bind, Except.bind, pure, Except.pure]

theorem fromUTF8?_toUTF8 (s : String) : String.fromUTF8? s.toUTF8 = some s := by
  have hvalid : s.toUTF8.IsValidUTF8 := s.isValidUTF8
  rw [String.fromUTF8?, dif_pos hvalid]
  rfl

theorem readText_of_find {fs : FileSystem} {path contents : String} {mode : Nat}
    (h : fs.find path = .ok (.file contents.toUTF8 mode)) : fs.readText path = .ok contents := by
  simp only [readText, readBytes, h, bind, Except.bind, pure, Except.pure, fromUTF8?_toUTF8]

theorem toUTF8_of_fromUTF8? {bytes : ByteArray} {s : String} (h : String.fromUTF8? bytes = some s) :
    bytes = s.toUTF8 := by
  unfold String.fromUTF8? at h
  split at h
  · cases h
    rfl
  · cases h

theorem find_of_readText {fs : FileSystem} {path contents : String}
    (h : fs.readText path = .ok contents) :
    ∃ mode, fs.find path = .ok (.file contents.toUTF8 mode) := by
  simp only [readText, readBytes, bind, Except.bind] at h
  cases hfind : fs.find path with
  | error f => simp [hfind] at h
  | ok n =>
    cases n with
    | directory mode => simp [hfind, throw, throwThe, MonadExceptOf.throw] at h
    | file content mode =>
      simp only [hfind, pure, Except.pure] at h
      split at h
      next s hs =>
        cases h
        exact ⟨mode, by rw [toUTF8_of_fromUTF8? hs]⟩
      · cases h

/-! ## Publication -/

/-- The file that `path` names in `after` is the only thing that is not as it
was before. -/
structure Replaced (path : String) (content : ByteArray) (mode : Nat) (before after : FileSystem) :
    Prop where
  found : after.find path = .ok (.file content mode)
  only : ∃ place, after = before.put place (.file content mode)

theorem erase_setContent (fs : FileSystem) (place : Place) (content : ByteArray) :
    (fs.setContent place content).erase place = fs.erase place := by
  unfold setContent
  split
  · exact erase_put ..
  · rfl

theorem erase_setMode (fs : FileSystem) (place : Place) (mode : Nat) :
    (fs.setMode place mode).erase place = fs.erase place := by
  unfold setMode
  split
  · exact erase_put ..
  · rfl

theorem setContent_put {fs : FileSystem} {place : Place} (h : place ≠ []) (old new : ByteArray)
    (mode : Nat) :
    (fs.put place (.file old mode)).setContent place new = fs.put place (.file new mode) := by
  simp only [setContent, node?_put_self h, put_put]

theorem setMode_put {fs : FileSystem} {place : Place} (h : place ≠ []) (content : ByteArray)
    (old new : Nat) :
    (fs.put place (.file content old)).setMode place new = fs.put place (.file content new) := by
  simp only [setMode, node?_put_self h, put_put]

theorem replace_eq_ok {fs fs' : FileSystem} {source : Place} {path : String}
    (h : fs.replace source path = .ok fs') :
    ∃ place n, fs.resolve path = .ok place ∧ (∀ mode, fs.node? place ≠ some (.directory mode)) ∧
      fs.node? source = some n ∧ fs' = (fs.erase source).put place n := by
  unfold replace at h
  simp only [bind, Except.bind] at h
  split at h
  · cases h
  next place hp =>
    split at h
    · cases h
    next hnot =>
      split at h
      next n hn =>
        split at h
        · cases h
          exact ⟨place, n, hp, fun mode => hnot mode, hn, rfl⟩
        · cases h
      · cases h

/-- A publication that fails leaves the files without the temporary one. -/
theorem publish_error {fs fs' : FileSystem} {faults : Faults} {source : Place} {content : ByteArray}
    {mode : Nat} {path : String} {f : FileFault}
    (h : fs.publish faults source content mode path = (.error f, fs')) : fs' = fs.erase source := by
  unfold publish at h
  split at h
  · cases h
    rfl
  · dsimp only at h
    split at h
    · cases h
      exact erase_setContent ..
    · split at h
      · cases h
        rw [erase_setMode, erase_setContent]
      · split at h
        · cases h
          rw [erase_setMode, erase_setContent]
        · cases h

/-- Once the temporary file is ready, replacing the target by it changes the
target only. -/
theorem replace_temporary {fs fs' : FileSystem} {source : Place} {content : ByteArray} {mode : Nat}
    {path : String} (hfree : fs.node? source = none)
    (h : (fs.put source (.file content mode)).replace source path = .ok fs') :
    Replaced path content mode fs fs' := by
  have hne := ne_nil_of_absent hfree
  obtain ⟨place, n, hp, hnot, hn, rfl⟩ := replace_eq_ok h
  rw [node?_put_self hne] at hn
  cases hn
  have hplace : place ≠ [] := by
    intro he
    subst he
    exact hnot 0o755 rfl
  have hfs := noDirectory_of_put hfree hnot
  rw [erase_put_of_absent hfree]
  refine ⟨find_of_resolve ?_ (node?_put_self hplace), place, rfl⟩
  exact (keepsDirectories_put hfs).resolve ((keepsDirectories_of_put hfree _ _).resolve hp)

/-- A publication that succeeds replaces the target as a whole, and leaves
everything else as it was before the temporary file was put at `source`. -/
theorem publish_ok {fs fs' : FileSystem} {faults : Faults} {source : Place} {old content : ByteArray}
    {oldMode mode : Nat} {path : String} (hfree : fs.node? source = none)
    (h : (fs.put source (.file old oldMode)).publish faults source content mode path = (.ok (), fs')) :
    Replaced path content mode fs fs' := by
  have hne := ne_nil_of_absent hfree
  unfold publish at h
  split at h
  · cases h
  · dsimp only at h
    split at h
    · cases h
    · rw [setContent_put hne, setMode_put hne] at h
      split at h
      · cases h
      · split at h
        · cases h
        next published hreplace =>
          cases h
          exact replace_temporary hfree hreplace

end AbiProbe.FileSystem
