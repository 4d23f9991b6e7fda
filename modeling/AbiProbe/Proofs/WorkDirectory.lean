/-
Files in a directory that a path leads to. A temporary file stands there under
a fresh name (`createTemporary_in`); the path of the directory with such a name
leads to it (`LeadsTo.resolve_join`), as long as the path leads to the same
directory. A file that is removed by its path is gone, and nothing else is
(`cleared_without`).
-/
import AbiProbe.Compiler.Plan
import AbiProbe.Proofs.Publication

namespace AbiProbe

namespace FileSystem

theorem hasDirectory_iff {fs : FileSystem} {place : Place} :
    fs.hasDirectory place = true ↔ ∃ mode, fs.node? place = some (.directory mode) := by
  unfold hasDirectory
  cases fs.node? place with
  | none => simp
  | some n => cases n <;> simp [FileNode.isDirectory]

theorem KeepsDirectories.leadsTo {fs fs' : FileSystem} (h : fs.KeepsDirectories fs') {path : String}
    {dir : Place} (hdir : fs.LeadsTo path dir) : fs'.LeadsTo path dir := by
  obtain ⟨mode, hmode⟩ := hasDirectory_iff.mp hdir.directory
  refine ⟨hasDirectory_iff.mpr ⟨mode, h dir mode hmode⟩, ?_⟩
  have hleads := hdir.leads
  by_cases hpath : path = ""
  · rwa [if_pos hpath] at hleads ⊢
  · rw [if_neg hpath] at hleads ⊢
    exact h.resolve hleads

end FileSystem

/-! ## Names in a directory -/

/-- A name that a file can have and that does not name a directory. -/
structure Path.IsFileName (name : String) : Prop where
  isName : IsName name
  noNul : '\x00' ∉ name.toList
  noDot : name.toList.getLast? ≠ some '.'

namespace Path.IsFileName

variable {name : String}

theorem ne_dot (h : IsFileName name) : name ≠ "." := by
  rintro rfl
  exact h.noDot rfl

theorem ne_dots (h : IsFileName name) : name ≠ ".." := by
  rintro rfl
  exact h.noDot rfl

theorem namesDirectory_join (h : IsFileName name) (dir : String) : namesDirectory (join dir name) = false := by
  have hjoin := getLast?_join dir h.isName.1
  have hslash : name.toList.getLast? ≠ some '/' := fun he => h.isName.2 (List.mem_of_getLast? he)
  have hdot := h.noDot
  rw [← hjoin] at hslash hdot
  generalize join dir name = path at hslash hdot
  have hne : path ≠ "." := by
    rintro rfl
    exact hdot rfl
  have hend : (path.toList.reverse.take 2 == ['.', '/']) = false := by
    rw [beq_eq_false_iff_ne]
    intro he
    have hhead := congrArg List.head? he
    rw [List.head?_take, if_neg (by decide), List.head?_reverse] at hhead
    exact hdot hhead
  simp [namesDirectory, hslash, hne, hend]

end Path.IsFileName

namespace FileSystem

theorem enter_name {fs : FileSystem} {dir : Place} {name : String} (hdir : fs.hasDirectory dir = true)
    (hname : Path.IsFileName name) (hlen : name.utf8ByteSize ≤ longestName) :
    fs.enter dir name = .ok (dir ++ [name]) := by
  obtain ⟨mode, hmode⟩ := hasDirectory_iff.mp hdir
  simp [enter, hmode, Nat.not_lt.mpr hlen, hname.ne_dot, hname.ne_dots]

/-- The path of a name in a directory leads into the directory. -/
theorem LeadsTo.resolve_join {fs : FileSystem} {path name : String} {dir : Place} (h : fs.LeadsTo path dir)
    (hname : Path.IsFileName name) (hlen : name.utf8ByteSize ≤ longestName) :
    fs.resolve (Path.join path name) = .ok (dir ++ [name]) := by
  have hstep : Path.IsStep name := ⟨hname.isName, hname.ne_dot⟩
  have henter := enter_name h.directory hname hlen
  suffices hway : '\x00' ∉ (Path.join path name).toList ∧
      fs.walk (Path.parts (Path.join path name)) = .ok (dir ++ [name]) by
    simp [resolve, hway.1, hway.2, hname.namesDirectory_join]
  have hleads := h.leads
  split at hleads
  next hempty =>
    subst hempty hleads
    have hparts : Path.parts name = [name] := by
      have hhead := hname.isName.head?_intercalate []
      rw [String.intercalate_singleton] at hhead
      simp [Path.parts, hhead, Path.namesOf_of_isName hname.isName]
    have htop : name ≠ Path.top := by
      rintro rfl
      exact hname.isName.2 (by decide)
    refine ⟨hname.noNul, ?_⟩
    rw [Path.join_empty, hparts, walk, if_neg htop, List.foldlM_cons, henter]
    rfl
  next hpath =>
    obtain ⟨hnul, hwalk⟩ := resolve_eq_ok hleads
    have hparts : Path.parts path ≠ [] := by
      intro hnil
      rw [hnil] at hwalk
      cases hwalk
    refine ⟨?_, ?_⟩
    · obtain ⟨base, hjoin, -, hbase⟩ := Path.exists_join hpath name
      rw [hjoin, List.mem_append, List.mem_cons, not_or, not_or]
      exact ⟨fun hmem => hnul (hbase _ hmem), by decide, hname.noNul⟩
    · rw [Path.parts_join hparts hstep, walk_append fs hparts, hwalk]
      exact henter

/-! ## Fresh names -/

theorem freshName_eq (fs : FileSystem) (dir : Place) (stem suffix : String) :
    ∃ k, fs.freshName dir stem suffix = stem ++ freshPart k ++ suffix := by
  unfold freshName
  dsimp only
  split
  next k _ => exact ⟨k, rfl⟩
  next => exact ⟨_, rfl⟩

theorem mem_freshPart {k : Nat} {c : Char} (h : c ∈ (freshPart k).toList) : c = 'X' ∨ c.isDigit = true := by
  unfold freshPart at h
  split at h
  · exact .inl (by simpa using h)
  · rw [String.toList_append, List.mem_append] at h
    rcases h with h | h
    · exact .inl (by simpa using h)
    · rw [show toString k = k.repr from rfl, Nat.toList_repr] at h
      exact .inr (Nat.isDigit_of_mem_toDigits (by decide) (by decide) h)

theorem createTemporary_in {fs fs' : FileSystem} {path stem suffix name : String} {place : Place}
    (h : fs.createTemporary path stem suffix = .ok (name, place, fs')) :
    ∃ dir, fs.LeadsTo path dir ∧ name = fs.freshName dir stem suffix ∧ place = dir ++ [name] := by
  have hin : ∀ dir, fs.temporaryIn dir stem suffix = .ok (name, place, fs') →
      fs.hasDirectory dir = true ∧ name = fs.freshName dir stem suffix ∧ place = dir ++ [name] := by
    intro dir htemp
    unfold temporaryIn at htemp
    split at htemp
    · cases htemp
    · cases htemp
    next mode hmode =>
      cases htemp
      exact ⟨hasDirectory_iff.mpr ⟨mode, hmode⟩, rfl, rfl⟩
  unfold createTemporary at h
  by_cases hpath : path = ""
  · subst hpath
    obtain ⟨hdir, hname, hplace⟩ := hin [] h
    exact ⟨[], ⟨hdir, rfl⟩, hname, hplace⟩
  · have hempty : path.isEmpty = false := by simpa using hpath
    simp only [hempty, Bool.false_eq_true, if_false] at h
    cases hresolve : fs.resolve path with
    | error f => simp [hresolve, bind, Except.bind] at h
    | ok dir =>
      rw [hresolve] at h
      obtain ⟨hdir, hname, hplace⟩ := hin dir h
      exact ⟨dir, ⟨hdir, by rw [if_neg hpath, hresolve]⟩, hname, hplace⟩

end FileSystem

/-! ## Removing files -/

namespace Compiler

open FileSystem

variable (fs : FileSystem) (path : String)

/-- What is removed by its path is a file. -/
theorem without_cases :
    (∃ place content mode, fs.resolve path = .ok place ∧ fs.node? place = some (.file content mode) ∧
        without fs path = fs.erase place) ∨
      (∀ place, fs.resolve path = .ok place → ∀ content mode, fs.node? place ≠ some (.file content mode)) ∧
        without fs path = fs := by
  unfold without removeFile
  cases hpath : fs.resolve path with
  | error f => simp [bind, Except.bind]
  | ok place =>
    simp only [bind, Except.bind, Except.ok.injEq, forall_eq']
    cases hn : fs.node? place with
    | none => exact .inr ⟨by simp, rfl⟩
    | some n =>
      cases n with
      | file content mode => exact .inl ⟨place, content, mode, rfl, hn, rfl⟩
      | directory mode => exact .inr ⟨by simp, rfl⟩

/-- Directories stay as they are, and none is made. -/
theorem directory_without_iff (place : Place) (mode : Nat) :
    (without fs path).node? place = some (.directory mode) ↔ fs.node? place = some (.directory mode) := by
  rcases without_cases fs path with ⟨removed, content, m, -, hfile, hw⟩ | ⟨-, hw⟩
  · have hne : removed ≠ [] := by
      rintro rfl
      cases hfile
    rw [hw]
    by_cases hplace : removed = place
    · subst hplace
      simp [node?_erase_self hne, hfile]
    · rw [node?_erase_other hplace]
  · rw [hw]

theorem resolve_without_iff (other : String) (place : Place) :
    (without fs path).resolve other = .ok place ↔ fs.resolve other = .ok place := by
  have hthere : fs.KeepsDirectories (without fs path) := fun q m => (directory_without_iff fs path q m).mpr
  have hback : (without fs path).KeepsDirectories fs := fun q m => (directory_without_iff fs path q m).mp
  exact ⟨hback.resolve, hthere.resolve⟩

/-- Removing by a path clears it. -/
theorem cleared_without : Cleared [path] fs (without fs path) := by
  rcases without_cases fs path with ⟨removed, content, m, hpath, hfile, hw⟩ | ⟨hnone, hw⟩
  · have hne : removed ≠ [] := by
      rintro rfl
      cases hfile
    have hgone : (fs.erase removed).node? removed = none := node?_erase_self hne
    rw [hw]
    refine ⟨?_, ?_, fun place hplace => node?_erase_other (fun heq => ?_) fs⟩
    · simp [hpath, hgone]
    · simp [hpath, hgone]
    · exact hplace path (List.mem_singleton_self path) (by rw [hpath, heq])
  · rw [hw]
    refine ⟨?_, ?_, fun _ _ => rfl⟩
    · simpa using hnone
    · simp only [List.mem_singleton, forall_eq]
      intro place hpath hdir
      cases hn : fs.node? place with
      | none => rfl
      | some n =>
        cases n with
        | file content mode => exact absurd hn (hnone place hpath content mode)
        | directory mode => simp [hasDirectory, hn, FileNode.isDirectory] at hdir

end Compiler

namespace FileSystem.Cleared

variable {fs mid after : FileSystem} {ps qs : List String}

/-- Paths that are cleared one after the other, and lead to the same places
all the time. -/
theorem trans (h : Cleared ps fs mid) (h' : Cleared qs mid after)
    (hsame : ∀ path place, mid.resolve path = .ok place ↔ fs.resolve path = .ok place) :
    Cleared (ps ++ qs) fs after where
  noFile path hmem place hpath content mode := by
    by_cases hq : ∃ q ∈ qs, mid.resolve q = .ok place
    · obtain ⟨q, hq, hqpath⟩ := hq
      exact h'.noFile q hq place hqpath content mode
    · have hp : path ∈ ps := (List.mem_append.mp hmem).resolve_right fun hmem =>
        hq ⟨path, hmem, (hsame path place).mpr hpath⟩
      rw [h'.others place fun q hmem hqpath => hq ⟨q, hmem, hqpath⟩]
      exact h.noFile path hp place hpath content mode
  nothing path hmem place hpath hdir := by
    have hmid : mid.hasDirectory place = false := by
      by_cases hp : ∃ p ∈ ps, fs.resolve p = .ok place
      · obtain ⟨p, hp, hppath⟩ := hp
        simp [hasDirectory, h.nothing p hp place hppath hdir]
      · rwa [hasDirectory, h.others place fun p hmem hppath => hp ⟨p, hmem, hppath⟩]
    by_cases hq : ∃ q ∈ qs, mid.resolve q = .ok place
    · obtain ⟨q, hq, hqpath⟩ := hq
      exact h'.nothing q hq place hqpath hmid
    · have hp : path ∈ ps := (List.mem_append.mp hmem).resolve_right fun hmem =>
        hq ⟨path, hmem, (hsame path place).mpr hpath⟩
      rw [h'.others place fun q hmem hqpath => hq ⟨q, hmem, hqpath⟩]
      exact h.nothing path hp place hpath hdir
  others place hplace := by
    have hmid := h.others place fun p hp => hplace p (List.mem_append_left qs hp)
    rw [← hmid]
    refine h'.others place fun q hq hqpath => ?_
    exact hplace q (List.mem_append_right ps hq) ((hsame q place).mp hqpath)

end FileSystem.Cleared

end AbiProbe
