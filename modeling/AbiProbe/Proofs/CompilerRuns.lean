/-
What a call of the compiler comes to, and what it leaves (`call_comes_to`).
The source is written to a place where nothing was (`writeSource_cases`); the
commands of the plan run, each one told by what the host says of it
(`Host.run_cases`); and at the end the paths of the source and of the binary
are cleared, however the plan came out. Of the commands nothing is assumed:
they may do with the files what they like.
-/
import AbiProbe.Proofs.WorkDirectory

namespace AbiProbe

open FileSystem Text

/-! ## One command -/

/-- A command is told by what the host says of it. -/
theorem Host.run_cases (host : Host) (c : Command) (fs : FileSystem) :
    ∃ outcome, host.start c fs = (outcome, (host.run c fs).2) ∧
      ((∃ done, outcome = .ok done ∧ done.status.isSuccess = true ∧
          (host.run c fs).1 = .ok (Utf8.decode done.stdout)) ∨
        ∃ why, (Attempt.mk c outcome).FailsWith why ∧
          (host.run c fs).1 = .error (.toolFailure c.text why)) := by
  unfold run
  split
  next f after hstart =>
    refine ⟨.error f, hstart, .inr ⟨_, ?_, rfl⟩⟩
    simp [Attempt.FailsWith]
  next done after hstart =>
    refine ⟨.ok done, ?_⟩
    by_cases hsuccess : done.status.isSuccess = true
    · simp [hstart, hsuccess]
    · simp only [hsuccess, Bool.false_eq_true, if_false]
      refine ⟨hstart, .inr ⟨_, ?_, rfl⟩⟩
      refine ⟨by simpa using hsuccess, ?_⟩
      simp only [String.isEmpty_iff, String.append_eq_empty_iff, Utf8.decode_eq_empty_iff]
      split
      next => simp
      next => rfl

/-! ## Plans -/

namespace ComesTo

/-- A plan comes to nothing more when its first command fails. -/
theorem of_fails {first : Command} {outcome : Except FileFault Completed} {why : String}
    (h : (Attempt.mk first outcome).FailsWith why) (rest : List Command) :
    ComesTo (first :: rest) [⟨first, outcome⟩] (.error (.toolFailure first.text why)) :=
  @ComesTo.failed (first :: rest) [] ⟨first, outcome⟩ rest why rfl (by simp) h

/-- When its first command succeeds, it comes to what the rest comes to. -/
theorem of_succeeds {first : Command} {done : Completed} (h : done.status.isSuccess = true)
    {rest : List Command} {tries : List Attempt} {result : Except Error String}
    (hrest : ComesTo rest tries result) : ComesTo (first :: rest) (⟨first, .ok done⟩ :: tries) result := by
  have hfirst : (Attempt.mk first (.ok done)).Succeeds := ⟨done, rfl, h⟩
  cases hrest with
  | done all succeed ends =>
    rw [← List.cons_append]
    exact .done (by simpa using all) (List.forall_mem_cons.mpr ⟨hfirst, succeed⟩) ends
  | failed begun succeed fails =>
    rw [← List.cons_append]
    exact .failed (by simpa using begun) (List.forall_mem_cons.mpr ⟨hfirst, succeed⟩) fails

end ComesTo

namespace Host

/-- One command alone comes to what running it gives. -/
theorem run_comes_to (host : Host) (c : Command) (fs : FileSystem) :
    ∃ tries, host.Runs fs tries (host.run c fs).2 ∧ ComesTo [c] tries (host.run c fs).1 := by
  obtain ⟨outcome, hstart, ⟨done, rfl, hsuccess, hresult⟩ | ⟨why, hfails, hresult⟩⟩ := host.run_cases c fs
  · refine ⟨[⟨c, .ok done⟩], .cons hstart (.nil _), ?_⟩
    rw [hresult]
    exact @ComesTo.done [c] [] ⟨c, .ok done⟩ done rfl (by simp [Attempt.Succeeds, hsuccess]) rfl
  · refine ⟨[⟨c, outcome⟩], .cons hstart (.nil _), ?_⟩
    rw [hresult]
    exact .of_fails hfails []

/-- A command and, if it succeeds, another one. -/
theorem runBoth_comes_to (host : Host) (first second : Command) (fs : FileSystem) :
    ∃ tries, host.Runs fs tries (host.runBoth first second fs).2 ∧
      ComesTo [first, second] tries (host.runBoth first second fs).1 := by
  unfold runBoth
  obtain ⟨outcome, hstart, ⟨done, rfl, hsuccess, hresult⟩ | ⟨why, hfails, hresult⟩⟩ := host.run_cases first fs
  · rw [← Prod.eta (host.run first fs), hresult]
    obtain ⟨tries, hruns, hcomes⟩ := host.run_comes_to second (host.run first fs).2
    exact ⟨⟨first, .ok done⟩ :: tries, .cons hstart hruns, hcomes.of_succeeds hsuccess⟩
  · rw [← Prod.eta (host.run first fs), hresult]
    exact ⟨[⟨first, outcome⟩], .cons hstart (.nil _), .of_fails hfails [second]⟩

end Host

namespace Compiler

/-! ## The source -/

theorem isFileName_of_chars {name : String} (hne : name ≠ "")
    (hchars : ∀ c ∈ name.toList, c ≠ '/' ∧ c ≠ '\x00') (hlast : name.toList.getLast? ≠ some '.') :
    Path.IsFileName name :=
  ⟨⟨hne, fun h => (hchars _ h).1 rfl⟩, fun h => (hchars _ h).2 rfl, hlast⟩

theorem chars_stem {k : Nat} {c : Char} (h : c ∈ (stem ++ freshPart k).toList) :
    c ≠ '/' ∧ c ≠ '\x00' ∧ c ≠ '.' := by
  rw [String.toList_append, List.mem_append] at h
  rcases h with h | h
  · have hstem : ∀ c ∈ stem.toList, c ≠ '/' ∧ c ≠ '\x00' ∧ c ≠ '.' := by simp [stem]
    exact hstem c h
  · rcases mem_freshPart h with rfl | hdigit
    · decide
    · refine ⟨?_, ?_, ?_⟩ <;> rintro rfl <;> exact absurd hdigit (by decide)

theorem isFileName_binary (k : Nat) : Path.IsFileName (stem ++ freshPart k) := by
  refine isFileName_of_chars (by simp [stem]) (fun c h => ⟨(chars_stem h).1, (chars_stem h).2.1⟩) fun h => ?_
  exact (chars_stem (List.mem_of_getLast? h)).2.2 rfl

theorem isFileName_source (k : Nat) : Path.IsFileName (stem ++ freshPart k ++ ".c") := by
  refine isFileName_of_chars (by simp [stem]) (fun c h => ?_) (by simp)
  rw [String.toList_append, List.mem_append] at h
  rcases h with h | h
  · exact ⟨(chars_stem h).1, (chars_stem h).2.1⟩
  · have hend : ∀ c ∈ ".c".toList, c ≠ '/' ∧ c ≠ '\x00' := by simp
    exact hend c h

/-- The binary has the name of the source without its ending. -/
theorem paths_eq (c : Compiler) (k : Nat) : c.paths (stem ++ freshPart k ++ ".c") =
    ⟨Path.join c.workDir (stem ++ freshPart k ++ ".c"), Path.join c.workDir (stem ++ freshPart k)⟩ := by
  have hname : (stem ++ freshPart k ++ ".c").toList = (stem ++ freshPart k).toList ++ ['.'] ++ ['c'] := by
    simp
  rw [paths, hname, List.dropLast_concat, List.dropLast_concat, String.ofList_toList]

/-- The paths of a source and its binary lead into the work directory. -/
theorem paths_lead (c : Compiler) {k : Nat} {dir : Place}
    (hlen : (stem ++ freshPart k ++ ".c").utf8ByteSize ≤ longestName) {fs : FileSystem}
    (h : fs.LeadsTo c.workDir dir) :
    fs.resolve (c.paths (stem ++ freshPart k ++ ".c")).source = .ok (dir ++ [stem ++ freshPart k ++ ".c"]) ∧
      fs.resolve (c.paths (stem ++ freshPart k ++ ".c")).binary = .ok (dir ++ [stem ++ freshPart k]) := by
  have hshort : (stem ++ freshPart k).utf8ByteSize ≤ longestName := by
    rw [String.utf8ByteSize_append] at hlen
    omega
  rw [paths_eq]
  exact ⟨h.resolve_join (isFileName_source k) hlen, h.resolve_join (isFileName_binary k) hshort⟩

/-- A file that was put where nothing was, and is removed by its path. -/
theorem without_put {fs : FileSystem} {place : Place} {path : String} {content : ByteArray} {mode : Nat}
    (hfree : fs.node? place = none)
    (hpath : (fs.put place (.file content mode)).resolve path = .ok place) :
    without (fs.put place (.file content mode)) path = fs := by
  have hfile : (fs.put place (.file content mode)).node? place = some (.file content mode) :=
    node?_put_self (ne_nil_of_absent hfree)
  rcases without_cases (fs.put place (.file content mode)) path with ⟨removed, _, _, hremoved, -, hw⟩ | ⟨hnone, -⟩
  · obtain rfl : place = removed := Except.ok.inj (hpath.symm.trans hremoved)
    rw [hw, erase_put_of_absent hfree]
  · exact absurd hfile (hnone place hpath content mode)

/-- A source is not written at all, or to a place in the work directory where
nothing was. Wherever the work directory is in its place, the paths of the
source and the binary lead into it. -/
theorem writeSource_cases (c : Compiler) (faults : Faults) (source : String) (fs : FileSystem) :
    (∃ f, c.writeSource faults source fs = (.error f, fs)) ∨
    ∃ paths dir name binary, c.writeSource faults source fs =
        (.ok paths, fs.put (dir ++ [name]) (.file source.toUTF8 0o600)) ∧
      fs.LeadsTo c.workDir dir ∧ fs.node? (dir ++ [name]) = none ∧
      ∀ (files : FileSystem) (there : Place), files.LeadsTo c.workDir there →
        files.resolve paths.source = .ok (there ++ [name]) ∧
        files.resolve paths.binary = .ok (there ++ [binary]) := by
  unfold writeSource
  split
  · exact .inl ⟨_, rfl⟩
  · cases hcreate : fs.createTemporary c.workDir stem ".c" with
    | error f => exact .inl ⟨f, rfl⟩
    | ok created =>
      obtain ⟨name, place, files⟩ := created
      obtain ⟨hfree, rfl⟩ := createTemporary_eq_ok hcreate
      obtain ⟨dir, hdir, hfresh, rfl⟩ := createTemporary_in hcreate
      obtain ⟨k, hk⟩ := freshName_eq fs dir stem ".c"
      obtain rfl := hfresh.trans hk
      have hkeep : fs.KeepsDirectories (fs.put (dir ++ [stem ++ freshPart k ++ ".c"])
          (.file ByteArray.empty 0o600)) := keepsDirectories_put fun m => by simp [hfree]
      dsimp only
      split
      · exact .inl ⟨_, rfl⟩
      next hlong =>
        have hlen := Nat.le_of_not_lt hlong
        split
        · rw [without_put hfree (c.paths_lead hlen (hkeep.leadsTo hdir)).1]
          exact .inl ⟨_, rfl⟩
        · rw [setContent_put (ne_nil_of_absent hfree)]
          exact .inr ⟨_, dir, _, _, rfl, hdir, hfree, fun _ _ h => c.paths_lead hlen h⟩

/-! ## The call -/

/-- **A call goes by its plan, and clears what it made.** Either its source
cannot be written; then no command runs and no file is changed. Or the source
stands where nothing was, beside the place of its binary, and the host makes
the attempts that the plan asks for. The result tells what came of them, and
what they left is cleared of the source and of the binary. -/
theorem call_comes_to (c : Compiler) (host : Host) (faults : Faults) (mode : Mode) (source : String)
    (fs : FileSystem) :
    (∃ f, c.writeSource faults source fs = (.error f, fs) ∧
      c.call host faults mode source fs = (.error (.file f), fs)) ∨
    ∃ paths dir name binary files tries left result after,
      c.writeSource faults source fs = (.ok paths, files) ∧
      fs.LeadsTo c.workDir dir ∧ fs.node? (dir ++ [name]) = none ∧
      files = fs.put (dir ++ [name]) (.file source.toUTF8 0o600) ∧
      (∀ (files : FileSystem) (there : Place), files.LeadsTo c.workDir there →
        files.resolve paths.source = .ok (there ++ [name]) ∧
        files.resolve paths.binary = .ok (there ++ [binary])) ∧
      c.call host faults mode source fs = (result, after) ∧
      host.Runs files tries left ∧ ComesTo (c.plan paths mode) tries result ∧
      Cleared (leftovers paths mode) left after := by
  obtain ⟨f, hwrite⟩ | ⟨paths, dir, name, binary, hwrite, hdir, hfree, hpaths⟩ := c.writeSource_cases faults source fs
  · refine .inl ⟨f, hwrite, ?_⟩
    cases mode <;> simp [call, execute, preprocess, hwrite]
  · right
    cases mode with
    | execute =>
      obtain ⟨tries, hruns, hcomes⟩ := host.runBoth_comes_to (c.compileCommand paths.source paths.binary)
        ⟨paths.binary, [], true⟩ (fs.put (dir ++ [name]) (.file source.toUTF8 0o600))
      have hcleared (left : FileSystem) : Cleared (leftovers paths .execute) left
          (without (without left paths.binary) paths.source) :=
        (cleared_without left paths.binary).trans (cleared_without _ paths.source)
          (resolve_without_iff left paths.binary)
      refine ⟨paths, dir, name, binary, _, tries, _, _, _, hwrite, hdir, hfree, rfl, hpaths, ?_, hruns, hcomes,
        hcleared _⟩
      simp only [call, execute, hwrite]
    | preprocess =>
      obtain ⟨tries, hruns, hcomes⟩ := host.run_comes_to (c.preprocessCommand paths.source)
        (fs.put (dir ++ [name]) (.file source.toUTF8 0o600))
      refine ⟨paths, dir, name, binary, _, tries, _, _, _, hwrite, hdir, hfree, rfl, hpaths, ?_, hruns, hcomes,
        cleared_without _ paths.source⟩
      simp only [call, preprocess, hwrite]

end Compiler

end AbiProbe
