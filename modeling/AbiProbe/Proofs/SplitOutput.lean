/-
An output that is given to a typedef probe in two parts, cut after a line feed,
tells what it tells as a whole (`analyse_append`). The overrides come into
effect once more on the way. But they reach only the aliases to publish, and no
line is read by these (`step_with_aliases`): so all else is the same, and an
override counts in the end whenever it was put into effect.
-/
import AbiProbe.Proofs.RepeatedAnalysis

namespace AbiProbe.TypedefProbe

open Text

/-- A state that calls lead to: a new probe, one that has got one more override,
or one that has analysed one more output. -/
inductive Reachable : TypedefProbe → Prop where
  | new (headers : List String) : Reachable (.new headers)
  | addOverride {p : TypedefProbe} (h : Reachable p) (name : String) (c : Category) :
      Reachable (p.addOverride name c)
  | analyse {p : TypedefProbe} (h : Reachable p) (output : String) : Reachable (p.analyse output)

theorem Reachable.nodup {p : TypedefProbe} (h : Reachable p) : p.aliases.keys.Nodup := by
  induction h with
  | new headers => exact List.nodup_nil
  | addOverride h name c ih => exact ih
  | analyse h output ih => exact nodup_analyse ih output

/-- A line is read in the same way whatever the aliases are. -/
theorem step_with_aliases (p : TypedefProbe) (aliases : Table Category) (line : List Char) :
    ∃ aliases', { p with aliases := aliases }.step line = { p.step line with aliases := aliases' } := by
  unfold step
  split
  · dsimp only
    cases declared? p.types line with
    | none => exact ⟨aliases, rfl⟩
    | some found => exact ⟨aliases.insert found.1 found.2, rfl⟩
  · exact ⟨aliases, rfl⟩

theorem foldl_step_with_aliases (p : TypedefProbe) (aliases : Table Category) (ls : List (List Char)) :
    ∃ aliases', ls.foldl step { p with aliases := aliases } = { ls.foldl step p with aliases := aliases' } := by
  induction ls generalizing p aliases with
  | nil => exact ⟨aliases, rfl⟩
  | cons line ls ih =>
    obtain ⟨aliases', hstep⟩ := step_with_aliases p aliases line
    rw [List.foldl_cons, List.foldl_cons, hstep]
    exact ih (p.step line) aliases'

variable {o₁ : String}

/-- Two parts make the same of the types and of the ignored lines. -/
theorem analyse_append_with_aliases (p : TypedefProbe) (h : o₁ = "" ∨ o₁.toList.getLast? = some '\n')
    (o₂ : String) : ∃ aliases, (p.analyse o₁).analyse o₂ = { p.analyse (o₁ ++ o₂) with aliases := aliases } := by
  have hlines : lines (o₁ ++ o₂).toList = lines o₁.toList ++ lines o₂.toList := by
    rw [String.toList_append]
    exact lines_append (h.imp_left fun he => he ▸ rfl) _
  obtain ⟨aliases, hfold⟩ := foldl_step_with_aliases ((lines o₁.toList).foldl step p)
    (p.analyse o₁).aliases (lines o₂.toList)
  refine ⟨((p.analyse o₁).analyse o₂).aliases, ?_⟩
  have hanalyse : p.analyse o₁ = { (lines o₁.toList).foldl step p with aliases := (p.analyse o₁).aliases } := rfl
  rw [analyse, hanalyse, hfold, analyse, hlines, List.foldl_append]
  rfl

theorem analyse_append_eq_joined (p : TypedefProbe) (h : o₁ = "" ∨ o₁.toList.getLast? = some '\n')
    (o₂ : String) : p.analyse (o₁ ++ o₂) = p.analyse (joined ([o₁] ++ [o₂])) := by
  rw [analyse, analyse, lines_joined, allLines_append, allLines_singleton, allLines_singleton,
    String.toList_append, lines_append (h.imp_left fun he => he ▸ rfl)]

/-- **An output can be cut after any line.** From every state that a probe can
be in: after two outputs, the first of which is empty or ends in a line feed, it
knows the same categories of all aliases, the same types, and has ignored the
same lines as after both in one. The facts are the same up to their order, and
in the same order if there are no overrides. -/
theorem analyse_append {p : TypedefProbe} (hp : Reachable p)
    (h : o₁ = "" ∨ o₁.toList.getLast? = some '\n') (o₂ : String) :
    (∀ name, ((p.analyse o₁).analyse o₂).resolved name = (p.analyse (o₁ ++ o₂)).resolved name) ∧
    ((p.analyse o₁).analyse o₂).types = (p.analyse (o₁ ++ o₂)).types ∧
    ((p.analyse o₁).analyse o₂).ignored = (p.analyse (o₁ ++ o₂)).ignored ∧
    ((p.analyse o₁).analyse o₂).entries.Perm (p.analyse (o₁ ++ o₂)).entries ∧
    (p.overrides = [] → ((p.analyse o₁).analyse o₂).entries = (p.analyse (o₁ ++ o₂)).entries) := by
  have hresolved (name : String) :
      ((p.analyse o₁).analyse o₂).resolved name = (p.analyse (o₁ ++ o₂)).resolved name := by
    rw [analyse_append_eq_joined p h]
    exact resolved_foldl_analyse p [o₁] o₂ name
  obtain ⟨aliases, hsame⟩ := analyse_append_with_aliases p h o₂
  refine ⟨hresolved, by rw [hsame], by rw [hsame], ?_, fun hnil => ?_⟩
  · exact (perm_entries_iff ((hp.analyse o₁).analyse o₂).nodup (hp.analyse _).nodup).mpr
      fun name _ => hresolved name
  · rw [analyse_append_eq_joined p h, ← foldl_analyse_of_overrides_nil hnil]
    rfl

/-- A Darwin probe puts its override in after the first part, before the alias
of the second one; with both in one it comes last. -/
theorem analyse_append_darwin :
    (((forPlatform ["sys/types.h"] .x86Darwin).analyse "typedef int a;\r\n").analyse "typedef a b;").entries.Perm
      [⟨"typedef.a", .text "int"⟩, ⟨"typedef.b", .text "int"⟩, ⟨"typedef.pthread_t", .text "pointer"⟩] := by
  have hp : Reachable (forPlatform ["sys/types.h"] .x86Darwin) :=
    .addOverride (.new ["sys/types.h"]) "pthread_t" .pointer
  have hend : "typedef int a;\r\n".toList.getLast? = some '\n' := by decide
  obtain ⟨-, -, -, hperm, -⟩ := analyse_append hp (.inr hend) "typedef a b;"
  refine hperm.trans (.of_eq ?_)
  decide +kernel

example :
    (((forPlatform ["sys/types.h"] .x86Darwin).analyse "typedef int a;\r\n").analyse "typedef a b;").entries =
      [⟨"typedef.a", .text "int"⟩, ⟨"typedef.pthread_t", .text "pointer"⟩, ⟨"typedef.b", .text "int"⟩] := by
  decide +kernel

end AbiProbe.TypedefProbe
