/-
Lines whose order does not matter. Two lines are independent if one of them
declares nothing, or if they declare different aliases of which neither is the
base of the other. Neighbours that are independent can change places
(`alike_swap`): neither sees in the types what the other has done to them. So
all that tells outputs apart which come from each other by such swaps is the
order of what they leave behind (`analyse_reordered`).
-/
import AbiProbe.Proofs.SplitOutput
import AbiProbe.Proofs.TypedefSteps
import Mathlib.Logic.Relation

namespace AbiProbe.TypedefProbe

open Text

/-- Two lines that do not both declare an alias, or else declare different ones
of which neither is the base of the other. -/
def Independent (l l' : List Char) : Prop :=
  ∀ d ∈ declaration? l, ∀ d' ∈ declaration? l', d.name ≠ d'.name ∧ d.base ≠ d'.name ∧ d'.base ≠ d.name

instance (l l' : List Char) : Decidable (Independent l l') :=
  inferInstanceAs (Decidable (∀ d ∈ declaration? l, ∀ d' ∈ declaration? l',
    d.name ≠ d'.name ∧ d.base ≠ d'.name ∧ d'.base ≠ d.name))

/-- A line is not independent of one that declares its base. -/
example : ¬ Independent "typedef int a;".toList "typedef a b;".toList := by decide +kernel

/-- Two independent neighbours change places. -/
inductive Swap : List (List Char) → List (List Char) → Prop where
  | neighbours (above : List (List Char)) {l l' : List Char} (below : List (List Char))
      (h : Independent l l') : Swap (above ++ l :: l' :: below) (above ++ l' :: l :: below)

/-- Probes that differ in the order of what they know and have ignored, and in
nothing else. -/
structure Alike (p q : TypedefProbe) : Prop where
  types : ∀ phrase, p.types.get? phrase = q.types.get? phrase
  aliases : ∀ name, p.aliases.get? name = q.aliases.get? name
  overrides : p.overrides = q.overrides
  ignored : p.ignored.Perm q.ignored

namespace Alike

variable {p q r : TypedefProbe}

theorem refl (p : TypedefProbe) : Alike p p :=
  ⟨fun _ => rfl, fun _ => rfl, rfl, .refl _⟩

theorem trans (h : Alike p q) (h' : Alike q r) : Alike p r where
  types phrase := (h.types phrase).trans (h'.types phrase)
  aliases name := (h.aliases name).trans (h'.aliases name)
  overrides := h.overrides.trans h'.overrides
  ignored := h.ignored.trans h'.ignored

theorem step (h : Alike p q) (line : List Char) : Alike (p.step line) (q.step line) := by
  have hnews : news? p.types line = news? q.types line := news?_congr fun d _ => h.types d.base
  rw [step_eq, step_eq, leftover_congr hnews, hnews]
  exact ⟨Table.get?_learn_congr h.types _, Table.get?_learn_congr h.aliases _, h.overrides,
    h.ignored.append_right _⟩

theorem foldl_step (h : Alike p q) (ls : List (List Char)) :
    Alike (ls.foldl TypedefProbe.step p) (ls.foldl TypedefProbe.step q) := by
  induction ls generalizing p q with
  | nil => exact h
  | cons line ls ih => exact ih (h.step line)

theorem applyOverrides (h : Alike p q) : Alike p.applyOverrides q.applyOverrides where
  types := h.types
  aliases name := by
    have hname := h.aliases name
    simp only [TypedefProbe.applyOverrides, Table.get?_foldl_insert, h.overrides, hname]
  overrides := h.overrides
  ignored := h.ignored

end Alike

variable {l l' : List Char} {ls ls' : List (List Char)}

/-- What an independent line has made known tells a line nothing. -/
theorem Independent.news?_learn (h : Independent l l') (types : Table Category) :
    news? (types.learn (news? types l)) l' = news? types l' := by
  refine news?_congr fun d' hd' => ?_
  cases hn : news? types l with
  | none => rfl
  | some n =>
    obtain ⟨d, hd, -, hname⟩ := news?_eq_some_iff.mp hn
    exact Table.get?_insert_other (hname ▸ (h d hd d' hd').2.2.symm) types n.2

theorem Independent.symm (h : Independent l l') : Independent l' l := fun d' hd' d hd =>
  have ⟨hname, hbase, hbase'⟩ := h d hd d' hd'
  ⟨hname.symm, hbase', hbase⟩

/-- Independent lines make different aliases known. -/
theorem Independent.news?_ne (h : Independent l l') (types : Table Category) :
    ∀ n ∈ news? types l, ∀ n' ∈ news? types l', n.1 ≠ n'.1 := by
  intro n hn n' hn'
  obtain ⟨d, hd, -, hname⟩ := news?_eq_some_iff.mp hn
  obtain ⟨d', hd', -, hname'⟩ := news?_eq_some_iff.mp hn'
  rw [← hname, ← hname']
  exact (h d hd d' hd').1

theorem alike_swap (h : Independent l l') (p : TypedefProbe) :
    Alike ((p.step l).step l') ((p.step l').step l) := by
  have hleft : leftover (p.types.learn (news? p.types l)) l' = leftover p.types l' :=
    leftover_congr (h.news?_learn p.types)
  have hleft' : leftover (p.types.learn (news? p.types l')) l = leftover p.types l :=
    leftover_congr (h.symm.news?_learn p.types)
  simp only [step_eq, h.news?_learn, h.symm.news?_learn, hleft, hleft', List.append_assoc]
  exact ⟨Table.get?_learn_comm _ (h.news?_ne p.types), Table.get?_learn_comm _ (h.news?_ne p.types), rfl,
    List.perm_append_comm.append_left _⟩

theorem Swap.alike (h : Swap ls ls') (p : TypedefProbe) : Alike (ls.foldl step p) (ls'.foldl step p) := by
  cases h with
  | neighbours above below h =>
    simp only [List.foldl_append, List.foldl_cons]
    exact (alike_swap h _).foldl_step below

theorem alike_of_swaps (h : Relation.ReflTransGen Swap ls ls') (p : TypedefProbe) :
    Alike (ls.foldl step p) (ls'.foldl step p) := by
  induction h with
  | refl => exact .refl _
  | tail _ hswap ih => exact ih.trans (hswap.alike p)

/-- **Independent typedefs commute.** From every state that a probe can be in:
after two outputs whose lines come from each other by swaps of independent
neighbours, it knows the same categories of all aliases and of all phrases, has
ignored the same lines up to their order, and has the same facts up to their
order. -/
theorem analyse_reordered {p : TypedefProbe} (hp : Reachable p) {o o' : String}
    (h : Relation.ReflTransGen Swap (lines o.toList) (lines o'.toList)) :
    (∀ name, (p.analyse o).resolved name = (p.analyse o').resolved name) ∧
    (∀ phrase, (p.analyse o).types.get? phrase = (p.analyse o').types.get? phrase) ∧
    (p.analyse o).ignored.Perm (p.analyse o').ignored ∧
    (p.analyse o).entries.Perm (p.analyse o').entries := by
  have halike : Alike (p.analyse o) (p.analyse o') := (alike_of_swaps h p).applyOverrides
  refine ⟨halike.aliases, halike.types, halike.ignored, ?_⟩
  exact (perm_entries_iff (hp.analyse o).nodup (hp.analyse o').nodup).mpr fun name _ => halike.aliases name

/-- Three lines of a Darwin header, of which the second one is ignored: the last
one goes to the front, past one neighbour after the other. -/
theorem analyse_reordered_darwin :
    ((forPlatform ["sys/types.h"] .x86Darwin).analyse
        "typedef int a;\ntypedef b c;\ntypedef long d;\n").entries.Perm
      ((forPlatform ["sys/types.h"] .x86Darwin).analyse
        "typedef long d;\ntypedef int a;\ntypedef b c;\n").entries := by
  have hp : Reachable (forPlatform ["sys/types.h"] .x86Darwin) :=
    .addOverride (.new ["sys/types.h"]) "pthread_t" .pointer
  have hlast : Independent "typedef b c;".toList "typedef long d;".toList := by decide +kernel
  have hfirst : Independent "typedef int a;".toList "typedef long d;".toList := by decide +kernel
  have hlines : lines "typedef int a;\ntypedef b c;\ntypedef long d;\n".toList =
      ["typedef int a;".toList, "typedef b c;".toList, "typedef long d;".toList] := by decide +kernel
  have hlines' : lines "typedef long d;\ntypedef int a;\ntypedef b c;\n".toList =
      ["typedef long d;".toList, "typedef int a;".toList, "typedef b c;".toList] := by decide +kernel
  refine (analyse_reordered hp ?_).2.2.2
  rw [hlines, hlines']
  exact .tail (.single (.neighbours ["typedef int a;".toList] [] hlast))
    (.neighbours [] ["typedef b c;".toList] hfirst)

end AbiProbe.TypedefProbe
