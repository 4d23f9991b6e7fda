/-
A probe with overrides beside one without. Overrides are put among the aliases
to publish after each output, and no line is read by these. So the probes know
the same types and have ignored the same lines, and their aliases are the same
but for those with an override, each of the others in its place (`Beside`): a
line that declares one of them puts it into both, and an override puts in none
of them (`overrides_reach_own_aliases`).
-/
import AbiProbe.Proofs.RepeatedAnalysis
import AbiProbe.Proofs.TypedefSteps

namespace AbiProbe.TypedefProbe

open Text

/-- A new probe that has got some overrides, one after the other. -/
def withOverrides (headers : List String) (overrides : List (String × Category)) : TypedefProbe :=
  overrides.foldl (fun p o => p.addOverride o.1 o.2) (new headers)

theorem foldl_addOverride (p : TypedefProbe) (overrides : List (String × Category)) :
    overrides.foldl (fun p o => p.addOverride o.1 o.2) p = { p with overrides := p.overrides ++ overrides } := by
  induction overrides generalizing p with
  | nil => rw [List.append_nil]; rfl
  | cons o rest ih => rw [List.foldl_cons, ih, addOverride, List.append_assoc]; rfl

theorem foldl_analyse_overrides (os : List String) (p : TypedefProbe) :
    (os.foldl analyse p).overrides = p.overrides := by
  induction os generalizing p with
  | nil => rfl
  | cons o os ih => exact (ih _).trans (foldl_step_overrides _ p)

/-- Beside a probe `q` without overrides, `p` has overrides only of aliases that
`keep` rejects, and only these set it apart from `q`. -/
structure Beside (keep : String → Bool) (p q : TypedefProbe) : Prop where
  overrides : ∀ o ∈ p.overrides, keep o.1 = false
  noOverrides : q.overrides = []
  types : p.types = q.types
  ignored : p.ignored = q.ignored
  aliases : p.aliases.filterKeys keep = q.aliases.filterKeys keep

namespace Beside

variable {keep : String → Bool} {p q : TypedefProbe}

theorem learn (h : Beside keep p q) (news : Option (String × Category)) :
    (p.aliases.learn news).filterKeys keep = (q.aliases.learn news).filterKeys keep := by
  cases news with
  | none => exact h.aliases
  | some n => rw [Table.learn, Table.learn, Table.filterKeys_insert, Table.filterKeys_insert, h.aliases]

theorem step (h : Beside keep p q) (line : List Char) : Beside keep (p.step line) (q.step line) := by
  rw [step_eq, step_eq, h.types, h.ignored]
  exact ⟨h.overrides, h.noOverrides, rfl, rfl, h.learn _⟩

theorem foldl_step (h : Beside keep p q) (ls : List (List Char)) :
    Beside keep (ls.foldl TypedefProbe.step p) (ls.foldl TypedefProbe.step q) := by
  induction ls generalizing p q with
  | nil => exact h
  | cons line ls ih => exact ih (h.step line)

theorem applyOverrides (h : Beside keep p q) : Beside keep p.applyOverrides q.applyOverrides := by
  rw [applyOverrides_of_nil h.noOverrides]
  exact ⟨h.overrides, h.noOverrides, h.types, h.ignored,
    (Table.filterKeys_foldl_insert h.overrides p.aliases).trans h.aliases⟩

theorem foldl_analyse (h : Beside keep p q) (os : List String) :
    Beside keep (os.foldl analyse p) (os.foldl analyse q) := by
  induction os generalizing p q with
  | nil => exact h
  | cons o os ih => exact ih (h.foldl_step (lines o.toList)).applyOverrides

/-- An alias without an override is known alike. -/
theorem resolved (h : Beside keep p q) {name : String} (hname : keep name = true) :
    p.resolved name = q.resolved name := by
  rw [TypedefProbe.resolved, TypedefProbe.resolved, ← Table.get?_filterKeys hname, h.aliases,
    Table.get?_filterKeys hname]

end Beside

/-- The facts about other aliases than `names` are those of the aliases that are
left without `names`. -/
theorem filter_entries (p : TypedefProbe) (names : List String) :
    p.entries.filter (fun e => e.key ∉ names.map ("typedef." ++ ·)) =
      { p with aliases := p.aliases.filterKeys (· ∉ names) }.entries := by
  have hkey (name : String) : "typedef." ++ name ∈ names.map ("typedef." ++ ·) ↔ name ∈ names := by
    simp [String.append_right_inj]
  rw [entries, entries, Table.filterKeys, List.filter_map, List.filter_filter, List.filter_filter]
  refine congrArg (List.map _) (List.filter_congr fun o _ => ?_)
  simp only [Function.comp, hkey, Bool.and_comm]

theorem entries_congr {p q : TypedefProbe} (h : p.aliases = q.aliases) : p.entries = q.entries := by
  rw [entries, entries, h]

/-- **Overrides reach their own aliases only.** A probe with overrides and one
without analyse the same outputs. After each of them, an alias with overrides
has the category of its last one; every other alias has the same category in
both probes, or in neither, whatever its base is; they know the same types and
have ignored the same lines; and the facts about the other aliases are the same,
in the same order. -/
theorem overrides_reach_own_aliases (headers : List String) (overrides : List (String × Category))
    (os : List String) (o : String) {p q : TypedefProbe}
    (hp : p = (os ++ [o]).foldl analyse (withOverrides headers overrides))
    (hq : q = (os ++ [o]).foldl analyse (new headers)) :
    (∀ before name c after, overrides = before ++ (name, c) :: after → name ∉ after.map (·.1) →
      p.resolved name = some c) ∧
    (∀ name, name ∉ overrides.map (·.1) → p.resolved name = q.resolved name) ∧
    p.types = q.types ∧
    p.ignored = q.ignored ∧
    p.entries.filter (fun e => e.key ∉ overrides.map fun a => "typedef." ++ a.1) =
      q.entries.filter (fun e => e.key ∉ overrides.map fun a => "typedef." ++ a.1) := by
  have hstart : withOverrides headers overrides = fresh headers overrides :=
    foldl_addOverride (new headers) overrides
  have hbeside : Beside (· ∉ overrides.map (·.1)) p q := by
    rw [hp, hq]
    refine Beside.foldl_analyse ?_ (os ++ [o])
    rw [hstart]
    exact ⟨fun a ha => decide_eq_false (not_not_intro (List.mem_map_of_mem ha)), rfl, rfl, rfl, rfl⟩
  refine ⟨fun before name c after heq hname => ?_, fun name hname => hbeside.resolved (by simpa using hname),
    hbeside.types, hbeside.ignored, ?_⟩
  · have hlast : (Table.ofList overrides).get? name = some c := heq ▸ Table.get?_ofList_append_cons hname before c
    have hresolved : p.resolved name = ((Table.ofList overrides).get? name).or
        (((lines o.toList).foldl step (os.foldl analyse (fresh headers overrides))).resolved name) := by
      rw [hp, List.foldl_append, List.foldl_cons, List.foldl_nil, analyse, resolved_applyOverrides,
        foldl_step_overrides, foldl_analyse_overrides, hstart]
      rfl
    rw [hresolved, hlast, Option.some_or]
  · have hkeys : overrides.map (fun a => "typedef." ++ a.1) = (overrides.map (·.1)).map ("typedef." ++ ·) :=
      List.map_map.symm
    rw [hkeys, filter_entries, filter_entries]
    exact entries_congr hbeside.aliases

/-- The overrides name an alias twice that is declared over and over, and one that
no header declares; two aliases have such a base. -/
theorem overrides_reach_own_aliases_declared :
    ∃ p, p = (["typedef int a;\ntypedef a b;\ntypedef t e;\n"] ++ ["typedef char a;\ntypedef a d;\n"]).foldl analyse
        (withOverrides ["h"] [("a", .long), ("t", .pointer), ("a", .string)]) ∧
      p.resolved "a" = some .string ∧ p.resolved "b" = some .int ∧ p.resolved "d" = some .char ∧
      p.resolved "e" = none ∧ p.ignored = ["typedef t e;"] := by
  obtain ⟨hlast, hother, -, hignored, -⟩ := overrides_reach_own_aliases ["h"]
    [("a", .long), ("t", .pointer), ("a", .string)] ["typedef int a;\ntypedef a b;\ntypedef t e;\n"]
    "typedef char a;\ntypedef a d;\n" rfl rfl
  have hwithout : ∃ q, (["typedef int a;\ntypedef a b;\ntypedef t e;\n"] ++ ["typedef char a;\ntypedef a d;\n"]).foldl
      analyse (new ["h"]) = q ∧ q.aliases.toList = [("a", .char), ("b", .int), ("d", .char)] ∧
      q.ignored = ["typedef t e;"] :=
    ⟨_, rfl, by decide +kernel⟩
  obtain ⟨q, hq, haliases, hleft⟩ := hwithout
  rw [hq] at hother hignored
  refine ⟨_, rfl, hlast [("a", .long), ("t", .pointer)] "a" .string [] rfl (by decide),
    (hother "b" (by decide)).trans ?_, (hother "d" (by decide)).trans ?_, (hother "e" (by decide)).trans ?_,
    hignored.trans hleft⟩
  all_goals
    rw [resolved, Table.get?, haliases]
    decide

end AbiProbe.TypedefProbe
