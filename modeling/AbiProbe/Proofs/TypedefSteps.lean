/-
One line of a preprocessed header, part by part of the probe that reads it:
which alias it makes known (`news?`), and what it adds to the ignored lines
(`leftover`). Both look at the types alone, and of these only at the base of
what the line declares (`news?_congr`). So two probes with the same types are
told the same by a line, whatever else differs between them.
-/
import AbiProbe.Proofs.TypedefChains

namespace AbiProbe

namespace Table

variable {α : Type}

/-- A table after news of one key, if there is any. -/
def learn (t : Table α) : Option (String × α) → Table α
  | some (key, value) => t.insert key value
  | none => t

theorem get?_learn_congr {t t' : Table α} (h : ∀ key, t.get? key = t'.get? key)
    (news : Option (String × α)) (key : String) : (t.learn news).get? key = (t'.learn news).get? key := by
  cases news with
  | none => exact h key
  | some n => rw [learn, learn, get?_insert, get?_insert, h]

/-- News of different keys may come in either order. -/
theorem get?_learn_comm (t : Table α) {news news' : Option (String × α)}
    (h : ∀ n ∈ news, ∀ n' ∈ news', n.1 ≠ n'.1) (key : String) :
    ((t.learn news).learn news').get? key = ((t.learn news').learn news).get? key := by
  cases news with
  | none => rfl
  | some n =>
    cases news' with
    | none => rfl
    | some n' =>
      have hne : n.1 ≠ n'.1 := h n rfl n' rfl
      simp only [learn, get?_insert]
      by_cases hn : n.1 = key
      · simp [hn, hn ▸ hne.symm]
      · simp [hn]

end Table

namespace TypedefProbe

/-- The alias that a line makes known where `types` are known, if it is read as
a typedef at all. -/
def news? (types : Table Category) (line : List Char) : Option (String × Category) :=
  (declaration? line).bind fun d => (resolve types d).map fun c => (d.name, c)

/-- The line, if it is read as a typedef and makes nothing known. -/
def leftover (types : Table Category) (line : List Char) : List String :=
  if isCandidate line && (news? types line).isNone then [String.ofList line] else []

/-- What a line does to each part of a probe. -/
theorem step_eq (p : TypedefProbe) (line : List Char) :
    p.step line =
      { p with
        types := p.types.learn (news? p.types line)
        aliases := p.aliases.learn (news? p.types line)
        ignored := p.ignored ++ leftover p.types line } := by
  unfold step leftover news? declaration? declared?
  by_cases hline : isCandidate line = true
  · cases hd : TypedefDecl.ofLine? line with
    | none => simp [hline, Table.learn]
    | some d => cases hr : resolve p.types d <;> simp [hline, hr, Table.learn]
  · simp [hline, Table.learn]

variable {types types' : Table Category} {line : List Char}

theorem news?_eq_some_iff {n : String × Category} :
    news? types line = some n ↔ ∃ d, declaration? line = some d ∧ resolve types d = some n.2 ∧ d.name = n.1 := by
  obtain ⟨name, c⟩ := n
  simp [news?, Option.bind_eq_some_iff, Option.map_eq_some_iff]

theorem resolve_congr {d : TypedefDecl} (h : types.get? d.base = types'.get? d.base) :
    resolve types d = resolve types' d := by
  rw [resolve, resolve, h]

/-- Only what is known of the base of its declaration matters to a line. -/
theorem news?_congr (h : ∀ d, declaration? line = some d → types.get? d.base = types'.get? d.base) :
    news? types line = news? types' line := by
  unfold news?
  cases hd : declaration? line with
  | none => rfl
  | some d => rw [Option.bind_some, Option.bind_some, resolve_congr (h d hd)]

theorem leftover_congr (h : news? types line = news? types' line) :
    leftover types line = leftover types' line := by
  rw [leftover, leftover, h]

end TypedefProbe

end AbiProbe
