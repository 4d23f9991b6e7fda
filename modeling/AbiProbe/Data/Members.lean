/-
What the members of a record tell of a name: the values of those that have it.
A reader that asks for some names looks at nothing else (`View.members_bind_eq_ok_iff`),
so to it neither the order of the members nor other names make a difference.
-/
import AbiProbe.Data

namespace AbiProbe

variable {δ α : Type}

/-- The values that members give a name. -/
def valuesOf (name : String) (pairs : List (String × δ)) : List δ :=
  (pairs.filter (·.1 = name)).map (·.2)

/-- The members with names that are known. -/
def knownMembers (known : List String) (pairs : List (String × δ)) : List (String × δ) :=
  pairs.filter fun p => known.contains p.1

/-- What members tell of a name: one of them has it, with a value that `P`
accepts; or none has it, which `left` allows. -/
inductive Told (pairs : List (String × δ)) (name : String) (P : δ → Prop) (left : Prop) : Prop where
  | given {d : δ} (hvalues : valuesOf name pairs = [d]) (hd : P d)
  | leftOut (hvalues : valuesOf name pairs = []) (hleft : left)

/-- Members give a value for a name, or none of them has it and nothing is
given. -/
def Gives (pairs : List (String × δ)) (name : String) (given : Option α) (means : δ → α → Prop) : Prop :=
  Told pairs name (fun d => ∃ a, given = some a ∧ means d a) (given = none)

variable {name : String} {pairs : List (String × δ)}

@[simp] theorem valuesOf_nil : valuesOf name ([] : List (String × δ)) = [] := rfl

theorem valuesOf_cons (p : String × δ) (pairs : List (String × δ)) :
    valuesOf name (p :: pairs) = if p.1 = name then p.2 :: valuesOf name pairs else valuesOf name pairs := by
  simp only [valuesOf, List.filter_cons, decide_eq_true_eq]
  split <;> rfl

theorem valuesOf_append (pairs pairs' : List (String × δ)) :
    valuesOf name (pairs ++ pairs') = valuesOf name pairs ++ valuesOf name pairs' := by
  simp [valuesOf]

theorem valuesOf_eq_nil_iff : valuesOf name pairs = [] ↔ name ∉ pairs.map (·.1) := by
  simp only [valuesOf, List.map_eq_nil_iff, List.filter_eq_nil_iff, decide_eq_true_eq, List.mem_map, not_exists,
    not_and]

theorem mem_valuesOf {d : δ} : d ∈ valuesOf name pairs ↔ (name, d) ∈ pairs := by
  simp [valuesOf]

namespace Told

variable {P Q : δ → Prop} {left left' : Prop}

theorem imp (h : Told pairs name P left) (hP : ∀ d, P d → Q d) (hleft : left → left') :
    Told pairs name Q left' := by
  cases h with
  | given hvalues hd => exact .given hvalues (hP _ hd)
  | leftOut hvalues h => exact .leftOut hvalues (hleft h)

theorem length_le (h : Told pairs name P left) : (valuesOf name pairs).length ≤ 1 := by
  cases h with
  | given hvalues hd => simp [hvalues]
  | leftOut hvalues h => simp [hvalues]

theorem iff_of_nil (hvalues : valuesOf name pairs = []) : Told pairs name P left ↔ left := by
  refine ⟨fun h => ?_, .leftOut hvalues⟩
  cases h with
  | given hvalue hd => simp [hvalues] at hvalue
  | leftOut hnone hleft => exact hleft

theorem iff_of_singleton {d : δ} (hvalues : valuesOf name pairs = [d]) : Told pairs name P left ↔ P d := by
  refine ⟨fun h => ?_, .given hvalues⟩
  cases h with
  | given hvalue hd =>
    rw [hvalues, List.singleton_inj] at hvalue
    exact hvalue ▸ hd
  | leftOut hnone hleft => simp [hvalues] at hnone

theorem iff_head? (hlength : (valuesOf name pairs).length ≤ 1) :
    Told pairs name P left ↔ (valuesOf name pairs).head?.elim left P := by
  match hvalues : valuesOf name pairs, hlength with
  | [], _ => exact iff_of_nil hvalues
  | [d], _ => exact iff_of_singleton hvalues

/-- The value of a member is the one that is told. -/
theorem of_mem (h : Told pairs name P left) {d : δ} (hmem : (name, d) ∈ pairs) : P d := by
  rw [← mem_valuesOf] at hmem
  cases h with
  | given hvalues hd =>
    rw [hvalues, List.mem_singleton] at hmem
    exact hmem ▸ hd
  | leftOut hvalues h => simp [hvalues] at hmem

end Told

/-! ## Readers -/

theorem bind_eq_ok_iff {ε β : Type} {a : Except ε α} {f : α → Except ε β} {b : β} :
    (a >>= f) = .ok b ↔ ∃ x, a = .ok x ∧ f x = .ok b := by
  cases a <;> simp [bind, Except.bind]

theorem valuesOf_filter (keep : String → Bool) (name : String) (pairs : List (String × δ)) :
    valuesOf name (pairs.filter fun p => keep p.1) = if keep name then valuesOf name pairs else [] := by
  induction pairs with
  | nil => simp
  | cons p pairs ih =>
    obtain ⟨key, d⟩ := p
    by_cases hkey : key = name
    · subst hkey
      cases hkeep : keep key <;> simp [valuesOf_cons, hkeep, ih]
    · cases hkeep : keep key <;> simp [valuesOf_cons, hkeep, hkey, ih]

theorem lookup_eq_head? (name : String) (pairs : List (String × δ)) :
    pairs.lookup name = (valuesOf name pairs).head? := by
  induction pairs with
  | nil => rfl
  | cons p pairs ih =>
    obtain ⟨key, d⟩ := p
    rw [List.lookup_cons, valuesOf_cons]
    by_cases hkey : key = name
    · simp [hkey]
    · have hne : (name == key) = false := beq_eq_false_iff_ne.mpr (Ne.symm hkey)
      simp [hkey, hne, ih]

theorem nodup_names_iff {pairs : List (String × δ)} :
    (pairs.map (·.1)).Nodup ↔ ∀ name, (valuesOf name pairs).length ≤ 1 := by
  induction pairs with
  | nil => simp
  | cons p pairs ih =>
    obtain ⟨key, d⟩ := p
    rw [List.map_cons, List.nodup_cons, ← valuesOf_eq_nil_iff, ih]
    simp only [valuesOf_cons]
    constructor
    · rintro ⟨hnil, hrest⟩ name
      by_cases hkey : key = name
      · subst hkey
        simp [hnil]
      · simpa [hkey] using hrest name
    · intro h
      have hnil : valuesOf key pairs = [] := by simpa using h key
      refine ⟨hnil, fun name => ?_⟩
      by_cases hkey : key = name
      · subst hkey
        simp [hnil]
      · simpa [hkey] using h name

namespace View

theorem repeated?_eq_none_iff {names : List String} : repeated? names = none ↔ names.Nodup := by
  induction names with
  | nil => simp [repeated?]
  | cons name rest ih => by_cases hname : name ∈ rest <;> simp [repeated?, hname, ih]

theorem members_eq {v : View δ} {known : List String} {d : δ} (hpairs : v.members? known d = some pairs) :
    v.members known d =
      match repeated? ((knownMembers known pairs).map (·.1)) with
      | some name => .error (.repeated name)
      | none => .ok (knownMembers known pairs) := by
  rw [members, hpairs]
  rfl

theorem repeated?_knownMembers_eq_none_iff {known : List String} :
    repeated? ((knownMembers known pairs).map (·.1)) = none ↔
      ∀ name ∈ known, (valuesOf name pairs).length ≤ 1 := by
  rw [repeated?_eq_none_iff, nodup_names_iff]
  refine forall_congr' fun name => ?_
  rw [knownMembers, valuesOf_filter, List.contains_eq_mem]
  by_cases hname : name ∈ known <;> simp [hname]

/-- A reader goes on with the members of known names, none of which is there
twice. -/
theorem members_bind_eq_ok_iff {v : View δ} {known : List String} {d : δ}
    {k : List (String × δ) → Except Misfit α} {a : α} :
    (v.members known d >>= k) = .ok a ↔
      ∃ pairs, v.members? known d = some pairs ∧ (∀ name ∈ known, (valuesOf name pairs).length ≤ 1) ∧
        k (knownMembers known pairs) = .ok a := by
  cases hpairs : v.members? known d with
  | none => simp [members, hpairs, bind, Except.bind]
  | some pairs =>
    rw [members_eq hpairs]
    simp only [Option.some.injEq, exists_eq_left', ← repeated?_knownMembers_eq_none_iff]
    cases repeated? ((knownMembers known pairs).map (·.1)) with
    | none => simp [bind, Except.bind]
    | some name => simp [bind, Except.bind]

end View

section

variable {known : List String} {read : δ → Except Misfit α} {a default : α}

theorem lookup_knownMembers (hname : name ∈ known) :
    (knownMembers known pairs).lookup name = (valuesOf name pairs).head? := by
  rw [knownMembers, lookup_eq_head?, valuesOf_filter, List.contains_eq_mem, decide_eq_true hname, if_pos rfl]

theorem required_eq_ok_iff (hlength : ∀ name ∈ known, (valuesOf name pairs).length ≤ 1) (hname : name ∈ known) :
    required (knownMembers known pairs) name read = .ok a ↔
      Told pairs name (read · = .ok a) False := by
  rw [required, lookup_knownMembers hname, Told.iff_head? (hlength name hname)]
  cases (valuesOf name pairs).head? <;> simp

theorem optional_eq_ok_iff (hlength : ∀ name ∈ known, (valuesOf name pairs).length ≤ 1) (hname : name ∈ known) :
    optional (knownMembers known pairs) name default read = .ok a ↔
      Told pairs name (read · = .ok a) (default = a) := by
  rw [optional, lookup_knownMembers hname, Told.iff_head? (hlength name hname)]
  cases (valuesOf name pairs).head? <;> simp

/-- A reader gets what is given, and else the default. -/
theorem Gives.told {given : Option α} {means : δ → α → Prop} (h : Gives pairs name given means)
    (hread : ∀ d a, means d a → read d = .ok a) :
    Told pairs name (read · = .ok (given.getD default)) (default = given.getD default) := by
  refine h.imp ?_ ?_
  · rintro d ⟨a, rfl, ha⟩
    exact hread d a ha
  · rintro rfl
    rfl

end

end AbiProbe
