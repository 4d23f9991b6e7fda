/-
Tables keyed by text that keep the order in which their keys first came in.
`insert` gives a key a value and leaves the key where it stands; a new key
goes to the end.
-/

namespace AbiProbe

/-- Keys with their values, the oldest key first. -/
structure Table (α : Type) where
  toList : List (String × α)

namespace Table

variable {α : Type}

def empty : Table α := ⟨[]⟩

/-- The value of a key in a list of pairs: the first pair counts. -/
def lookup (key : String) : List (String × α) → Option α
  | [] => none
  | (k, v) :: rest => if k = key then some v else lookup key rest

def get? (t : Table α) (key : String) : Option α := lookup key t.toList

/-- A list of pairs with one key set: in place if it is there, else at the
end. -/
def update (key : String) (value : α) : List (String × α) → List (String × α)
  | [] => [(key, value)]
  | (k, v) :: rest => if k = key then (k, value) :: rest else (k, v) :: update key value rest

def insert (t : Table α) (key : String) (value : α) : Table α := ⟨update key value t.toList⟩

/-- The table of a list of pairs, read from the left. -/
def ofList (pairs : List (String × α)) : Table α :=
  pairs.foldl (fun t p => t.insert p.1 p.2) empty

def keys (t : Table α) : List String := t.toList.map (·.1)

def values (t : Table α) : List α := t.toList.map (·.2)

def size (t : Table α) : Nat := t.toList.length

@[simp] theorem get?_empty (key : String) : (empty : Table α).get? key = none := rfl

theorem lookup_update (key other : String) (value : α) (pairs : List (String × α)) :
    lookup other (update key value pairs) = if key = other then some value else lookup other pairs := by
  induction pairs with
  | nil => simp only [update, lookup]
  | cons p rest ih =>
    obtain ⟨k, v⟩ := p
    by_cases hk : k = key
    · subst hk
      by_cases ho : k = other <;> simp [update, lookup, ho]
    · by_cases ho : k = other
      · subst ho
        simp [update, lookup, hk, Ne.symm hk]
      · simp [update, lookup, hk, ho, ih]

theorem get?_insert (t : Table α) (key other : String) (value : α) :
    (t.insert key value).get? other = if key = other then some value else t.get? other :=
  lookup_update key other value t.toList

@[simp] theorem get?_insert_self (t : Table α) (key : String) (value : α) :
    (t.insert key value).get? key = some value := by
  simp [get?_insert]

theorem get?_insert_other {key other : String} (h : key ≠ other) (t : Table α) (value : α) :
    (t.insert key value).get? other = t.get? other := by
  simp [get?_insert, h]

theorem mem_of_lookup {key : String} {value : α} {pairs : List (String × α)}
    (h : lookup key pairs = some value) : (key, value) ∈ pairs := by
  induction pairs with
  | nil => cases h
  | cons p rest ih =>
    obtain ⟨k, v⟩ := p
    simp only [lookup] at h
    split at h
    next hk =>
      cases h
      subst hk
      exact List.mem_cons_self
    next => exact List.mem_cons_of_mem _ (ih h)

theorem mem_of_get? {t : Table α} {key : String} {value : α} (h : t.get? key = some value) :
    (key, value) ∈ t.toList :=
  mem_of_lookup h

theorem forall_mem_update {P : String × α → Prop} {key : String} {value : α}
    {pairs : List (String × α)} (h : ∀ p ∈ pairs, P p) (hnew : P (key, value)) :
    ∀ p ∈ update key value pairs, P p := by
  induction pairs with
  | nil => simpa [update] using hnew
  | cons p rest ih =>
    obtain ⟨k, v⟩ := p
    rw [List.forall_mem_cons] at h
    simp only [update]
    split
    next hk =>
      subst hk
      exact List.forall_mem_cons.mpr ⟨hnew, h.2⟩
    next => exact List.forall_mem_cons.mpr ⟨h.1, ih h.2⟩

/-- What holds of all pairs of a table and of a new one holds of all pairs
with the new one among them. -/
theorem forall_mem_insert {P : String × α → Prop} {t : Table α} (h : ∀ p ∈ t.toList, P p)
    {key : String} {value : α} (hnew : P (key, value)) : ∀ p ∈ (t.insert key value).toList, P p :=
  forall_mem_update h hnew

theorem keys_update (key : String) (value : α) (pairs : List (String × α)) :
    (update key value pairs).map (·.1) =
      if key ∈ pairs.map (·.1) then pairs.map (·.1) else pairs.map (·.1) ++ [key] := by
  induction pairs with
  | nil => simp [update]
  | cons p rest ih =>
    obtain ⟨k, v⟩ := p
    by_cases hk : k = key
    · simp [update, hk]
    · simp only [update, if_neg hk, List.map_cons, ih, List.mem_cons, Ne.symm hk, false_or]
      split <;> simp

/-- A known key stays in its place and a new one goes to the end. -/
theorem keys_insert (t : Table α) (key : String) (value : α) :
    (t.insert key value).keys = if key ∈ t.keys then t.keys else t.keys ++ [key] :=
  keys_update key value t.toList

theorem nodup_insert {t : Table α} (h : t.keys.Nodup) (key : String) (value : α) :
    (t.insert key value).keys.Nodup := by
  rw [keys_insert]
  split
  · exact h
  next hnew =>
    refine List.nodup_append.mpr ⟨h, by simp, fun k hk k' hk' he => ?_⟩
    rw [List.mem_singleton.mp hk'] at he
    exact hnew (he ▸ hk)

/-- What is put into a table stands before what it held. -/
theorem get?_foldl_insert (pairs : List (String × α)) (t : Table α) (key : String) :
    (pairs.foldl (fun t p => t.insert p.1 p.2) t).get? key = ((ofList pairs).get? key).or (t.get? key) := by
  induction pairs generalizing t with
  | nil => rfl
  | cons p rest ih =>
    rw [ofList, List.foldl_cons, List.foldl_cons, ih, ih, get?_insert, get?_insert, Option.or_assoc]
    split <;> rfl

theorem get?_ofList_eq_none_iff {pairs : List (String × α)} {key : String} :
    (ofList pairs).get? key = none ↔ key ∉ pairs.map (·.1) := by
  induction pairs with
  | nil => simp [ofList]
  | cons p rest ih =>
    rw [ofList, List.foldl_cons, get?_foldl_insert, Option.or_eq_none_iff, ih, get?_insert]
    by_cases hkey : p.1 = key
    · simp [hkey]
    · simp [hkey, Ne.symm hkey]

/-- Of the pairs with one key the last one counts. -/
theorem get?_ofList_append_cons {after : List (String × α)} {key : String} (h : key ∉ after.map (·.1))
    (before : List (String × α)) (value : α) :
    (ofList (before ++ (key, value) :: after)).get? key = some value := by
  rw [ofList, List.foldl_append, List.foldl_cons, get?_foldl_insert, get?_ofList_eq_none_iff.mpr h,
    Option.none_or, get?_insert_self]

/-! ## Tables with distinct keys -/

theorem lookup_eq_none_iff {key : String} {pairs : List (String × α)} :
    lookup key pairs = none ↔ key ∉ pairs.map (·.1) := by
  induction pairs with
  | nil => simp [lookup]
  | cons p rest ih =>
    obtain ⟨k, v⟩ := p
    by_cases hk : k = key
    · simp [lookup, hk]
    · simp [lookup, hk, Ne.symm hk, ih]

theorem get?_eq_none_iff {t : Table α} {key : String} : t.get? key = none ↔ key ∉ t.keys :=
  lookup_eq_none_iff

theorem isSome_get? {t : Table α} {key : String} : (t.get? key).isSome ↔ key ∈ t.keys := by
  rw [Option.isSome_iff_ne_none, Ne, get?_eq_none_iff, Decidable.not_not]

theorem lookup_of_mem {pairs : List (String × α)} (h : (pairs.map (·.1)).Nodup) {key : String}
    {value : α} (hmem : (key, value) ∈ pairs) : lookup key pairs = some value := by
  induction pairs with
  | nil => cases hmem
  | cons p rest ih =>
    obtain ⟨k, v⟩ := p
    rw [List.map_cons, List.nodup_cons] at h
    rcases List.mem_cons.mp hmem with he | hrest
    · cases he
      simp [lookup]
    · have hk : k ≠ key := fun he => h.1 (he ▸ List.mem_map.mpr ⟨_, hrest, rfl⟩)
      rw [lookup, if_neg hk]
      exact ih h.2 hrest

/-- Where keys are distinct, the value of a key is that of its pair. -/
theorem get?_eq_some_iff {t : Table α} (h : t.keys.Nodup) {key : String} {value : α} :
    t.get? key = some value ↔ (key, value) ∈ t.toList :=
  ⟨mem_of_get?, lookup_of_mem h⟩

/-- A table with distinct keys is known by its keys and their values. -/
theorem toList_eq_map {t : Table α} (h : t.keys.Nodup) {f : String → α}
    (hf : ∀ key ∈ t.keys, t.get? key = some (f key)) : t.toList = t.keys.map fun key => (key, f key) := by
  rw [keys, List.map_map]
  conv => lhs; rw [← List.map_id t.toList]
  refine List.map_congr_left fun p hp => ?_
  have hvalue := hf p.1 (List.mem_map_of_mem hp)
  rw [(get?_eq_some_iff h).mpr hp, Option.some.injEq] at hvalue
  simp [← hvalue]

/-- The keys of a table stay distinct when others are put in, and each stands
where it first came in. -/
theorem keys_insert_eraseDups {t : Table α} {names : List String} (h : t.keys = names.eraseDups)
    (key : String) (value : α) : (t.insert key value).keys = (names ++ [key]).eraseDups := by
  rw [keys_insert, h, List.eraseDups_append]
  by_cases hmem : key ∈ names <;> simp [hmem, List.removeAll, List.eraseDups_cons]

/-! ## Some of the keys -/

/-- The keys that `keep` accepts, with their values. -/
def filterKeys (keep : String → Bool) (t : Table α) : Table α := ⟨t.toList.filter fun p => keep p.1⟩

theorem filter_update (keep : String → Bool) (key : String) (value : α) (pairs : List (String × α)) :
    (update key value pairs).filter (fun p => keep p.1) =
      if keep key then update key value (pairs.filter fun p => keep p.1)
      else pairs.filter fun p => keep p.1 := by
  induction pairs with
  | nil => cases hkey : keep key <;> simp [update, hkey]
  | cons p rest ih =>
    obtain ⟨k, v⟩ := p
    by_cases hk : k = key
    · subst hk
      cases hkeep : keep k <;> simp [update, hkeep]
    · cases hkeep : keep k <;> cases hkey : keep key <;> simp_all [update]

/-- A new value is seen among some of the keys only if its key is one of them,
and then in the same place. -/
theorem filterKeys_insert (keep : String → Bool) (t : Table α) (key : String) (value : α) :
    (t.insert key value).filterKeys keep =
      if keep key then (t.filterKeys keep).insert key value else t.filterKeys keep := by
  rw [filterKeys, insert, filter_update]
  split <;> rfl

theorem lookup_filter {keep : String → Bool} {key : String} (h : keep key = true) (pairs : List (String × α)) :
    lookup key (pairs.filter fun p => keep p.1) = lookup key pairs := by
  induction pairs with
  | nil => rfl
  | cons p rest ih =>
    obtain ⟨k, v⟩ := p
    by_cases hk : k = key
    · subst hk
      simp [lookup, h]
    · cases hkeep : keep k <;> simp [lookup, hkeep, hk, ih]

theorem get?_filterKeys {keep : String → Bool} {key : String} (h : keep key = true) (t : Table α) :
    (t.filterKeys keep).get? key = t.get? key :=
  lookup_filter h t.toList

theorem filterKeys_foldl_insert {keep : String → Bool} {pairs : List (String × α)}
    (h : ∀ p ∈ pairs, keep p.1 = false) (t : Table α) :
    (pairs.foldl (fun t p => t.insert p.1 p.2) t).filterKeys keep = t.filterKeys keep := by
  induction pairs generalizing t with
  | nil => rfl
  | cons p rest ih =>
    rw [List.forall_mem_cons] at h
    rw [List.foldl_cons, ih h.2, filterKeys_insert, h.1]
    rfl

end Table

end AbiProbe
