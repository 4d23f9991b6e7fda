/-
The directory of a path has the parts of the path but the last one
(`parts_directory`). Parts do not change when they are put together to a path
and taken apart again (`IsParts.parts_ofParts`); for this they must be names,
and after the first one no dots (`isParts_parts`).
-/
import AbiProbe.FileSystem.Path

namespace AbiProbe.Path

open Text

/-- What can stand between two slashes. -/
def IsName (s : String) : Prop := s ≠ "" ∧ '/' ∉ s.toList

/-- A name that counts also after the first part of a path. -/
def IsStep (s : String) : Prop := IsName s ∧ s ≠ "."

theorem isName_of_mem_namesOf {path name : String} (h : name ∈ namesOf path) :
    IsName name ∧ ∀ c ∈ name.toList, c ∈ path.toList := by
  obtain ⟨piece, hpiece, rfl⟩ := List.mem_map.mp h
  obtain ⟨hmem, hne⟩ := List.mem_filter.mp hpiece
  have hchars := of_mem_pieces hmem
  rw [IsName, String.toList_ofList]
  refine ⟨⟨fun he => ?_, fun hslash => ?_⟩, fun c hc => (hchars c hc).1⟩
  · have hnil : piece = [] := by simpa using congrArg String.toList he
    simp [hnil] at hne
  · simpa using (hchars '/' hslash).2

/-- Names with slashes between them are the names of that text. -/
theorem namesOf_intercalate {names : List String} (h : ∀ s ∈ names, IsName s) :
    namesOf (String.intercalate "/" names) = names := by
  cases names with
  | nil => rfl
  | cons first rest =>
    have hslash : ∀ l ∈ (first :: rest).map String.toList, ∀ c ∈ l, (c == '/') = false := by
      intro l hl c hc
      obtain ⟨s, hs, rfl⟩ := List.mem_map.mp hl
      rw [beq_eq_false_iff_ne]
      rintro rfl
      exact (h s hs).2 hc
    have hfilter : ((first :: rest).map String.toList).filter (!·.isEmpty) =
        (first :: rest).map String.toList := by
      refine List.filter_eq_self.mpr fun l hl => ?_
      obtain ⟨s, hs, rfl⟩ := List.mem_map.mp hl
      simpa using (h s hs).1
    have hpieces : pieces (· == '/') (String.intercalate "/" (first :: rest)).toList =
        (first :: rest).map String.toList := by
      rw [String.toList_intercalate]
      exact @pieces_intercalate (· == '/') '/' (by rfl) _ (by simp) hslash
    rw [namesOf, hpieces, hfilter, List.map_map]
    simp [Function.comp_def, String.ofList_toList]

/-- The names on both sides of a slash. -/
theorem namesOf_eq_append {path before after : String}
    (h : path.toList = before.toList ++ '/' :: after.toList) :
    namesOf path = namesOf before ++ namesOf after := by
  have hpieces : pieces (· == '/') path.toList =
      pieces (· == '/') before.toList ++ pieces (· == '/') after.toList :=
    h ▸ pieces_append_separator before.toList (by rfl) after.toList
  rw [namesOf, hpieces, List.filter_append, List.map_append, namesOf, namesOf]

theorem namesOf_top_append (s : String) : namesOf (top ++ s) = namesOf s :=
  @namesOf_eq_append (top ++ s) "" s (by simp [top])

/-- A text that begins with a name begins with no slash. -/
theorem IsName.head?_intercalate {first : String} (h : IsName first) (rest : List String) :
    (String.intercalate "/" (first :: rest)).toList.head? ≠ some '/' := by
  obtain ⟨c, cs, hc⟩ := List.exists_cons_of_ne_nil fun he => h.1 (String.toList_eq_nil_iff.mp he)
  have hslash : c ≠ '/' := by
    rintro rfl
    exact h.2 (hc ▸ List.mem_cons_self)
  rw [String.toList_intercalate]
  cases rest with
  | nil => simp [hc, hslash]
  | cons s rest => simp [hc, hslash]

/-- Parts of a path. The top may stand first. -/
inductive IsParts : List String → Prop where
  | absolute {rest} : (∀ s ∈ rest, IsStep s) → IsParts (top :: rest)
  | relative {first rest} : IsName first → (∀ s ∈ rest, IsStep s) → IsParts (first :: rest)

theorem isStep_of_mem_filter {path s : String} {names : List String} (hnames : ∀ s ∈ names, s ∈ namesOf path)
    (h : s ∈ names.filter (· != ".")) : IsStep s := by
  obtain ⟨hmem, hdot⟩ := List.mem_filter.mp h
  exact ⟨(isName_of_mem_namesOf (hnames s hmem)).1, by simpa using hdot⟩

theorem isParts_parts {path : String} (h : parts path ≠ []) : IsParts (parts path) := by
  unfold parts at h ⊢
  split
  · exact .absolute fun s hs => isStep_of_mem_filter (fun _ h => h) hs
  next hrelative =>
    rw [if_neg hrelative] at h
    cases hn : namesOf path with
    | nil => simp [hn] at h
    | cons first rest =>
      have hfirst : first ∈ namesOf path := hn ▸ List.mem_cons_self
      have hrest : ∀ s ∈ rest, s ∈ namesOf path := fun s hs => hn ▸ List.mem_cons_of_mem first hs
      exact .relative (isName_of_mem_namesOf hfirst).1 fun s hs => isStep_of_mem_filter hrest hs

namespace IsParts

variable {ps : List String}

theorem dropLast (h : IsParts ps) (hne : ps.dropLast ≠ []) : IsParts ps.dropLast := by
  cases h with
  | @absolute rest hrest =>
    cases rest with
    | nil => simp at hne
    | cons s rest =>
      rw [List.dropLast_cons_of_ne_nil (by simp)]
      exact .absolute fun s hs => hrest s (List.dropLast_subset _ hs)
  | @relative first rest hfirst hrest =>
    cases rest with
    | nil => simp at hne
    | cons s rest =>
      rw [List.dropLast_cons_of_ne_nil (by simp)]
      exact .relative hfirst fun s hs => hrest s (List.dropLast_subset _ hs)

theorem filter_steps (h : ∀ s ∈ ps, IsStep s) : ps.filter (· != ".") = ps :=
  List.filter_eq_self.mpr fun s hs => by simpa using (h s hs).2

theorem parts_ofParts (h : IsParts ps) : parts (ofParts ps) = ps := by
  cases h with
  | @absolute rest hrest =>
    have hhead : (top ++ String.intercalate "/" rest).toList.head? = some '/' := by
      simp [top, String.toList_append]
    rw [ofParts, if_pos rfl, parts, if_pos hhead, namesOf_top_append,
      namesOf_intercalate fun s hs => (hrest s hs).1, filter_steps hrest]
  | @relative first rest hfirst hrest =>
    have hnames : namesOf (String.intercalate "/" (first :: rest)) = first :: rest := by
      refine namesOf_intercalate fun s hs => ?_
      rcases List.mem_cons.mp hs with rfl | hs
      · exact hfirst
      · exact (hrest s hs).1
    have htop : first ≠ top := by
      rintro rfl
      exact hfirst.2 (by decide)
    rw [ofParts, if_neg htop, parts, if_neg (hfirst.head?_intercalate rest), hnames]
    simp only [filter_steps hrest]

end IsParts

/-- The directory of a path has its parts but the last one; a path of one part
is in the working directory. -/
theorem parts_directory {path : String} (h : parts path ≠ []) :
    parts (directory path) = if (parts path).dropLast = [] then ["."] else (parts path).dropLast := by
  unfold directory
  by_cases hnil : (parts path).dropLast = []
  · rw [if_pos hnil]
    simp only [hnil]
    decide
  · rw [if_neg hnil]
    simp only [List.isEmpty_iff, hnil, if_false]
    exact ((isParts_parts h).dropLast hnil).parts_ofParts

/-! ## Names in a directory -/

theorem namesOf_of_isName {name : String} (h : IsName name) : namesOf name = [name] := by
  have hnames := @namesOf_intercalate [name] (List.forall_mem_singleton.mpr h)
  rwa [String.intercalate_singleton] at hnames

/-- The path of a name in a directory is that of the directory, a slash if none
ends it, and the name. -/
theorem exists_join {dir : String} (hdir : dir ≠ "") (name : String) :
    ∃ base, (join dir name).toList = base.toList ++ '/' :: name.toList ∧ namesOf base = namesOf dir ∧
      ∀ c ∈ base.toList, c ∈ dir.toList := by
  unfold join
  rw [if_neg (by simpa using hdir)]
  split
  next hlast =>
    obtain ⟨base, hbase⟩ := List.getLast?_eq_some_iff.mp hlast
    refine ⟨String.ofList base, by simp [hbase], ?_, fun c hc => by simp_all⟩
    have hnames := @namesOf_eq_append dir (String.ofList base) "" (by simpa using hbase)
    rw [hnames]
    exact (List.append_nil _).symm
  next => exact ⟨dir, by simp, rfl, fun _ h => h⟩

theorem join_empty (name : String) : join "" name = name := rfl

theorem getLast?_join (dir : String) {name : String} (hname : name ≠ "") :
    (join dir name).toList.getLast? = name.toList.getLast? := by
  have hne : name.toList ≠ [] := fun he => hname (String.toList_eq_nil_iff.mp he)
  by_cases hdir : dir = ""
  · rw [hdir, join_empty]
  · obtain ⟨base, hjoin, -⟩ := exists_join hdir name
    rw [hjoin, List.getLast?_append, List.getLast?_cons, List.getLast?_eq_some_getLast hne]
    rfl

theorem head?_join {dir name : String} (hdir : dir ≠ "") :
    (join dir name).toList.head? = dir.toList.head? := by
  obtain ⟨c, cs, hc⟩ := List.exists_cons_of_ne_nil fun he => hdir (String.toList_eq_nil_iff.mp he)
  unfold join
  rw [if_neg (by simpa using hdir)]
  split <;> simp [hc]

/-- A name in a directory comes after the parts of the directory. -/
theorem parts_join {dir name : String} (hdir : parts dir ≠ []) (hname : IsStep name) :
    parts (join dir name) = parts dir ++ [name] := by
  have hne : dir ≠ "" := by
    rintro rfl
    exact hdir rfl
  obtain ⟨base, hjoin, hbase, -⟩ := exists_join hne name
  have hnames : namesOf (join dir name) = namesOf dir ++ [name] := by
    rw [namesOf_eq_append hjoin, hbase, namesOf_of_isName hname.1]
  have hdot : (name != ".") = true := by simpa using hname.2
  unfold parts at hdir ⊢
  rw [head?_join hne, hnames]
  split
  · simp [hdot]
  next hrelative =>
    rw [if_neg hrelative] at hdir
    cases hn : namesOf dir with
    | nil => simp [hn] at hdir
    | cons first rest => simp [hdot]

/-! ## Characters -/

theorem mem_intercalate {names : List String} {c : Char} (h : c ∈ (String.intercalate "/" names).toList) :
    c = '/' ∨ ∃ s ∈ names, c ∈ s.toList := by
  rw [String.toList_intercalate] at h
  induction names with
  | nil => simp at h
  | cons first rest ih =>
    cases rest with
    | nil => exact .inr ⟨first, List.mem_cons_self, by simpa using h⟩
    | cons s rest =>
      rw [List.map_cons, List.map_cons, List.intercalate_cons_cons, List.mem_append, List.mem_append] at h
      rcases h with (h | h) | h
      · exact .inr ⟨first, List.mem_cons_self, h⟩
      · exact .inl (by simpa using h)
      · exact (ih h).imp_right fun ⟨s', hs, hc⟩ => ⟨s', List.mem_cons_of_mem first hs, hc⟩

theorem mem_ofParts {ps : List String} {c : Char} (h : c ∈ (ofParts ps).toList) :
    c = '/' ∨ ∃ s ∈ ps, c ∈ s.toList := by
  cases ps with
  | nil => simp [ofParts] at h
  | cons first rest =>
    rw [ofParts] at h
    split at h
    · rw [String.toList_append, List.mem_append] at h
      rcases h with h | h
      · exact .inl (by simpa [top] using h)
      · exact (mem_intercalate h).imp_right fun ⟨s, hs, hc⟩ => ⟨s, List.mem_cons_of_mem first hs, hc⟩
    · exact mem_intercalate h

theorem mem_parts {path s : String} (h : s ∈ parts path) : s = top ∨ s ∈ namesOf path := by
  unfold parts at h
  split at h
  · exact (List.mem_cons.mp h).imp_right fun h => (List.mem_filter.mp h).1
  · split at h
    · simp at h
    next first rest hn =>
      rw [hn]
      rcases List.mem_cons.mp h with rfl | h
      · exact .inr List.mem_cons_self
      · exact .inr (List.mem_cons_of_mem first (List.mem_filter.mp h).1)

/-- The directory of a path holds no other characters, slashes and a dot apart. -/
theorem mem_directory {path : String} {c : Char} (h : c ∈ (directory path).toList) :
    c = '/' ∨ c = '.' ∨ c ∈ path.toList := by
  unfold directory at h
  dsimp only at h
  split at h
  · exact .inr (.inl (by simpa using h))
  · rcases mem_ofParts h with rfl | ⟨s, hs, hc⟩
    · exact .inl rfl
    · rcases mem_parts (List.dropLast_subset _ hs) with rfl | hs
      · exact .inl (by simpa [top] using hc)
      · exact .inr (.inr ((isName_of_mem_namesOf hs).2 c hc))

end AbiProbe.Path
