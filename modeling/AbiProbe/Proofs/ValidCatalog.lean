/-
What the validation of a catalog accepts, said without its order: every name
is an identifier, every header can stand between angle brackets, and no format
or cast holds a quote (`validate_eq_ok_iff`). All else is rejected as a misuse
(`reportsMisuse_validate`). The built-in catalog is accepted (`validate_builtin`).

The built-in constants are written as words in long texts. Words are looked at
as lists of characters, since a text that was put together of characters and is
taken apart again costs a computation of its own (`isIdentifier_namesIn`).
-/
import AbiProbe.Catalog.Builtin
import AbiProbe.Catalog.Validation
import AbiProbe.Text.Word

namespace AbiProbe

open Text

theorem unit_bind_eq_ok_iff {a b : Except Error Unit} :
    (do a; b) = Except.ok () ↔ a = .ok () ∧ b = .ok () := by
  cases a with
  | error err => simp [bind, Except.bind]
  | ok u => simp [bind, Except.bind]

/-! ## Identifiers -/

/-- Whether some characters are those of an identifier. -/
def identifies : List Char → Bool
  | [] => false
  | c :: cs => (c == '_' || c.isAlpha) && cs.all fun c => c == '_' || c.isAlphanum

theorem isIdentifier_eq (s : String) : isIdentifier s = identifies s.toList := by
  unfold isIdentifier
  cases s.toList <;> rfl

theorem isIdentifier_ofList (cs : List Char) : isIdentifier (String.ofList cs) = identifies cs := by
  rw [isIdentifier_eq, String.toList_ofList]

theorem isWord_of_identifies {cs : List Char} (h : identifies cs = true) :
    ∀ c ∈ cs, (c == '_' || c.isAlphanum) = true := by
  cases cs with
  | nil => simp
  | cons c cs =>
    simp only [identifies, Bool.and_eq_true, List.all_eq_true] at h
    refine List.forall_mem_cons.mpr ⟨?_, h.2⟩
    have hfirst := h.1
    simp only [Bool.or_eq_true, Char.isAlphanum] at hfirst ⊢
    exact hfirst.imp_right .inl

theorem isAsciiWord_of_isIdentifier {s : String} (h : isIdentifier s = true) :
    ∀ c ∈ s.toList, isAsciiWord c = true := by
  rw [isIdentifier_eq] at h
  intro c hc
  rw [isAsciiWord, Bool.or_comm]
  exact isWord_of_identifies h c hc

theorem not_mem_of_isIdentifier {s : String} (h : isIdentifier s = true) {c : Char}
    (hc : isAsciiWord c = false) : c ∉ s.toList :=
  fun hmem => Bool.false_ne_true (hc.symm.trans (isAsciiWord_of_isIdentifier h c hmem))

theorem dot_not_mem_of_isIdentifier {s : String} (h : isIdentifier s = true) : '.' ∉ s.toList :=
  not_mem_of_isIdentifier h (by decide)

theorem not_mem_of_isHeader {s : String} (h : isHeader s = true) {c : Char}
    (hc : (c == '>' || c == '<' || c == '"' || isBlank c) = true) : c ∉ s.toList := by
  simp only [isHeader, Bool.and_eq_true, List.all_eq_true] at h
  intro hmem
  have hallowed := h.2 c hmem
  rw [hc] at hallowed
  cases hallowed

namespace Catalog

/-! ## Each check -/

theorem checkName_eq_ok_iff {kind : NameKind} {name : String} :
    checkName kind name = .ok () ↔ isIdentifier name = true := by
  unfold checkName
  split <;> simp_all

theorem checkHeaders_eq_ok_iff {headers : List String} :
    checkHeaders headers = .ok () ↔ ∀ h ∈ headers, isHeader h = true := by
  induction headers with
  | nil => simp [checkHeaders]
  | cons h rest ih =>
    rw [checkHeaders, List.forall_mem_cons, ← ih]
    split <;> simp_all

theorem checkNames_eq_ok_iff {kind : NameKind} {names : List String} :
    checkNames kind names = .ok () ↔ ∀ name ∈ names, isIdentifier name = true := by
  induction names with
  | nil => simp [checkNames]
  | cons name rest ih =>
    rw [checkNames, unit_bind_eq_ok_iff, checkName_eq_ok_iff, ih, List.forall_mem_cons]

/-- What is accepted of a struct. -/
structure ValidStruct (d : StructDecl) : Prop where
  name : isIdentifier d.name = true
  includes : ∀ h ∈ d.includes, isHeader h = true
  fields : ∀ f ∈ d.fields, isIdentifier f.name = true

/-- What is accepted of constants that are printed alike. -/
structure ValidBatch (b : ConstantBatch) : Prop where
  format : '"' ∉ b.format.toList
  cast : '"' ∉ b.cast.toList
  names : ∀ name ∈ b.names, isIdentifier name = true

/-- What is accepted of a group. -/
structure ValidGroup (d : GroupDecl) : Prop where
  name : isIdentifier d.name = true
  includes : ∀ h ∈ d.includes, isHeader h = true
  batches : ∀ b ∈ d.batches, ValidBatch b

/-- What is accepted of a catalog. -/
structure Valid (c : Catalog) : Prop where
  structs : ∀ d ∈ c.structs, ValidStruct d
  groups : ∀ d ∈ c.groups, ValidGroup d
  typedefHeaders : ∀ h ∈ c.typedefHeaders, isHeader h = true

theorem checkStruct_eq_ok_iff {d : StructDecl} : checkStruct d = .ok () ↔ ValidStruct d := by
  rw [checkStruct, unit_bind_eq_ok_iff, unit_bind_eq_ok_iff, checkName_eq_ok_iff,
    checkHeaders_eq_ok_iff, checkNames_eq_ok_iff, List.forall_mem_map]
  exact ⟨fun ⟨hn, hi, hf⟩ => ⟨hn, hi, hf⟩, fun h => ⟨h.name, h.includes, h.fields⟩⟩

theorem checkBatch_eq_ok_iff {group : String} {b : ConstantBatch} :
    checkBatch group b = .ok () ↔ ValidBatch b := by
  rw [checkBatch]
  split
  next h =>
    constructor
    · intro he
      cases he
    · intro hb
      simp [hb.format, hb.cast] at h
  next h =>
    simp only [Bool.or_eq_true, List.contains_iff_mem, not_or] at h
    rw [checkNames_eq_ok_iff]
    exact ⟨fun hn => ⟨h.1, h.2, hn⟩, fun hb => hb.names⟩

theorem checkBatches_eq_ok_iff {group : String} {batches : List ConstantBatch} :
    checkBatches group batches = .ok () ↔ ∀ b ∈ batches, ValidBatch b := by
  induction batches with
  | nil => simp [checkBatches]
  | cons b rest ih =>
    rw [checkBatches, unit_bind_eq_ok_iff, checkBatch_eq_ok_iff, ih, List.forall_mem_cons]

theorem checkGroup_eq_ok_iff {d : GroupDecl} : checkGroup d = .ok () ↔ ValidGroup d := by
  rw [checkGroup, unit_bind_eq_ok_iff, unit_bind_eq_ok_iff, checkName_eq_ok_iff,
    checkHeaders_eq_ok_iff, checkBatches_eq_ok_iff]
  exact ⟨fun ⟨hn, hi, hb⟩ => ⟨hn, hi, hb⟩, fun h => ⟨h.name, h.includes, h.batches⟩⟩

theorem checkStructs_eq_ok_iff {ds : List StructDecl} :
    checkStructs ds = .ok () ↔ ∀ d ∈ ds, ValidStruct d := by
  induction ds with
  | nil => simp [checkStructs]
  | cons d rest ih =>
    rw [checkStructs, unit_bind_eq_ok_iff, checkStruct_eq_ok_iff, ih, List.forall_mem_cons]

theorem checkGroups_eq_ok_iff {ds : List GroupDecl} :
    checkGroups ds = .ok () ↔ ∀ d ∈ ds, ValidGroup d := by
  induction ds with
  | nil => simp [checkGroups]
  | cons d rest ih =>
    rw [checkGroups, unit_bind_eq_ok_iff, checkGroup_eq_ok_iff, ih, List.forall_mem_cons]

/-- A catalog is accepted if all that it names can be pasted into a program. -/
theorem validate_eq_ok_iff {c : Catalog} : c.validate = .ok () ↔ c.Valid := by
  rw [validate, unit_bind_eq_ok_iff, unit_bind_eq_ok_iff, checkStructs_eq_ok_iff,
    checkGroups_eq_ok_iff, checkHeaders_eq_ok_iff]
  exact ⟨fun ⟨hs, hg, ht⟩ => ⟨hs, hg, ht⟩, fun h => ⟨h.structs, h.groups, h.typedefHeaders⟩⟩

/-! ## What is reported -/

/-- Whatever a check reports is a misuse. -/
def ReportsMisuse (check : Except Error Unit) : Prop := ∀ e, check = .error e → ∃ m, e = .config m

theorem ReportsMisuse.ok : ReportsMisuse (.ok ()) := nofun

theorem ReportsMisuse.error (m : Misuse) : ReportsMisuse (.error (.config m)) := by
  rintro _ ⟨⟩
  exact ⟨m, rfl⟩

theorem ReportsMisuse.bind {a b : Except Error Unit} (ha : ReportsMisuse a) (hb : ReportsMisuse b) :
    ReportsMisuse (do a; b) := by
  cases a with
  | error err => exact ha
  | ok u => exact hb

theorem reportsMisuse_checkName (kind : NameKind) (name : String) : ReportsMisuse (checkName kind name) := by
  rw [checkName]
  split
  · exact .ok
  · exact .error _

theorem reportsMisuse_checkHeaders (headers : List String) : ReportsMisuse (checkHeaders headers) := by
  induction headers with
  | nil => exact .ok
  | cons h rest ih =>
    rw [checkHeaders]
    split
    · exact ih
    · exact .error _

theorem reportsMisuse_checkNames (kind : NameKind) (names : List String) : ReportsMisuse (checkNames kind names) := by
  induction names with
  | nil => exact .ok
  | cons name rest ih => exact (reportsMisuse_checkName kind name).bind ih

theorem reportsMisuse_checkStruct (d : StructDecl) : ReportsMisuse (checkStruct d) :=
  (reportsMisuse_checkName .struct d.name).bind
    ((reportsMisuse_checkHeaders d.includes).bind (reportsMisuse_checkNames .field _))

theorem reportsMisuse_checkBatch (group : String) (b : ConstantBatch) : ReportsMisuse (checkBatch group b) := by
  rw [checkBatch]
  split
  · exact .error _
  · exact reportsMisuse_checkNames .constant b.names

theorem reportsMisuse_checkBatches (group : String) (batches : List ConstantBatch) :
    ReportsMisuse (checkBatches group batches) := by
  induction batches with
  | nil => exact .ok
  | cons b rest ih => exact (reportsMisuse_checkBatch group b).bind ih

theorem reportsMisuse_checkGroup (d : GroupDecl) : ReportsMisuse (checkGroup d) :=
  (reportsMisuse_checkName .group d.name).bind
    ((reportsMisuse_checkHeaders d.includes).bind (reportsMisuse_checkBatches d.name d.batches))

theorem reportsMisuse_checkStructs (ds : List StructDecl) : ReportsMisuse (checkStructs ds) := by
  induction ds with
  | nil => exact .ok
  | cons d rest ih => exact (reportsMisuse_checkStruct d).bind ih

theorem reportsMisuse_checkGroups (ds : List GroupDecl) : ReportsMisuse (checkGroups ds) := by
  induction ds with
  | nil => exact .ok
  | cons d rest ih => exact (reportsMisuse_checkGroup d).bind ih

/-- What is rejected is rejected as a misuse. -/
theorem reportsMisuse_validate (c : Catalog) : ReportsMisuse c.validate :=
  (reportsMisuse_checkStructs c.structs).bind
    ((reportsMisuse_checkGroups c.groups).bind (reportsMisuse_checkHeaders c.typedefHeaders))

/-! ## The built-in catalog -/

theorem isIdentifier_namesIn {s : String} (h : ∀ w ∈ words s.toList, identifies w = true) :
    ∀ name ∈ namesIn s, isIdentifier name = true := by
  intro name hname
  obtain ⟨w, hw, rfl⟩ := List.mem_map.mp hname
  rw [isIdentifier_ofList]
  exact h w hw

namespace ValidGroup

variable {d : GroupDecl} {s : String}

theorem new {name : String} {includes : List String} (hname : isIdentifier name = true)
    (hincludes : ∀ h ∈ includes, isHeader h = true) : ValidGroup (GroupDecl.new name includes) :=
  ⟨hname, hincludes, by simp [GroupDecl.new]⟩

theorem constantsAs (hd : ValidGroup d) (hs : ∀ w ∈ words s.toList, identifies w = true)
    {format cast : String} (hformat : '"' ∉ format.toList) (hcast : '"' ∉ cast.toList) :
    ValidGroup (d.constantsAs s format cast) := by
  refine ⟨hd.name, hd.includes, fun b hb => ?_⟩
  rcases List.mem_append.mp hb with hb | hb
  · exact hd.batches b hb
  · obtain rfl := List.mem_singleton.mp hb
    exact ⟨hformat, hcast, isIdentifier_namesIn hs⟩

theorem constants (hd : ValidGroup d) (hs : ∀ w ∈ words s.toList, identifies w = true) :
    ValidGroup (d.constants s) :=
  hd.constantsAs hs (by decide) (by decide)

/-- The address and the protocol constant of each family. -/
theorem families {families : List String}
    (h : ∀ f ∈ families, ∀ w ∈ words ("AF_" ++ f ++ " PF_" ++ f).toList, identifies w = true)
    (hd : ValidGroup d) :
    ValidGroup (families.foldl (fun g f => g.constants ("AF_" ++ f ++ " PF_" ++ f)) d) := by
  induction families generalizing d with
  | nil => exact hd
  | cons f rest ih =>
    exact ih (fun g hg => h g (List.mem_cons_of_mem f hg)) (hd.constants (h f List.mem_cons_self))

end ValidGroup

theorem validStruct_builtin : ∀ d ∈ builtinStructs, ValidStruct d := by
  have hnames : ∀ d ∈ builtinStructs, isIdentifier d.name = true := by decide +kernel
  have hincludes : ∀ d ∈ builtinStructs, ∀ h ∈ d.includes, isHeader h = true := by decide +kernel
  have hfields : ∀ d ∈ builtinStructs, ∀ f ∈ d.fields, isIdentifier f.name = true := by decide +kernel
  exact fun d hd => ⟨hnames d hd, hincludes d hd, hfields d hd⟩

theorem words_families :
    ∀ f ∈ families, ∀ w ∈ words ("AF_" ++ f ++ " PF_" ++ f).toList, identifies w = true := by
  intro f hf
  obtain ⟨w, hw, rfl⟩ := List.mem_map.mp hf
  rw [String.toList_ofList] at hw
  simp only [String.toList_append, String.toList_ofList]
  revert w
  decide +kernel

theorem validGroup_builtin : ∀ d ∈ builtin.groups, ValidGroup d := by
  simp only [builtin, List.forall_mem_cons, List.not_mem_nil, false_implies, implies_true, and_true]
  refine ⟨?errno, ?file, ?io, ?fcntl, ?socket, ?process, ?signal, ?dlopen⟩
  case socket =>
    refine .constants (.constants (.families words_families
      (.new (by decide +kernel) (by decide +kernel))) (by decide +kernel)) ?_
    rw [String.toList_ofList]
    decide +kernel
  case process =>
    refine .constantsAs (.constants (.new (by decide +kernel) (by decide +kernel)) ?_)
      (by decide +kernel) (by decide) (by decide)
    rw [String.toList_ofList]
    decide +kernel
  all_goals
    refine .constants (.new (by decide +kernel) (by decide +kernel)) ?_
    rw [String.toList_ofList]
    decide +kernel

theorem validate_builtin : builtin.validate = .ok () :=
  validate_eq_ok_iff.mpr ⟨validStruct_builtin, validGroup_builtin, by decide +kernel⟩

end Catalog

end AbiProbe
