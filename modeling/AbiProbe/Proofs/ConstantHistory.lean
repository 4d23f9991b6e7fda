/-
What a group of constants knows after any requests is what the requests tell
(`requests_tell`): every name stands where it was first declared, with the
format and the cast of its latest declaration, and with the last text that a
line of an accepted output has given it since.

One request does this to the table: a declaration puts its names in without a
value (`get?_declare`), an accepted output sets the values of the names in it
and leaves the others (`get?_analyse`), and an output is accepted if each of
its lines gives a text to a declared name (`analyse_eq_ok_iff`).
-/
import AbiProbe.Probe.ConstantHistory
import AbiProbe.Proofs.UniqueKeys
import Mathlib.Data.List.Induction

namespace AbiProbe

open Text

namespace ConstantProbe

variable {p q : ConstantProbe} {output : String}

/-! ## Lines -/

/-- A line gives a name a text if it is the name, a space and the text; the
name is not empty, and consists of word characters. -/
theorem nameAndValue?_eq_some_iff {line name value : List Char} :
    nameAndValue? line = some (name, value) ↔
      line = name ++ ' ' :: value ∧ name ≠ [] ∧ ∀ c ∈ name, isWord c = true := by
  constructor
  · intro h
    unfold nameAndValue? at h
    dsimp only at h
    split at h
    · cases h
    next hne =>
      split at h
      next rest hdrop =>
        cases h
        refine ⟨?_, by simpa using hne, fun c hc => List.all_eq_true.mp List.all_takeWhile c hc⟩
        rw [← hdrop]
        exact (List.prefix_iff_eq_append.mp (List.takeWhile_prefix isWord)).symm
      · cases h
  · rintro ⟨rfl, hne, hword⟩
    have htake : (name ++ ' ' :: value).takeWhile isWord = name := by
      rw [List.takeWhile_append_of_pos hword, List.takeWhile_cons, if_neg (by decide), List.append_nil]
    simp [nameAndValue?, htake, hne]

theorem readLine_of_givesKnown {line : List Char} (h : givesKnown p.constants.keys line = true) :
    ∃ name value, nameAndValue? line = some (name, value) ∧
      p.readLine line = .ok (String.ofList name, .ofText (String.ofList value)) := by
  unfold givesKnown at h
  split at h
  next name value hread =>
    obtain ⟨c, hc⟩ := Option.isSome_iff_exists.mp (Table.isSome_get?.mpr (List.contains_iff_mem.mp h))
    exact ⟨name, value, hread, by simp only [readLine, hread, hc]⟩
  · cases h

theorem readLine_of_not_givesKnown {line : List Char} (h : givesKnown p.constants.keys line = false) :
    ∃ err, p.readLine line = .error err := by
  unfold givesKnown at h
  split at h
  next name value hread =>
    have hnew : String.ofList name ∉ p.constants.keys := fun hmem => by
      rw [List.contains_iff_mem.mpr hmem] at h
      cases h
    have hnone := Table.get?_eq_none_iff.mpr hnew
    exact ⟨_, by simp only [readLine, hread, hnone]; rfl⟩
  next hread => exact ⟨_, by simp only [readLine, hread]; rfl⟩

/-- The names and the values in an output. -/
def found (output : String) : List (String × Value) := (given output).map fun g => (g.1, .ofText g.2)

theorem mapM_readLine_of_accepts (h : accepts p.constants.keys output = true) :
    (lines output.toList).mapM p.readLine = .ok (found output) := by
  unfold found given
  rw [accepts] at h
  generalize lines output.toList = ls at h ⊢
  induction ls with
  | nil => rfl
  | cons line ls ih =>
    rw [List.all_cons, Bool.and_eq_true] at h
    obtain ⟨name, value, hread, hok⟩ := readLine_of_givesKnown h.1
    simp [List.mapM_cons, hok, ih h.2, hread, bind, Except.bind, pure, Except.pure]

theorem mapM_readLine_of_not_accepts (h : accepts p.constants.keys output = false) :
    ∃ err, (lines output.toList).mapM p.readLine = .error err := by
  rw [accepts] at h
  generalize lines output.toList = ls at h ⊢
  induction ls with
  | nil => cases h
  | cons line ls ih =>
    rw [List.mapM_cons]
    cases hline : givesKnown p.constants.keys line with
    | false =>
      obtain ⟨err, herr⟩ := readLine_of_not_givesKnown hline
      exact ⟨err, by rw [herr]; rfl⟩
    | true =>
      obtain ⟨name, value, -, hok⟩ := readLine_of_givesKnown hline
      obtain ⟨err, herr⟩ := ih (by rwa [List.all_cons, hline, Bool.true_and] at h)
      exact ⟨err, by rw [hok, herr]; rfl⟩

/-- An output is read if every line gives a text to a declared name; then the
values in it are set, one after the other. -/
theorem analyse_eq_ok_iff : p.analyse output = (.ok (), q) ↔
    accepts p.constants.keys output = true ∧
      q = { p with constants := (found output).foldl setValue p.constants } := by
  cases h : accepts p.constants.keys output with
  | true =>
    rw [analyse, readLines_eq, mapM_readLine_of_accepts h]
    exact ⟨fun hq => ⟨rfl, (Prod.mk.inj hq).2.symm⟩, fun hq => congrArg (Except.ok (), ·) hq.2.symm⟩
  | false =>
    obtain ⟨err, herr⟩ := mapM_readLine_of_not_accepts h
    rw [analyse, readLines_eq, herr]
    constructor
    · intro hq
      cases hq
    · intro hq
      exact absurd hq.1 Bool.false_ne_true

/-- An output is read if each of its lines gives a text to a declared name. -/
theorem exists_analyse_iff : (∃ q, p.analyse output = (.ok (), q)) ↔ ∀ line ∈ lines output.toList,
    ∃ name text, nameAndValue? line = some (name, text) ∧ String.ofList name ∈ p.constants.keys := by
  have haccepts : (∃ q, p.analyse output = (.ok (), q)) ↔ accepts p.constants.keys output = true :=
    ⟨fun ⟨_, hq⟩ => (analyse_eq_ok_iff.mp hq).1, fun h => ⟨_, analyse_eq_ok_iff.mpr ⟨h, rfl⟩⟩⟩
  rw [haccepts, accepts, List.all_eq_true]
  refine forall₂_congr fun line _ => ?_
  constructor
  · intro h
    unfold givesKnown at h
    split at h
    next name text hread => exact ⟨name, text, hread, List.contains_iff_mem.mp h⟩
    · cases h
  · rintro ⟨name, text, hread, hmem⟩
    rw [givesKnown, hread]
    exact List.contains_iff_mem.mpr hmem

/-! ## Setting values -/

theorem get?_setValue (t : Table Constant) (f : String × Value) (name : String) :
    (setValue t f).get? name =
      (t.get? name).map fun c => if f.1 = name then { c with value := some f.2 } else c := by
  unfold setValue
  split
  next c hc =>
    by_cases hname : f.1 = name
    · subst hname
      rw [Table.get?_insert_self, hc]
      simp
    · rw [Table.get?_insert_other hname]
      simp [hname]
  next hnone =>
    by_cases hname : f.1 = name
    · subst hname
      simp [hnone]
    · simp [hname]

theorem keys_setValue (t : Table Constant) (f : String × Value) : (setValue t f).keys = t.keys := by
  unfold setValue
  split
  next c hc => rw [Table.keys_insert, if_pos (Table.isSome_get?.mp (by rw [hc]; rfl))]
  · rfl

/-- The last value of a name counts. -/
theorem get?_foldl_setValue (fs : List (String × Value)) (t : Table Constant) (name : String) :
    (fs.foldl setValue t).get? name = (t.get? name).map fun c => { c with
      value := (fs.filterMap fun f => if f.1 = name then some f.2 else none).getLast?.or c.value } := by
  induction fs generalizing t with
  | nil => simp
  | cons f fs ih =>
    rw [List.foldl_cons, ih, get?_setValue, Option.map_map]
    refine congrArg (Option.map · (t.get? name)) (funext fun c => ?_)
    by_cases hname : f.1 = name
    · simp [hname, List.getLast?_cons, Option.or_some]
    · simp [hname]

theorem keys_foldl_setValue (fs : List (String × Value)) (t : Table Constant) :
    (fs.foldl setValue t).keys = t.keys := by
  induction fs generalizing t with
  | nil => rfl
  | cons f fs ih => rw [List.foldl_cons, ih, keys_setValue]

theorem filterMap_found (name output : String) :
    ((found output).filterMap fun f => if f.1 = name then some f.2 else none) =
      (textsOf name output).map .ofText := by
  unfold found textsOf
  rw [List.filterMap_map, List.map_filterMap]
  refine congrArg (List.filterMap · (given output)) (funext fun g => ?_)
  by_cases hname : g.1 = name <;> simp [hname]

/-- An output gives a constant the value of the last text for its name; a
constant that it does not name keeps the one that it had. -/
theorem get?_analyse (h : p.analyse output = (.ok (), q)) (name : String) :
    q.constants.get? name = (p.constants.get? name).map fun c => { c with
      value := ((textsOf name output).getLast?.map .ofText).or c.value } := by
  obtain ⟨-, rfl⟩ := analyse_eq_ok_iff.mp h
  rw [get?_foldl_setValue, filterMap_found, List.getLast?_map]

theorem keys_analyse (h : p.analyse output = (.ok (), q)) : q.constants.keys = p.constants.keys := by
  obtain ⟨-, rfl⟩ := analyse_eq_ok_iff.mp h
  exact keys_foldl_setValue _ _

/-! ## Declaring names -/

theorem get?_declare (p : ConstantProbe) (b : ConstantBatch) (name : String) :
    (p.declare b).constants.get? name =
      if name ∈ b.names then some ⟨b.format, b.cast, none⟩ else p.constants.get? name := by
  simp only [declare]
  generalize p.constants = t
  induction b.names generalizing t with
  | nil => simp
  | cons n names ih =>
    rw [List.foldl_cons, ih]
    by_cases hmem : name ∈ names
    · simp [hmem]
    · by_cases hname : n = name
      · subst hname
        simp [hmem]
      · simp [hmem, Ne.symm hname, Table.get?_insert_other hname]

theorem keys_declare {names : List String} (h : p.constants.keys = names.eraseDups) (b : ConstantBatch) :
    (p.declare b).constants.keys = (names ++ b.names).eraseDups := by
  simp only [declare]
  generalize p.constants = t at h ⊢
  induction b.names generalizing t names with
  | nil => simpa using h
  | cons n rest ih =>
    rw [List.foldl_cons, ih _ (Table.keys_insert_eraseDups h n _), List.append_assoc, List.singleton_append]

/-! ## Facts -/

/-- The facts, name by name: those of the names that have a value. -/
theorem entries_eq_filterMap (hnodup : p.constants.keys.Nodup) : p.entries =
    p.constants.keys.filterMap fun name => ((p.constants.get? name).bind (·.value)).map fun value =>
      ⟨p.group ++ "." ++ name, value⟩ := by
  rw [entries, Table.keys, List.filterMap_map]
  refine List.filterMap_congr fun x hx => ?_
  rw [Function.comp_apply, (Table.get?_eq_some_iff hnodup).mpr hx, Option.bind_some]

end ConstantProbe

/-! ## Histories -/

namespace GroupRequest

variable {rs : List GroupRequest} {name : String} {c : Constant}

theorem names_append (rs rs' : List GroupRequest) : names (rs ++ rs') = names rs ++ names rs' := by
  simp [names]

theorem told_append (name : String) (known : List String) (rs rs' : List GroupRequest) :
    told name known (rs ++ rs') = told name known rs ++ told name (known ++ names rs) rs' := by
  induction rs generalizing known with
  | nil => simp [told, names]
  | cons r rs ih =>
    cases r with
    | declare b => simp [told, ih, names, List.append_assoc]
    | analyse output => simp [told, ih, names, List.append_assoc]

namespace Latest

variable {before before' later later' : List GroupRequest} {b b' : ConstantBatch}

theorem mem_names (h : Latest rs name before b later) : name ∈ names rs := by
  rw [h.split, names_append]
  exact List.mem_append_right _ (List.mem_append_left _ h.declares)

theorem names_eq (h : Latest rs name before b later) : names before ++ b.names ++ names later = names rs := by
  rw [h.split, names_append, List.append_assoc]
  rfl

/-- A declaration that comes after another one is not in front of it. -/
theorem not_before (h : Latest rs name before b later) (h' : Latest rs name before' b' later')
    {between : List GroupRequest} (hb : before' = before ++ .declare b :: between) : False := by
  have hlater : later = between ++ .declare b' :: later' := by
    have hsplit := h.split.symm.trans h'.split
    rw [hb, List.append_assoc, List.append_cancel_left_eq] at hsplit
    exact (List.cons.inj hsplit).2
  refine h.last ?_
  rw [hlater, names_append]
  exact List.mem_append_right _ (List.mem_append_left _ h'.declares)

theorem unique (h : Latest rs name before b later) (h' : Latest rs name before' b' later') :
    before = before' ∧ b = b' ∧ later = later' := by
  have hsplit := h.split.symm.trans h'.split
  rcases List.append_eq_append_iff.mp hsplit with ⟨between, hb, hrest⟩ | ⟨between, hb, hrest⟩
  · cases between with
    | nil =>
      cases hrest
      exact ⟨by simpa using hb.symm, rfl, rfl⟩
    | cons r between =>
      cases hrest
      exact (h.not_before h' hb).elim
  · cases between with
    | nil =>
      cases hrest
      exact ⟨by simpa using hb, rfl, rfl⟩
    | cons r between =>
      cases hrest
      exact (h'.not_before h hb).elim

end Latest

namespace Tells

theorem unique {c' : Constant} (h : Tells rs name c) (h' : Tells rs name c') : c = c' := by
  obtain ⟨before, b, later, hlatest, rfl⟩ := h
  obtain ⟨before', b', later', hlatest', rfl⟩ := h'
  obtain ⟨rfl, rfl, rfl⟩ := hlatest.unique hlatest'
  rfl

theorem mem_names (h : Tells rs name c) : name ∈ names rs := by
  obtain ⟨_, _, _, hlatest, -⟩ := h
  exact hlatest.mem_names

/-- A declaration takes away the value of the names in it. -/
theorem declare_self {b : ConstantBatch} (h : name ∈ b.names) (rs : List GroupRequest) :
    Tells (rs ++ [.declare b]) name ⟨b.format, b.cast, none⟩ :=
  ⟨rs, b, [], ⟨rfl, h, List.not_mem_nil⟩, rfl⟩

theorem declare_other {b : ConstantBatch} (h : Tells rs name c) (hname : name ∉ b.names) :
    Tells (rs ++ [.declare b]) name c := by
  obtain ⟨before, b', later, hlatest, rfl⟩ := h
  refine ⟨before, b', later ++ [.declare b], ⟨by simp [hlatest.split], hlatest.declares, ?_⟩, ?_⟩
  · rw [names_append, List.mem_append, not_or]
    exact ⟨hlatest.last, by simpa [names] using hname⟩
  · simp [told_append, told]

theorem analyse (h : Tells rs name c) (output : String) :
    Tells (rs ++ [.analyse output]) name (if ConstantProbe.accepts (names rs) output = true then { c with
      value := ((ConstantProbe.textsOf name output).getLast?.map .ofText).or c.value } else c) := by
  obtain ⟨before, b, later, hlatest, rfl⟩ := h
  refine ⟨before, b, later ++ [.analyse output], ⟨by simp [hlatest.split], hlatest.declares, ?_⟩, ?_⟩
  · rw [names_append, List.mem_append, not_or]
    exact ⟨hlatest.last, by simp [names]⟩
  · rw [told_append, hlatest.names_eq]
    split
    next haccepts => simp [told, haccepts, List.getLast?_append, Option.map_or]
    next haccepts => simp [told, haccepts]

end Tells

end GroupRequest

namespace ConstantProbe

open GroupRequest

/-- A group is what the requests so far tell. -/
structure Follows (group : String) (includes : List String) (rs : List GroupRequest) (p : ConstantProbe) :
    Prop where
  group : p.group = group
  includes : p.includes = includes
  keys : p.constants.keys = (names rs).eraseDups
  nodup : p.constants.keys.Nodup
  tells : ∀ name c, p.constants.get? name = some c → Tells rs name c

theorem accepts_congr {known known' : List String} (h : ∀ name, name ∈ known ↔ name ∈ known')
    (output : String) : accepts known output = accepts known' output := by
  refine congrArg (List.all (lines output.toList)) (funext fun line => ?_)
  unfold givesKnown
  split
  · rw [Bool.eq_iff_iff, List.contains_iff_mem, List.contains_iff_mem, h]
  · rfl

namespace Follows

variable {group : String} {includes : List String} {rs : List GroupRequest} {p : ConstantProbe}

theorem new (group : String) (includes : List String) : Follows group includes [] (new group includes) :=
  ⟨rfl, rfl, rfl, List.nodup_nil, fun name c h => by simp [ConstantProbe.new] at h⟩

theorem mem_keys (h : Follows group includes rs p) (name : String) :
    name ∈ p.constants.keys ↔ name ∈ names rs := by
  rw [h.keys, List.mem_eraseDups]

theorem accepts_keys (h : Follows group includes rs p) (output : String) :
    accepts p.constants.keys output = accepts (names rs) output :=
  accepts_congr h.mem_keys output

theorem declare (h : Follows group includes rs p) (b : ConstantBatch) :
    Follows group includes (rs ++ [.declare b]) (p.declare b) := by
  refine ⟨h.group, h.includes, ?_, nodup_declare h.nodup b, fun name c hc => ?_⟩
  · rw [keys_declare h.keys, names_append]
    simp [names]
  · rw [get?_declare] at hc
    split at hc
    next hname =>
      cases hc
      exact .declare_self hname rs
    next hname => exact (h.tells name c hc).declare_other hname

theorem analyse (h : Follows group includes rs p) (output : String) :
    Follows group includes (rs ++ [.analyse output]) (p.request (.analyse output)) := by
  have hnames : names (rs ++ [.analyse output]) = names rs := by simp [names]
  rw [request]
  rcases hq : p.analyse output with ⟨err | _, q⟩
  · obtain rfl : q = p := (congrArg Prod.snd hq).symm.trans (analyse_snd_of_error (congrArg Prod.fst hq))
    have hrejects : ¬ accepts (names rs) output = true := by
      rw [← h.accepts_keys]
      intro haccepts
      rw [analyse_eq_ok_iff.mpr ⟨haccepts, rfl⟩] at hq
      cases hq
    refine ⟨h.group, h.includes, hnames.symm ▸ h.keys, h.nodup, fun name c hc => ?_⟩
    have htells := (h.tells name c hc).analyse output
    rwa [if_neg hrejects] at htells
  · have haccepts := (analyse_eq_ok_iff.mp hq).1
    rw [h.accepts_keys] at haccepts
    refine ⟨?_, ?_, ?_, ?_, fun name c hc => ?_⟩
    · rw [← h.group, (analyse_facts hq h.nodup).1]
    · rw [← h.includes, (analyse_eq_ok_iff.mp hq).2]
    · rw [keys_analyse hq, h.keys, hnames]
    · exact (analyse_facts hq h.nodup).2
    · rw [get?_analyse hq, Option.map_eq_some_iff] at hc
      obtain ⟨c, hc, rfl⟩ := hc
      have htells := (h.tells name c hc).analyse output
      rwa [if_pos haccepts] at htells

theorem request (h : Follows group includes rs p) (r : GroupRequest) :
    Follows group includes (rs ++ [r]) (p.request r) := by
  cases r with
  | declare b => exact h.declare b
  | analyse output => exact h.analyse output

theorem requests (group : String) (includes : List String) (rs : List GroupRequest) :
    Follows group includes rs ((ConstantProbe.new group includes).requests rs) := by
  induction rs using List.reverseRecOn with
  | nil => exact new group includes
  | append_singleton rs r ih =>
    rw [ConstantProbe.requests, List.foldl_append]
    exact ih.request r

theorem get?_eq_some_iff (h : Follows group includes rs p) {name : String} {c : Constant} :
    p.constants.get? name = some c ↔ Tells rs name c := by
  refine ⟨h.tells name c, fun htells => ?_⟩
  obtain ⟨c', hc'⟩ := Option.isSome_iff_exists.mp
    (Table.isSome_get?.mpr ((h.mem_keys name).mpr htells.mem_names))
  rw [hc', (h.tells name c' hc').unique htells]

/-- The table, name by name. -/
theorem toList_eq_map (h : Follows group includes rs p) {f : String → Constant}
    (hf : ∀ name ∈ names rs, Tells rs name (f name)) :
    p.constants.toList = (names rs).eraseDups.map fun name => (name, f name) := by
  rw [← h.keys]
  refine Table.toList_eq_map h.nodup fun name hname => ?_
  exact h.get?_eq_some_iff.mpr (hf name ((h.mem_keys name).mp hname))

end Follows

/-- **A group is what was asked of it.** Whatever names were declared and
whatever outputs were analysed, successfully or not: the names of a group are
the declared ones, each once and in the order in which they first came, and a
name has a constant exactly as the requests tell. An output is accepted if
each of its lines gives a text to one of these names, and only then; a line
does so by the name, a space and the text. The program has one block for each
name, with the format and the cast of its latest declaration, and the facts
are those of the names that were given a text since, in the same order. -/
theorem requests_tell (group : String) (includes : List String) (rs : List GroupRequest) :
    let p := (new group includes).requests rs
    p.constants.keys = (names rs).eraseDups ∧ p.constants.keys.Nodup ∧
    p.constants.size = (names rs).eraseDups.length ∧
    (∀ name c, p.constants.get? name = some c ↔ Tells rs name c) ∧
    (∀ output, (∃ q, p.analyse output = (.ok (), q)) ↔ ∀ line ∈ lines output.toList, ∃ name text,
      nameAndValue? line = some (name, text) ∧ String.ofList name ∈ names rs) ∧
    (∀ line name text, nameAndValue? line = some (name, text) ↔
      line = name ++ ' ' :: text ∧ name ≠ [] ∧ ∀ c ∈ name, isWord c = true) ∧
    ∃ constant : String → Constant, (∀ name ∈ names rs, Tells rs name (constant name)) ∧
      p.source = Program.printing includes (String.join ((names rs).eraseDups.map fun name =>
        "  #ifdef " ++ name ++ "\n" ++
          "  printf(\"" ++ name ++ " " ++ (constant name).format ++ "\\n\", " ++
            (constant name).cast ++ name ++ ");\n" ++
          "  #endif\n")) ∧
      p.entries = (names rs).eraseDups.filterMap fun name =>
        (constant name).value.map fun value => ⟨group ++ "." ++ name, value⟩ := by
  intro p
  have h : Follows group includes rs p := Follows.requests group includes rs
  have hsize : p.constants.size = p.constants.keys.length := by
    rw [Table.size, Table.keys, List.length_map]
  -- Every declared name has a constant, so one may be chosen for each name.
  have hchoice : ∀ name, ∃ c, name ∈ names rs → Tells rs name c := by
    intro name
    by_cases hname : name ∈ names rs
    · obtain ⟨c, hc⟩ := Option.isSome_iff_exists.mp (Table.isSome_get?.mpr ((h.mem_keys name).mpr hname))
      exact ⟨c, fun _ => h.tells name c hc⟩
    · exact ⟨⟨"", "", none⟩, fun hmem => absurd hmem hname⟩
  choose constant hconstant using hchoice
  have hlist := h.toList_eq_map hconstant
  refine ⟨h.keys, h.nodup, hsize.trans (congrArg List.length h.keys), fun name c => h.get?_eq_some_iff,
    fun output => ?_, fun _ _ _ => nameAndValue?_eq_some_iff, constant, hconstant, ?_, ?_⟩
  · rw [exists_analyse_iff]
    simp only [h.mem_keys]
  · rw [source, hlist, h.includes, List.map_map]
    rfl
  · rw [entries, hlist, h.group, List.filterMap_map]
    rfl

-- A later declaration takes the value away, and an output with an undeclared name gives none.
example : ((new "g" []).requests [.declare ⟨["A", "B"], "%d", ""⟩, .analyse "A 1\nB 2\nB 3\n",
    .declare ⟨["A"], "%u", ""⟩, .analyse "B 4\nC 5\n"]).entries = [⟨"g.B", .integer 3⟩] := by
  decide +kernel

end ConstantProbe

end AbiProbe
