/-
A group publishes exactly its defined subset (`defined_constants`). The
program of a group has a block for each of its names
(`Program.blockNames_program`), so it prints one line for each name that is
defined. These lines are accepted in any order, and as no name is in two of
them, the order does not matter to the values (`textsOf_outputOf`); the facts
come in the order of the declarations.
-/
import AbiProbe.Probe.Conditional
import AbiProbe.Proofs.FlatReading
import AbiProbe.Proofs.ProgramShape

namespace AbiProbe

open Text

/-! ## The blocks of a program -/

namespace Program

theorem blockNames_cons {line : List Char} (h : after? "  #ifdef " line = none) (rest : List (List Char)) :
    blockNames (line :: rest) = blockNames rest := by
  match rest with
  | [] => rfl
  | [_] => rfl
  | _ :: _ :: _ => rw [blockNames, h]

theorem blockNames_append {ls : List (List Char)} (h : ∀ l ∈ ls, after? "  #ifdef " l = none)
    (rest : List (List Char)) : blockNames (ls ++ rest) = blockNames rest := by
  induction ls with
  | nil => rfl
  | cons l ls ih =>
    obtain ⟨hl, hls⟩ := List.forall_mem_cons.mp h
    rw [List.cons_append, blockNames_cons hl, ih hls]

theorem blockNames_block (name format arguments : String) (rest : List (List Char)) :
    blockNames ((SourceLine.ifdef name).text.toList ::
      (SourceLine.print (name ++ " " ++ format) arguments).text.toList ::
      SourceLine.endif.text.toList :: rest) = name :: blockNames rest := by
  have hopening : after? "  #ifdef " (SourceLine.ifdef name).text.toList = some name.toList := by
    rw [SourceLine.text, String.toList_append, after?_append]
  have hcall : (SourceLine.print (name ++ " " ++ format) arguments).text.toList =
      ("  printf(\"" ++ name ++ " ").toList ++ (format ++ "\\n\", " ++ arguments ++ ");").toList := by
    simp [SourceLine.text]
  rw [blockNames, hopening]
  simp only [String.ofList_toList, hcall, after?_append, Option.isSome_some, true_and]
  exact if_pos rfl

/-- The lines around the statements of a program open no block. -/
theorem no_block_in_opening (headers : List String) :
    ∀ l ∈ (opening headers).map String.toList, after? "  #ifdef " l = none := by
  have hinclude (rest : List Char) : after? "  #ifdef " ("#include <".toList ++ rest) = none := rfl
  intro l hl
  simp only [opening, List.map_append, List.map_cons, List.map_nil, List.map_map, List.cons_append,
    List.mem_cons, List.mem_append, List.mem_map, List.not_mem_nil, or_false] at hl
  rcases hl with rfl | ⟨h, -, rfl⟩ | rfl | rfl | rfl
  · decide
  · simp only [Function.comp_apply, String.toList_append, List.append_assoc]
    exact hinclude _
  · decide
  · decide
  · decide

theorem no_block_in_closing : ∀ l ∈ closing.map String.toList ++ [[]], after? "  #ifdef " l = none := by
  decide

theorem blockNames_blocks (d : GroupDecl) {names : List String} (h : ∀ name ∈ names, name ∈ d.names)
    (rest : List (List Char)) :
    blockNames ((names.flatMap d.block).map (·.text.toList) ++ rest) = names ++ blockNames rest := by
  induction names with
  | nil => rfl
  | cons name names ih =>
    obtain ⟨hname, hnames⟩ := List.forall_mem_cons.mp h
    obtain ⟨b, hb⟩ := GroupDecl.exists_batchOf? hname
    rw [List.flatMap_cons, GroupDecl.block_eq hb, List.map_append, List.append_assoc]
    simp only [List.map_cons, List.map_nil, List.cons_append, List.nil_append]
    rw [blockNames_block, ih hnames]

/-- A program that has the lines of a group has a block for each name. -/
theorem blockNames_program {d : GroupDecl} {source : String} (h : SourceLine.Shapes d.program source) :
    blockNames (pieces (· == '\n') source.toList) = d.names := by
  have hprogram : d.program.map (·.text.toList) = (opening d.includes).map String.toList ++
      (d.names.flatMap d.block).map (·.text.toList) ++ closing.map String.toList := by
    have hmap := congrArg (List.map String.toList)
      (SourceLine.map_text_printing d.includes (d.names.flatMap d.block))
    rw [List.map_map, List.map_append, List.map_append, List.map_map] at hmap
    exact hmap
  rw [h.lines, hprogram, List.append_assoc, List.append_assoc, blockNames_append (no_block_in_opening d.includes),
    blockNames_blocks d fun _ hname => hname]
  have hend := blockNames_append no_block_in_closing []
  rw [List.append_nil] at hend
  rw [hend]
  exact List.append_nil d.names

end Program

/-! ## What a group reads in the lines -/

/-- After one output a group has a fact for each name that is given a text in
it, and the last text counts. -/
theorem ConstantProbe.entries_analyse_ofDecl {d : GroupDecl} {q : ConstantProbe} {output : String}
    (h : (ofDecl d).analyse output = (.ok (), q)) : q.entries = d.names.filterMap fun name =>
      (textsOf name output).getLast?.map fun text => ⟨d.name ++ "." ++ name, .ofText text⟩ := by
  obtain ⟨hgroup, hnodup⟩ := ofDecl_facts d
  obtain ⟨hgroup', hnodup'⟩ := analyse_facts h hnodup
  rw [entries_eq_filterMap hnodup', keys_analyse h, keys_ofDecl, hgroup', hgroup]
  refine List.filterMap_congr fun name hname => ?_
  obtain ⟨b, hb⟩ := GroupDecl.exists_batchOf? hname
  rw [get?_analyse h, get?_ofDecl, hb]
  cases (textsOf name output).getLast? <;> rfl

namespace GroupDecl

theorem nodup_names (d : GroupDecl) : d.names.Nodup :=
  ConstantProbe.keys_ofDecl d ▸ (ConstantProbe.ofDecl_facts d).2

/-- No format and no cast of a group holds a line feed. -/
def OneLine (d : GroupDecl) : Prop := ∀ b ∈ d.batches, '\n' ∉ b.format.toList ∧ '\n' ∉ b.cast.toList

/-- The line of a name with its text. -/
def lineOf (name text : String) : List Char := name.toList ++ ' ' :: text.toList

variable {d : GroupDecl} {defined : String → Option String}

theorem shapes_of_oneLine (hvalid : Catalog.ValidGroup d) (h : d.OneLine) :
    SourceLine.Shapes d.program (ConstantProbe.ofDecl d).source :=
  (shapes_source_iff hvalid).mpr fun _ _ b hb => h b (batchOf?_eq_some hb).1

theorem definedLines_source (hvalid : Catalog.ValidGroup d) (h : d.OneLine) :
    Program.definedLines defined (ConstantProbe.ofDecl d).source =
      d.names.filterMap fun name => (defined name).map (lineOf name) := by
  rw [Program.definedLines, Program.blockNames_program (shapes_of_oneLine hvalid h)]
  rfl

theorem isIdentifier_of_mem_names (hvalid : Catalog.ValidGroup d) {name : String} (h : name ∈ d.names) :
    isIdentifier name = true := by
  obtain ⟨b, hb, hname⟩ := mem_names.mp h
  exact (hvalid.batches b hb).names name hname

theorem nameAndValue?_lineOf {name : String} (h : isIdentifier name = true) (text : String) :
    ConstantProbe.nameAndValue? (lineOf name text) = some (name.toList, text.toList) := by
  refine ConstantProbe.nameAndValue?_eq_some_iff.mpr ⟨rfl, fun he => ?_, fun c hc => ?_⟩
  · rw [isIdentifier_eq, he] at h
    cases h
  · exact isWord_of_isAsciiWord (isAsciiWord_of_isIdentifier h c hc)

theorem oneLine_lineOf {name text : String} (hname : isIdentifier name = true)
    (htext : Text.OneLine text.toList) : Text.OneLine (lineOf name text) :=
  (Program.oneLine_of_isIdentifier hname).append (Text.OneLine.append (a := [' ']) (by decide) htext)

theorem oneLine_of_mem (hvalid : Catalog.ValidGroup d)
    (hdefined : ∀ name, ∀ text ∈ defined name, Text.OneLine text.toList) :
    ∀ l ∈ d.names.filterMap fun name => (defined name).map (lineOf name), Text.OneLine l := by
  intro l hl
  obtain ⟨name, hname, hl⟩ := List.mem_filterMap.mp hl
  obtain ⟨text, htext, rfl⟩ := Option.map_eq_some_iff.mp hl
  exact oneLine_lineOf (isIdentifier_of_mem_names hvalid hname) (hdefined name text htext)

theorem lines_outputOf {ls : List (List Char)} (h : ∀ l ∈ ls, Text.OneLine l) :
    lines (Program.outputOf ls).toList = ls := by
  rw [Program.outputOf, String.toList_ofList]
  exact lines_flatMap h

/-- Of some distinct names only one is a given name. -/
theorem filterMap_eq_toList {names : List String} (hnodup : names.Nodup) {name : String}
    (hname : name ∈ names) {α : Type} (f : String → Option α) :
    (names.filterMap fun n => if n = name then f n else none) = (f name).toList := by
  obtain ⟨before, after, rfl⟩ := List.append_of_mem hname
  rw [List.nodup_append, List.nodup_cons] at hnodup
  obtain ⟨-, ⟨hafter, -⟩, hbefore⟩ := hnodup
  have hnone : ∀ part : List String, name ∉ part →
      (part.filterMap fun n => if n = name then f n else none) = [] := by
    intro part hpart
    refine List.filterMap_eq_nil_iff.mpr fun n hn => if_neg ?_
    rintro rfl
    exact hpart hn
  rw [List.filterMap_append, List.filterMap_cons, hnone after hafter,
    hnone before fun hmem => hbefore name hmem name List.mem_cons_self rfl]
  cases f name <;> simp

/-- Each name is in one line only, so that it has one text or none, in
whatever order the lines come. -/
theorem textsOf_outputOf (hvalid : Catalog.ValidGroup d)
    (hdefined : ∀ name, ∀ text ∈ defined name, Text.OneLine text.toList) {ls : List (List Char)}
    (hls : ls.Perm (d.names.filterMap fun name => (defined name).map (lineOf name))) {name : String}
    (hname : name ∈ d.names) :
    ConstantProbe.textsOf name (Program.outputOf ls) = (defined name).toList := by
  have hlines := lines_outputOf fun l hl => oneLine_of_mem hvalid hdefined l (hls.subset hl)
  have hperm : (ConstantProbe.textsOf name (Program.outputOf ls)).Perm (defined name).toList := by
    rw [ConstantProbe.textsOf, ConstantProbe.given, hlines]
    refine ((hls.filterMap _).filterMap _).trans (.of_eq ?_)
    rw [List.filterMap_filterMap, List.filterMap_filterMap, ← filterMap_eq_toList (nodup_names d) hname]
    refine List.filterMap_congr fun n hn => ?_
    have hread := nameAndValue?_lineOf (isIdentifier_of_mem_names hvalid hn)
    cases defined n <;> simp [hread]
  cases htext : defined name with
  | none => simpa [htext] using hperm
  | some text => simpa [htext] using hperm

/-- The lines of a group are accepted in any order, and tell the same facts. -/
theorem analyse_outputOf (hvalid : Catalog.ValidGroup d)
    (hdefined : ∀ name, ∀ text ∈ defined name, Text.OneLine text.toList) {ls : List (List Char)}
    (hls : ls.Perm (d.names.filterMap fun name => (defined name).map (lineOf name))) :
    ∃ q, (ConstantProbe.ofDecl d).analyse (Program.outputOf ls) = (.ok (), q) ∧ q.entries = d.facts defined := by
  have hlines := lines_outputOf fun l hl => oneLine_of_mem hvalid hdefined l (hls.subset hl)
  have haccepted : ∃ q, (ConstantProbe.ofDecl d).analyse (Program.outputOf ls) = (.ok (), q) := by
    rw [ConstantProbe.exists_analyse_iff, hlines]
    intro l hl
    obtain ⟨name, hname, hl⟩ := List.mem_filterMap.mp (hls.subset hl)
    obtain ⟨text, -, rfl⟩ := Option.map_eq_some_iff.mp hl
    refine ⟨_, _, nameAndValue?_lineOf (isIdentifier_of_mem_names hvalid hname) text, ?_⟩
    rw [String.ofList_toList, ConstantProbe.keys_ofDecl]
    exact hname
  obtain ⟨q, hq⟩ := haccepted
  refine ⟨q, hq, ?_⟩
  rw [ConstantProbe.entries_analyse_ofDecl hq, facts]
  refine List.filterMap_congr fun name hname => ?_
  rw [textsOf_outputOf hvalid hdefined hls hname]
  cases defined name <;> rfl

/-- A group has one fact for each name that is declared and defined. -/
theorem mem_facts {e : Entry} : e ∈ d.facts defined ↔ ∃ b ∈ d.batches, ∃ name ∈ b.names,
    ∃ text ∈ defined name, e = ⟨d.name ++ "." ++ name, .ofText text⟩ := by
  simp only [facts, List.mem_filterMap, mem_names, Option.map_eq_some_iff, Option.mem_def]
  constructor
  · rintro ⟨name, ⟨b, hb, hname⟩, text, htext, rfl⟩
    exact ⟨b, hb, name, hname, text, htext, rfl⟩
  · rintro ⟨b, hb, name, hname, text, htext, rfl⟩
    exact ⟨name, ⟨b, hb, hname⟩, text, htext, rfl⟩

theorem nodup_keys_facts (d : GroupDecl) (defined : String → Option String) :
    ((d.facts defined).map (·.key)).Nodup := by
  rw [facts, List.map_filterMap]
  refine (nodup_names d).filterMap fun name name' key hkey hkey' => ?_
  simp only [Option.map_map, Option.mem_def, Option.map_eq_some_iff, Function.comp_apply] at hkey hkey'
  obtain ⟨-, -, rfl⟩ := hkey
  obtain ⟨-, -, he⟩ := hkey'
  exact append_dot_injective d.name he.symm

/-- The names that a group declares matter to its facts, and not how it
declares them. -/
theorem facts_perm {d d' : GroupDecl} (hname : d'.name = d.name)
    (hdeclared : ∀ name, (∃ b ∈ d'.batches, name ∈ b.names) ↔ ∃ b ∈ d.batches, name ∈ b.names)
    (defined : String → Option String) : (d'.facts defined).Perm (d.facts defined) := by
  have hnames : d'.names.Perm d.names := by
    refine (List.perm_ext_iff_of_nodup (nodup_names d') (nodup_names d)).mpr fun name => ?_
    rw [mem_names, mem_names]
    exact hdeclared name
  rw [facts, facts, hname]
  exact hnames.filterMap _

/-- A toolchain that answers the program of a group with its lines, in any
order, lets it save its facts. -/
theorem runProbe_outputOf {σ : Type} {t : Toolchain σ} {s s' : σ} (hvalid : Catalog.ValidGroup d)
    (h : d.OneLine) (hdefined : ∀ name, ∀ text ∈ defined name, Text.OneLine text.toList)
    {ls : List (List Char)} (hls : ls.Perm (Program.definedLines defined (ConstantProbe.ofDecl d).source))
    (hcall : t.call .execute (ConstantProbe.ofDecl d).source s = (.ok (Program.outputOf ls), s'))
    (k : Sink σ) :
    runProbe t k (.constants (.ofDecl d)) s =
      ((saveAll k (d.facts defined) s').1.map fun _ => (d.facts defined).length,
        (saveAll k (d.facts defined) s').2) := by
  rw [definedLines_source hvalid h] at hls
  obtain ⟨q, hq, hentries⟩ := analyse_outputOf hvalid hdefined hls
  have hread : (Probe.constants (.ofDecl d)).analyse (Program.outputOf ls) = (.ok (), .constants q) := by
    rw [Probe.analyse, hq]
    rfl
  have hsave : (Probe.constants q).entries = d.facts defined := hentries
  simp only [runProbe, Probe.mode, Probe.source, hcall, hread, hsave]
  rcases saveAll k (d.facts defined) s' with ⟨r, s''⟩
  cases r <;> rfl

end GroupDecl

open GroupDecl in
/-- **A group publishes exactly its defined subset.** Let the formats and casts
of a group of a valid catalog hold no line feeds, and let some names be
defined, by texts on one line. If the toolchain prints the lines of the names
that are defined, the probe saves one fact for each name of the group that is,
in the order of the declarations, with the value that the text denotes; into
memory this succeeds. It is the same if the lines are printed in another
order. Another group of that name which declares the same names, in whatever
batches, saves the same facts up to their order. -/
theorem defined_constants {c : Catalog} (hvalid : c.validate = .ok ()) {d : GroupDecl} (hd : d ∈ c.groups)
    (honeLine : d.OneLine) {defined : String → Option String}
    (hdefined : ∀ name, ∀ text ∈ defined name, Text.OneLine text.toList) :
    let printing {σ : Type} : Toolchain σ :=
      .ofFunction fun _ source => .ok (Program.definedOutput defined source)
    (∀ {σ : Type} (k : Sink σ) (s : σ), runProbe printing k (.constants (.ofDecl d)) s =
      ((saveAll k (d.facts defined) s).1.map fun _ => (d.facts defined).length,
        (saveAll k (d.facts defined) s).2)) ∧
    (∀ m : MemorySink, m.finished = false → runProbe printing MemorySink.sink (.constants (.ofDecl d)) m =
      (.ok (d.facts defined).length, { m with entries := m.entries ++ d.facts defined })) ∧
    ((d.facts defined).map (·.key)).Nodup ∧
    (∀ e, e ∈ d.facts defined ↔ ∃ b ∈ d.batches, ∃ name ∈ b.names, ∃ text ∈ defined name,
      e = ⟨d.name ++ "." ++ name, .ofText text⟩) ∧
    (∀ ls, ls.Perm (Program.definedLines defined (ConstantProbe.ofDecl d).source) →
      ∀ {σ : Type} (k : Sink σ) (s : σ),
        runProbe (.ofFunction fun _ _ => .ok (Program.outputOf ls)) k (.constants (.ofDecl d)) s =
          runProbe printing k (.constants (.ofDecl d)) s) ∧
    ∀ (c' : Catalog) (d' : GroupDecl), c'.validate = .ok () → d' ∈ c'.groups → d'.OneLine →
      d'.name = d.name →
      (∀ name, (∃ b ∈ d'.batches, name ∈ b.names) ↔ ∃ b ∈ d.batches, name ∈ b.names) →
      ∃ es, es.Perm (d.facts defined) ∧
        ∀ {σ : Type} (k : Sink σ) (s : σ), runProbe printing k (.constants (.ofDecl d')) s =
          ((saveAll k es s).1.map fun _ => es.length, (saveAll k es s).2) := by
  intro printing
  have hgroup := (Catalog.validate_eq_ok_iff.mp hvalid).groups d hd
  have hrun {σ : Type} (k : Sink σ) (s : σ) := runProbe_outputOf (t := printing) (s := s) hgroup honeLine
    hdefined (.refl _) rfl k
  refine ⟨hrun, fun m hm => ?_, ?_, ?_, fun ls hls σ k s => ?_, fun c' d' hvalid' hd' honeLine' hname hnames => ?_⟩
  · rw [hrun, MemorySink.saveAll_open _ m hm]
    rfl
  · exact nodup_keys_facts d defined
  · exact fun _ => mem_facts
  · rw [hrun]
    exact runProbe_outputOf hgroup honeLine hdefined hls rfl k
  · have hgroup' := (Catalog.validate_eq_ok_iff.mp hvalid').groups d' hd'
    exact ⟨d'.facts defined, facts_perm hname hnames defined, fun k s =>
      runProbe_outputOf hgroup' honeLine' hdefined (.refl _) rfl k⟩

/-- A group with a name in two batches. -/
def twice : GroupDecl := ⟨"g", ["a.h"], [⟨["A", "B"], "%d", "(int)"⟩, ⟨["C", "A"], "%s", ""⟩]⟩

/-- The same names, declared in another way. -/
def regrouped : GroupDecl := ⟨"g", [], [⟨["C"], "%ld", "(long)"⟩, ⟨["B", "A", "C"], "%x", ""⟩]⟩

/-- A platform that defines two of these names, and one that is in no group. -/
def someDefined (name : String) : Option String :=
  if name = "A" then some "7" else if name = "C" then some "B 1" else if name = "D" then some "0" else none

theorem defined_constants_twice :
    Catalog.validate ⟨[], [twice], []⟩ = .ok () ∧ Catalog.validate ⟨[], [regrouped], []⟩ = .ok () ∧
    twice.OneLine ∧ regrouped.OneLine ∧
    (∀ name, ∀ text ∈ someDefined name, Text.OneLine text.toList) ∧
    runProbe (.ofFunction fun _ source => .ok (Program.definedOutput someDefined source)) MemorySink.sink
      (.constants (.ofDecl twice)) .new = (.ok 2, ⟨[⟨"g.A", .integer 7⟩, ⟨"g.C", .text "B 1"⟩], false⟩) ∧
    runProbe (.ofFunction fun _ _ => .ok "C B 1\nA 7\n") MemorySink.sink (.constants (.ofDecl twice)) .new =
      (.ok 2, ⟨[⟨"g.A", .integer 7⟩, ⟨"g.C", .text "B 1"⟩], false⟩) ∧
    ∃ es : List Entry, es.Perm [⟨"g.A", .integer 7⟩, ⟨"g.C", .text "B 1"⟩] ∧
      runProbe (.ofFunction fun _ source => .ok (Program.definedOutput someDefined source)) MemorySink.sink
        (.constants (.ofDecl regrouped)) .new = (.ok 2, ⟨es, false⟩) := by
  have hvalid : Catalog.validate ⟨[], [twice], []⟩ = .ok () := by rfl
  have hvalid' : Catalog.validate ⟨[], [regrouped], []⟩ = .ok () := by rfl
  have honeLine : twice.OneLine := by unfold GroupDecl.OneLine; decide
  have honeLine' : regrouped.OneLine := by unfold GroupDecl.OneLine; decide
  have hdefined : ∀ name, ∀ text ∈ someDefined name, Text.OneLine text.toList := by
    intro name text htext
    unfold someDefined at htext
    split_ifs at htext <;> cases htext <;> decide
  have hfacts : twice.facts someDefined = [⟨"g.A", .integer 7⟩, ⟨"g.C", .text "B 1"⟩] := by decide +kernel
  have hlines : Program.definedLines someDefined (ConstantProbe.ofDecl twice).source =
      ["A 7".toList, "C B 1".toList] := by
    decide +kernel
  have hnames : ∀ name, (∃ b ∈ regrouped.batches, name ∈ b.names) ↔ ∃ b ∈ twice.batches, name ∈ b.names := by
    intro name
    simp only [regrouped, twice, List.mem_cons, List.not_mem_nil, or_false, exists_eq_or_imp, exists_eq_left]
    constructor
    · rintro (rfl | rfl | rfl | rfl) <;> simp
    · rintro ((rfl | rfl) | rfl | rfl) <;> simp
  obtain ⟨-, hmemory, -, -, horder, hregroup⟩ :=
    defined_constants hvalid (List.mem_singleton_self twice) honeLine hdefined
  obtain ⟨es, hperm, hrun⟩ := hregroup ⟨[], [regrouped], []⟩ regrouped hvalid'
    (List.mem_singleton_self regrouped) honeLine' rfl hnames
  have hfirst := hmemory .new rfl
  have hsecond := horder ["C B 1".toList, "A 7".toList] (hlines ▸ .swap ..) MemorySink.sink .new
  have hthird := hrun MemorySink.sink .new
  rw [hfirst] at hsecond
  rw [hfacts] at hfirst hsecond hperm
  rw [MemorySink.saveAll_open es .new rfl, hperm.length_eq] at hthird
  exact ⟨hvalid, hvalid', honeLine, honeLine', hdefined, hfirst, hsecond, es, hperm, hthird⟩

end AbiProbe
