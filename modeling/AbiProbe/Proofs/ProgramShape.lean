/-
What a valid catalog can do to the programs that are made of it
(`program_lines`): its names, headers, formats and casts fill the parts of
lines that are there anyway. A part without line feeds adds no line
(`SourceLine.mem_text_iff`), and a part without quotes opens no literal and
closes none (`SourceLine.after_text`), even where a format ends in a
backslash.

Formats and casts of a valid catalog hold no quotes, but they may hold line
feeds, and then the program has other lines (`broken_line`).
-/
import AbiProbe.Probe.SourceLine
import AbiProbe.Proofs.ConstantHistory
import AbiProbe.Proofs.LayoutRoundTrip
import AbiProbe.Proofs.RunHistory

namespace AbiProbe

open Text

/-! ## Lines and their parts -/

namespace SourceLine

/-- A line feed in a line comes from one of its parts. -/
theorem mem_text_iff (l : SourceLine) : '\n' ∈ l.text.toList ↔ ∃ s ∈ l.parts, '\n' ∈ s.toList := by
  cases l <;> simp [text, parts]

/-- A line that prints has the two quotes around its format, and no other line
has any, if the parts hold none. -/
theorem count_text {l : SourceLine} (h : ∀ s ∈ l.parts, '"' ∉ s.toList) :
    l.text.toList.count '"' = if l.prints then 2 else 0 := by
  have hparts : ∀ s ∈ l.parts, s.toList.count '"' = 0 := fun s hs => List.count_eq_zero_of_not_mem (h s hs)
  cases l with
  | print format arguments =>
    simp only [parts, List.forall_mem_cons] at hparts
    simp [text, prints, List.count_append, hparts.1, hparts.2.1]
  | header name => simpa [text, prints, List.count_append] using hparts name (by simp [parts])
  | declaration struct => simpa [text, prints, List.count_append] using hparts struct (by simp [parts])
  | ifdef name => simpa [text, prints, List.count_append] using hparts name (by simp [parts])
  | blank => rfl
  | main => rfl
  | endif => rfl
  | ret => rfl
  | brace => rfl

end SourceLine

namespace LiteralState

theorem after_append (s : LiteralState) (a b : List Char) : s.after (a ++ b) = (s.after a).after b :=
  List.foldl_append

theorem after_outside {cs : List Char} (h : '"' ∉ cs) : outside.after cs = outside := by
  induction cs with
  | nil => rfl
  | cons c cs ih =>
    rw [List.mem_cons, not_or] at h
    rw [after, List.foldl_cons, next, if_neg (Ne.symm h.1)]
    exact ih h.2

/-- Without a quote a literal stays open. -/
theorem after_inside {cs : List Char} (h : '"' ∉ cs) {s : LiteralState} (hs : s ≠ outside) :
    s.after cs ≠ outside := by
  induction cs generalizing s with
  | nil => exact hs
  | cons c cs ih =>
    rw [List.mem_cons, not_or] at h
    refine ih h.2 ?_
    cases s with
    | outside => exact absurd rfl hs
    | inside =>
      rw [next, if_neg (Ne.symm h.1)]
      split <;> simp
    | escaped => simp [next]

/-- The end of a format closes its literal, also after a backslash. -/
theorem after_format_end {s : LiteralState} (hs : s ≠ outside) : s.after "\\n\"".toList = outside := by
  cases s with
  | outside => exact absurd rfl hs
  | inside => rfl
  | escaped => rfl

end LiteralState

namespace SourceLine

/-- A line whose parts hold no quotes leaves no literal open. -/
theorem after_text {l : SourceLine} (h : ∀ s ∈ l.parts, '"' ∉ s.toList) :
    LiteralState.outside.after l.text.toList = .outside := by
  cases l with
  | print format arguments =>
    have hformat : '"' ∉ format.toList := h format (by simp [parts])
    have hrest : '"' ∉ (", " ++ arguments ++ ");").toList := by
      simp [h arguments (by simp [parts])]
    have htext : (print format arguments).text.toList =
        "  printf(\"".toList ++ (format.toList ++ ("\\n\"".toList ++ (", " ++ arguments ++ ");").toList)) := by
      simp [text]
    have hopen : LiteralState.outside.after "  printf(\"".toList = .inside := rfl
    rw [htext, LiteralState.after_append, hopen, LiteralState.after_append, LiteralState.after_append,
      LiteralState.after_format_end (LiteralState.after_inside hformat (by simp)),
      LiteralState.after_outside hrest]
  | header name => exact LiteralState.after_outside (by simpa [text, parts] using h)
  | declaration struct => exact LiteralState.after_outside (by simpa [text, parts] using h)
  | ifdef name => exact LiteralState.after_outside (by simpa [text, parts] using h)
  | blank => rfl
  | main => rfl
  | endif => rfl
  | ret => rfl
  | brace => rfl

theorem map_text_printing (headers : List String) (statements : List SourceLine) :
    (printing headers statements).map text =
      Program.opening headers ++ statements.map text ++ Program.closing := by
  simp [printing, Program.opening, Program.closing, text]

/-- What holds of headers, and of the parts of statements, holds of all parts
of a program. -/
theorem forall_parts_printing {P : String → Prop} {headers : List String} {statements : List SourceLine}
    (hio : P "stdio.h") (hdef : P "stddef.h") (hheaders : ∀ h ∈ headers, P h)
    (hstatements : ∀ l ∈ statements, ∀ s ∈ l.parts, P s) :
    ∀ l ∈ printing headers statements, ∀ s ∈ l.parts, P s := by
  intro l hl
  simp only [printing, List.mem_append, List.mem_cons, List.mem_map, List.not_mem_nil, or_false] at hl
  rcases hl with (((rfl | ⟨h, hh, rfl⟩) | rfl | rfl | rfl) | hl) | rfl | rfl | rfl
  · exact List.forall_mem_singleton.mpr hio
  · exact List.forall_mem_singleton.mpr (hheaders h hh)
  · exact List.forall_mem_singleton.mpr hdef
  · exact List.forall_mem_nil P
  · exact List.forall_mem_nil P
  · exact hstatements l hl
  · exact List.forall_mem_nil P
  · exact List.forall_mem_nil P
  · exact List.forall_mem_nil P

theorem toList_source (ls : List SourceLine) :
    (source ls).toList = ((ls.map text).map String.toList).flatMap (· ++ ['\n']) := by
  simp [source, String.toList_join, List.flatMap_map]

/-- Between its line feeds a text has these lines, and an empty rest. Quotes are
in the lines that print, two in each, and no line leaves a literal open. -/
structure Shapes (ls : List SourceLine) (source : String) : Prop where
  lines : pieces (· == '\n') source.toList = ls.map (·.text.toList) ++ [[]]
  quotes : ∀ l ∈ ls, l.text.toList.count '"' = if l.prints then 2 else 0
  literals : ∀ l ∈ ls, LiteralState.outside.after l.text.toList = .outside

/-- The text of lines has these lines if no part of them holds a line feed. -/
theorem shapes_source_iff {ls : List SourceLine} (h : ∀ l ∈ ls, ∀ s ∈ l.parts, '"' ∉ s.toList) :
    Shapes ls (source ls) ↔ ∀ l ∈ ls, ∀ s ∈ l.parts, '\n' ∉ s.toList := by
  constructor
  · intro hshape l hl s hs hmem
    have hpiece : l.text.toList ∈ pieces (· == '\n') (source ls).toList := by
      rw [hshape.lines]
      exact List.mem_append_left _ (List.mem_map_of_mem hl)
    have hnewline := (of_mem_pieces hpiece '\n' (l.mem_text_iff.mpr ⟨s, hs, hmem⟩)).2
    exact absurd hnewline (by decide)
  · intro hnewline
    refine ⟨?_, fun l hl => count_text (h l hl), fun l hl => after_text (h l hl)⟩
    rw [toList_source, List.map_map]
    refine pieces_flatMap (by decide) fun cs hcs c hc => ?_
    obtain ⟨l, hl, rfl⟩ := List.mem_map.mp hcs
    rw [beq_eq_false_iff_ne]
    rintro rfl
    obtain ⟨s, hs, hmem⟩ := l.mem_text_iff.mp hc
    exact hnewline l hl s hs hmem

end SourceLine

/-! ## The programs -/

theorem newline_quote_not_mem_header {h : String} (hh : isHeader h = true) : '\n' ∉ h.toList ∧ '"' ∉ h.toList :=
  ⟨not_mem_of_isHeader hh (by decide), not_mem_of_isHeader hh (by decide)⟩

theorem newline_quote_not_mem_name {name : String} (h : isIdentifier name = true) :
    '\n' ∉ name.toList ∧ '"' ∉ name.toList :=
  ⟨not_mem_of_isIdentifier h (by decide), not_mem_of_isIdentifier h (by decide)⟩

/-- A line that prints measures is a call with them. -/
theorem SourceLine.text_print_measures (format : String) (m : Program.Measure) (ms : List Program.Measure) :
    (print format (m.text ++ String.join (ms.map fun m => ", " ++ m.text))).text =
      Program.callLine (format ++ "\\n") (m :: ms) := by
  have hend : "\\n\", " = "\\n" ++ ("\"" ++ ", ") := by rfl
  simp only [text, Program.callLine, hend, List.map_cons, String.join_cons, String.append_assoc]

namespace StructProbe

theorem text_size (d : StructDecl) : (SourceLine.print ("sizeof(struct " ++ d.name ++ ") %u")
    ("(unsigned int) sizeof(struct " ++ d.name ++ ")")).text =
      Program.callLine ((ofDecl d).sizeLabel ++ "%u\\n") [.structSize d.name] := by
  have hend : ") %u" ++ "\\n" = ") " ++ "%u\\n" := by rfl
  have hformat : "sizeof(struct " ++ d.name ++ ") %u" ++ "\\n" = (ofDecl d).sizeLabel ++ "%u\\n" :=
    calc "sizeof(struct " ++ d.name ++ ") %u" ++ "\\n"
      _ = "sizeof(struct " ++ d.name ++ (") %u" ++ "\\n") := String.append_assoc
      _ = "sizeof(struct " ++ d.name ++ (") " ++ "%u\\n") := congrArg _ hend
      _ = (ofDecl d).sizeLabel ++ "%u\\n" := String.append_assoc.symm
  have hprint := SourceLine.text_print_measures ("sizeof(struct " ++ d.name ++ ") %u") (.structSize d.name) []
  rw [List.map_nil, String.join_nil, String.append_empty, Program.Measure.text_structSize] at hprint
  exact hprint.trans (congrArg (Program.callLine · _) hformat)

theorem text_field (struct field : String) : (SourceLine.print (field ++ " %u %u")
    ("(unsigned int) offsetof(struct " ++ struct ++ ", " ++ field ++ "), (unsigned int) sizeof(s." ++
      field ++ ")")).text =
      Program.callLine (field ++ " %u %u\\n") [.fieldOffset struct field, .fieldSize field] := by
  have hend : " %u %u" ++ "\\n" = " %u %u\\n" := by rfl
  have hcomma : "), (unsigned int) sizeof(s." = ")" ++ (", " ++ "(unsigned int) sizeof(s.") := by
    decide +kernel
  have harguments : "(unsigned int) offsetof(struct " ++ struct ++ ", " ++ field ++
      "), (unsigned int) sizeof(s." ++ field ++ ")" = (Program.Measure.fieldOffset struct field).text ++
        String.join ([Program.Measure.fieldSize field].map fun m => ", " ++ m.text) := by
    rw [Program.Measure.text_fieldOffset, List.map_cons, List.map_nil, String.join_cons, String.join_nil,
      String.append_empty, Program.Measure.text_fieldSize, hcomma]
    simp only [String.append_assoc]
  calc (SourceLine.print (field ++ " %u %u") _).text
    _ = (SourceLine.print (field ++ " %u %u") ((Program.Measure.fieldOffset struct field).text ++
          String.join ([Program.Measure.fieldSize field].map fun m => ", " ++ m.text))).text :=
      congrArg (fun a => (SourceLine.print (field ++ " %u %u") a).text) harguments
    _ = Program.callLine (field ++ " %u %u" ++ "\\n") [.fieldOffset struct field, .fieldSize field] :=
      SourceLine.text_print_measures ..
    _ = Program.callLine (field ++ " %u %u\\n") [.fieldOffset struct field, .fieldSize field] :=
      congrArg (Program.callLine · _) (String.append_assoc.trans (congrArg (field ++ ·) hend))

theorem map_text_program (d : StructDecl) : d.program.map SourceLine.text =
    Program.opening d.includes ++ (ofDecl d).statementLines ++ Program.closing := by
  rw [StructDecl.program, SourceLine.map_text_printing, List.map_cons, List.map_cons, List.map_map, text_size,
    statementLines, declared_ofDecl]
  simp only [Function.comp_def, text_field]
  rfl

theorem source_ofDecl (d : StructDecl) : (ofDecl d).source = SourceLine.source d.program := by
  rw [← String.toList_inj, toList_source, SourceLine.toList_source, map_text_program]
  rfl

/-- The parts of the program of a valid struct hold neither line feeds nor
quotes. -/
theorem not_mem_parts {d : StructDecl} (h : Catalog.ValidStruct d) :
    ∀ l ∈ d.program, ∀ s ∈ l.parts, '\n' ∉ s.toList ∧ '"' ∉ s.toList := by
  obtain ⟨hfeed, hquote⟩ := newline_quote_not_mem_name h.name
  refine SourceLine.forall_parts_printing (P := fun s => '\n' ∉ s.toList ∧ '"' ∉ s.toList) (by decide)
    (by decide) (fun x hx => newline_quote_not_mem_header (h.includes x hx)) ?_
  simp only [List.forall_mem_cons, List.forall_mem_map]
  refine ⟨by simp [SourceLine.parts, hfeed, hquote], by simp [SourceLine.parts, hfeed, hquote],
    fun f hf => ?_⟩
  obtain ⟨hfeed', hquote'⟩ := newline_quote_not_mem_name (h.fields f hf)
  simp [SourceLine.parts, hfeed, hquote, hfeed', hquote']

theorem shapes_source {d : StructDecl} (h : Catalog.ValidStruct d) :
    SourceLine.Shapes d.program (ofDecl d).source := by
  rw [source_ofDecl]
  exact (SourceLine.shapes_source_iff fun l hl s hs => (not_mem_parts h l hl s hs).2).mpr
    fun l hl s hs => (not_mem_parts h l hl s hs).1

end StructProbe

/-! ## The programs of groups -/

namespace GroupDecl

variable {d : GroupDecl} {name : String}

theorem mem_names : name ∈ d.names ↔ ∃ b ∈ d.batches, name ∈ b.names := by
  rw [names, List.mem_eraseDups, List.mem_flatMap]

theorem batchOf?_eq_some {b : ConstantBatch} (h : d.batchOf? name = some b) :
    b ∈ d.batches ∧ name ∈ b.names := by
  rw [batchOf?] at h
  have hnames := List.find?_some h
  exact ⟨List.mem_reverse.mp (List.mem_of_find?_eq_some h), List.contains_iff_mem.mp hnames⟩

theorem exists_batchOf? (h : name ∈ d.names) : ∃ b, d.batchOf? name = some b := by
  obtain ⟨b, hb, hname⟩ := mem_names.mp h
  refine Option.isSome_iff_exists.mp (List.find?_isSome.mpr ⟨b, List.mem_reverse.mpr hb, ?_⟩)
  exact List.contains_iff_mem.mpr hname

theorem block_eq {b : ConstantBatch} (h : d.batchOf? name = some b) :
    d.block name = [.ifdef name, .print (name ++ " " ++ b.format) (b.cast ++ name), .endif] := by
  rw [block, h]

end GroupDecl

namespace ConstantProbe

open GroupDecl

theorem keys_ofDecl (d : GroupDecl) : (ofDecl d).constants.keys = d.names := by
  rw [ofDecl, GroupDecl.names]
  induction d.batches using List.reverseRecOn with
  | nil => rfl
  | append_singleton bs b ih => rw [List.foldl_append, List.flatMap_append, List.flatMap_singleton,
      List.foldl_cons, List.foldl_nil, keys_declare ih]

/-- A declared name has the format and the cast of the last batch with it. -/
theorem get?_ofDecl (d : GroupDecl) (name : String) :
    (ofDecl d).constants.get? name = (d.batchOf? name).map fun b => ⟨b.format, b.cast, none⟩ := by
  rw [ofDecl, GroupDecl.batchOf?]
  induction d.batches using List.reverseRecOn with
  | nil => rfl
  | append_singleton bs b ih =>
    rw [List.foldl_append, List.foldl_cons, List.foldl_nil, get?_declare, ih, List.reverse_append,
      List.reverse_singleton, List.singleton_append, List.find?_cons]
    by_cases hname : name ∈ b.names
    · simp [hname]
    · simp [hname]

theorem statement_eq (name : String) (c : Constant) : statement name c =
    SourceLine.source [.ifdef name, .print (name ++ " " ++ c.format) (c.cast ++ name), .endif] := by
  -- The ends of the lines stand in the texts of the statement.
  have hcall : ");\n" = ");" ++ "\n" := by rfl
  have hend : "  #endif\n" = "  #endif" ++ "\n" := by rfl
  unfold statement SourceLine.source
  simp only [SourceLine.text, List.map_cons, List.map_nil, String.join_cons, String.join_nil, hcall, hend,
    String.append_assoc, String.append_empty]

theorem source_ofDecl (d : GroupDecl) : (ofDecl d).source = SourceLine.source d.program := by
  have hincludes : (ofDecl d).includes = d.includes :=
    List.foldlRecOn (motive := fun p : ConstantProbe => p.includes = d.includes) d.batches _ rfl
      fun _ hp _ _ => hp
  have hstatements : (String.join ((ofDecl d).constants.toList.map fun x => statement x.1 x.2)).toList =
      (((d.names.flatMap d.block).map SourceLine.text).map String.toList).flatMap (· ++ ['\n']) := by
    rw [String.toList_join, List.flatMap_map, ← keys_ofDecl, Table.keys]
    simp only [List.flatMap_map, List.map_flatMap, List.flatMap_assoc]
    refine List.flatMap_congr fun x hx => ?_
    have hc := (Table.get?_eq_some_iff (ofDecl_facts d).2).mpr hx
    rw [get?_ofDecl, Option.map_eq_some_iff] at hc
    obtain ⟨b, hb, hc⟩ := hc
    rw [block_eq hb, statement_eq, ← hc, SourceLine.toList_source, List.flatMap_map, List.flatMap_map]
  rw [← String.toList_inj]
  refine (Program.toList_printing _ hstatements).trans ?_
  rw [SourceLine.toList_source, GroupDecl.program, SourceLine.map_text_printing, hincludes]

end ConstantProbe

namespace GroupDecl

variable {d : GroupDecl}

theorem forall_parts_program {P : String → Prop} (hio : P "stdio.h") (hdef : P "stddef.h")
    (hincludes : ∀ h ∈ d.includes, P h)
    (hblocks : ∀ name ∈ d.names, ∀ b, d.batchOf? name = some b →
      P name ∧ P (name ++ " " ++ b.format) ∧ P (b.cast ++ name)) :
    ∀ l ∈ d.program, ∀ s ∈ l.parts, P s := by
  refine SourceLine.forall_parts_printing hio hdef hincludes fun l hl => ?_
  obtain ⟨name, hname, hl⟩ := List.mem_flatMap.mp hl
  obtain ⟨b, hb⟩ := exists_batchOf? hname
  obtain ⟨hpart, hformat, harguments⟩ := hblocks name hname b hb
  rw [block_eq hb] at hl
  simp only [List.mem_cons, List.not_mem_nil, or_false] at hl
  rcases hl with rfl | rfl | rfl <;> simp [SourceLine.parts, hpart, hformat, harguments]

/-- The parts of the program of a valid group hold no quotes. -/
theorem quote_not_mem_parts (h : Catalog.ValidGroup d) :
    ∀ l ∈ d.program, ∀ s ∈ l.parts, '"' ∉ s.toList := by
  refine forall_parts_program (by decide) (by decide)
    (fun x hx => (newline_quote_not_mem_header (h.includes x hx)).2) fun name hname b hb => ?_
  obtain ⟨hbatch, hmem⟩ := batchOf?_eq_some hb
  have hvalid := h.batches b hbatch
  have hquote := (newline_quote_not_mem_name (hvalid.names name hmem)).2
  simp [hquote, hvalid.format, hvalid.cast]

/-- They hold no line feeds if the formats and casts that are used hold none. -/
theorem newline_not_mem_parts_iff (h : Catalog.ValidGroup d) :
    (∀ l ∈ d.program, ∀ s ∈ l.parts, '\n' ∉ s.toList) ↔
      ∀ name ∈ d.names, ∀ b ∈ d.batchOf? name, '\n' ∉ b.format.toList ∧ '\n' ∉ b.cast.toList := by
  constructor
  · intro hparts name hname b hb
    have hline : SourceLine.print (name ++ " " ++ b.format) (b.cast ++ name) ∈ d.program := by
      have hblock : SourceLine.print (name ++ " " ++ b.format) (b.cast ++ name) ∈ d.names.flatMap d.block :=
        List.mem_flatMap.mpr ⟨name, hname, by simp [block_eq hb]⟩
      simp [program, SourceLine.printing, hblock]
    have hformat := hparts _ hline (name ++ " " ++ b.format) (by simp [SourceLine.parts])
    have harguments := hparts _ hline (b.cast ++ name) (by simp [SourceLine.parts])
    simp only [String.toList_append, List.mem_append, not_or] at hformat harguments
    exact ⟨hformat.2, harguments.1⟩
  · intro hbatches
    refine forall_parts_program (by decide) (by decide)
      (fun x hx => (newline_quote_not_mem_header (h.includes x hx)).1) fun name hname b hb => ?_
    obtain ⟨hbatch, hmem⟩ := batchOf?_eq_some hb
    have hfeed := (newline_quote_not_mem_name ((h.batches b hbatch).names name hmem)).1
    simp [hfeed, hbatches name hname b hb]

theorem shapes_source_iff (h : Catalog.ValidGroup d) :
    SourceLine.Shapes d.program (ConstantProbe.ofDecl d).source ↔
      ∀ name ∈ d.names, ∀ b ∈ d.batchOf? name, '\n' ∉ b.format.toList ∧ '\n' ∉ b.cast.toList := by
  rw [ConstantProbe.source_ofDecl, SourceLine.shapes_source_iff (quote_not_mem_parts h),
    newline_not_mem_parts_iff h]

end GroupDecl

namespace TypedefProbe

theorem source_forPlatform (c : Catalog) (platform : Platform) :
    (forPlatform c.typedefHeaders platform).source = SourceLine.source c.typedefProgram := by
  rw [← String.toList_inj, source, forPlatform_headers, Program.toList_includeLines,
    SourceLine.toList_source, Catalog.typedefProgram, List.map_map, List.map_map]
  rfl

theorem shapes_source {c : Catalog} (h : c.Valid) (platform : Platform) :
    SourceLine.Shapes c.typedefProgram (forPlatform c.typedefHeaders platform).source := by
  have hparts : ∀ l ∈ c.typedefProgram, ∀ s ∈ l.parts, '\n' ∉ s.toList ∧ '"' ∉ s.toList := by
    refine List.forall_mem_map.mpr fun x hx => List.forall_mem_singleton.mpr ?_
    exact newline_quote_not_mem_header (h.typedefHeaders x hx)
  rw [source_forPlatform]
  exact (SourceLine.shapes_source_iff fun l hl s hs => (hparts l hl s hs).2).mpr
    fun l hl s hs => (hparts l hl s hs).1

end TypedefProbe

/-- **Programs keep their shape where formats and casts stay on their lines.**
Every probe of a valid catalog has a program of a struct, of a group, or of
headers. The first and the last consist of exactly their lines, whatever the
catalog says. That of a group has three lines for each name, with the format
and the cast of the last batch that declares it, and consists of its lines
exactly if none of these formats and casts holds a line feed. Only the lines
that print hold quotes, each two of them, and no line leaves a literal open. -/
theorem program_lines {c : Catalog} (hvalid : c.validate = .ok ()) (platform : Platform) :
    ∀ p ∈ c.probes platform,
      (∃ d ∈ c.structs, p = .struct (.ofDecl d) ∧ SourceLine.Shapes d.program p.source) ∨
      (∃ d ∈ c.groups, p = .constants (.ofDecl d) ∧
        (∀ name ∈ d.names, ∃ b ∈ d.batches, d.batchOf? name = some b ∧ name ∈ b.names ∧
          d.block name = [.ifdef name, .print (name ++ " " ++ b.format) (b.cast ++ name), .endif]) ∧
        (SourceLine.Shapes d.program p.source ↔ ∀ name ∈ d.names, ∀ b ∈ d.batchOf? name,
          '\n' ∉ b.format.toList ∧ '\n' ∉ b.cast.toList)) ∨
      (p = .typedefs (.forPlatform c.typedefHeaders platform) ∧
        SourceLine.Shapes c.typedefProgram p.source) := by
  have hc := Catalog.validate_eq_ok_iff.mp hvalid
  intro p hp
  rcases List.mem_append.mp hp with hp | hp
  · rcases List.mem_append.mp hp with hp | hp
    · obtain ⟨d, hd, rfl⟩ := List.mem_map.mp hp
      exact .inl ⟨d, hd, rfl, StructProbe.shapes_source (hc.structs d hd)⟩
    · obtain ⟨d, hd, rfl⟩ := List.mem_map.mp hp
      refine .inr (.inl ⟨d, hd, rfl, fun name hname => ?_, GroupDecl.shapes_source_iff (hc.groups d hd)⟩)
      obtain ⟨b, hb⟩ := GroupDecl.exists_batchOf? hname
      obtain ⟨hbatch, hmem⟩ := GroupDecl.batchOf?_eq_some hb
      exact ⟨b, hbatch, hb, hmem, GroupDecl.block_eq hb⟩
  · split at hp
    · cases hp
    · obtain rfl := List.mem_singleton.mp hp
      exact .inr (.inr ⟨rfl, TypedefProbe.shapes_source hc platform⟩)

/-- A group with a format that ends in a backslash. -/
def backslashed : GroupDecl := ⟨"g", ["a.h"], [⟨["A", "B"], "%d\n", ""⟩, ⟨["B", "A"], "%s\\", "(char *)"⟩]⟩

theorem program_lines_backslashed :
    Catalog.validate ⟨[], [backslashed], []⟩ = .ok () ∧
    SourceLine.Shapes backslashed.program (ConstantProbe.ofDecl backslashed).source ∧
    backslashed.program.map SourceLine.text = ["#include <stdio.h>", "#include <a.h>",
      "#include <stddef.h>", "", "int main(int argc, char **argv) \x7b",
      "  #ifdef A", "  printf(\"A %s\\\\n\", (char *)A);", "  #endif",
      "  #ifdef B", "  printf(\"B %s\\\\n\", (char *)B);", "  #endif", "", "  return 0;", "\x7d"] := by
  have hvalid : Catalog.validate ⟨[], [backslashed], []⟩ = .ok () := by rfl
  have hfits : ∀ name ∈ backslashed.names, ∀ b ∈ backslashed.batchOf? name,
      '\n' ∉ b.format.toList ∧ '\n' ∉ b.cast.toList := by
    decide +kernel
  refine ⟨hvalid, ?_, by decide +kernel⟩
  rcases program_lines hvalid .x86Linux (.constants (.ofDecl backslashed)) (List.mem_singleton_self _) with
    ⟨d, hd, -⟩ | ⟨d, hd, -, -, hshape⟩ | ⟨he, -⟩
  · cases hd
  · obtain rfl := List.mem_singleton.mp hd
    exact hshape.mpr hfits
  · cases he

/-- A valid group whose format holds a line feed. -/
def torn : GroupDecl := ⟨"g", [], [⟨["A"], "%d\n", ""⟩]⟩

/-- A valid catalog can break a line of a program: with a line feed in a format
the program has one line more than it should, and one line holds a single
quote and leaves a literal open. -/
theorem broken_line :
    Catalog.validate ⟨[], [torn], []⟩ = .ok () ∧
    ∃ p ∈ Catalog.probes ⟨[], [torn], []⟩ .x86Linux, ∃ line ∈ pieces (· == '\n') p.source.toList,
      (pieces (· == '\n') p.source.toList).length = torn.program.length + 2 ∧
      line = "  printf(\"A %d".toList ∧ line.count '"' = 1 ∧
      LiteralState.outside.after line = .inside := by
  refine ⟨by rfl, .constants (.ofDecl torn), List.mem_singleton_self _, "  printf(\"A %d".toList, ?_, ?_, rfl,
    by decide, by decide⟩
  · decide +kernel
  · decide +kernel

end AbiProbe
