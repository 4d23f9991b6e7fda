/-
The program that measures a struct and the reader of its output agree
(`layout_round_trip`). The statements of the program are calls with labels and
numbers (`sizeStatement_eq`, `fieldStatement_eq`), so it prints one line for
the size and one for each field (`output?_source`); and these are the lines
that the reader expects, in the same order (`tellsLayout_lines`). The numbers
survive on the way, since what a target lays out below 2^32 is neither cut off
when it is printed nor too large when it is read.
-/
import AbiProbe.Proofs.LayoutReading
import AbiProbe.Proofs.ProgramText

namespace AbiProbe

open Text

namespace StructProbe

open Program

variable {p : StructProbe}

/-! ## The statements of a struct -/

theorem toList_sizeLabel (p : StructProbe) :
    p.sizeLabel.toList = "sizeof(struct ".toList ++ p.name.toList ++ ") ".toList := by
  unfold sizeLabel
  simp only [String.toList_append]

theorem sizeStatement_eq (p : StructProbe) : p.sizeStatement =
    callLine (p.sizeLabel ++ "%u\\n") [.structSize p.name] ++ "\n" := by
  -- The texts of the program are cut where those of a call are.
  have hmiddle : "%u\\n\", (unsigned int) sizeof(struct " =
      "%u\\n" ++ ("\"" ++ (", " ++ "(unsigned int) sizeof(struct ")) := by rfl
  have hend : "));\n" = ")" ++ (");" ++ "\n") := by rfl
  unfold sizeStatement callLine
  simp only [Measure.text_structSize, hmiddle, hend, String.append_assoc,
    List.map_cons, List.map_nil, String.join_cons, String.join_nil, String.empty_append]

theorem fieldStatement_eq (p : StructProbe) (field : String) : p.fieldStatement field =
    callLine (field ++ " %u %u\\n") [.fieldOffset p.name field, .fieldSize field] ++ "\n" := by
  have hmiddle : " %u %u\\n\", (unsigned int) offsetof(struct " =
      " %u %u\\n" ++ ("\"" ++ (", " ++ "(unsigned int) offsetof(struct ")) := by rfl
  have hnext : "), (unsigned int) sizeof(s." = ")" ++ (", " ++ "(unsigned int) sizeof(s.") := by rfl
  have hend : "));\n" = ")" ++ (");" ++ "\n") := by rfl
  unfold fieldStatement callLine
  simp only [Measure.text_fieldOffset, Measure.text_fieldSize, hmiddle, hnext,
    hend, String.append_assoc, List.map_cons, List.map_nil, String.join_cons, String.join_nil,
    String.empty_append]

/-- The lines of the statements: a declaration, and a call for the size of the
struct and for each field. -/
def statementLines (p : StructProbe) : List String :=
  ("  struct " ++ p.name ++ " s;") :: callLine (p.sizeLabel ++ "%u\\n") [.structSize p.name] ::
    p.declared.map fun f =>
      callLine (f.name ++ " %u %u\\n") [.fieldOffset p.name f.name, .fieldSize f.name]

theorem toList_source (p : StructProbe) : p.source.toList =
    ((opening p.includes ++ p.statementLines ++ closing).map String.toList).flatMap (· ++ ['\n']) := by
  refine toList_printing p.includes ?_
  have hdeclaration : " s;\n" = " s;" ++ "\n" := by rfl
  unfold statementLines
  simp [hdeclaration, sizeStatement_eq, fieldStatement_eq, String.toList_join,
    List.flatMap_map, declared]

theorem newline_not_mem_statementLines (hname : isIdentifier p.name = true)
    (hfields : ∀ f ∈ p.declared, isIdentifier f.name = true) :
    ∀ l ∈ p.statementLines, '\n' ∉ l.toList := by
  have hline := newline_not_mem_name hname
  unfold statementLines
  refine List.forall_mem_cons.mpr ⟨by simp [hline], List.forall_mem_cons.mpr ⟨?_, ?_⟩⟩
  · exact newline_not_mem_callLine (by simp [toList_sizeLabel, hline])
      (List.forall_mem_singleton.mpr hname)
  · rw [List.forall_mem_map]
    intro f hf
    have hfield := hfields f hf
    exact newline_not_mem_callLine (by simp [newline_not_mem_name hfield])
      (List.forall_mem_cons.mpr ⟨⟨hname, hfield⟩, List.forall_mem_singleton.mpr hfield⟩)

/-! ## What they print -/

variable {t : Target}

/-- The line that tells the size of the struct. -/
def sizeLine (p : StructProbe) (size : Nat) : List Char := p.sizeLabel.toList ++ Decimal.digits size

/-- The line that tells the slot of a field. -/
def slotLine (field : String) (slot : Slot) : List Char :=
  (field ++ " ").toList ++ (Decimal.digits slot.offset ++ ' ' :: Decimal.digits slot.size)

/-- The slot of a field on a target. -/
def slotOn (p : StructProbe) (t : Target) (f : FieldDecl) : Slot :=
  ⟨t.fieldOffset p.name f.name, t.fieldSize p.name f.name⟩

theorem outputOfLines?_declaration (hname : isIdentifier p.name = true) (s : Option String)
    (rest : List (List Char)) :
    outputOfLines? t s (("  struct " ++ p.name ++ " s;").toList :: rest) =
      outputOfLines? t (some p.name) rest := by
  have hcall : after? "  printf(\"" ("  struct " ++ p.name ++ " s;").toList = none := by
    rw [String.toList_append, String.toList_append, List.append_assoc]
    rfl
  rw [outputOfLines?, hcall, declared?_line hname]
  rfl

theorem literal_sizeLabel (hname : isIdentifier p.name = true) : Literal p.sizeLabel.toList := by
  rw [toList_sizeLabel]
  exact (Literal.append (by decide) (literal_of_isIdentifier hname)).append (by decide)

theorem outputOfLines?_size (hname : isIdentifier p.name = true)
    (hsize : t.structSize p.name < 0x100000000) (s : Option String) (rest : List (List Char)) :
    outputOfLines? t s ((callLine (p.sizeLabel ++ "%u\\n") [.structSize p.name]).toList :: rest) =
      (outputOfLines? t s rest).map ((p.sizeLine (t.structSize p.name) ++ ['\n']) ++ ·) := by
  have hlabel := literal_sizeLabel hname
  have hformat : (p.sizeLabel ++ "%u\\n").toList = p.sizeLabel.toList ++ '%' :: 'u' :: ['\\', 'n'] := by
    simp
  refine outputOfLines?_call ?_ ?_ rest
  · rw [hformat, List.mem_append, not_or]
    exact ⟨hlabel.quote_not_mem, by decide⟩
  · rw [hformat, expand?_append hlabel,
      expand?_number (m := .structSize p.name) hname rfl, expand?_newline, wrap, Nat.mod_eq_of_lt hsize]
    simp [sizeLine]

theorem outputOfLines?_slot (hname : isIdentifier p.name = true) {f : FieldDecl}
    (hfield : isIdentifier f.name = true) (hoffset : (p.slotOn t f).offset < 0x100000000)
    (hsize : (p.slotOn t f).size < 0x100000000) (rest : List (List Char)) :
    outputOfLines? t (some p.name) ((callLine (f.name ++ " %u %u\\n")
        [.fieldOffset p.name f.name, .fieldSize f.name]).toList :: rest) =
      (outputOfLines? t (some p.name) rest).map ((slotLine f.name (p.slotOn t f) ++ ['\n']) ++ ·) := by
  have hliteral := literal_of_isIdentifier hfield
  have hformat : (f.name ++ " %u %u\\n").toList =
      f.name.toList ++ ([' '] ++ '%' :: 'u' :: ([' '] ++ '%' :: 'u' :: ['\\', 'n'])) := by
    simp
  refine outputOfLines?_call ?_ ?_ rest
  · rw [hformat, List.mem_append, not_or]
    exact ⟨hliteral.quote_not_mem, by decide⟩
  · rw [hformat, expand?_append hliteral, expand?_append (by decide),
      expand?_number (m := .fieldOffset p.name f.name) (n := (p.slotOn t f).offset) ⟨hname, hfield⟩ rfl,
      expand?_append (by decide),
      expand?_number (m := .fieldSize f.name) (n := (p.slotOn t f).size) hfield rfl,
      expand?_newline, wrap, wrap, Nat.mod_eq_of_lt hoffset, Nat.mod_eq_of_lt hsize]
    simp [slotLine]

theorem outputOfLines?_slots (hname : isIdentifier p.name = true) {fields : List FieldDecl}
    (hfields : ∀ f ∈ fields, isIdentifier f.name = true)
    (hslots : ∀ f ∈ fields, (p.slotOn t f).offset < 0x100000000 ∧ (p.slotOn t f).size < 0x100000000)
    (rest : List (List Char)) :
    outputOfLines? t (some p.name) (fields.map (fun f => (callLine (f.name ++ " %u %u\\n")
        [.fieldOffset p.name f.name, .fieldSize f.name]).toList) ++ rest) =
      (outputOfLines? t (some p.name) rest).map
        ((fields.map fun f => slotLine f.name (p.slotOn t f)).flatMap (· ++ ['\n']) ++ ·) := by
  induction fields with
  | nil => simp
  | cons f fields ih =>
    obtain ⟨hfield, hrest⟩ := List.forall_mem_cons.mp hfields
    obtain ⟨hslot, hslots⟩ := List.forall_mem_cons.mp hslots
    rw [List.map_cons, List.cons_append, outputOfLines?_slot hname hfield hslot.1 hslot.2,
      ih hrest hslots]
    cases outputOfLines? t (some p.name) rest <;> simp

/-- The program prints the lines of a layout, each with a line feed. -/
theorem output?_source (hname : isIdentifier p.name = true)
    (hincludes : ∀ h ∈ p.includes, isHeader h = true)
    (hfields : ∀ f ∈ p.declared, isIdentifier f.name = true) (hsize : t.structSize p.name < 0x100000000)
    (hslots : ∀ f ∈ p.declared, (p.slotOn t f).offset < 0x100000000 ∧ (p.slotOn t f).size < 0x100000000) :
    output? t p.source = some (String.ofList ((p.sizeLine (t.structSize p.name) ::
      p.declared.map fun f => slotLine f.name (p.slotOn t f)).flatMap (· ++ ['\n']))) := by
  have hnewline : ∀ l ∈ (opening p.includes ++ p.statementLines ++ closing).map String.toList, ∀ c ∈ l,
      (c == '\n') = false := by
    intro l hl c hc
    obtain ⟨line, hline, rfl⟩ := List.mem_map.mp hl
    rw [beq_eq_false_iff_ne]
    rintro rfl
    rcases List.mem_append.mp hline with hline | hline
    · rcases List.mem_append.mp hline with hline | hline
      · exact newline_not_mem_opening hincludes line hline hc
      · exact newline_not_mem_statementLines hname hfields line hline hc
    · exact newline_not_mem_closing line hline hc
  have hend : outputOfLines? t (some p.name) (closing.map String.toList ++ [[]]) = some [] :=
    outputOfLines?_silent silent_closing [[]]
  rw [output?, toList_source, pieces_flatMap (by decide) hnewline]
  simp only [List.map_append, List.append_assoc]
  rw [outputOfLines?_silent (silent_opening p.includes)]
  unfold statementLines
  simp only [List.map_cons, List.map_map, List.cons_append]
  rw [outputOfLines?_declaration hname, outputOfLines?_size hname hsize]
  have hcalls := outputOfLines?_slots hname hfields hslots (closing.map String.toList ++ [[]])
  rw [hend] at hcalls
  simp only [Function.comp_def, hcalls]
  simp

/-! ## Reading it -/

theorem denotes_digits {n : Nat} (h : n < numberBound) : Denotes (Decimal.digits n) n where
  nonempty := Decimal.digits_ne_nil n
  ascii _ hc := Decimal.isDigit_of_mem_digits hc
  value := Decimal.value_digits n
  bound := h

theorem tellsSlot_slotLine {total : Nat} (htotal : total < numberBound) (field : String) {slot : Slot}
    (h : slot.offset + slot.size ≤ total) : TellsSlot field total (slotLine field slot) slot := by
  have hoffset : slot.offset < numberBound := Nat.lt_of_le_of_lt (Nat.le_of_add_right_le h) htotal
  have hsize : slot.size < numberBound := Nat.lt_of_le_of_lt (Nat.le_of_add_left_le h) htotal
  exact ⟨_, _, rfl, denotes_digits hoffset, denotes_digits hsize, h⟩

theorem tellsSlots_slotLines {total : Nat} (htotal : total < numberBound) {slot : FieldDecl → Slot}
    {fields : List FieldDecl} (h : ∀ f ∈ fields, (slot f).offset + (slot f).size ≤ total) :
    TellsSlots total fields (fields.map fun f => slotLine f.name (slot f)) (fields.map slot) := by
  induction fields with
  | nil => exact .blank fun line hline => absurd hline List.not_mem_nil
  | cons f fields ih =>
    obtain ⟨hf, hfields⟩ := List.forall_mem_cons.mp h
    exact .slot (tellsSlot_slotLine htotal f.name hf) (ih hfields)

/-- The lines of a layout tell this layout. -/
theorem tellsLayout_lines (p : StructProbe) {size : Nat} (hsize : size < numberBound)
    {slot : FieldDecl → Slot} (h : ∀ f ∈ p.declared, (slot f).offset + (slot f).size ≤ size) :
    p.TellsLayout (p.sizeLine size :: p.declared.map fun f => slotLine f.name (slot f))
      ⟨size, p.declared.map slot⟩ :=
  ⟨_, _, rfl, ⟨_, rfl, denotes_digits hsize⟩, tellsSlots_slotLines hsize h⟩

/-- The lines of a layout hold no ends of lines, so they can be told apart. -/
theorem lines_layout (hname : isIdentifier p.name = true)
    (hfields : ∀ f ∈ p.declared, isIdentifier f.name = true) (size : Nat) (slot : FieldDecl → Slot) :
    lines ((p.sizeLine size :: p.declared.map fun f => slotLine f.name (slot f)).flatMap (· ++ ['\n'])) =
      p.sizeLine size :: p.declared.map fun f => slotLine f.name (slot f) := by
  refine lines_flatMap (List.forall_mem_cons.mpr ⟨?_, List.forall_mem_map.mpr fun f hf => ?_⟩)
  · have hlabel : OneLine p.sizeLabel.toList := by
      rw [toList_sizeLabel]
      exact (OneLine.append (by decide) (oneLine_of_isIdentifier hname)).append (by decide)
    exact hlabel.append (Decimal.oneLine_digits size)
  · have hfield : OneLine (f.name ++ " ").toList := by
      rw [String.toList_append]
      exact (oneLine_of_isIdentifier (hfields f hf)).append (by decide)
    have hsize : OneLine (' ' :: Decimal.digits (slot f).size) :=
      OneLine.append (a := [' ']) (by decide) (Decimal.oneLine_digits _)
    exact hfield.append ((Decimal.oneLine_digits _).append hsize)

theorem analyse_layout (hname : isIdentifier p.name = true)
    (hfields : ∀ f ∈ p.declared, isIdentifier f.name = true) {size : Nat} (hsize : size < numberBound)
    {slot : FieldDecl → Slot} (hslots : ∀ f ∈ p.declared, (slot f).offset + (slot f).size ≤ size) :
    p.analyse (String.ofList ((p.sizeLine size :: p.declared.map fun f => slotLine f.name (slot f)).flatMap
      (· ++ ['\n']))) = (.ok (), p.withLayout ⟨size, p.declared.map slot⟩) := by
  refine analyse_eq_ok_iff.mpr ⟨_, ?_, rfl⟩
  rw [String.toList_ofList, lines_layout hname hfields]
  exact p.tellsLayout_lines hsize hslots

theorem length_map_declared (p : StructProbe) (slot : FieldDecl → Slot) :
    (p.declared.map slot).length = p.fields.length := by
  rw [declared, List.length_map, List.length_map]

theorem entries_layout (p : StructProbe) (size : Nat) (slot : FieldDecl → Slot) :
    (p.withLayout ⟨size, p.declared.map slot⟩).entries =
      ⟨p.name ++ ".sizeof", .ofInt size⟩ :: p.declared.flatMap fun f => p.fieldEntries f (slot f) := by
  have hlength := p.length_map_declared slot
  rw [entries_of_layout? (layout?_withLayout hlength), declared_withLayout hlength,
    ← List.map_prod_left_eq_zip, List.flatMap_map]
  rfl

end StructProbe

/-- **Structs are measured as they are laid out.** Let the names and the
headers of a struct be valid. On every target where its size is below 2^32 and
all fields lie inside it, the program of the struct prints one line for the
size and one for each field, and the analysis of what it prints succeeds. The
entries are then the size of the struct and, field by field, the offset, the
size and the type if one was given, with the numbers of the target. -/
theorem layout_round_trip {d : StructDecl} (hvalid : Catalog.checkStruct d = .ok ()) (t : Program.Target)
    (hsize : t.structSize d.name < 0x100000000)
    (hfields : ∀ f ∈ d.fields,
      t.fieldOffset d.name f.name + t.fieldSize d.name f.name ≤ t.structSize d.name) :
    ∃ output q, Program.output? t (StructProbe.ofDecl d).source = some output ∧
      (StructProbe.ofDecl d).analyse output = (.ok (), q) ∧
      (lines output.toList).length = d.fields.length + 1 ∧
      q.layout? = some ⟨t.structSize d.name,
        d.fields.map fun f => ⟨t.fieldOffset d.name f.name, t.fieldSize d.name f.name⟩⟩ ∧
      q.entries = ⟨d.name ++ ".sizeof", .ofInt (t.structSize d.name)⟩ :: d.fields.flatMap (fun f =>
        [⟨d.name ++ "." ++ f.name ++ ".offset", .ofInt (t.fieldOffset d.name f.name)⟩,
          ⟨d.name ++ "." ++ f.name ++ ".size", .ofInt (t.fieldSize d.name f.name)⟩] ++
        (f.tag.map fun tag => (⟨d.name ++ "." ++ f.name ++ ".type", .text tag⟩ : Entry)).toList) ∧
      ∀ n, (Value.ofInt n).toText = Value.decimal n := by
  have hstruct := Catalog.checkStruct_eq_ok_iff.mp hvalid
  have hdeclared := StructProbe.declared_ofDecl d
  have hnames : ∀ f ∈ (StructProbe.ofDecl d).declared, isIdentifier f.name = true :=
    hdeclared.symm ▸ hstruct.fields
  have hinside : ∀ f ∈ (StructProbe.ofDecl d).declared, ((StructProbe.ofDecl d).slotOn t f).offset +
      ((StructProbe.ofDecl d).slotOn t f).size ≤ t.structSize d.name := hdeclared.symm ▸ hfields
  have hslots : ∀ f ∈ (StructProbe.ofDecl d).declared,
      ((StructProbe.ofDecl d).slotOn t f).offset < 0x100000000 ∧
        ((StructProbe.ofDecl d).slotOn t f).size < 0x100000000 := by
    intro f hf
    have hf := hinside f hf
    omega
  have hbound : t.structSize d.name < StructProbe.numberBound := Nat.lt_trans hsize (by decide)
  refine ⟨_, _, StructProbe.output?_source hstruct.name hstruct.includes hnames hsize hslots,
    StructProbe.analyse_layout hstruct.name hnames hbound hinside, ?_, ?_, ?_, Value.toText_ofInt⟩
  · rw [String.toList_ofList, StructProbe.lines_layout hstruct.name hnames, hdeclared]
    simp
  · rw [StructProbe.layout?_withLayout (StructProbe.length_map_declared ..), hdeclared]
    rfl
  · rw [StructProbe.entries_layout, hdeclared]
    rfl

/-- A struct whose last field lies behind the 32-bit integers with a sign. -/
def sparse : StructDecl := ⟨"sparse", ["s.h"], [⟨"first", some "int"⟩, ⟨"last", none⟩]⟩

/-- A target for it, where every field has four bytes. -/
def sparseTarget : Program.Target :=
  ⟨fun _ => 3000000000, fun _ field => if field = "last" then 2999999996 else 0, fun _ _ => 4⟩

theorem layout_round_trip_sparse :
    Catalog.checkStruct sparse = .ok () ∧ ∃ output q,
      Program.output? sparseTarget (StructProbe.ofDecl sparse).source = some output ∧
      (StructProbe.ofDecl sparse).analyse output = (.ok (), q) ∧
      q.entries = [⟨"sparse.sizeof", .wide 3000000000⟩, ⟨"sparse.first.offset", .integer 0⟩,
        ⟨"sparse.first.size", .integer 4⟩, ⟨"sparse.first.type", .text "int"⟩,
        ⟨"sparse.last.offset", .wide 2999999996⟩, ⟨"sparse.last.size", .integer 4⟩] := by
  have hvalid : Catalog.checkStruct sparse = .ok () := by rfl
  have hfields : ∀ f ∈ sparse.fields, sparseTarget.fieldOffset sparse.name f.name +
      sparseTarget.fieldSize sparse.name f.name ≤ sparseTarget.structSize sparse.name := by decide
  obtain ⟨output, q, houtput, hanalyse, -, -, hentries, -⟩ :=
    layout_round_trip hvalid sparseTarget (by decide) hfields
  refine ⟨hvalid, output, q, houtput, hanalyse, ?_⟩
  rw [hentries]
  decide +kernel

end AbiProbe
