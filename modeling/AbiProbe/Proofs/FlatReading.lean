/-
A flat file reads back. Its lines have no escapes, so that its pieces are the
entries rests on what entries can be: a key holds neither a space nor a line
feed, and the text of a value holds no line feed (`Entry.Plain`). So the first
equals sign between spaces is the one that the sink wrote, whatever the value
says (`FlatSink.splitAtFirst?_formatLine`).

Every entry of a run over a valid catalog is of this kind, whatever the
toolchain prints (`plain_of_analyse`). Names of fields, constants and groups
are identifiers; aliases are taken from a text only where they consist of word
characters; the value of a constant is part of one line; and the tags of
fields, which no validation looks at, have to be given without line feeds
(`Catalog.TagsOneLine`).
-/
import AbiProbe.Proofs.ConstantHistory
import AbiProbe.Proofs.StatementRoundTrip
import AbiProbe.Proofs.SuccessfulRun
import AbiProbe.Proofs.TypedefChains

namespace AbiProbe

open FileSystem Text

/-! ## One line -/

/-- A text without spaces and line feeds. -/
def Solid (cs : List Char) : Prop := ∀ c ∈ cs, c ≠ ' ' ∧ c ≠ '\n'

instance (cs : List Char) : Decidable (Solid cs) :=
  List.decidableBAll (fun c => c ≠ ' ' ∧ c ≠ '\n') cs

theorem Solid.append {a b : List Char} (ha : Solid a) (hb : Solid b) : Solid (a ++ b) :=
  fun c hc => (List.mem_append.mp hc).elim (ha c) (hb c)

theorem solid_of_isAsciiWord {cs : List Char} (h : ∀ c ∈ cs, isAsciiWord c = true) : Solid cs := by
  refine fun c hc => ⟨?_, ?_⟩ <;> rintro rfl <;> exact absurd (h _ hc) (by decide)

theorem solid_of_isIdentifier {s : String} (h : isIdentifier s = true) : Solid s.toList :=
  solid_of_isAsciiWord (isAsciiWord_of_isIdentifier h)

/-- An entry that can be told from the line it is written on. -/
structure Entry.Plain (e : Entry) : Prop where
  key : Solid e.key.toList
  value : '\n' ∉ e.value.toText.toList

theorem Entry.Plain.qualifiedKey {e : Entry} (h : e.Plain) {root : String} (hroot : Solid root.toList) :
    Solid (e.qualifiedKey root).toList := by
  unfold Entry.qualifiedKey
  split
  · exact h.key
  · simp only [String.toList_append]
    exact (hroot.append (by decide)).append h.key

namespace FlatSink

/-- The text around the first equals sign between spaces: two spaces belong to
one, and before the value there is only one space. -/
theorem splitAtFirst?_formatLine {e : Entry} (h : e.Plain) {root : String} (hroot : Solid root.toList) :
    splitAtFirst? " = ".toList (formatLine root e).toList =
      some ((e.qualifiedKey root).toList, e.value.toText.toList) := by
  rw [formatLine, String.toList_append, String.toList_append]
  refine splitAtFirst?_eq_some_iff.mpr (.of_not_occurs (fun hinfix => ?_) _)
  have hnone : (e.qualifiedKey root).toList.count ' ' = 0 :=
    List.count_eq_zero.mpr fun hmem => (h.qualifiedKey hroot ' ' hmem).1 rfl
  have hspaces := hinfix.sublist.count_le ' '
  rw [List.count_append, hnone] at hspaces
  exact absurd hspaces (by decide)

theorem newline_not_mem_formatLine {e : Entry} (h : e.Plain) {root : String} (hroot : Solid root.toList) :
    '\n' ∉ (formatLine root e).toList := by
  rw [formatLine, String.toList_append, String.toList_append, List.mem_append, List.mem_append]
  rintro ((hkey | hsign) | hvalue)
  · exact (h.qualifiedKey hroot _ hkey).2 rfl
  · exact absurd hsign (by decide)
  · exact h.value hvalue

theorem pieces_content {lines : List String} (h : ∀ l ∈ lines, '\n' ∉ l.toList) :
    pieces (· == '\n') (content lines).toList = lines.map String.toList ++ [[]] := by
  have htext : (content lines).toList = (lines.map String.toList).flatMap (· ++ ['\n']) := by
    simp [content, String.toList_join, List.flatMap_map]
  rw [htext]
  refine pieces_flatMap (by decide) fun l hl c hc => ?_
  obtain ⟨line, hline, rfl⟩ := List.mem_map.mp hl
  rw [beq_eq_false_iff_ne]
  rintro rfl
  exact h line hline hc

end FlatSink

/-! ## Values -/

namespace Value

theorem newline_not_mem_decimal (n : Int) : '\n' ∉ (decimal n).toList := by
  rw [decimal, String.toList_ofList]
  exact (Decimal.oneLine_numeral n).newline_not_mem

theorem newline_not_mem_narrowest (n : Int) {numeral : String} (h : '\n' ∉ numeral.toList) :
    '\n' ∉ (narrowest n numeral).toText.toList := by
  unfold narrowest
  split
  · exact newline_not_mem_decimal _
  · split
    · exact newline_not_mem_decimal _
    · exact h

theorem newline_not_mem_ofInt (n : Int) : '\n' ∉ (ofInt n).toText.toList := by
  rw [toText_ofInt]
  exact newline_not_mem_decimal n

theorem newline_not_mem_ofText {s : String} (h : '\n' ∉ s.toList) : '\n' ∉ (ofText s).toText.toList := by
  unfold ofText
  split
  · exact newline_not_mem_narrowest _ h
  · split
    · decide
    · exact h

end Value

/-! ## The entries of a struct -/

namespace StructProbe

variable {p : StructProbe}

theorem plain_fieldEntries (hname : Solid p.name.toList) {f : FieldDecl} (hf : Solid f.name.toList)
    (htag : ∀ tag ∈ f.tag, '\n' ∉ tag.toList) (slot : Slot) : ∀ e ∈ p.fieldEntries f slot, e.Plain := by
  have hkey : ∀ suffix : String, Solid suffix.toList →
      Solid (p.name ++ "." ++ f.name ++ suffix).toList := fun suffix hs => by
    simp only [String.toList_append]
    exact ((hname.append (by decide)).append hf).append hs
  intro e he
  simp only [fieldEntries, List.mem_append, List.mem_cons, List.not_mem_nil, or_false,
    Option.mem_toList, Option.map_eq_some_iff] at he
  rcases he with (rfl | rfl) | ⟨tag, hmem, rfl⟩
  · exact ⟨hkey ".offset" (by decide), Value.newline_not_mem_ofInt _⟩
  · exact ⟨hkey ".size" (by decide), Value.newline_not_mem_ofInt _⟩
  · exact ⟨hkey ".type" (by decide), htag tag hmem⟩

theorem plain_entries (hname : Solid p.name.toList) (hfields : ∀ f ∈ p.declared, Solid f.name.toList)
    (htags : ∀ f ∈ p.declared, ∀ tag ∈ f.tag, '\n' ∉ tag.toList) : ∀ e ∈ p.entries, e.Plain := by
  intro e he
  unfold entries at he
  split at he
  · cases he
  next size hsize =>
    rcases List.mem_cons.mp he with rfl | he
    · refine ⟨?_, Value.newline_not_mem_ofInt _⟩
      rw [String.toList_append]
      exact hname.append (by decide)
    · obtain ⟨⟨f, slot⟩, hplaced, he⟩ := List.mem_flatMap.mp he
      have hf := p.map_placed_sublist.subset (List.mem_map_of_mem hplaced)
      exact plain_fieldEntries hname (hfields f hf) (htags f hf) slot e he

end StructProbe

/-! ## The entries of a group -/

namespace ConstantProbe

/-- A constant whose name is solid, and whose value fits on a line if it is
known. -/
def Fits (x : String × Constant) : Prop :=
  Solid x.1.toList ∧ ∀ v ∈ x.2.value, '\n' ∉ v.toText.toList

theorem fits_ofDecl {d : GroupDecl} (h : Catalog.ValidGroup d) :
    ∀ x ∈ (ofDecl d).constants.toList, Fits x := by
  refine List.foldlRecOn (motive := fun p : ConstantProbe => ∀ x ∈ p.constants.toList, Fits x)
    d.batches _ (by simp [new, Table.empty]) fun p hp b hb => ?_
  refine List.foldlRecOn (motive := fun t : Table Constant => ∀ x ∈ t.toList, Fits x)
    b.names _ hp fun t ht name hname => ?_
  exact Table.forall_mem_insert ht
    ⟨solid_of_isIdentifier ((h.batches b hb).names name hname), by simp⟩

/-- What is read in a line fits on one. -/
theorem newline_not_mem_found {output : String} {f : String × Value} (h : f ∈ found output) :
    '\n' ∉ f.2.toText.toList := by
  obtain ⟨g, hg, rfl⟩ := List.mem_map.mp h
  obtain ⟨line, hline, hread⟩ := List.mem_filterMap.mp hg
  obtain ⟨⟨name, value⟩, hvalue, rfl⟩ := Option.map_eq_some_iff.mp hread
  have hnewline := newline_not_mem_of_mem_lines hline
  rw [(nameAndValue?_eq_some_iff.mp hvalue).1] at hnewline
  refine Value.newline_not_mem_ofText ?_
  rw [String.toList_ofList]
  exact fun hmem => hnewline (List.mem_append_right name (List.mem_cons_of_mem ' ' hmem))

theorem fits_setValue {t : Table Constant} (h : ∀ x ∈ t.toList, Fits x) {found : String × Value}
    (hfound : '\n' ∉ found.2.toText.toList) : ∀ x ∈ (setValue t found).toList, Fits x := by
  unfold setValue
  split
  next c hc =>
    refine Table.forall_mem_insert h ⟨(h _ (Table.mem_of_get? hc)).1, fun v hv => ?_⟩
    cases hv
    exact hfound
  · exact h

theorem fits_analyse {p q : ConstantProbe} (hp : ∀ x ∈ p.constants.toList, Fits x) {output : String}
    (h : p.analyse output = (.ok (), q)) : ∀ x ∈ q.constants.toList, Fits x := by
  obtain ⟨-, rfl⟩ := analyse_eq_ok_iff.mp h
  exact List.foldlRecOn (motive := fun t : Table Constant => ∀ x ∈ t.toList, Fits x) (found output) _ hp
    fun t ht f hf => fits_setValue ht (newline_not_mem_found hf)

theorem plain_entries {p : ConstantProbe} (hgroup : Solid p.group.toList)
    (h : ∀ x ∈ p.constants.toList, Fits x) : ∀ e ∈ p.entries, e.Plain := by
  intro e he
  obtain ⟨⟨name, c⟩, hmem, hvalue⟩ := List.mem_filterMap.mp he
  obtain ⟨v, hv, rfl⟩ := Option.map_eq_some_iff.mp hvalue
  refine ⟨?_, (h _ hmem).2 v hv⟩
  simp only [String.toList_append]
  exact (hgroup.append (by decide)).append (h _ hmem).1

end ConstantProbe

/-! ## The entries of typedefs -/

namespace TypedefProbe

theorem solid_of_ofAlias? {written : List Char} {base : String} {d : TypedefDecl}
    (h : TypedefDecl.ofAlias? written base = some d) : Solid d.name.toList := by
  unfold TypedefDecl.ofAlias? at h
  dsimp only at h
  split at h
  next hname =>
    cases h
    rw [String.toList_ofList]
    exact solid_of_isAsciiWord (List.all_eq_true.mp (Bool.and_eq_true_iff.mp hname).2)
  · cases h

theorem solid_of_ofLine? {line : List Char} {d : TypedefDecl} (h : TypedefDecl.ofLine? line = some d) :
    Solid d.name.toList := by
  unfold TypedefDecl.ofLine? at h
  obtain ⟨body, -, h⟩ := Option.bind_eq_some_iff.mp h
  obtain ⟨last, -, h⟩ := Option.bind_eq_some_iff.mp h
  split at h
  · obtain ⟨written, -, h⟩ := Option.bind_eq_some_iff.mp h
    exact solid_of_ofAlias? h
  · exact solid_of_ofAlias? h

theorem solid_step {p : TypedefProbe} (h : ∀ x ∈ p.aliases.toList, Solid x.1.toList) (line : List Char) :
    ∀ x ∈ (p.step line).aliases.toList, Solid x.1.toList := by
  rcases step_cases p line with ⟨d, c, hd, -, hstep⟩ | ⟨-, ignored, hstep⟩ <;> rw [hstep]
  · unfold declaration? at hd
    split at hd
    · exact Table.forall_mem_insert (P := fun x => Solid x.1.toList) h (solid_of_ofLine? hd)
    · cases hd
  · exact h

theorem solid_analyse {p : TypedefProbe} (haliases : ∀ x ∈ p.aliases.toList, Solid x.1.toList)
    (hoverrides : ∀ x ∈ p.overrides, Solid x.1.toList) (output : String) :
    ∀ x ∈ (p.analyse output).aliases.toList, Solid x.1.toList := by
  have hsteps : ∀ x ∈ ((lines output.toList).foldl step p).aliases.toList, Solid x.1.toList :=
    List.foldlRecOn (motive := fun p : TypedefProbe => ∀ x ∈ p.aliases.toList, Solid x.1.toList)
      _ _ haliases fun _ hp line _ => solid_step hp line
  refine List.foldlRecOn (motive := fun t : Table Category => ∀ x ∈ t.toList, Solid x.1.toList)
    _ _ hsteps fun t ht o ho => ?_
  rw [foldl_step_overrides] at ho
  exact Table.forall_mem_insert (P := fun x => Solid x.1.toList) ht (hoverrides o ho)

theorem newline_not_mem_name (c : Category) : '\n' ∉ c.name.toList := by cases c <;> decide

theorem plain_entries {p : TypedefProbe} (h : ∀ x ∈ p.aliases.toList, Solid x.1.toList) :
    ∀ e ∈ p.entries, e.Plain := by
  intro e he
  obtain ⟨⟨name, c⟩, hmem, rfl⟩ := List.mem_map.mp he
  refine ⟨?_, newline_not_mem_name c⟩
  simp only [String.toList_append]
  exact Solid.append (by decide) (h _ (List.mem_of_mem_filter hmem))

end TypedefProbe

/-! ## The entries of a run -/

namespace Catalog

/-- No type that is given to a field holds a line feed. -/
def TagsOneLine (c : Catalog) : Prop :=
  ∀ d ∈ c.structs, ∀ f ∈ d.fields, ∀ tag ∈ f.tag, '\n' ∉ tag.toList

theorem tagsOneLine_builtin : builtin.TagsOneLine := by
  unfold TagsOneLine
  decide +kernel

end Catalog

/-- Whatever a probe of a valid catalog reads, its entries can be told from
their lines. -/
theorem plain_of_analyse {c : Catalog} (hvalid : c.Valid) (htags : c.TagsOneLine) {platform : Platform}
    {p q : Probe} (hp : p ∈ c.probes platform) {output : String} (hq : p.analyse output = (.ok (), q)) :
    ∀ e ∈ q.entries, e.Plain := by
  cases Catalog.reads_of_analyse hp hq with
  | @struct d q hd hread =>
    have hstruct := hvalid.structs d hd
    obtain ⟨hname, hfields⟩ := StructProbe.analyse_keeps hread
    rw [StructProbe.declared_ofDecl] at hfields
    have hsolid : Solid q.name.toList := by
      rw [hname]
      exact solid_of_isIdentifier hstruct.name
    exact StructProbe.plain_entries hsolid
      (hfields ▸ fun f hf => solid_of_isIdentifier (hstruct.fields f hf)) (hfields ▸ htags d hd)
  | @constants d q hd hfound =>
    obtain ⟨hgroup, hnodup⟩ := ConstantProbe.ofDecl_facts d
    have hsolid : Solid q.group.toList := by
      rw [(ConstantProbe.analyse_facts hfound hnodup).1, hgroup]
      exact solid_of_isIdentifier (hvalid.groups d hd).name
    exact ConstantProbe.plain_entries hsolid
      (ConstantProbe.fits_analyse (ConstantProbe.fits_ofDecl (hvalid.groups d hd)) hfound)
  | typedefs =>
    refine TypedefProbe.plain_entries (TypedefProbe.solid_analyse ?_ ?_ output)
    · unfold TypedefProbe.forPlatform
      split <;> simp [TypedefProbe.addOverride, TypedefProbe.new, Table.empty]
    · unfold TypedefProbe.forPlatform
      split
      · simp only [TypedefProbe.addOverride, TypedefProbe.new, List.nil_append, List.forall_mem_singleton]
        decide
      · simp [TypedefProbe.new]

theorem Finds.plain {τ : Type} {t : Toolchain τ} {c : Catalog} (hvalid : c.Valid)
    (htags : c.TagsOneLine) {platform : Platform} {u u' : τ} {done : Done}
    (h : Finds t (c.probes platform) u done u') : ∀ e ∈ done.entries, e.Plain := by
  intro e he
  obtain ⟨p, hp, output, q, hq, he⟩ := h.exists_analyse e he
  exact plain_of_analyse hvalid htags hp hq e he

/-- The sink in memory takes every entry. -/
theorem MemorySink.saveAll_open (es : List Entry) (m : MemorySink) (h : m.finished = false) :
    saveAll sink es m = (.ok (), { m with entries := m.entries ++ es }) := by
  induction es generalizing m with
  | nil => simp [saveAll]
  | cons e es ih =>
    have hrest := ih { m with entries := m.entries ++ [e] } h
    simp only [saveAll, sink, register_open h]
    rw [List.append_assoc, List.singleton_append] at hrest
    exact hrest

/-- **A flat file reads back.** Let a catalog be valid, its tags without line
feeds, and let the root hold neither a space nor a line feed. If a run into a
flat sink succeeds, whatever the toolchain has printed, the same run into
memory succeeds with the same summary. The published file is then cut at its
line feeds into one piece for each entry in memory and an empty last one; and
the parts of a piece around its first equals sign between spaces are the
published key and the text of the value, entry by entry. The built-in catalog
is such a one. -/
theorem flat_file_reads {τ : Type} {c : Catalog} (hvalid : c.validate = .ok ()) (htags : c.TagsOneLine)
    {root : String} (hroot : Solid root.toList) (platform : Platform) {t : Toolchain τ} {u u' : τ}
    {faults : Faults} {before after : FileSystem} {path : String} {opened : FlatSink × FileSystem}
    (hopen : FlatSink.start faults before path root = .ok opened) {summary : Summary} {closed : FlatSink}
    (hrun : run t.beside (FlatSink.sink faults).beside platform c (opened, u) =
      (.ok summary, (closed, after), u')) :
    (∃ memory contents ls,
      run t.beside MemorySink.sink.beside platform c (.new, u) =
        (.ok { summary with sinkName := "memory" }, memory, u') ∧
      after.readText path = .ok contents ∧
      pieces (· == '\n') contents.toList = ls ++ [[]] ∧
      ls.map (splitAtFirst? " = ".toList) = memory.entries.map fun e =>
        some ((e.qualifiedKey root).toList, e.value.toText.toList)) ∧
    Catalog.builtin.validate = .ok () ∧ Catalog.builtin.TagsOneLine := by
  refine ⟨?_, Catalog.validate_builtin, Catalog.tagsOneLine_builtin⟩
  obtain ⟨done, s₁, hfinds, hsave, hfinish, rfl⟩ := run_eq_ok_iff.mp hrun
  obtain ⟨place, hfree, rfl⟩ := FlatSink.start_eq_ok hopen
  obtain rfl := FlatSink.saveAll_ok hsave
  have hwaits : FlatSink.Waits before
      (⟨path, root, some ⟨place, [] ++ done.entries.map (FlatSink.formatLine root)⟩⟩,
        before.put place (.file ByteArray.empty 0o600)) := ⟨_, rfl, hfree, rfl⟩
  obtain ⟨-, d, hd, hreplaced⟩ := FlatSink.finish_ok hwaits hfinish
  obtain rfl := (Option.some.inj hd).symm
  have hplain := hfinds.plain (Catalog.validate_eq_ok_iff.mp hvalid) htags
  -- What the probes find does not depend on the sink, so it goes into memory as well.
  have hmemory : run t.beside MemorySink.sink.beside platform c (.new, u) =
      (.ok ⟨platform, "memory", done.summaries⟩, ⟨done.entries, true⟩, u') :=
    run_eq_ok_iff.mpr ⟨done, _, hfinds, MemorySink.saveAll_open done.entries .new rfl, rfl, rfl⟩
  refine ⟨_, _, _, hmemory, readText_of_find hreplaced.found, FlatSink.pieces_content ?_, ?_⟩
  · intro l hl
    obtain ⟨e, he, rfl⟩ := List.mem_map.mp hl
    exact FlatSink.newline_not_mem_formatLine (hplain e he) hroot
  · simp only [List.nil_append, List.map_map]
    exact List.map_congr_left fun e he => FlatSink.splitAtFirst?_formatLine (hplain e he) hroot

/-- A catalog with an equals sign between spaces in a tag. -/
def assigned : Catalog :=
  ⟨[⟨"s", [], [⟨"f", some "a = b"⟩]⟩], [⟨"g", [], [⟨["A"], "%s", ""⟩]⟩], ["h"]⟩

theorem flat_file_reads_assigned :
    assigned.validate = .ok () ∧ assigned.TagsOneLine ∧ Solid "r".toList ∧
    ∃ opened closed after contents ls u',
      FlatSink.start Faults.none PatchSink.lettered "F" "r" = .ok opened ∧
      run replies.beside (FlatSink.sink Faults.none).beside .x86Linux assigned (opened,
        ["sizeof(struct s) 4\nf 0 4\n", "A x = y\r = z\r\n", "typedef int t;\n"]) =
          (.ok ⟨.x86Linux, "flat", [⟨"struct s", .struct, 4⟩, ⟨"constants g", .constants, 1⟩,
            ⟨"typedefs", .typedefs, 1⟩]⟩, (closed, after), u') ∧
      after.readText "F" = .ok contents ∧ pieces (· == '\n') contents.toList = ls ++ [[]] ∧
      ls.map (splitAtFirst? " = ".toList) =
        [some ("r.s.sizeof".toList, "4".toList), some ("r.s.f.offset".toList, "0".toList),
          some ("r.s.f.size".toList, "4".toList), some ("r.s.f.type".toList, "a = b".toList),
          some ("r.g.A".toList, "x = y\r = z".toList), some ("r.typedef.t".toList, "int".toList)] := by
  have hvalid : assigned.validate = .ok () := by rfl
  have htags : assigned.TagsOneLine := by
    unfold Catalog.TagsOneLine
    decide
  have hroot : Solid "r".toList := by decide
  rcases hopen : FlatSink.start Faults.none PatchSink.lettered "F" "r" with err | opened
  · cases hopen
  rcases hrun : run replies.beside (FlatSink.sink Faults.none).beside .x86Linux assigned (opened,
      ["sizeof(struct s) 4\nf 0 4\n", "A x = y\r = z\r\n", "typedef int t;\n"])
    with ⟨r, ⟨closed, after⟩, u'⟩
  have hr : r = .ok ⟨.x86Linux, "flat", [⟨"struct s", .struct, 4⟩, ⟨"constants g", .constants, 1⟩,
            ⟨"typedefs", .typedefs, 1⟩]⟩ := by
    rw [show r = _ from (congrArg Prod.fst hrun).symm]
    cases hopen
    rfl
  subst hr
  obtain ⟨⟨memory, contents, ls, hmemory, hread, hpieces, hparts⟩, -⟩ :=
    flat_file_reads hvalid htags hroot .x86Linux hopen hrun
  have hm : memory = ⟨[⟨"s.sizeof", .integer 4⟩, ⟨"s.f.offset", .integer 0⟩, ⟨"s.f.size", .integer 4⟩,
      ⟨"s.f.type", .text "a = b"⟩, ⟨"g.A", .text "x = y\r = z"⟩, ⟨"typedef.t", .text "int"⟩], true⟩ := by
    rw [show memory = _ from (congrArg (fun x => x.2.1) hmemory).symm]
    decide +kernel
  refine ⟨hvalid, htags, hroot, opened, closed, after, contents, ls, u', rfl, hrun, hread, hpieces, ?_⟩
  rw [hparts, hm]
  decide +kernel

end AbiProbe
