/-
The reader of layouts accepts the outputs that tell one, and no others
(`analyse_exact`). The digits that it cuts out of a line are those that stand
there (`sizeDigits?_eq_some_iff`, `slotDigits?_eq_some_iff`), and they are a
number exactly if they denote one (`number?_eq_some_iff`). So a line is read if
it tells what is due, and otherwise it is the line in the error
(`readSize_cases`, `readSlot_cases`); the fields follow by induction
(`readSlots_cases`).

What is set then are the numbers of the layout, all of them
(`setSlots_setSize`, `layout?_withLayout`). As long as lines are read none is
(`readSlots_snd`), so an error leaves the struct as it was.
-/
import AbiProbe.Probe.LayoutLines
import Mathlib.Data.List.Basic

namespace AbiProbe

open Text

/-! ## Digits -/

/-- A row of decimal digits, of any script. -/
structure DigitRow (digits : List Char) : Prop where
  nonempty : digits ≠ []
  digits : ∀ c ∈ digits, isDecimalDigit c = true

namespace Denotes

variable {digits : List Char} {m n : Nat}

theorem digitRow (h : Denotes digits n) : DigitRow digits :=
  ⟨h.nonempty, fun c hc => isDecimalDigit_of_isDigit (h.ascii c hc)⟩

theorem unique (h : Denotes digits m) (h' : Denotes digits n) : m = n := h.value.symm.trans h'.value

end Denotes

namespace TellsSlots

variable {total : Nat} {fields : List FieldDecl} {ls : List (List Char)} {slots : List Slot}

theorem length_eq (h : TellsSlots total fields ls slots) : slots.length = fields.length := by
  induction h with
  | blank => rfl
  | slot first rest ih => rw [List.length_cons, List.length_cons, ih]

theorem inside (h : TellsSlots total fields ls slots) : ∀ slot ∈ slots, slot.offset + slot.size ≤ total := by
  induction h with
  | blank => exact fun slot hslot => absurd hslot List.not_mem_nil
  | slot first rest ih =>
    obtain ⟨offset, size, -, -, -, hinside⟩ := first
    exact List.forall_mem_cons.mpr ⟨hinside, ih⟩

end TellsSlots

namespace StructProbe

theorem number?_eq_some_iff {digits : List Char} {n : Nat} : number? digits = some n ↔ Denotes digits n := by
  unfold number? Decimal.natural?
  simp only [Option.filter_eq_some_iff, decide_eq_true_iff, Option.ite_none_right_eq_some, List.all_eq_true,
    Option.some.injEq]
  exact ⟨fun ⟨⟨⟨hne, hall⟩, hvalue⟩, hlt⟩ => ⟨hne, hall, hvalue, hlt⟩,
    fun h => ⟨⟨⟨h.nonempty, h.ascii⟩, h.value⟩, h.bound⟩⟩

/-- A row of digits is cut off before the first character that is no digit. -/
theorem spanDigits?_eq_some_iff {cs digits rest : List Char} : spanDigits? cs = some (digits, rest) ↔
    cs = digits ++ rest ∧ DigitRow digits ∧ ∀ c ∈ rest.head?, isDecimalDigit c = false := by
  constructor
  · intro h
    have hsplit : cs.takeWhile isDecimalDigit ++ cs.drop (cs.takeWhile isDecimalDigit).length = cs :=
      (List.prefix_iff_eq_append.mp (List.takeWhile_prefix isDecimalDigit))
    have hdrop : cs.drop (cs.takeWhile isDecimalDigit).length = cs.dropWhile isDecimalDigit :=
      List.append_cancel_left (hsplit.trans List.takeWhile_append_dropWhile.symm)
    unfold spanDigits? at h
    dsimp only at h
    split at h
    · cases h
    next hne =>
      cases h
      refine ⟨hsplit.symm, ⟨by simpa using hne, fun c hc => List.all_eq_true.mp List.all_takeWhile c hc⟩, ?_⟩
      intro c hc
      have hhead := List.head?_dropWhile_not isDecimalDigit cs
      rw [hdrop, Option.mem_def] at hc
      rwa [hc] at hhead
  · rintro ⟨rfl, hrow, hrest⟩
    have hstop : rest.takeWhile isDecimalDigit = [] := by
      cases rest with
      | nil => rfl
      | cons c cs => simp [hrest c rfl]
    simp [spanDigits?, List.takeWhile_append_of_pos hrow.digits, hstop, hrow.nonempty]

theorem spanDigits?_eq_all_iff {cs digits : List Char} :
    spanDigits? cs = some (digits, []) ↔ cs = digits ∧ DigitRow digits := by
  rw [spanDigits?_eq_some_iff, List.append_nil]
  simp

variable {p : StructProbe} {line : List Char}

theorem sizeDigits?_eq_some_iff {digits : List Char} :
    p.sizeDigits? line = some digits ↔ line = p.sizeLabel.toList ++ digits ∧ DigitRow digits := by
  have hmatch : p.sizeDigits? line = some digits ↔
      (p.sizeLabel.toList.isPrefixOf? line).bind spanDigits? = some (digits, []) := by
    unfold sizeDigits?
    constructor
    · intro h
      split at h
      next hspan =>
        cases h
        exact hspan
      · cases h
    · intro h
      rw [h]
  rw [hmatch, Option.bind_eq_some_iff]
  simp only [List.isPrefixOf?_eq_some_iff_append_eq, spanDigits?_eq_all_iff]
  constructor
  · rintro ⟨rest, hline, rfl, hrow⟩
    exact ⟨hline.symm, hrow⟩
  · rintro ⟨hline, hrow⟩
    exact ⟨digits, hline.symm, rfl, hrow⟩

theorem slotDigits?_eq_some_iff {field : String} {offset size : List Char} :
    slotDigits? field line = some (offset, size) ↔
      line = (field ++ " ").toList ++ (offset ++ ' ' :: size) ∧ DigitRow offset ∧ DigitRow size := by
  have hmatch : slotDigits? field line = some (offset, size) ↔ ∃ rest,
      ((field ++ " ").toList.isPrefixOf? line).bind spanDigits? = some (offset, ' ' :: rest) ∧
        spanDigits? rest = some (size, []) := by
    unfold slotDigits?
    constructor
    · intro h
      split at h
      next hspan =>
        split at h
        next hrest =>
          cases h
          exact ⟨_, hspan, hrest⟩
        · cases h
      · cases h
    · rintro ⟨rest, hspan, hrest⟩
      simp only [hspan, hrest]
  rw [hmatch]
  simp only [spanDigits?_eq_all_iff]
  simp only [Option.bind_eq_some_iff, List.isPrefixOf?_eq_some_iff_append_eq, spanDigits?_eq_some_iff]
  constructor
  · rintro ⟨rest, ⟨told, hline, rfl, hoffset, -⟩, rfl, hsize⟩
    exact ⟨hline.symm, hoffset, hsize⟩
  · rintro ⟨hline, hoffset, hsize⟩
    refine ⟨size, ⟨_, hline.symm, rfl, hoffset, ?_⟩, rfl, hsize⟩
    rintro c ⟨⟩
    decide

/-! ## Lines -/

theorem readNumber_cases (p : StructProbe) (line digits : List Char) :
    (∃ n, Denotes digits n ∧ p.readNumber line digits = .ok n) ∨
      (∀ n, ¬ Denotes digits n) ∧ p.readNumber line digits = .error (p.mismatch line .numberRange) := by
  unfold readNumber
  cases h : number? digits with
  | some n => exact .inl ⟨n, number?_eq_some_iff.mp h, rfl⟩
  | none =>
    refine .inr ⟨fun n hn => ?_, rfl⟩
    rw [number?_eq_some_iff.mpr hn] at h
    cases h

/-- The size is read from a line that tells it; any other line is a mismatch. -/
theorem readSize_cases (p : StructProbe) (line : List Char) :
    (∃ size, TellsSize p.name line size ∧ p.readSize line = .ok size) ∨
      (∀ size, ¬ TellsSize p.name line size) ∧ ∃ reason, p.readSize line = .error (p.mismatch line reason) := by
  unfold readSize
  cases h : p.sizeDigits? line with
  | none =>
    refine .inr ⟨fun size htells => ?_, _, rfl⟩
    obtain ⟨digits, hline, hdenotes⟩ := htells
    rw [sizeDigits?_eq_some_iff.mpr ⟨hline, hdenotes.digitRow⟩] at h
    cases h
  | some digits =>
    obtain ⟨hline, -⟩ := sizeDigits?_eq_some_iff.mp h
    rcases p.readNumber_cases line digits with ⟨size, hdenotes, hread⟩ | ⟨hnone, hread⟩
    · exact .inl ⟨size, ⟨digits, hline, hdenotes⟩, hread⟩
    · refine .inr ⟨fun size htells => ?_, _, hread⟩
      obtain ⟨digits', hline', hdenotes⟩ := htells
      obtain rfl : digits = digits' := List.append_cancel_left (hline.symm.trans hline')
      exact hnone size hdenotes

/-- The digits in a line that tells a slot. -/
theorem digits_of_tellsSlot {field : String} {total : Nat} {slot : Slot} (h : TellsSlot field total line slot)
    {offset size : List Char} (hdigits : slotDigits? field line = some (offset, size)) :
    Denotes offset slot.offset ∧ Denotes size slot.size ∧ slot.offset + slot.size ≤ total := by
  obtain ⟨offset', size', hline, hoffset, hsize, hinside⟩ := h
  rw [slotDigits?_eq_some_iff.mpr ⟨hline, hoffset.digitRow, hsize.digitRow⟩, Option.some.injEq,
    Prod.mk.injEq] at hdigits
  obtain ⟨rfl, rfl⟩ := hdigits
  exact ⟨hoffset, hsize, hinside⟩

/-- The slot of a field is read from a line that tells it; any other line is a
mismatch. -/
theorem readSlot_cases (p : StructProbe) (total : Nat) (field : String) (line : List Char) :
    (∃ slot, TellsSlot field total line slot ∧ p.readSlot total field line = .ok slot) ∨
      (∀ slot, ¬ TellsSlot field total line slot) ∧
        ∃ reason, p.readSlot total field line = .error (p.mismatch line reason) := by
  unfold readSlot
  cases h : slotDigits? field line with
  | none =>
    refine .inr ⟨fun slot htells => ?_, _, rfl⟩
    obtain ⟨offset, size, hline, hoffset, hsize, -⟩ := htells
    rw [slotDigits?_eq_some_iff.mpr ⟨hline, hoffset.digitRow, hsize.digitRow⟩] at h
    cases h
  | some digits =>
    obtain ⟨offsetDigits, sizeDigits⟩ := digits
    obtain ⟨hline, -⟩ := slotDigits?_eq_some_iff.mp h
    rcases p.readNumber_cases line offsetDigits with ⟨offset, hoffset, hread⟩ | ⟨hnone, hread⟩
    · rcases p.readNumber_cases line sizeDigits with ⟨size, hsize, hread'⟩ | ⟨hnone, hread'⟩
      · by_cases hinside : total < offset + size
        · refine .inr ⟨fun slot htells => ?_, .fieldPastEnd field total, ?_⟩
          · obtain ⟨hoffset', hsize', hle⟩ := digits_of_tellsSlot htells h
            rw [hoffset.unique hoffset', hsize.unique hsize'] at hinside
            omega
          · simp [hread, hread', hinside, bind, Except.bind, throw, throwThe, MonadExceptOf.throw]
        · refine .inl ⟨⟨offset, size⟩, ⟨_, _, hline, hoffset, hsize, Nat.le_of_not_lt hinside⟩, ?_⟩
          simp [hread, hread', hinside, bind, Except.bind, pure, Except.pure]
      · refine .inr ⟨fun slot htells => hnone _ (digits_of_tellsSlot htells h).2.1, .numberRange, ?_⟩
        simp [hread, hread', bind, Except.bind]
    · refine .inr ⟨fun slot htells => hnone _ (digits_of_tellsSlot htells h).1, .numberRange, ?_⟩
      simp [hread, bind, Except.bind]

/-- A line that is not there tells nothing. -/
theorem not_tellsSize_nil (struct : String) (size : Nat) : ¬ TellsSize struct [] size := by
  rintro ⟨digits, hline, -⟩
  simp at hline

theorem not_tellsSlot_nil (field : String) (total : Nat) (slot : Slot) : ¬ TellsSlot field total [] slot := by
  rintro ⟨offset, size, hline, -⟩
  simp at hline

theorem tellsSize_unique {struct : String} {m n : Nat} (h : TellsSize struct line m)
    (h' : TellsSize struct line n) : m = n := by
  obtain ⟨digits, hline, hdenotes⟩ := h
  obtain ⟨digits', hline', hdenotes'⟩ := h'
  obtain rfl : digits = digits' := List.append_cancel_left (hline.symm.trans hline')
  exact hdenotes.unique hdenotes'

/-! ## Fields -/

theorem headD_eq_getD (ls : List (List Char)) : ls.headD [] = ls.getD 0 [] := by
  cases ls <;> rfl

theorem getD_drop_one (ls : List (List Char)) (i : Nat) : (ls.drop 1).getD i [] = ls.getD (i + 1) [] := by
  cases ls <;> simp

/-- The slot of a field is read before those of the others. -/
theorem readSlots_cons_fst (total : Nat) (f : StructField) (fields : List StructField)
    (ls : List (List Char)) (p : StructProbe) : (readSlots total (f :: fields) ls p).1 =
      match p.readSlot total f.name (ls.headD []) with
      | .error err => .error err
      | .ok slot => (readSlots total fields (ls.drop 1) p).1.map (slot :: ·) := by
  rw [readSlots]
  cases p.readSlot total f.name (ls.headD []) with
  | error err => rfl
  | ok slot => rcases readSlots total fields (ls.drop 1) p with ⟨_ | _, q⟩ <;> rfl

theorem fitsSlots_succ {total : Nat} {f : FieldDecl} {fields : List FieldDecl} {i : Nat} :
    FitsSlots total (f :: fields) (i + 1) line ↔ FitsSlots total fields i line := by
  simp [FitsSlots]

/-- The slots are read from lines that tell them; otherwise the first line
that does not fit is a mismatch. -/
theorem readSlots_cases (p : StructProbe) (total : Nat) (fields : List StructField) (ls : List (List Char)) :
    (∃ slots, TellsSlots total (fields.map (·.toFieldDecl)) ls slots ∧
      (readSlots total fields ls p).1 = .ok slots) ∨
    ∃ k reason, (∀ i < k, FitsSlots total (fields.map (·.toFieldDecl)) i (ls.getD i [])) ∧
      ¬ FitsSlots total (fields.map (·.toFieldDecl)) k (ls.getD k []) ∧
      (readSlots total fields ls p).1 = .error (p.mismatch (ls.getD k []) reason) := by
  induction fields generalizing ls with
  | nil =>
    rw [readSlots]
    cases h : ls.find? (!isBlankText ·) with
    | none =>
      refine .inl ⟨[], .blank fun line hline => ?_, rfl⟩
      simpa using List.find?_eq_none.mp h line hline
    | some line =>
      obtain ⟨hline, k, hk, rfl, hbefore⟩ := List.find?_eq_some_iff_getElem.mp h
      refine .inr ⟨k, .trailing, fun i hi => ?_, ?_, ?_⟩
      · have hblank := hbefore i hi
        simpa [FitsSlots, Nat.lt_trans hi hk] using hblank
      · simpa [FitsSlots, hk] using hline
      · simp [hk]
  | cons f fields ih =>
    rw [readSlots_cons_fst, headD_eq_getD, List.map_cons]
    rcases p.readSlot_cases total f.name (ls.getD 0 []) with ⟨slot, htells, hread⟩ | ⟨hnone, reason, hread⟩
    · rw [hread]
      rcases ih (ls.drop 1) with ⟨slots, hslots, hrest⟩ | ⟨k, reason, hfit, hdeviates, hrest⟩
      · refine .inl ⟨slot :: slots, ?_, by rw [hrest]; rfl⟩
        cases ls with
        | nil => exact absurd htells (not_tellsSlot_nil _ _ _)
        | cons line ls => exact .slot htells hslots
      · rw [getD_drop_one] at hdeviates hrest
        refine .inr ⟨k + 1, reason, fun i hi => ?_, mt fitsSlots_succ.mp hdeviates, by rw [hrest]; rfl⟩
        cases i with
        | zero => exact ⟨slot, htells⟩
        | succ i => exact fitsSlots_succ.mpr (getD_drop_one ls i ▸ hfit i (Nat.lt_of_succ_lt_succ hi))
    · rw [hread]
      refine .inr ⟨0, reason, fun i hi => absurd hi (Nat.not_lt_zero i), ?_, rfl⟩
      rintro ⟨slot, htells⟩
      exact hnone slot htells

theorem tellsSlot_unique {field : String} {total : Nat} {slot slot' : Slot}
    (h : TellsSlot field total line slot) (h' : TellsSlot field total line slot') : slot = slot' := by
  obtain ⟨offset, size, hline, hoffset, hsize, -⟩ := h
  have hdigits := slotDigits?_eq_some_iff.mpr ⟨hline, hoffset.digitRow, hsize.digitRow⟩
  obtain ⟨hoffset', hsize', -⟩ := digits_of_tellsSlot h' hdigits
  obtain ⟨offset, size⟩ := slot
  rw [Slot.mk.injEq]
  exact ⟨hoffset.unique hoffset', hsize.unique hsize'⟩

theorem tellsSlots_unique {total : Nat} {fields : List FieldDecl} {ls : List (List Char)}
    {slots slots' : List Slot} (h : TellsSlots total fields ls slots) (h' : TellsSlots total fields ls slots') :
    slots = slots' := by
  induction h generalizing slots' with
  | blank all =>
    cases h'
    rfl
  | slot first rest ih =>
    cases h' with
    | slot first' rest' => rw [tellsSlot_unique first first', ih rest']

theorem fitsSlots_of_tellsSlots {total : Nat} {fields : List FieldDecl} {ls : List (List Char)}
    {slots : List Slot} (h : TellsSlots total fields ls slots) (i : Nat) :
    FitsSlots total fields i (ls.getD i []) := by
  induction h generalizing i with
  | @blank ls all =>
    simp only [FitsSlots, List.getElem?_nil]
    by_cases hi : i < ls.length
    · simpa [hi] using all ls[i] (List.getElem_mem hi)
    · simp [Nat.le_of_not_lt hi, isBlankText]
  | slot first rest ih =>
    cases i with
    | zero => exact ⟨_, first⟩
    | succ i => exact fitsSlots_succ.mpr (by simpa using ih i)

/-! ## Layouts -/

theorem declared_ofDecl (d : StructDecl) : (ofDecl d).declared = d.fields := by
  rw [declared, ofDecl, List.map_map]
  exact List.map_id d.fields

/-- What is set after all lines are read are the numbers of the layout. -/
theorem setSlots_setSize {layout : Layout} (h : layout.slots.length = p.fields.length) :
    (p.setSize layout.size).setSlots layout.slots = p.withLayout layout :=
  congrArg (StructProbe.mk p.name p.includes · (some layout.size)) (StructField.placeAll_eq_zipWith h)

theorem map_slot?_zipWith {fields : List StructField} {slots : List Slot}
    (h : slots.length = fields.length) :
    (List.zipWith StructField.place fields slots).map (·.slot?) = slots.map some := by
  induction fields generalizing slots with
  | nil =>
    rw [List.length_eq_zero_iff.mp h]
    rfl
  | cons f fields ih =>
    cases slots with
    | nil => cases h
    | cons slot slots => exact congrArg (some slot :: ·) (ih (Nat.succ.inj h))

theorem mapM_slot?_eq_some_iff {fields : List StructField} {slots : List Slot} :
    fields.mapM (·.slot?) = some slots ↔ fields.map (·.slot?) = slots.map some := by
  induction fields generalizing slots with
  | nil =>
    rw [List.mapM_nil, List.map_nil]
    exact ⟨fun h => Option.some.inj h ▸ rfl, fun h => by rw [List.map_eq_nil_iff.mp h.symm]; rfl⟩
  | cons f fields ih =>
    simp only [List.mapM_cons, bind, pure, Option.bind_eq_some_iff, ih]
    constructor
    · rintro ⟨slot, hslot, slots, hslots, h⟩
      obtain rfl := Option.some.inj h
      rw [List.map_cons, List.map_cons, hslot, hslots]
    · intro h
      cases slots with
      | nil => cases h
      | cons slot slots => exact ⟨slot, (List.cons.inj h).1, slots, (List.cons.inj h).2, rfl⟩

/-- A struct knows a layout if it has all its numbers. -/
theorem layout?_eq_some_iff {layout : Layout} : p.layout? = some layout ↔
    p.size = some layout.size ∧ p.fields.map (·.slot?) = layout.slots.map some := by
  simp only [layout?, bind, pure, Option.bind_eq_some_iff, mapM_slot?_eq_some_iff]
  constructor
  · rintro ⟨size, hsize, slots, hslots, h⟩
    obtain rfl := Option.some.inj h
    exact ⟨hsize, hslots⟩
  · rintro ⟨hsize, hslots⟩
    exact ⟨_, hsize, _, hslots, rfl⟩

/-- A struct with the numbers of a layout knows this layout: no number is
missing, and none is that of another one. -/
theorem layout?_withLayout {layout : Layout} (h : layout.slots.length = p.fields.length) :
    (p.withLayout layout).layout? = some layout :=
  layout?_eq_some_iff.mpr ⟨rfl, map_slot?_zipWith h⟩

theorem placed_eq_zip {slots : List Slot} (h : p.fields.map (·.slot?) = slots.map some) :
    p.placed = p.declared.zip slots := by
  unfold placed declared
  generalize p.fields = fields at h ⊢
  induction fields generalizing slots with
  | nil => rfl
  | cons f fields ih =>
    cases slots with
    | nil => cases h
    | cons slot slots =>
      rw [List.map_cons, List.map_cons, List.cons.injEq] at h
      rw [List.filterMap_cons, h.1, Option.map_some, ih h.2, List.map_cons, List.zip_cons_cons]

/-- A struct that knows a layout has the facts of all its fields. -/
theorem entries_of_layout? {layout : Layout} (h : p.layout? = some layout) : p.entries =
    ⟨p.name ++ ".sizeof", .ofInt layout.size⟩ ::
      (p.declared.zip layout.slots).flatMap fun (f, slot) => p.fieldEntries f slot := by
  obtain ⟨hsize, hslots⟩ := layout?_eq_some_iff.mp h
  rw [entries, hsize, placed_eq_zip hslots]

theorem declared_withLayout {layout : Layout} (h : layout.slots.length = p.fields.length) :
    (p.withLayout layout).declared = p.declared := by
  rw [← setSlots_setSize h]
  exact StructField.map_toFieldDecl_placeAll ..

theorem length_of_tellsLayout {ls : List (List Char)} {layout : Layout} (h : p.TellsLayout ls layout) :
    layout.slots.length = p.fields.length := by
  obtain ⟨first, rest, -, -, hslots⟩ := h
  rw [hslots.length_eq, declared, List.length_map]

/-- The lines tell a layout if the first one tells the size and the others the
slots. -/
theorem tellsLayout_of_tells {ls : List (List Char)} {size : Nat} {slots : List Slot}
    (hsize : TellsSize p.name (ls.getD 0 []) size) (hslots : TellsSlots size p.declared (ls.drop 1) slots) :
    p.TellsLayout ls ⟨size, slots⟩ := by
  cases ls with
  | nil => exact absurd hsize (not_tellsSize_nil _ _)
  | cons line ls => exact ⟨line, ls, rfl, hsize, hslots⟩

theorem deviatesAt_zero {ls : List (List Char)} (h : ∀ size, ¬ TellsSize p.name (ls.getD 0 []) size) :
    p.DeviatesAt ls 0 := by
  refine ⟨⟨0, fun i hi => absurd hi (Nat.not_lt_zero i)⟩, ?_⟩
  rintro ⟨total, hfits⟩
  exact h total (hfits 0 (by omega))

theorem deviatesAt_succ {ls : List (List Char)} {size k : Nat} (hsize : TellsSize p.name (ls.getD 0 []) size)
    (hfit : ∀ i < k, FitsSlots size p.declared i ((ls.drop 1).getD i []))
    (hdeviates : ¬ FitsSlots size p.declared k ((ls.drop 1).getD k [])) : p.DeviatesAt ls (k + 1) := by
  rw [getD_drop_one] at hdeviates
  refine ⟨⟨size, fun i hi => ?_⟩, ?_⟩
  · cases i with
    | zero => exact hsize
    | succ i => exact getD_drop_one ls i ▸ hfit i (Nat.lt_of_succ_lt_succ hi)
  · -- The first line tells one size only, so no other one could make the line fit.
    rintro ⟨total, hfits⟩
    obtain rfl := tellsSize_unique hsize (hfits 0 (by omega))
    exact hdeviates (hfits (k + 1) (by omega))

/-- The numbers are set where the lines tell a layout; otherwise the first line
that does not fit is a mismatch, and no number is set. -/
theorem analyse_cases (p : StructProbe) (output : String) :
    (∃ layout, p.TellsLayout (lines output.toList) layout ∧
      p.analyse output = (.ok (), p.withLayout layout)) ∨
    ∃ k reason, p.DeviatesAt (lines output.toList) k ∧
      p.analyse output = (.error (p.mismatch ((lines output.toList).getD k []) reason), p) := by
  rw [analyse_eq, headD_eq_getD]
  rcases p.readSize_cases ((lines output.toList).getD 0 []) with ⟨size, hsize, hread⟩ | ⟨hnone, reason, hread⟩
  · rw [hread]
    dsimp only
    rcases p.readSlots_cases size p.fields ((lines output.toList).drop 1) with
      ⟨slots, hslots, hrest⟩ | ⟨k, reason, hfit, hdeviates, hrest⟩
    · have htells := tellsLayout_of_tells hsize hslots
      refine .inl ⟨_, htells, ?_⟩
      rw [hrest, ← setSlots_setSize (length_of_tellsLayout htells)]
    · refine .inr ⟨k + 1, reason, deviatesAt_succ hsize hfit hdeviates, ?_⟩
      rw [hrest, getD_drop_one]
  · rw [hread]
    exact .inr ⟨0, reason, deviatesAt_zero hnone, rfl⟩

/-- All lines fit where a layout is told. -/
theorem fitsUpTo_of_tellsLayout {ls : List (List Char)} {layout : Layout} (h : p.TellsLayout ls layout)
    (k : Nat) : p.FitsUpTo ls k := by
  obtain ⟨first, rest, rfl, hsize, hslots⟩ := h
  refine ⟨layout.size, fun i _ => ?_⟩
  cases i with
  | zero => exact hsize
  | succ i => exact fitsSlots_of_tellsSlots hslots i

theorem tellsLayout_unique {ls : List (List Char)} {l l' : Layout} (h : p.TellsLayout ls l)
    (h' : p.TellsLayout ls l') : l = l' := by
  obtain ⟨size, slots⟩ := l
  obtain ⟨size', slots'⟩ := l'
  obtain ⟨first, rest, rfl, hsize, hslots⟩ := h
  obtain ⟨_, _, hls, hsize', hslots'⟩ := h'
  cases hls
  obtain rfl : size = size' := tellsSize_unique hsize hsize'
  obtain rfl : slots = slots' := tellsSlots_unique hslots hslots'
  rfl

theorem analyse_eq_ok_iff {q : StructProbe} {output : String} : p.analyse output = (.ok (), q) ↔
    ∃ layout, p.TellsLayout (lines output.toList) layout ∧ q = p.withLayout layout := by
  rcases p.analyse_cases output with ⟨told, htold, hread⟩ | ⟨k, reason, hdeviates, hread⟩
  · rw [hread, Prod.mk.injEq]
    refine ⟨fun h => ⟨told, htold, h.2.symm⟩, ?_⟩
    rintro ⟨layout, hlayout, rfl⟩
    exact ⟨rfl, congrArg p.withLayout (tellsLayout_unique htold hlayout)⟩
  · rw [hread]
    refine ⟨fun h => (nomatch h), ?_⟩
    rintro ⟨layout, hlayout, -⟩
    exact absurd (fitsUpTo_of_tellsLayout hlayout (k + 1)) hdeviates.2

/-- An analysis keeps what was declared, whether it succeeds or not. -/
theorem analyse_keeps {q : StructProbe} {output : String} {r : Except Error Unit}
    (h : p.analyse output = (r, q)) : q.name = p.name ∧ q.declared = p.declared := by
  rcases p.analyse_cases output with ⟨layout, htells, hread⟩ | ⟨k, reason, -, hread⟩
  · cases hread.symm.trans h
    exact ⟨rfl, declared_withLayout (length_of_tellsLayout htells)⟩
  · cases hread.symm.trans h
    exact ⟨rfl, rfl⟩

/-- What the lines tell depends on what was declared, and on nothing else. -/
theorem tellsLayout_congr {q : StructProbe} (hname : q.name = p.name) (hfields : q.declared = p.declared)
    {ls : List (List Char)} {layout : Layout} : q.TellsLayout ls layout ↔ p.TellsLayout ls layout := by
  unfold TellsLayout
  rw [hname, hfields]

/-- **The reader accepts the outputs that tell a layout, and no others.** For
every struct, with any names and whichever of its numbers it knew before: an
output is accepted if its lines tell a layout, and the struct then has the
numbers of this layout, its size and both numbers of every field. In every
other case one of the lines is the first that does not fit; the error shows
it, or nothing where the line is missing, and the struct has the numbers that
it had before, and no others. -/
theorem analyse_exact (p : StructProbe) (output : String) :
    (∀ q, p.analyse output = (.ok (), q) ↔
      ∃ layout, p.TellsLayout (lines output.toList) layout ∧ layout.slots.length = p.fields.length ∧
        q = { p with
          size := some layout.size
          fields := List.zipWith (fun f slot => { f with offset := some slot.offset, size := some slot.size })
            p.fields layout.slots }) ∧
    ((∃ layout, p.TellsLayout (lines output.toList) layout) ∨
      ∃ k reason, p.DeviatesAt (lines output.toList) k ∧
        p.analyse output =
          (.error (.formatMismatch p.label (String.ofList ((lines output.toList).getD k [])) reason), p)) := by
  refine ⟨fun q => analyse_eq_ok_iff.trans (exists_congr fun layout => and_congr_right fun htells => ?_), ?_⟩
  · exact (and_iff_right (length_of_tellsLayout htells)).symm
  · exact (p.analyse_cases output).imp_left fun ⟨layout, htells, _⟩ => ⟨layout, htells⟩

-- The end of a field is the sum of two numbers, however large they are.
example : ((StructProbe.ofDecl ⟨"s", [], [⟨"a", none⟩]⟩).analyse
    "sizeof(struct s) 8\na 18446744073709551615 9\n").1 =
      .error (.formatMismatch "struct s" "a 18446744073709551615 9" (.fieldPastEnd "a" 8)) := by
  decide +kernel

end StructProbe

end AbiProbe
