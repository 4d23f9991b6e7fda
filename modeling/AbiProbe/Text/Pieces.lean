/-
Cutting a text at every character of a class, and the lines of a text. A
line ends at a line feed; a carriage return right before the line feed is
part of the ending, any other one is part of the line.
-/

namespace AbiProbe.Text

/-- What one more character in front does to the pieces of a text: a
separator opens a piece, any other character joins the first one. -/
def addToPieces (p : Char → Bool) (c : Char) : List (List Char) → List (List Char)
  | [] => if p c then [[], []] else [[c]]
  | piece :: rest => if p c then [] :: piece :: rest else (c :: piece) :: rest

/-- The pieces between the characters that satisfy `p`: one more than there
are such characters, empty ones included. -/
def pieces (p : Char → Bool) (cs : List Char) : List (List Char) :=
  cs.foldr (addToPieces p) [[]]

@[simp] theorem pieces_nil (p : Char → Bool) : pieces p [] = [[]] := rfl

@[simp] theorem pieces_cons (p : Char → Bool) (c : Char) (cs : List Char) :
    pieces p (c :: cs) = addToPieces p c (pieces p cs) := rfl

theorem pieces_ne_nil (p : Char → Bool) (cs : List Char) : pieces p cs ≠ [] := by
  induction cs with
  | nil => simp
  | cons c cs ih =>
    cases h : pieces p cs with
    | nil => exact absurd h ih
    | cons piece rest => simp only [pieces_cons, h, addToPieces]; split <;> simp

theorem pieces_of_forall {p : Char → Bool} {cs : List Char} (h : ∀ c ∈ cs, p c = false) :
    pieces p cs = [cs] := by
  induction cs with
  | nil => rfl
  | cons c cs ih =>
    have hc := h c List.mem_cons_self
    have hcs := ih fun c hc => h c (List.mem_cons_of_mem _ hc)
    simp [hcs, addToPieces, hc]

/-- A separator ends a piece, so that those before it and after it are apart. -/
theorem pieces_append_separator {p : Char → Bool} (before : List Char) {c : Char} (hc : p c = true)
    (cs : List Char) : pieces p (before ++ c :: cs) = pieces p before ++ pieces p cs := by
  induction before with
  | nil =>
    cases hp : pieces p cs with
    | nil => exact absurd hp (pieces_ne_nil p cs)
    | cons first rest => simp [hp, addToPieces, hc]
  | cons b before ih =>
    cases hp : pieces p before with
    | nil => exact absurd hp (pieces_ne_nil p before)
    | cons first rest =>
      rw [List.cons_append, pieces_cons, pieces_cons, ih, hp, List.cons_append]
      simp only [addToPieces]
      split <;> rfl

/-- A separator after some other characters ends the first piece. -/
theorem pieces_append_cons {p : Char → Bool} {piece : List Char} (h : ∀ c ∈ piece, p c = false)
    {c : Char} (hc : p c = true) (cs : List Char) :
    pieces p (piece ++ c :: cs) = piece :: pieces p cs := by
  rw [pieces_append_separator piece hc, pieces_of_forall h, List.singleton_append]

/-- Pieces that each end with a separator, and nothing after the last one. -/
theorem pieces_flatMap {p : Char → Bool} {sep : Char} (hsep : p sep = true) {ls : List (List Char)}
    (h : ∀ l ∈ ls, ∀ c ∈ l, p c = false) : pieces p (ls.flatMap (· ++ [sep])) = ls ++ [[]] := by
  induction ls with
  | nil => rfl
  | cons l ls ih =>
    have hl := h l List.mem_cons_self
    have hls := ih fun l hl => h l (List.mem_cons_of_mem _ hl)
    rw [List.flatMap_cons, List.append_assoc, List.singleton_append, pieces_append_cons hl hsep, hls,
      List.cons_append]

/-- Pieces with a separator between each and the next. -/
theorem pieces_intercalate {p : Char → Bool} {sep : Char} (hsep : p sep = true)
    {ls : List (List Char)} (hne : ls ≠ []) (h : ∀ l ∈ ls, ∀ c ∈ l, p c = false) :
    pieces p ([sep].intercalate ls) = ls := by
  induction ls with
  | nil => exact absurd rfl hne
  | cons l ls ih =>
    have hl := h l List.mem_cons_self
    cases ls with
    | nil =>
      rw [List.intercalate_singleton]
      exact pieces_of_forall hl
    | cons l' ls =>
      have hls := ih (by simp) fun l hl => h l (List.mem_cons_of_mem _ hl)
      rw [List.intercalate_cons_cons, List.append_assoc, List.singleton_append,
        pieces_append_cons hl hsep, hls]

/-- Cutting at some separators, and then the pieces at all of them, is cutting
at all of them. -/
theorem flatMap_pieces {p q : Char → Bool} (h : ∀ c, p c = true → q c = true) (cs : List Char) :
    (pieces p cs).flatMap (pieces q) = pieces q cs := by
  induction cs with
  | nil => rfl
  | cons c cs ih =>
    cases hp : pieces p cs with
    | nil => exact absurd hp (pieces_ne_nil p cs)
    | cons first rest =>
      cases hq : pieces q first with
      | nil => exact absurd hq (pieces_ne_nil q first)
      | cons piece _ =>
        rw [hp, List.flatMap_cons, hq] at ih
        rw [pieces_cons, pieces_cons, hp, ← ih]
        simp only [addToPieces]
        cases hc : p c
        · cases hqc : q c <;> simp [hq, addToPieces, hqc]
        · simp [h c hc, hq]

/-- A piece holds characters of the text, and no separator. -/
theorem of_mem_pieces {p : Char → Bool} {cs piece : List Char} (h : piece ∈ pieces p cs) :
    ∀ c ∈ piece, c ∈ cs ∧ p c = false := by
  induction cs generalizing piece with
  | nil =>
    obtain rfl := List.mem_singleton.mp h
    simp
  | cons b cs ih =>
    cases hp : pieces p cs with
    | nil => exact absurd hp (pieces_ne_nil p cs)
    | cons first rest =>
      have htail : ∀ piece ∈ first :: rest, ∀ c ∈ piece, c ∈ b :: cs ∧ p c = false :=
        fun piece hpiece c hc => (ih (hp ▸ hpiece) c hc).imp_left (List.mem_cons_of_mem b)
      simp only [pieces_cons, hp, addToPieces] at h
      split at h
      · rcases List.mem_cons.mp h with rfl | h
        · simp
        · exact htail piece h
      next hb =>
        rcases List.mem_cons.mp h with rfl | h
        · intro c hc
          rcases List.mem_cons.mp hc with rfl | hc
          · exact ⟨List.mem_cons_self, by simpa using hb⟩
          · exact htail first List.mem_cons_self c hc
        · exact htail piece (List.mem_cons_of_mem first h)

/-- A line without the carriage return that precedes its line feed. -/
def dropReturn (line : List Char) : List Char :=
  if line.getLast? = some '\r' then line.dropLast else line

/-- The lines among the pieces between line feeds: all but the last piece
end in a line feed, and the last one is a line only if it holds something. -/
def linesOfPieces : List (List Char) → List (List Char)
  | [] => []
  | [last] => if last.isEmpty then [] else [last]
  | line :: rest => dropReturn line :: linesOfPieces rest

/-- A text without ends of lines. -/
def OneLine (cs : List Char) : Prop := ∀ c ∈ cs, c ≠ '\n' ∧ c ≠ '\r'

instance (cs : List Char) : Decidable (OneLine cs) :=
  List.decidableBAll (fun c => c ≠ '\n' ∧ c ≠ '\r') cs

theorem OneLine.append {a b : List Char} (ha : OneLine a) (hb : OneLine b) : OneLine (a ++ b) :=
  fun c hc => (List.mem_append.mp hc).elim (ha c) (hb c)

theorem OneLine.newline_not_mem {cs : List Char} (h : OneLine cs) : '\n' ∉ cs :=
  fun hmem => (h _ hmem).1 rfl

/-- The lines of a text, without their endings. -/
def lines (cs : List Char) : List (List Char) :=
  linesOfPieces (pieces (· == '\n') cs)

theorem linesOfPieces_append (before : List (List Char)) {after : List (List Char)} (h : after ≠ []) :
    linesOfPieces (before ++ after) = before.map dropReturn ++ linesOfPieces after := by
  induction before with
  | nil => rfl
  | cons line before ih =>
    have hne : before ++ after ≠ [] := by simp [h]
    rw [List.cons_append, linesOfPieces.eq_3 _ _ hne, ih, List.map_cons, List.cons_append]

/-- A line feed ends a line, so that the lines before it and after it are
apart. -/
theorem lines_append {before : List Char} (h : before = [] ∨ before.getLast? = some '\n')
    (after : List Char) : lines (before ++ after) = lines before ++ lines after := by
  rcases h with rfl | h
  · rfl
  · obtain ⟨cs, rfl⟩ := List.getLast?_eq_some_iff.mp h
    have hsep : ('\n' == '\n') = true := by decide
    rw [List.append_assoc, List.singleton_append, lines, lines,
      pieces_append_separator (p := (· == '\n')) cs hsep, pieces_append_separator (p := (· == '\n')) cs hsep,
      linesOfPieces_append _ (pieces_ne_nil _ _), linesOfPieces_append _ (pieces_ne_nil _ _)]
    simp [linesOfPieces, lines]

theorem dropReturn_sublist (line : List Char) : (dropReturn line).Sublist line := by
  unfold dropReturn
  split
  · exact List.dropLast_sublist line
  · exact List.Sublist.refl line

/-- A line is a piece, or what is left of one without its carriage return. -/
theorem sublist_of_mem_linesOfPieces {ps : List (List Char)} {line : List Char}
    (h : line ∈ linesOfPieces ps) : ∃ piece ∈ ps, line.Sublist piece := by
  induction ps using linesOfPieces.induct with
  | case1 => cases h
  | case2 last hlast => simp [linesOfPieces, hlast] at h
  | case3 last hlast =>
    simp only [linesOfPieces, hlast, Bool.false_eq_true, if_false, List.mem_singleton] at h
    exact ⟨last, List.mem_singleton_self last, h ▸ List.Sublist.refl last⟩
  | case4 first rest hrest ih =>
    rw [linesOfPieces.eq_3 _ _ hrest, List.mem_cons] at h
    rcases h with rfl | h
    · exact ⟨first, List.mem_cons_self, dropReturn_sublist first⟩
    · obtain ⟨piece, hpiece, hsub⟩ := ih h
      exact ⟨piece, List.mem_cons_of_mem first hpiece, hsub⟩

theorem newline_not_mem_of_mem_lines {cs line : List Char} (h : line ∈ lines cs) : '\n' ∉ line := by
  obtain ⟨piece, hpiece, hsub⟩ := sublist_of_mem_linesOfPieces h
  intro hmem
  exact absurd (of_mem_pieces hpiece '\n' (hsub.subset hmem)).2 (by decide)

/-- A text without line feeds is a single line. -/
theorem lines_of_newline_not_mem {cs : List Char} (hne : cs ≠ []) (h : '\n' ∉ cs) : lines cs = [cs] := by
  have hpieces : pieces (· == '\n') cs = [cs] := pieces_of_forall fun c hc =>
    beq_eq_false_iff_ne.mpr (ne_of_mem_of_not_mem hc h)
  simp [lines, hpieces, linesOfPieces, hne]

/-- Lines that are put together with their line feeds are taken apart again. -/
theorem lines_flatMap {ls : List (List Char)} (h : ∀ l ∈ ls, OneLine l) :
    lines (ls.flatMap (· ++ ['\n'])) = ls := by
  have hpieces : pieces (· == '\n') (ls.flatMap (· ++ ['\n'])) = ls ++ [[]] :=
    pieces_flatMap (by decide) fun l hl c hc => beq_eq_false_iff_ne.mpr (h l hl c hc).1
  have hdrop : ls.map dropReturn = ls := by
    refine (List.map_congr_left fun l hl => ?_).trans (List.map_id ls)
    have hlast : l.getLast? ≠ some '\r' := fun he => (h l hl _ (List.mem_of_getLast? he)).2 rfl
    rw [dropReturn, if_neg hlast, id]
  rw [lines, hpieces, linesOfPieces_append ls (by simp), hdrop]
  exact List.append_nil ls

/-- With a carriage return before each line feed, so are lines that end in
carriage returns of their own. -/
theorem lines_flatMap_return {ls : List (List Char)} (h : ∀ l ∈ ls, '\n' ∉ l) :
    lines (ls.flatMap (· ++ ['\r', '\n'])) = ls := by
  have hends : ls.flatMap (· ++ ['\r', '\n']) = (ls.map (· ++ ['\r'])).flatMap (· ++ ['\n']) := by
    simp [List.flatMap_map]
  have hpieces : pieces (· == '\n') ((ls.map (· ++ ['\r'])).flatMap (· ++ ['\n'])) =
      ls.map (· ++ ['\r']) ++ [[]] := by
    refine pieces_flatMap (by decide) fun l hl c hc => beq_eq_false_iff_ne.mpr ?_
    obtain ⟨line, hline, rfl⟩ := List.mem_map.mp hl
    rintro rfl
    simp [h line hline] at hc
  have hdrop : (ls.map (· ++ ['\r'])).map dropReturn = ls := by
    simp [dropReturn, Function.comp_def]
  rw [lines, hends, hpieces, linesOfPieces_append _ (by simp), hdrop]
  exact List.append_nil ls

end AbiProbe.Text
