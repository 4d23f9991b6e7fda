/-
White space, and the words of a text: the maximal runs of other characters.
White space is Unicode's property of that name, so a no-break space parts
words and a zero-width space does not.
-/
import AbiProbe.Text.CodePoints
import AbiProbe.Text.Pieces

namespace AbiProbe.Text

/-- The characters with Unicode's property White_Space. -/
def blankTable : CodePoints :=
  [(0x09, 0x0d), (0x20, 0x20), (0x85, 0x85), (0xa0, 0xa0), (0x1680, 0x1680), (0x2000, 0x200a),
  (0x2028, 0x2029), (0x202f, 0x202f), (0x205f, 0x205f), (0x3000, 0x3000)]

def isBlank (c : Char) : Bool := blankTable.holds c

/-- Whether a text holds nothing but white space. -/
def isBlankText (cs : List Char) : Bool := cs.all isBlank

/-- A text without the white space at its start. -/
def dropBlanks (cs : List Char) : List Char := cs.dropWhile isBlank

/-- A text without the white space at its end. -/
def dropBlanksEnd (cs : List Char) : List Char := (cs.reverse.dropWhile isBlank).reverse

/-- The maximal runs of characters that are not blank, in order. -/
def words (cs : List Char) : List (List Char) :=
  (pieces isBlank cs).filter (!·.isEmpty)

/-! ## Words

Everything about words follows from two equations: white space parts them
(`words_append_blank`), and without any there is one (`words_of_solid`). -/

@[simp] theorem words_nil : words [] = [] := rfl

theorem words_append_blank (before : List Char) {c : Char} (hc : isBlank c = true) (cs : List Char) :
    words (before ++ c :: cs) = words before ++ words cs := by
  rw [words, pieces_append_separator before hc, List.filter_append, words, words]

theorem words_of_solid {w : List Char} (hne : w ≠ []) (h : ∀ c ∈ w, isBlank c = false) : words w = [w] := by
  rw [words, pieces_of_forall h]
  simp [hne]

theorem words_cons_blank {c : Char} (hc : isBlank c = true) (cs : List Char) :
    words (c :: cs) = words cs :=
  words_append_blank [] hc cs

/-- White space in front of a text, like that after it, is in no word. -/
theorem words_append_left {gap : List Char} (h : ∀ c ∈ gap, isBlank c = true) (cs : List Char) :
    words (gap ++ cs) = words cs := by
  induction gap with
  | nil => rfl
  | cons c gap ih =>
    rw [List.cons_append, words_cons_blank (h c List.mem_cons_self),
      ih fun c hc => h c (List.mem_cons_of_mem _ hc)]

/-- White space parts words, however much of it there is. -/
theorem words_append_gap (before : List Char) {gap : List Char} (hne : gap ≠ [])
    (h : ∀ c ∈ gap, isBlank c = true) (cs : List Char) :
    words (before ++ (gap ++ cs)) = words before ++ words cs := by
  cases gap with
  | nil => exact absurd rfl hne
  | cons c gap =>
    rw [List.cons_append, words_append_blank before (h c List.mem_cons_self),
      words_append_left fun c hc => h c (List.mem_cons_of_mem _ hc)]

theorem words_append_right (cs : List Char) {gap : List Char} (h : ∀ c ∈ gap, isBlank c = true) :
    words (cs ++ gap) = words cs := by
  by_cases hne : gap = []
  · rw [hne, List.append_nil]
  · have hwords := words_append_gap cs hne h []
    rwa [List.append_nil, words_nil, List.append_nil] at hwords

theorem words_dropBlanks (cs : List Char) : words (dropBlanks cs) = words cs := by
  have hgap : ∀ c ∈ cs.takeWhile isBlank, isBlank c = true :=
    fun c hc => List.all_eq_true.mp List.all_takeWhile c hc
  rw [← words_append_left hgap, dropBlanks, List.takeWhile_append_dropWhile]

theorem words_dropBlanksEnd (cs : List Char) : words (dropBlanksEnd cs) = words cs := by
  have hgap : ∀ c ∈ (cs.reverse.takeWhile isBlank).reverse, isBlank c = true :=
    fun c hc => List.all_eq_true.mp List.all_takeWhile c (List.mem_reverse.mp hc)
  rw [← words_append_right _ hgap, dropBlanksEnd, ← List.reverse_append, List.takeWhile_append_dropWhile,
    List.reverse_reverse]

/-- A word is not empty and holds no white space. -/
theorem of_mem_words {cs w : List Char} (h : w ∈ words cs) : w ≠ [] ∧ ∀ c ∈ w, isBlank c = false := by
  obtain ⟨hpiece, hne⟩ := List.mem_filter.mp h
  exact ⟨by simpa using hne, fun c hc => (of_mem_pieces hpiece c hc).2⟩

/-- Words with a space between each and the next are read back. -/
theorem words_intercalate {ws : List (List Char)} (h : ∀ w ∈ ws, w ≠ [] ∧ ∀ c ∈ w, isBlank c = false) :
    words ([' '].intercalate ws) = ws := by
  cases ws with
  | nil => rfl
  | cons w ws =>
    rw [words, pieces_intercalate (by decide) (List.cons_ne_nil w ws) fun w hw => (h w hw).2]
    exact List.filter_eq_self.mpr fun w hw => by simpa using (h w hw).1

/-- A character that is not blank begins a word or joins the first one. -/
theorem words_cons_solid {c : Char} (hc : isBlank c = false) (cs : List Char) :
    ∃ tail ws, words (c :: cs) = (c :: tail) :: ws ∧ words cs = if tail = [] then ws else tail :: ws := by
  cases hp : pieces isBlank cs with
  | nil => exact absurd hp (pieces_ne_nil _ cs)
  | cons piece rest =>
    refine ⟨piece, rest.filter (!·.isEmpty), ?_, ?_⟩
    · simp [words, hp, addToPieces, hc]
    · by_cases hnil : piece = [] <;> simp [words, hp, hnil]

theorem flatten_words (cs : List Char) : (words cs).flatten = cs.filter (!isBlank ·) := by
  induction cs with
  | nil => rfl
  | cons c cs ih =>
    cases hc : isBlank c with
    | true => rw [words_cons_blank hc, ih, List.filter_cons_of_neg (by simp [hc])]
    | false =>
      obtain ⟨tail, ws, hwords, htail⟩ := words_cons_solid hc cs
      rw [List.filter_cons_of_pos (by simp [hc]), ← ih, hwords, htail]
      by_cases hnil : tail = [] <;> simp [hnil]

/-- The words of a text hold its characters as often as the text does. -/
theorem count_flatten_words {c : Char} (hc : isBlank c = false) (cs : List Char) :
    (words cs).flatten.count c = cs.count c := by
  rw [flatten_words]
  exact List.count_filter (by simp [hc])

end AbiProbe.Text
