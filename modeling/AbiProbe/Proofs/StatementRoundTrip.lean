/-
A statement says the entry that it was made of: reading it gives back the
published key and the value in its form (`read?_render`). So does each line of
a generated region, and different facts have different statements
(`region_reads`).

What quoting has to get right is said of one character at a time
(`quoteChar_cases`): it stands for itself, or a backslash and one more
character stand for it. A quoted string therefore holds no end of a line and
no quote but its own two, and no backslash in it escapes a `u`.
-/
import AbiProbe.Proofs.SinkFacts
import AbiProbe.Statement.Reading

namespace AbiProbe.Statement

open Text

/-! ## One character -/

/-- A character stands for itself inside a quoted string, or is written as an
escape. -/
theorem quoteChar_cases (c : Char) :
    (quoteChar c = [c] ∧ c ∉ ['"', '\\', '\n', '\r']) ∨
    ∃ d ∈ ['"', '\\', 'n', 'r', 't'], quoteChar c = ['\\', d] ∧ escaped? d = some c := by
  unfold quoteChar
  split
  next h =>
    subst h
    exact .inr ⟨'"', by simp, rfl, rfl⟩
  next hquote =>
  split
  next h =>
    subst h
    exact .inr ⟨'\\', by simp, rfl, rfl⟩
  next hslash =>
  split
  next h =>
    subst h
    exact .inr ⟨'n', by simp, rfl, rfl⟩
  next hfeed =>
  split
  next h =>
    subst h
    exact .inr ⟨'r', by simp, rfl, rfl⟩
  next hreturn =>
  split
  next h =>
    subst h
    exact .inr ⟨'t', by simp, rfl, rfl⟩
  next => exact .inl ⟨rfl, by simp [hquote, hslash, hfeed, hreturn]⟩

theorem readToQuote?_quoteChar (c : Char) (rest : List Char) :
    readToQuote? (quoteChar c ++ rest) =
      (readToQuote? rest).map fun (s, after) => (c :: s, after) := by
  rcases quoteChar_cases c with ⟨hc, hplain⟩ | ⟨d, -, hc, hd⟩
  · simp only [List.mem_cons, List.not_mem_nil, or_false, not_or] at hplain
    obtain ⟨hquote, hslash, hfeed, hreturn⟩ := hplain
    rw [hc, List.singleton_append, readToQuote?.eq_def]
    split <;> simp_all
  · simp [hc, readToQuote?, hd]

theorem readToQuote?_quote (cs rest : List Char) :
    readToQuote? (cs.flatMap quoteChar ++ '"' :: rest) = some (cs, rest) := by
  induction cs with
  | nil => rfl
  | cons c cs ih => rw [List.flatMap_cons, List.append_assoc, readToQuote?_quoteChar, ih, Option.map_some]

theorem oneLine_quoteChar (c : Char) : OneLine (quoteChar c) := by
  rcases quoteChar_cases c with ⟨hc, hplain⟩ | ⟨d, hd, hc, -⟩
  · rw [hc]
    intro b hb
    obtain rfl := List.mem_singleton.mp hb
    simp only [List.mem_cons, not_or] at hplain
    exact ⟨hplain.2.2.1, hplain.2.2.2.1⟩
  · have hescape : ∀ d ∈ ['"', '\\', 'n', 'r', 't'], OneLine ['\\', d] := by
      simp only [List.forall_mem_cons, List.not_mem_nil, false_implies, implies_true, and_true]
      decide
    exact hc ▸ hescape d hd

/-! ## Unicode escapes -/

/-- No backslash makes an escape of a `u`: wherever a run of backslashes
begins that a `u` follows, its length is even. -/
def NoUnicodeEscape (cs : List Char) : Prop :=
  ∀ before n after, cs = before ++ List.replicate n '\\' ++ 'u' :: after →
    before.getLast? ≠ some '\\' → n % 2 = 0

namespace NoUnicodeEscape

variable {cs : List Char}

theorem nil : NoUnicodeEscape [] := by
  intro before n after h
  simp at h

theorem cons {c : Char} (hc : c ≠ '\\') (h : NoUnicodeEscape cs) : NoUnicodeEscape (c :: cs) := by
  intro before n after hcut hlast
  cases before with
  | nil =>
    cases n with
    | zero => rfl
    | succ n => exact absurd (List.cons.inj hcut).1 hc
  | cons b before =>
    refine h before n after (List.cons.inj hcut).2 fun hb => hlast ?_
    rw [List.getLast?_cons, hb]
    rfl

/-- An escape in front, if it is not one of a `u`. -/
theorem escape {d : Char} (hd : d ≠ 'u') (h : NoUnicodeEscape cs) :
    NoUnicodeEscape ('\\' :: d :: cs) := by
  intro before n after hcut hlast
  match before, n with
  | [], 0 => rfl
  | [], 1 =>
    have := (List.cons.inj (List.cons.inj hcut).2).1
    exact absurd this hd
  | [], n + 2 =>
    have hrest : cs = [] ++ List.replicate n '\\' ++ 'u' :: after :=
      (List.cons.inj (List.cons.inj hcut).2).2
    have heven := h [] n after hrest (by simp)
    omega
  | [b], n =>
    obtain rfl : '\\' = b := (List.cons.inj hcut).1
    exact absurd rfl hlast
  | b :: b' :: before, n =>
    refine h before n after (List.cons.inj (List.cons.inj hcut).2).2 fun hb => hlast ?_
    rw [List.getLast?_cons, List.getLast?_cons, hb]
    rfl

theorem quoteChar (c : Char) (h : NoUnicodeEscape cs) : NoUnicodeEscape (quoteChar c ++ cs) := by
  rcases quoteChar_cases c with ⟨hc, hplain⟩ | ⟨d, hd, hc, -⟩
  · rw [hc]
    refine h.cons ?_
    rintro rfl
    simp at hplain
  · rw [hc]
    refine h.escape ?_
    rintro rfl
    simp at hd

end NoUnicodeEscape

/-! ## Strings -/

theorem toList_quote (s : String) : (quote s).toList = '"' :: (s.toList.flatMap quoteChar ++ ['"']) := by
  simp [quote]

/-- A string is read as the text that was quoted, up to its own last quote. -/
theorem readString?_quote (s : String) (rest : List Char) :
    readString? ((quote s).toList ++ rest) = some (s, rest) := by
  have hopen : after? "\"" ((quote s).toList ++ rest) =
      some (s.toList.flatMap quoteChar ++ '"' :: rest) := by
    have h := after?_append "\"" (s.toList.flatMap quoteChar ++ '"' :: rest)
    simpa [toList_quote] using h
  simp [readString?, hopen, readToQuote?_quote, String.ofList_toList]

theorem oneLine_quote (s : String) : OneLine (quote s).toList := by
  have hquote : OneLine ['"'] := by decide
  have htext : OneLine (s.toList.flatMap quoteChar) := by
    intro b hb
    obtain ⟨c, -, hc⟩ := List.mem_flatMap.mp hb
    exact oneLine_quoteChar c b hc
  rw [toList_quote]
  exact hquote.append (htext.append hquote)

theorem noUnicodeEscape_quote (s : String) : NoUnicodeEscape (quote s).toList := by
  rw [toList_quote]
  refine .cons (by decide) ?_
  induction s.toList with
  | nil => exact .cons (by decide) .nil
  | cons c cs ih =>
    rw [List.flatMap_cons, List.append_assoc]
    exact ih.quoteChar c

/-! ## Literals -/

theorem readCall?_quote (call s : String) (rest : List Char) :
    readCall? call (call.toList ++ ((quote s).toList ++ ')' :: rest)) = some (s, rest) := by
  have hclose : after? ")" (')' :: rest) = some rest := after?_append ")" rest
  simp [readCall?, after?_append, readString?_quote, hclose]

/-- A numeral is taken as a whole where a character follows that is no part
of one. -/
theorem takeWhile_numeral (n : Int) {c : Char} (hc : (c == '-' || Decimal.isDigit c) = false)
    (rest : List Char) :
    (Decimal.numeral n ++ c :: rest).takeWhile (fun c => c == '-' || Decimal.isDigit c) =
      Decimal.numeral n := by
  have hall : ∀ b ∈ Decimal.numeral n, (b == '-' || Decimal.isDigit b) = true := by
    intro b hb
    simpa using Decimal.mem_numeral hb
  rw [List.takeWhile_append_of_pos hall, List.takeWhile_cons, if_neg (by simp [hc]), List.append_nil]

theorem readNumber?_integer (n : Int32) (rest : List Char) :
    readNumber? (Decimal.numeral n.toInt ++ ')' :: rest) = some (.integer n, ')' :: rest) := by
  have hfits : Value.Fits32 n.toInt := by
    have hlow := n.le_toInt
    have hhigh := n.toInt_lt
    unfold Value.Fits32
    omega
  simp [readNumber?, takeWhile_numeral n.toInt (c := ')') (by decide) rest, Decimal.integer?_numeral,
    hfits, Int32.ofInt_toInt]

theorem readNumber?_wide (n : Int64) (rest : List Char) :
    readNumber? (Decimal.numeral n.toInt ++ 'L' :: rest) = some (.wide n, rest) := by
  have hfits : Value.Fits64 n.toInt := by
    have hlow := n.le_toInt
    have hhigh := n.toInt_lt
    unfold Value.Fits64
    omega
  simp [readNumber?, takeWhile_numeral n.toInt (c := 'L') (by decide) rest, Decimal.integer?_numeral,
    hfits, Int64.ofInt_toInt]

/-- A numeral begins like none of the other literals. -/
theorem readLiteral?_numeral (n : Int) (rest : List Char) :
    readLiteral? (Decimal.numeral n ++ rest) = readNumber? (Decimal.numeral n ++ rest) := by
  obtain ⟨c, cs, hn⟩ := List.exists_cons_of_ne_nil (Decimal.numeral_ne_nil n)
  have hc : c = '-' ∨ Decimal.isDigit c = true := Decimal.mem_numeral (hn ▸ List.mem_cons_self)
  have hletters : ∀ d ∈ ['t', 'f', 'n', 's'], d ≠ '-' ∧ Decimal.isDigit d = false := by
    simp only [List.forall_mem_cons, List.not_mem_nil, false_implies, implies_true, and_true]
    decide
  have hother : ∀ d ∈ ['t', 'f', 'n', 's'], c ≠ d := by
    rintro d hd rfl
    obtain ⟨hminus, hdigit⟩ := hletters c hd
    rcases hc with hc | hc
    · exact hminus hc
    · exact absurd hc (by simp [hdigit])
  unfold readLiteral?
  rw [hn, List.cons_append, List.head?_cons]
  split <;> simp_all

/-- A literal is read as the value that it was made of, in the same form. -/
theorem readLiteral?_literal (v : Value) (rest : List Char) :
    readLiteral? ((literal v).toList ++ ')' :: rest) = some (v, ')' :: rest) := by
  unfold literal
  cases v with
  | integer n =>
    have hchars : (Value.integer n).toText.toList = Decimal.numeral n.toInt := String.toList_ofList
    simp only [hchars]
    rw [readLiteral?_numeral, readNumber?_integer]
  | wide n =>
    have hchars : (Value.wide n).toText.toList = Decimal.numeral n.toInt := String.toList_ofList
    simp only [String.toList_append, hchars, List.append_assoc]
    exact (readLiteral?_numeral _ _).trans (readNumber?_wide n _)
  | bignum numeral =>
    have hcall := readCall?_quote "newBignum(context, " numeral (')' :: rest)
    simpa [readLiteral?] using hcall
  | boolean b =>
    cases b with
    | false => simpa [Value.toText, readLiteral?] using after?_append "false" (')' :: rest)
    | true => simpa [Value.toText, readLiteral?] using after?_append "true" (')' :: rest)
  | text s =>
    have hcall := readCall?_quote "string(context, " s (')' :: rest)
    simpa [readLiteral?] using hcall

/-! ## Statements -/

theorem toList_render (root : String) (e : Entry) :
    (render root e).toList = "configuration.config(".toList ++ ((quote (e.qualifiedKey root)).toList ++
      (", ".toList ++ ((literal e.value).toList ++ [')', ';']))) := by
  unfold render
  simp only [String.toList_append, List.append_assoc]
  rfl

theorem oneLine_literal (v : Value) : OneLine (literal v).toList := by
  unfold literal
  cases v with
  | integer n =>
    exact (String.toList_ofList (l := Decimal.numeral n.toInt)).symm ▸ Decimal.oneLine_numeral _
  | wide n =>
    rw [String.toList_append]
    exact .append ((String.toList_ofList (l := Decimal.numeral n.toInt)).symm ▸ Decimal.oneLine_numeral _)
      (by decide)
  | bignum numeral =>
    rw [String.toList_append, String.toList_append]
    exact .append (.append (by decide) (oneLine_quote numeral)) (by decide)
  | boolean b => cases b <;> decide
  | text s =>
    rw [String.toList_append, String.toList_append]
    exact .append (.append (by decide) (oneLine_quote s)) (by decide)

/-- A statement stands on one line, whatever its entry holds. -/
theorem oneLine_render (root : String) (e : Entry) : OneLine (render root e).toList := by
  rw [toList_render]
  exact .append (by decide) (.append (oneLine_quote _)
    (.append (by decide) (.append (oneLine_literal e.value) (by decide))))

/-- Reading a statement gives the published key and the value back. -/
theorem read?_render (root : String) (e : Entry) :
    read? (render root e).toList = some (e.qualifiedKey root, e.value) := by
  simp only [read?, toList_render, after?_append, readString?_quote, readLiteral?_literal,
    Option.bind_eq_bind, Option.bind_some]
  rfl

/-- Different facts have different statements. -/
theorem eq_of_render_eq {root : String} {e e' : Entry} (h : render root e = render root e') :
    e.qualifiedKey root = e'.qualifiedKey root ∧ e.value = e'.value := by
  have hread := read?_render root e
  rw [h, read?_render] at hread
  obtain ⟨hkey, hvalue⟩ := Prod.mk.inj (Option.some.inj hread)
  exact ⟨hkey.symm, hvalue.symm⟩

/-! ## Regions -/

/-- The lines of some statements: after the indent each one is read as its
entry. -/
theorem readLines_region {indent : String} (hindent : '\n' ∉ indent.toList) (root : String)
    (es : List Entry) :
    readLines indent (String.join (es.map fun e => indent ++ render root e ++ "\n")).toList =
      es.map fun e => some (e.qualifiedKey root, e.value) := by
  have hchars : (String.join (es.map fun e => indent ++ render root e ++ "\n")).toList =
      (es.map fun e => indent.toList ++ (render root e).toList).flatMap (· ++ ['\n']) := by
    simp [String.toList_join, List.flatMap_map]
  have hlines : ∀ l ∈ es.map (fun e => indent.toList ++ (render root e).toList), ∀ c ∈ l,
      (c == '\n') = false := by
    intro l hl c hc
    obtain ⟨e, -, rfl⟩ := List.mem_map.mp hl
    rw [beq_eq_false_iff_ne]
    rintro rfl
    rcases List.mem_append.mp hc with hc | hc
    · exact hindent hc
    · exact (oneLine_render root e).newline_not_mem hc
  rw [readLines, hchars, pieces_flatMap (by rfl) hlines, List.dropLast_concat, List.map_map]
  refine List.map_congr_left fun e _ => ?_
  simp only [Function.comp_apply, after?_append, Option.bind_some, read?_render]

/-- **Statements say what was registered.** A sink that has taken entries has
a region whose first line is its comment; the lines after it are one for each
entry, in order, and each one is read as the published key and the value of
its entry, in the same form. A quoted string is read as its text, up to its
own last quote, stands on one line and has no Unicode escape. So two
statements are the same only for the same key and value. -/
theorem region_reads {s : PatchSink} (hopen : s.finished = false) (hnew : s.statements = [])
    (hindent : '\n' ∉ s.indent.toList) (faults : Faults) (es : List Entry) (fs : FileSystem) :
    (∃ s' lines, saveAll (PatchSink.sink faults) es (s, fs) = (.ok (), s', fs) ∧
      s'.region = s.indent ++ s.comment ++ "\n" ++ lines ∧
      readLines s.indent lines.toList = es.map fun e => some (e.qualifiedKey s.root, e.value)) ∧
    (∀ text rest, readString? ((quote text).toList ++ rest) = some (text, rest) ∧
      OneLine (quote text).toList ∧ NoUnicodeEscape (quote text).toList) ∧
    ∀ root e e', render root e = render root e' ↔
      e.qualifiedKey root = e'.qualifiedKey root ∧ e.value = e'.value := by
  refine ⟨⟨_, _, PatchSink.saveAll_sink hopen faults es fs, ?_, readLines_region hindent s.root es⟩,
    fun text rest => ⟨readString?_quote text rest, oneLine_quote text, noUnicodeEscape_quote text⟩,
    fun root e e' => ⟨eq_of_render_eq, fun ⟨hkey, hvalue⟩ => ?_⟩⟩
  · simp [PatchSink.region, hnew, Function.comp_def]
  · unfold render
    rw [hkey, hvalue]

/-- Facts that look like one another: a key with a quote and a line feed in
it, and the text of an integer. -/
theorem region_reads_lookalikes :
    ∃ s' lines, saveAll (PatchSink.sink Faults.none) [⟨"k\"\n", .wide 5⟩, ⟨"k", .text "5L"⟩]
        (⟨"T", "r", " ", "A", "B", "c", [], false⟩, .empty) = (.ok (), s', .empty) ∧
      s'.region = " c\n" ++ lines ∧
      readLines " " lines.toList = [some ("r.k\"\n", .wide 5), some ("r.k", .text "5L")] := by
  obtain ⟨⟨s', lines, hsave, hregion, hread⟩, -⟩ :=
    @region_reads ⟨"T", "r", " ", "A", "B", "c", [], false⟩ rfl rfl (by decide) Faults.none
      [⟨"k\"\n", .wide 5⟩, ⟨"k", .text "5L"⟩] .empty
  exact ⟨s', lines, hsave, hregion, hread⟩

end AbiProbe.Statement
