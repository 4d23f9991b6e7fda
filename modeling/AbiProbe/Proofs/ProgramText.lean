/-
The text of generated programs, and what it prints. A program is a row of
lines (`toList_printing`), of which the ones around the statements of `main`
print nothing (`Silent`).

A call is written from a format and from what it measures (`callLine`). Read
again, it measures the same (`readMeasure?_text`), and its format prints the
numbers between the texts that stand in it (`expand?_append`,
`expand?_number`). Names are identifiers, so none of them ends a format early,
makes a directive in one, or goes on into what follows it. Headers only have
to stay on their lines.
-/
import AbiProbe.Probe.Execution
import AbiProbe.Probe.Program
import AbiProbe.Proofs.StatementRoundTrip
import AbiProbe.Proofs.ValidCatalog
import Mathlib.Data.List.Basic

namespace AbiProbe.Program

open Text

/-! ## Lines of a program -/

/-- The lines before the statements of a program. -/
def opening (headers : List String) : List String :=
  "#include <stdio.h>" :: headers.map (fun h => "#include <" ++ h ++ ">") ++
    ["#include <stddef.h>", "", "int main(int argc, char **argv) \x7b"]

/-- The lines after the statements. -/
def closing : List String := ["", "  return 0;", "\x7d"]

theorem toList_includeLines (headers : List String) :
    (includeLines headers).toList =
      (headers.map fun h => ("#include <" ++ h ++ ">").toList).flatMap (· ++ ['\n']) := by
  simp [includeLines, includeLine, String.toList_join, List.flatMap_map]

/-- A program is its lines, each with a line feed. -/
theorem toList_printing (headers : List String) {statements : String} {ls : List String}
    (h : statements.toList = (ls.map String.toList).flatMap (· ++ ['\n'])) :
    (printing headers statements).toList =
      ((opening headers ++ ls ++ closing).map String.toList).flatMap (· ++ ['\n']) := by
  simp only [printing, String.toList_append, toList_includeLines, h, opening, closing, includeLine,
    List.map_append, List.map_cons, List.map_map, List.flatMap_append, List.flatMap_cons]
  simp [Function.comp_def]

/-- What a call measures, as it is written. The texts are long, so each case
has its own equation by `rfl`. -/
def Measure.text : Measure → String
  | .structSize struct => "(unsigned int) sizeof(struct " ++ struct ++ ")"
  | .fieldOffset struct field => "(unsigned int) offsetof(struct " ++ struct ++ ", " ++ field ++ ")"
  | .fieldSize field => "(unsigned int) sizeof(s." ++ field ++ ")"

theorem Measure.text_structSize (struct : String) :
    (Measure.structSize struct).text = "(unsigned int) sizeof(struct " ++ struct ++ ")" := rfl

theorem Measure.text_fieldOffset (struct field : String) : (Measure.fieldOffset struct field).text =
    "(unsigned int) offsetof(struct " ++ struct ++ ", " ++ field ++ ")" := rfl

theorem Measure.text_fieldSize (field : String) :
    (Measure.fieldSize field).text = "(unsigned int) sizeof(s." ++ field ++ ")" := rfl

/-- The line of a call. -/
def callLine (format : String) (ms : List Measure) : String :=
  "  printf(\"" ++ format ++ "\"" ++ String.join (ms.map fun m => ", " ++ m.text) ++ ");"

/-- What a call has after its format. -/
def arguments : List Measure → List Char
  | [] => ");".toList
  | m :: ms => ", ".toList ++ (m.text.toList ++ arguments ms)

theorem toList_callLine (format : String) (ms : List Measure) : (callLine format ms).toList =
    "  printf(\"".toList ++ (format.toList ++ '"' :: arguments ms) := by
  have harguments :
      (String.join (ms.map fun m => ", " ++ m.text)).toList ++ ");".toList = arguments ms := by
    induction ms with
    | nil => rfl
    | cons m ms ih =>
      rw [arguments, ← ih]
      simp
  rw [← harguments]
  simp [callLine]

/-! ## Lines that print nothing -/

/-- A line that neither prints nor declares anything. -/
def Silent (line : List Char) : Prop := after? "  printf(\"" line = none ∧ declared? line = none

instance (line : List Char) : Decidable (Silent line) := inferInstanceAs (Decidable (_ ∧ _))

theorem silent_of_ne_space {c : Char} (h : c ≠ ' ') (cs : List Char) : Silent (c :: cs) := by
  have hword (word : List Char) : (' ' :: word).isPrefixOf? (c :: cs) = none := by
    simp [List.isPrefixOf?, Ne.symm h]
  constructor
  · exact hword _
  · simp only [declared?, after?]
    rw [show "  struct ".toList = ' ' :: " struct ".toList from rfl, hword]
    rfl

theorem silent_opening (headers : List String) : ∀ l ∈ (opening headers).map String.toList, Silent l := by
  have hinclude (rest : List Char) : Silent ("#include <".toList ++ rest) :=
    silent_of_ne_space (by decide) _
  intro l hl
  simp only [opening, List.map_append, List.map_cons, List.map_nil, List.map_map, List.cons_append,
    List.mem_cons, List.mem_append, List.mem_map, List.not_mem_nil, or_false] at hl
  rcases hl with rfl | ⟨h, -, rfl⟩ | rfl | rfl | rfl
  · decide
  · simp only [Function.comp_apply, String.toList_append, List.append_assoc]
    exact hinclude _
  · decide
  · decide
  · decide

theorem silent_closing : ∀ l ∈ closing.map String.toList, Silent l := by
  decide

variable {t : Target} {s : Option String}

theorem outputOfLines?_silent {ls : List (List Char)} (h : ∀ l ∈ ls, Silent l) (rest : List (List Char)) :
    outputOfLines? t s (ls ++ rest) = outputOfLines? t s rest := by
  induction ls with
  | nil => rfl
  | cons l ls ih =>
    obtain ⟨hl, hls⟩ := List.forall_mem_cons.mp h
    rw [List.cons_append, outputOfLines?, hl.1, hl.2]
    exact ih hls

/-! ## Reading names -/

/-- A name is read up to the first character that is not part of one. -/
theorem readName_append {name : String} (hname : isIdentifier name = true) {c : Char}
    (hc : isAsciiWord c = false) (cs : List Char) : readName (name.toList ++ c :: cs) = (name, c :: cs) := by
  have htake : (name.toList ++ c :: cs).takeWhile isAsciiWord = name.toList := by
    rw [List.takeWhile_append_of_pos (isAsciiWord_of_isIdentifier hname), List.takeWhile_cons,
      if_neg (by simp [hc]), List.append_nil]
  simp [readName, htake]

theorem declared?_line {name : String} (hname : isIdentifier name = true) :
    declared? ("  struct " ++ name ++ " s;").toList = some name := by
  have hread : readName (name.toList ++ " s;".toList) = (name, " s;".toList) :=
    readName_append hname (by decide) "s;".toList
  simp only [declared?, String.toList_append, List.append_assoc, after?_append, Option.bind_eq_bind,
    Option.bind_some, hread]
  rfl

/-- The names in what a call measures are identifiers. -/
def Measure.Named : Measure → Prop
  | .structSize struct => isIdentifier struct = true
  | .fieldOffset struct field => isIdentifier struct = true ∧ isIdentifier field = true
  | .fieldSize field => isIdentifier field = true

theorem readMeasure?_text {m : Measure} (h : m.Named) (cs : List Char) :
    readMeasure? (m.text.toList ++ cs) = some (m, cs) := by
  have hclose : after? ")" (')' :: cs) = some cs := after?_append ")" cs
  cases m with
  | structSize struct =>
    have htext : (Measure.structSize struct).text.toList ++ cs =
        "(unsigned int) ".toList ++ ("sizeof(".toList ++ ("struct ".toList ++
          (struct.toList ++ ')' :: cs))) := by
      rw [Measure.text_structSize]
      simp
    have hstruct := readName_append (show isIdentifier struct = true from h) (c := ')') (by decide) cs
    have hsize (rest : List Char) : after? "offsetof(struct " ("sizeof(".toList ++ rest) = none := rfl
    rw [htext]
    simp only [readMeasure?, after?_append, Option.bind_eq_bind, Option.bind_some, hsize, hstruct,
      hclose]
    rfl
  | fieldOffset struct field =>
    have htext : (Measure.fieldOffset struct field).text.toList ++ cs =
        "(unsigned int) ".toList ++ ("offsetof(struct ".toList ++ (struct.toList ++ ',' ::
          (' ' :: (field.toList ++ ')' :: cs)))) := by
      rw [Measure.text_fieldOffset]
      simp
    have hstruct := readName_append h.1 (c := ',') (by decide) (' ' :: (field.toList ++ ')' :: cs))
    have hcomma (rest : List Char) : after? ", " (',' :: ' ' :: rest) = some rest := after?_append ", " rest
    have hfield := readName_append h.2 (c := ')') (by decide) cs
    rw [htext]
    simp only [readMeasure?, after?_append, Option.bind_eq_bind, Option.bind_some, hstruct, hcomma, hfield,
      hclose]
    rfl
  | fieldSize field =>
    have htext : (Measure.fieldSize field).text.toList ++ cs =
        "(unsigned int) ".toList ++ ("sizeof(".toList ++ ("s.".toList ++ (field.toList ++ ')' :: cs))) := by
      rw [Measure.text_fieldSize]
      simp
    have hfield := readName_append (show isIdentifier field = true from h) (c := ')') (by decide) cs
    have hsize (rest : List Char) : after? "offsetof(struct " ("sizeof(".toList ++ rest) = none := rfl
    have hstruct (rest : List Char) : after? "struct " ("s.".toList ++ rest) = none := rfl
    rw [htext]
    simp only [readMeasure?, after?_append, Option.bind_eq_bind, Option.bind_some, hsize, hstruct, hfield,
      hclose]
    rfl

/-! ## Printing -/

/-- A text that a format prints as it is, and that does not end one. -/
def Literal (cs : List Char) : Prop := ∀ c ∈ cs, c ≠ '%' ∧ c ≠ '\\' ∧ c ≠ '"'

instance (cs : List Char) : Decidable (Literal cs) :=
  List.decidableBAll (fun c => c ≠ '%' ∧ c ≠ '\\' ∧ c ≠ '"') cs

theorem Literal.append {a b : List Char} (ha : Literal a) (hb : Literal b) : Literal (a ++ b) :=
  fun c hc => (List.mem_append.mp hc).elim (ha c) (hb c)

theorem Literal.quote_not_mem {cs : List Char} (h : Literal cs) : '"' ∉ cs :=
  fun hmem => (h _ hmem).2.2 rfl

theorem literal_of_isIdentifier {name : String} (h : isIdentifier name = true) : Literal name.toList := by
  refine fun c hc => ⟨?_, ?_, ?_⟩ <;> (rintro rfl; exact not_mem_of_isIdentifier h (by decide) hc)

theorem expand?_append {cs : List Char} (h : Literal cs) (format rest : List Char) :
    expand? t s (cs ++ format) rest = (expand? t s format rest).map (cs ++ ·) := by
  induction cs with
  | nil => simp
  | cons c cs ih =>
    obtain ⟨⟨hpercent, hbackslash, -⟩, hcs⟩ := List.forall_mem_cons.mp h
    rw [List.cons_append, expand?, if_neg (by simp [hpercent, hbackslash]), ih hcs]
    · cases expand? t s format rest <;> rfl
    · simp [hpercent]
    · simp [hbackslash]

/-- A directive prints what its argument measures. -/
theorem expand?_number {m : Measure} (h : m.Named) {n : Nat} (hn : t.measure s m = some n)
    (format : List Char) (ms : List Measure) :
    expand? t s ('%' :: 'u' :: format) (arguments (m :: ms)) =
      (expand? t s format (arguments ms)).map (Decimal.digits (wrap n) ++ ·) := by
  simp only [expand?, arguments, after?_append, Option.bind_eq_bind, Option.bind_some,
    readMeasure?_text h, hn]
  cases expand? t s format (arguments ms) <;> rfl

theorem expand?_newline : expand? t s ['\\', 'n'] (arguments []) = some ['\n'] := rfl

/-- A call prints what its format expands to. -/
theorem outputOfLines?_call {format : String} (hquote : '"' ∉ format.toList) {ms : List Measure}
    {out : List Char} (hout : expand? t s format.toList (arguments ms) = some out)
    (rest : List (List Char)) :
    outputOfLines? t s ((callLine format ms).toList :: rest) = (outputOfLines? t s rest).map (out ++ ·) := by
  have htake : (format.toList ++ '"' :: arguments ms).takeWhile (· != '"') = format.toList := by
    have hall : ∀ c ∈ format.toList, (c != '"') = true := by
      intro c hc
      rw [bne_iff_ne]
      rintro rfl
      exact hquote hc
    rw [List.takeWhile_append_of_pos hall]
    simp
  have hdrop : (format.toList ++ '"' :: arguments ms).drop (format.toList.length + 1) = arguments ms := by
    rw [← List.drop_drop, List.drop_left, List.drop_succ_cons, List.drop_zero]
  simp only [outputOfLines?, toList_callLine, after?_append, printed?, htake, hdrop, hout]
  cases outputOfLines? t s rest <;> rfl

/-! ## Lines hold no line feeds -/

theorem oneLine_of_isIdentifier {name : String} (h : isIdentifier name = true) :
    Text.OneLine name.toList := by
  refine fun c hc => ⟨?_, ?_⟩ <;> (rintro rfl; exact not_mem_of_isIdentifier h (by decide) hc)

theorem newline_not_mem_name {name : String} (h : isIdentifier name = true) : '\n' ∉ name.toList :=
  (oneLine_of_isIdentifier h).newline_not_mem

theorem newline_not_mem_opening {headers : List String} (h : ∀ x ∈ headers, isHeader x = true) :
    ∀ l ∈ opening headers, '\n' ∉ l.toList := by
  have hheader : ∀ x ∈ headers, '\n' ∉ x.toList := fun x hx => not_mem_of_isHeader (h x hx) (by decide)
  intro l hl
  simp only [opening, List.cons_append, List.mem_cons, List.mem_append, List.mem_map, List.not_mem_nil,
    or_false] at hl
  rcases hl with rfl | ⟨x, hx, rfl⟩ | rfl | rfl | rfl
  · decide
  · simp [hheader x hx]
  · decide
  · decide
  · decide

theorem newline_not_mem_closing : ∀ l ∈ closing, '\n' ∉ l.toList := by
  decide

theorem newline_not_mem_callLine {format : String} (hformat : '\n' ∉ format.toList) {ms : List Measure}
    (hms : ∀ m ∈ ms, m.Named) : '\n' ∉ (callLine format ms).toList := by
  have htext : ∀ m ∈ ms, '\n' ∉ m.text.toList := by
    intro m hm
    have hnamed := hms m hm
    cases m with
    | structSize struct =>
      have hstruct := newline_not_mem_name (show isIdentifier struct = true from hnamed)
      rw [Measure.text_structSize]
      simp [hstruct]
    | fieldOffset struct field =>
      rw [Measure.text_fieldOffset]
      simp [newline_not_mem_name hnamed.1, newline_not_mem_name hnamed.2]
    | fieldSize field =>
      have hfield := newline_not_mem_name (show isIdentifier field = true from hnamed)
      rw [Measure.text_fieldSize]
      simp [hfield]
  simpa [callLine, hformat, String.toList_join] using htext

end AbiProbe.Program
