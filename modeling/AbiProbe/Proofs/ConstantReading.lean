/-
A group accepts the outputs in which every line tells a text for a declared
name, and no others; it then knows the last text of each name, and otherwise
the first line that is not accepted is in the error and nothing has changed
(`analyse_all_or_nothing`). Lines are read one by one until one fails
(`mapM_eq_error`), which sets no value (`readLines_eq`); values are set after
all lines are read.
-/
import AbiProbe.Proofs.ConstantHistory

namespace AbiProbe

open Text

namespace ConstantProbe

variable {p q : ConstantProbe} {line : List Char} {name text output : String}

/-! ## Lines -/

theorem tellsText_iff : TellsText line name text ↔ nameAndValue? line = some (name.toList, text.toList) := by
  rw [nameAndValue?_eq_some_iff, TellsText, ne_eq, ne_eq, String.toList_eq_nil_iff]

theorem takes_iff : p.Takes line ↔
    ∃ name text, nameAndValue? line = some (name, text) ∧ String.ofList name ∈ p.constants.keys := by
  simp only [Takes, tellsText_iff]
  constructor
  · rintro ⟨name, text, hread, hmem⟩
    exact ⟨name.toList, text.toList, hread, by rwa [String.ofList_toList]⟩
  · rintro ⟨name, text, hread, hmem⟩
    exact ⟨String.ofList name, String.ofList text, by simpa using hread, hmem⟩

/-- A line that is not accepted is a mismatch. If it tells a text, its name is
not declared. -/
theorem readLine_of_not_takes (h : ¬ p.Takes line) : ∃ reason,
    p.readLine line = .error (.formatMismatch p.label (String.ofList line) reason) ∧
      ((∃ name text, TellsText line name text ∧ name ∉ p.constants.keys ∧ reason = .undeclared name) ∨
        (∀ name text, ¬ TellsText line name text) ∧ reason = .constantLine) := by
  unfold readLine
  split
  next hnone =>
    refine ⟨_, rfl, .inr ⟨fun name text htells => ?_, rfl⟩⟩
    rw [tellsText_iff, hnone] at htells
    cases htells
  next name value hread =>
    have htells : TellsText line (String.ofList name) (String.ofList value) :=
      tellsText_iff.mpr (by simpa using hread)
    have hnew : String.ofList name ∉ p.constants.keys := fun hmem => h ⟨_, _, htells, hmem⟩
    dsimp only
    rw [Table.get?_eq_none_iff.mpr hnew]
    exact ⟨_, rfl, .inl ⟨_, _, htells, hnew, rfl⟩⟩

/-! ## Outputs -/

theorem mapM_eq_error {α β ε : Type} {f : α → Except ε β} {xs : List α} {err : ε}
    (h : xs.mapM f = .error err) : ∃ before x after, xs = before ++ x :: after ∧
      (∀ y ∈ before, ∃ b, f y = .ok b) ∧ f x = .error err := by
  induction xs with
  | nil => cases h
  | cons x xs ih =>
    rw [List.mapM_cons] at h
    cases hx : f x with
    | error e =>
      rw [hx] at h
      cases h
      exact ⟨[], x, xs, rfl, fun y hy => absurd hy List.not_mem_nil, hx⟩
    | ok b =>
      rw [hx] at h
      cases hxs : xs.mapM f with
      | error e =>
        rw [hxs] at h
        cases h
        obtain ⟨before, y, after, rfl, hbefore, hy⟩ := ih hxs
        exact ⟨x :: before, y, after, rfl, List.forall_mem_cons.mpr ⟨⟨b, hx⟩, hbefore⟩, hy⟩
      | ok bs =>
        rw [hxs] at h
        cases h

/-- An output that is not accepted has a first line that is not. -/
theorem analyse_eq_error {err : Error} (h : (p.analyse output).1 = .error err) :
    ∃ before line after, lines output.toList = before ++ line :: after ∧ (∀ l ∈ before, p.Takes l) ∧
      ¬ p.Takes line ∧ p.readLine line = .error err := by
  have hread : (lines output.toList).mapM p.readLine = .error err := by
    rw [analyse, readLines_eq] at h
    cases hfound : (lines output.toList).mapM p.readLine with
    | error e =>
      rw [hfound] at h
      cases h
      rfl
    | ok found =>
      rw [hfound] at h
      cases h
  obtain ⟨before, line, after, hlines, hbefore, hline⟩ := mapM_eq_error hread
  refine ⟨before, line, after, hlines, fun l hl => by_contra fun hnot => ?_, fun htakes => ?_, hline⟩
  · obtain ⟨found, hok⟩ := hbefore l hl
    obtain ⟨reason, herr, -⟩ := readLine_of_not_takes hnot
    rw [hok] at herr
    cases herr
  · obtain ⟨name, text, hnt, hmem⟩ := takes_iff.mp htakes
    obtain ⟨c, hc⟩ := Option.isSome_iff_exists.mp (Table.isSome_get?.mpr hmem)
    rw [readLine, hnt] at hline
    simp only [hc] at hline
    cases hline

/-! ## Texts -/

/-- The text that a line tells for a name. -/
def textOf? (name : String) (line : List Char) : Option String :=
  (nameAndValue? line).bind fun (n, text) => if String.ofList n = name then some (String.ofList text) else none

theorem textOf?_eq_some_iff : textOf? name line = some text ↔ TellsText line name text := by
  rw [tellsText_iff, textOf?, Option.bind_eq_some_iff]
  constructor
  · rintro ⟨⟨n, value⟩, hread, htext⟩
    dsimp only at htext
    split at htext
    next hname =>
      cases htext
      rw [hread, ← hname, String.toList_ofList, String.toList_ofList]
    · cases htext
  · intro hread
    exact ⟨_, hread, by simp⟩

theorem textOf?_eq_none_iff : textOf? name line = none ↔ ∀ text, ¬ TellsText line name text := by
  simp only [← textOf?_eq_some_iff]
  exact Option.eq_none_iff_forall_ne_some

theorem textsOf_eq_filterMap (name output : String) :
    textsOf name output = (lines output.toList).filterMap (textOf? name) := by
  unfold textsOf given
  rw [List.filterMap_filterMap]
  refine List.filterMap_congr fun line _ => ?_
  rw [textOf?]
  cases nameAndValue? line <;> rfl

/-- The last text of a name is that of the last line that tells one. -/
theorem getLast?_textsOf_eq_some_iff :
    (textsOf name output).getLast? = some text ↔ TellsLast (lines output.toList) name text := by
  rw [textsOf_eq_filterMap, List.getLast?_filterMap, List.findSome?_eq_some_iff]
  simp only [textOf?_eq_some_iff, textOf?_eq_none_iff, List.reverse_eq_append_iff, List.reverse_cons,
    List.append_assoc, List.singleton_append]
  constructor
  · rintro ⟨after, line, before, hlines, htells, hafter⟩
    exact ⟨before.reverse, line, after.reverse, hlines, htells, fun l hl => hafter l (List.mem_reverse.mp hl)⟩
  · rintro ⟨before, line, after, hlines, htells, hafter⟩
    refine ⟨after.reverse, line, before.reverse, ?_, htells, fun l hl => hafter l (List.mem_reverse.mp hl)⟩
    rw [List.reverse_reverse, List.reverse_reverse, hlines]

theorem getLast?_textsOf_eq_none_iff : (textsOf name output).getLast? = none ↔
    ∀ line ∈ lines output.toList, ∀ text, ¬ TellsText line name text := by
  rw [textsOf_eq_filterMap, List.getLast?_filterMap, List.findSome?_eq_none_iff]
  simp only [textOf?_eq_none_iff, List.mem_reverse]

/-- An accepted output gives a constant the value of its last text. -/
theorem get?_analyse_cases (h : p.analyse output = (.ok (), q)) (name : String) :
    (∃ text, TellsLast (lines output.toList) name text ∧
      q.constants.get? name = (p.constants.get? name).map fun c => { c with value := some (.ofText text) }) ∨
    (∀ line ∈ lines output.toList, ∀ text, ¬ TellsText line name text) ∧
      q.constants.get? name = p.constants.get? name := by
  have hget := get?_analyse h name
  cases hlast : (textsOf name output).getLast? with
  | some text =>
    rw [hlast] at hget
    exact .inl ⟨text, getLast?_textsOf_eq_some_iff.mp hlast, hget⟩
  | none =>
    rw [hlast] at hget
    refine .inr ⟨getLast?_textsOf_eq_none_iff.mp hlast, hget.trans ?_⟩
    cases p.constants.get? name <;> rfl

/-- **A group takes an output as a whole or not at all.** Whatever a group
declares and knows, an output is accepted if every line of it, blank ones
included, is the name of a declared constant, a space and a text, and only
then. A constant that is named then has the value of the text in the last line
that names it; all others, and the formats, casts and places of all of them,
are as they were. An output that is not accepted is told by its first such
line, with its name if it has one, and the group is what it was: no constant
has another value, not even one that is named before that line. -/
theorem analyse_all_or_nothing (p : ConstantProbe) (output : String) :
    ((p.analyse output).1 = .ok () ↔ ∀ line ∈ lines output.toList, p.Takes line) ∧
    ((∃ q, p.analyse output = (.ok (), q) ∧
        q.group = p.group ∧ q.includes = p.includes ∧ q.constants.keys = p.constants.keys ∧
        ∀ name,
          (∃ text, TellsLast (lines output.toList) name text ∧
            q.constants.get? name =
              (p.constants.get? name).map fun c => { c with value := some (.ofText text) }) ∨
          (∀ line ∈ lines output.toList, ∀ text, ¬ TellsText line name text) ∧
            q.constants.get? name = p.constants.get? name) ∨
      ∃ before line after reason, lines output.toList = before ++ line :: after ∧
        (∀ l ∈ before, p.Takes l) ∧ ¬ p.Takes line ∧
        p.analyse output = (.error (.formatMismatch p.label (String.ofList line) reason), p) ∧
        ((∃ name text, TellsText line name text ∧ name ∉ p.constants.keys ∧ reason = .undeclared name) ∨
          (∀ name text, ¬ TellsText line name text) ∧ reason = .constantLine)) := by
  refine ⟨?_, ?_⟩
  · have hok : (p.analyse output).1 = .ok () ↔ ∃ q, p.analyse output = (.ok (), q) :=
      ⟨fun h => ⟨_, Prod.ext h rfl⟩, fun ⟨q, hq⟩ => congrArg Prod.fst hq⟩
    rw [hok, exists_analyse_iff]
    simp only [takes_iff]
  · cases h : (p.analyse output).1 with
    | ok _ =>
      obtain ⟨q, hq⟩ : ∃ q, p.analyse output = (.ok (), q) := ⟨_, Prod.ext h rfl⟩
      obtain ⟨hgroup, hincludes⟩ : q.group = p.group ∧ q.includes = p.includes := by
        rw [(analyse_eq_ok_iff.mp hq).2]
        exact ⟨rfl, rfl⟩
      exact .inl ⟨q, hq, hgroup, hincludes, keys_analyse hq, get?_analyse_cases hq⟩
    | error err =>
      obtain ⟨before, line, after, hlines, hbefore, hline, hread⟩ := analyse_eq_error h
      obtain ⟨reason, herr, hreason⟩ := readLine_of_not_takes hline
      obtain rfl := Except.error.inj (hread.symm.trans herr)
      exact .inr ⟨before, line, after, reason, hlines, hbefore, hline,
        Prod.ext h (analyse_snd_of_error h), hreason⟩

-- The last line of a name counts, an empty text is a text, and a blank line is none.
example : (((new "g" []).declare ⟨["A", "B"], "%d", ""⟩).request (.analyse "A 1\nB \nA 2 3\n")).entries =
    [⟨"g.A", .text "2 3"⟩, ⟨"g.B", .text ""⟩] := by
  decide +kernel

example : (((new "g" []).declare ⟨["A"], "%d", ""⟩).request (.analyse "A 1\n\n")).entries = [] := by
  decide +kernel

end ConstantProbe

end AbiProbe
