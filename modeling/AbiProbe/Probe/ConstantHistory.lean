/-
What is asked of a group of constants as long as it is there: declarations
and analyses in any order, of which some analyses fail. What the group then
knows of a name is told by the requests alone: its latest declaration, and the
lines that gave it a text since.
-/
import AbiProbe.Probe.Constants

namespace AbiProbe

open Text

/-- What is asked of a group. -/
inductive GroupRequest where
  | declare (b : ConstantBatch)
  | analyse (output : String)

namespace ConstantProbe

/-- The group after a request, whether an analysis succeeded or not. -/
def request (p : ConstantProbe) : GroupRequest → ConstantProbe
  | .declare b => p.declare b
  | .analyse output => (p.analyse output).2

/-- The group after some requests, the first one first. -/
def requests (p : ConstantProbe) (rs : List GroupRequest) : ConstantProbe := rs.foldl request p

/-! ## What an output tells -/

/-- The names and the texts in the lines of an output, in order. -/
def given (output : String) : List (String × String) :=
  (lines output.toList).filterMap fun line =>
    (nameAndValue? line).map fun (name, value) => (String.ofList name, String.ofList value)

/-- The texts that the lines of an output give a name, in order. -/
def textsOf (name output : String) : List String :=
  (given output).filterMap fun (n, text) => if n = name then some text else none

/-- Whether a line gives a text to one of the names that are known. -/
def givesKnown (known : List String) (line : List Char) : Bool :=
  match nameAndValue? line with
  | some (name, _) => known.contains (String.ofList name)
  | none => false

/-- Whether every line of an output does. -/
def accepts (known : List String) (output : String) : Bool :=
  (lines output.toList).all (givesKnown known)

/-- A line tells a text for a name: it is the name, a row of word characters,
then a space and the text. -/
def TellsText (line : List Char) (name text : String) : Prop :=
  line = name.toList ++ ' ' :: text.toList ∧ name ≠ "" ∧ ∀ c ∈ name.toList, isWord c = true

/-- Of some lines, the last one that tells a text for a name tells this one. -/
def TellsLast (ls : List (List Char)) (name text : String) : Prop :=
  ∃ before line after, ls = before ++ line :: after ∧ TellsText line name text ∧
    ∀ l ∈ after, ∀ other, ¬ TellsText l name other

/-- A line tells a text for a name that the group declares. -/
def Takes (p : ConstantProbe) (line : List Char) : Prop :=
  ∃ name text, TellsText line name text ∧ name ∈ p.constants.keys

end ConstantProbe

/-! ## What the requests tell -/

namespace GroupRequest

open ConstantProbe

/-- The names that are declared, in order and with their repetitions. -/
def names (rs : List GroupRequest) : List String :=
  rs.flatMap fun
    | .declare b => b.names
    | .analyse _ => []

/-- The texts that a name is given by the outputs that are accepted, where
some names are known before. -/
def told (name : String) : List String → List GroupRequest → List String
  | _, [] => []
  | known, .declare b :: rest => told name (known ++ b.names) rest
  | known, .analyse output :: rest =>
    (if accepts known output then textsOf name output else []) ++ told name known rest

/-- The latest declaration of a name is that of a batch, after some requests
and before others. -/
structure Latest (rs : List GroupRequest) (name : String) (before : List GroupRequest)
    (b : ConstantBatch) (later : List GroupRequest) : Prop where
  split : rs = before ++ .declare b :: later
  declares : name ∈ b.names
  last : name ∉ names later

/-- What the requests tell of a name: the format and the cast of its latest
declaration, and the value of the last text that it was given since. -/
def Tells (rs : List GroupRequest) (name : String) (c : Constant) : Prop :=
  ∃ before b later, Latest rs name before b later ∧
    c = ⟨b.format, b.cast, ((told name (names before ++ b.names) later).getLast?).map .ofText⟩

end GroupRequest

end AbiProbe
