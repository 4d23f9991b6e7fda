/-
Single-line typedefs: the alias that a line declares, and the phrase of the
type it stands for. A star at the alias makes it a pointer; a machine mode
in an attribute gives the type its width, whatever the rest of the line
says.
-/
import AbiProbe.Text.Blank
import AbiProbe.Text.Search
import AbiProbe.Text.Word

namespace AbiProbe

open Text

/-- What a typedef declares. -/
structure TypedefDecl where
  name : String
  /-- The type it stands for, its words joined by single spaces. -/
  base : String
  /-- Whether the alias was written with a star. -/
  isPointer : Bool
  deriving DecidableEq, Repr

namespace TypedefDecl

/-- The word that introduces a declaration. -/
def keyword : List Char := "typedef".toList

/-- What is declared in the text after the keyword: all before a semicolon
that only blanks follow, without the blanks around it. It has to be on one
line; blanks alone count as a declaration of nothing. -/
def body? (cs : List Char) : Option (List Char) :=
  match (dropBlanksEnd cs).reverse with
  | ';' :: reversed =>
    let before := reversed.reverse
    let body := dropBlanksEnd (dropBlanks before)
    if body.isEmpty then (if before.all (· == '\n') then none else some [])
    else if body.contains '\n' then none
    else some body
  | _ => none

/-- The declaration after the last keyword of the first line that one
follows. -/
def lastBody? : List Char → Option (List Char)
  | [] => none
  | c :: cs =>
    match if c = '\n' then none else lastBody? cs with
    | some body => some body
    | none => (keyword.isPrefixOf? (c :: cs)).bind body?

/-! ## Machine modes -/

/-- The modes of an attribute and the types they stand for; the first one on
the line counts in this order. -/
def modes : List (List Char × String) :=
  [("__QI__".toList, "char"), ("__HI__".toList, "short"), ("__SI__".toList, "int"),
    ("__DI__".toList, "long long"), ("__word__".toList, "long")]

/-- The word of an attribute. -/
def attributeWord : List Char := "__attribute__".toList

/-- The type of the machine mode on a line, if an attribute gives one. -/
def modeType? (line : List Char) : Option String :=
  if occursIn attributeWord line then
    (modes.find? fun m => occursIn m.1 line).map fun m =>
      if occursIn "unsigned".toList line then "unsigned " ++ m.2 else m.2
  else none

/-- The word right before the first one that holds an attribute. -/
def beforeAttribute? : List (List Char) → Option (List Char)
  | [] => none
  | [_] => none
  | word :: next :: rest =>
    if occursIn attributeWord word then none
    else if occursIn attributeWord next then some word
    else beforeAttribute? (next :: rest)

/-! ## The declaration of a line -/

/-- Words joined by single spaces. -/
def phrase (ws : List (List Char)) : List Char := List.intercalate [' '] ws

/-- The declaration of an alias, which may begin with stars. Below the stars
it has to be a name of ASCII letters, digits and underscores. -/
def ofAlias? (written : List Char) (base : String) : Option TypedefDecl :=
  let isPointer := written.head? == some '*'
  let name := written.dropWhile (· == '*')
  if !name.isEmpty && name.all isAsciiWord then
    some ⟨String.ofList name, if isPointer then base ++ " *" else base, isPointer⟩
  else none

/-- What a line declares, if it declares anything. -/
def ofLine? (line : List Char) : Option TypedefDecl := do
  let ws := words (← lastBody? line)
  let last ← ws.getLast?
  match modeType? line with
  | some base => ofAlias? (← beforeAttribute? ws) base
  | none => ofAlias? last (String.ofList (phrase ws.dropLast))

end TypedefDecl

end AbiProbe
