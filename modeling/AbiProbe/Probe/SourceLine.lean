/-
The lines of generated programs, each by what it is for, and the programs of
a catalog as rows of such lines. What a line takes from the catalog are its
parts; all else in it is always the same.

Whether a line leaves a string literal open is told by reading it as C does:
a quote opens a literal and the next one closes it, but inside a literal the
character after a backslash has no meaning of its own.
-/
import AbiProbe.Catalog

namespace AbiProbe

/-- A line of a generated program. -/
inductive SourceLine where
  | header (name : String)
  | blank
  | main
  /-- The declaration of a variable of a struct. -/
  | declaration (struct : String)
  /-- A call that prints its arguments with a format, and a line feed. -/
  | print (format arguments : String)
  | ifdef (name : String)
  | endif
  | ret
  | brace
  deriving DecidableEq, Repr

namespace SourceLine

def text : SourceLine → String
  | .header name => "#include <" ++ name ++ ">"
  | .blank => ""
  | .main => "int main(int argc, char **argv) \x7b"
  | .declaration struct => "  struct " ++ struct ++ " s;"
  | .print format arguments => "  printf(\"" ++ format ++ "\\n\", " ++ arguments ++ ");"
  | .ifdef name => "  #ifdef " ++ name
  | .endif => "  #endif"
  | .ret => "  return 0;"
  | .brace => "\x7d"

/-- What a line takes from a catalog. -/
def parts : SourceLine → List String
  | .header name => [name]
  | .declaration struct => [struct]
  | .print format arguments => [format, arguments]
  | .ifdef name => [name]
  | .blank | .main | .endif | .ret | .brace => []

def prints : SourceLine → Bool
  | .print .. => true
  | _ => false

/-- The text of some lines. -/
def source (ls : List SourceLine) : String := String.join (ls.map fun l => l.text ++ "\n")

/-- A program that prints facts: the headers, between those that it needs
itself, and a `main` of some lines. -/
def printing (headers : List String) (statements : List SourceLine) : List SourceLine :=
  .header "stdio.h" :: headers.map .header ++ [.header "stddef.h", .blank, .main] ++ statements ++
    [.blank, .ret, .brace]

end SourceLine

/-! ## String literals -/

/-- Where a reader of C is in a line. -/
inductive LiteralState where
  | outside
  | inside
  /-- Inside a literal, after a backslash. -/
  | escaped
  deriving DecidableEq, Repr

namespace LiteralState

def next : LiteralState → Char → LiteralState
  | .outside, c => if c = '"' then .inside else .outside
  | .inside, c => if c = '"' then .outside else if c = '\\' then .escaped else .inside
  | .escaped, _ => .inside

/-- Where the reader is after some more characters. -/
def after (s : LiteralState) (cs : List Char) : LiteralState := cs.foldl next s

end LiteralState

/-! ## The programs of a catalog -/

/-- The program of a struct: a declaration, and one call for the size and for
each field. -/
def StructDecl.program (d : StructDecl) : List SourceLine :=
  SourceLine.printing d.includes (.declaration d.name ::
    .print ("sizeof(struct " ++ d.name ++ ") %u") ("(unsigned int) sizeof(struct " ++ d.name ++ ")") ::
    d.fields.map fun f => .print (f.name ++ " %u %u") ("(unsigned int) offsetof(struct " ++ d.name ++ ", " ++
      f.name ++ "), (unsigned int) sizeof(s." ++ f.name ++ ")"))

namespace GroupDecl

/-- The names of a group, each where it is declared first. -/
def names (d : GroupDecl) : List String := (d.batches.flatMap (·.names)).eraseDups

/-- The last batch that declares a name. -/
def batchOf? (d : GroupDecl) (name : String) : Option ConstantBatch :=
  d.batches.reverse.find? (·.names.contains name)

/-- The lines for a name. -/
def block (d : GroupDecl) (name : String) : List SourceLine :=
  match d.batchOf? name with
  | some b => [.ifdef name, .print (name ++ " " ++ b.format) (b.cast ++ name), .endif]
  | none => []

/-- The program of a group: three lines for each name. -/
def program (d : GroupDecl) : List SourceLine :=
  SourceLine.printing d.includes (d.names.flatMap d.block)

end GroupDecl

/-- The program of the headers whose typedefs count. -/
def Catalog.typedefProgram (c : Catalog) : List SourceLine := c.typedefHeaders.map .header

end AbiProbe
