/-
Which catalogs are valid: those whose names, headers, formats and casts can
be pasted into generated source without changing its shape. The first
offence in the order of the catalog is the one reported.
-/
import AbiProbe.Catalog
import AbiProbe.Error

namespace AbiProbe

open Text

/-- A letter of ASCII or an underscore, then letters, digits and
underscores of ASCII. -/
def isIdentifier (s : String) : Bool :=
  match s.toList with
  | [] => false
  | c :: cs => (c == '_' || c.isAlpha) && cs.all fun c => c == '_' || c.isAlphanum

/-- A text that may stand between angle brackets: not empty, and without
brackets, quotes and white space. -/
def isHeader (s : String) : Bool :=
  !s.isEmpty && s.toList.all fun c => !(c == '>' || c == '<' || c == '"' || isBlank c)

namespace Catalog

def checkName (kind : NameKind) (name : String) : Except Error Unit :=
  if isIdentifier name then .ok () else .error (.config (.invalidName kind name))

def checkHeaders : List String → Except Error Unit
  | [] => .ok ()
  | h :: rest => if isHeader h then checkHeaders rest else .error (.config (.invalidHeader h))

def checkNames (kind : NameKind) : List String → Except Error Unit
  | [] => .ok ()
  | name :: rest => do
    checkName kind name
    checkNames kind rest

def checkStruct (d : StructDecl) : Except Error Unit := do
  checkName .struct d.name
  checkHeaders d.includes
  checkNames .field (d.fields.map (·.name))

def checkBatch (group : String) (b : ConstantBatch) : Except Error Unit :=
  if b.format.toList.contains '"' || b.cast.toList.contains '"' then
    .error (.config (.quoteInGroup group))
  else checkNames .constant b.names

def checkBatches (group : String) : List ConstantBatch → Except Error Unit
  | [] => .ok ()
  | b :: rest => do
    checkBatch group b
    checkBatches group rest

def checkGroup (d : GroupDecl) : Except Error Unit := do
  checkName .group d.name
  checkHeaders d.includes
  checkBatches d.name d.batches

def checkStructs : List StructDecl → Except Error Unit
  | [] => .ok ()
  | d :: rest => do
    checkStruct d
    checkStructs rest

def checkGroups : List GroupDecl → Except Error Unit
  | [] => .ok ()
  | d :: rest => do
    checkGroup d
    checkGroups rest

/-- Whether a catalog is valid, and if not, its first offence. -/
def validate (c : Catalog) : Except Error Unit := do
  checkStructs c.structs
  checkGroups c.groups
  checkHeaders c.typedefHeaders

end Catalog

end AbiProbe
