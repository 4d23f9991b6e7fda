/-
The types of a platform: preprocessed headers are read from the top, and
every single-line typedef whose type is known makes its alias known. So a
typedef of a typedef resolves, and one of a later alias does not.
-/
import AbiProbe.Entry
import AbiProbe.Error
import AbiProbe.Platform
import AbiProbe.Probe.Program
import AbiProbe.Probe.TypedefLine
import AbiProbe.Table

namespace AbiProbe

open Text

/-- The types of the language by all their spellings. -/
def standardTypes : Table Category := .ofList
  [("char", .char), ("signed char", .char), ("__signed char", .char), ("unsigned char", .uchar),
    ("short", .short), ("short int", .short), ("signed short", .short),
    ("signed short int", .short), ("unsigned short", .ushort), ("unsigned short int", .ushort),
    ("short unsigned int", .ushort), ("int", .int), ("signed", .int), ("signed int", .int),
    ("unsigned", .uint), ("unsigned int", .uint), ("long", .long), ("long int", .long),
    ("signed long", .long), ("signed long int", .long), ("unsigned long", .ulong),
    ("unsigned long int", .ulong), ("long unsigned int", .ulong), ("long long", .longLong),
    ("long long int", .longLong), ("signed long long", .longLong),
    ("signed long long int", .longLong), ("unsigned long long", .ulongLong),
    ("unsigned long long int", .ulongLong), ("long long unsigned int", .ulongLong),
    ("char *", .string), ("void *", .pointer)]

/-- The headers to read, and what is known of their types. -/
structure TypedefProbe where
  headers : List String
  /-- Every phrase with a known category, standard ones and aliases. -/
  types : Table Category
  /-- The aliases to publish. -/
  aliases : Table Category
  /-- Aliases that have their category whatever the headers say. -/
  overrides : List (String × Category)
  /-- The typedef lines that declared nothing. -/
  ignored : List String

namespace TypedefProbe

def new (headers : List String) : TypedefProbe := ⟨headers, standardTypes, .empty, [], []⟩

/-- Fixes the category of an alias. -/
def addOverride (p : TypedefProbe) (name : String) (c : Category) : TypedefProbe :=
  { p with overrides := p.overrides ++ [(name, c)] }

/-- The probe of a platform. Darwin declares `pthread_t` on two lines, of
which neither is a typedef by itself. -/
def forPlatform (headers : List String) (platform : Platform) : TypedefProbe :=
  if platform.isDarwin then (new headers).addOverride "pthread_t" .pointer else new headers

def label (_ : TypedefProbe) : String := "typedefs"

def source (p : TypedefProbe) : String := Program.includeLines p.headers

/-! ## Its output -/

/-- Whether a line is to be read as a typedef: it has the keyword, and it
names no union, struct or enum. -/
def isCandidate (line : List Char) : Bool :=
  occursIn TypedefDecl.keyword line &&
    !holdsWord ["union".toList, "struct".toList, "enum".toList] line

/-- The category of a declaration where `types` are known. -/
def resolve (types : Table Category) (d : TypedefDecl) : Option Category :=
  if d.isPointer then some .pointer
  else match types.get? d.base with
    | some c => some c
    | none => if d.base.toList.getLast? = some '*' then some .pointer else none

/-- The alias that a line makes known where `types` are known. -/
def declared? (types : Table Category) (line : List Char) : Option (String × Category) := do
  let d ← TypedefDecl.ofLine? line
  let c ← resolve types d
  return (d.name, c)

/-- The probe after one more line. -/
def step (p : TypedefProbe) (line : List Char) : TypedefProbe :=
  if isCandidate line then
    match declared? p.types line with
    | some (name, c) =>
      { p with types := p.types.insert name c, aliases := p.aliases.insert name c }
    | none => { p with ignored := p.ignored ++ [String.ofList line] }
  else p

/-- Puts the overrides into effect, the last one of an alias last. -/
def applyOverrides (p : TypedefProbe) : TypedefProbe :=
  { p with aliases := p.overrides.foldl (fun t o => t.insert o.1 o.2) p.aliases }

/-- The probe after an output. -/
def analyse (p : TypedefProbe) (output : String) : TypedefProbe :=
  ((lines output.toList).foldl step p).applyOverrides

def resolved (p : TypedefProbe) (name : String) : Option Category := p.aliases.get? name

/-! ## Its facts -/

/-- The facts of the aliases that are not private to the platform. -/
def entries (p : TypedefProbe) : List Entry :=
  (p.aliases.toList.filter fun (name, _) => name.toList.head? != some '_').map fun (name, c) =>
    ⟨"typedef." ++ name, .ofCategory c⟩

end TypedefProbe

end AbiProbe
