/-
Reading a catalog, and writing one as plain data. What a catalog writes is
read as that catalog again; lists of includes, tags, formats and casts may
be left out where they have their default, and so may whole parts.
-/
import AbiProbe.Catalog.Validation
import AbiProbe.FileSystem
import AbiProbe.Yaml.View

namespace AbiProbe

variable {δ : Type}

namespace FieldDecl

def memberNames : List String := ["name", "type"]

def readFrom (v : View δ) (d : δ) : Except Misfit FieldDecl := do
  let members ← v.members memberNames d
  return {
    name := ← required members "name" v.text
    tag := ← optional members "type" none v.optionalText }

def toData (f : FieldDecl) : Data :=
  .record [("name", .text f.name), ("type", (f.tag.map Data.text).getD .null)]

end FieldDecl

namespace StructDecl

def memberNames : List String := ["name", "includes", "fields"]

def readFrom (v : View δ) (d : δ) : Except Misfit StructDecl := do
  let members ← v.members memberNames d
  return {
    name := ← required members "name" v.text
    includes := ← optional members "includes" [] (v.list v.text)
    fields := ← required members "fields" (v.list (FieldDecl.readFrom v)) }

def toData (d : StructDecl) : Data :=
  .record [("name", .text d.name), ("includes", .list (d.includes.map Data.text)),
    ("fields", .list (d.fields.map FieldDecl.toData))]

end StructDecl

namespace ConstantBatch

def memberNames : List String := ["names", "format", "cast"]

def readFrom (v : View δ) (d : δ) : Except Misfit ConstantBatch := do
  let members ← v.members memberNames d
  return {
    names := ← required members "names" (v.list v.text)
    format := ← optional members "format" defaultFormat v.text
    cast := ← optional members "cast" defaultCast v.text }

def toData (b : ConstantBatch) : Data :=
  .record [("names", .list (b.names.map Data.text)), ("format", .text b.format),
    ("cast", .text b.cast)]

end ConstantBatch

namespace GroupDecl

def memberNames : List String := ["name", "includes", "batches"]

def readFrom (v : View δ) (d : δ) : Except Misfit GroupDecl := do
  let members ← v.members memberNames d
  return {
    name := ← required members "name" v.text
    includes := ← optional members "includes" [] (v.list v.text)
    batches := ← required members "batches" (v.list (ConstantBatch.readFrom v)) }

def toData (d : GroupDecl) : Data :=
  .record [("name", .text d.name), ("includes", .list (d.includes.map Data.text)),
    ("batches", .list (d.batches.map ConstantBatch.toData))]

end GroupDecl

namespace Catalog

def memberNames : List String := ["structs", "constant_groups", "typedef_headers"]

def readFrom (v : View δ) (d : δ) : Except Misfit Catalog := do
  let members ← v.members memberNames d
  return {
    structs := ← optional members "structs" [] (v.list (StructDecl.readFrom v))
    groups := ← optional members "constant_groups" [] (v.list (GroupDecl.readFrom v))
    typedefHeaders := ← optional members "typedef_headers" [] (v.list v.text) }

/-- A catalog as plain data, with every default written out. -/
def toData (c : Catalog) : Data :=
  .record [("structs", .list (c.structs.map StructDecl.toData)),
    ("constant_groups", .list (c.groups.map GroupDecl.toData)),
    ("typedef_headers", .list (c.typedefHeaders.map Data.text))]

/-- A valid catalog from data in some format. -/
def ofData (v : View δ) (d : δ) : Except Error Catalog := do
  let catalog ← (readFrom v d).mapError fun m => .yaml m.text
  catalog.validate
  return catalog

/-- A valid catalog from the text of a document. -/
def ofYaml (text : String) : Except Error Catalog := do
  let doc ← (Yaml.read text).mapError .yaml
  ofData doc.view doc.root

/-- A valid catalog from a file. -/
def ofFile (fs : FileSystem) (path : String) : Except Error Catalog := do
  ofYaml (← (fs.readText path).mapError .file)

end Catalog

end AbiProbe
