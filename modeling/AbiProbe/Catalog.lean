/-
Catalogs: what a run is to measure. A catalog declares structs with their
fields, groups of macro constants, and the headers whose typedefs count.
-/
import AbiProbe.Text.Blank

namespace AbiProbe

open Text

/-- A field to measure; `tag` is published with it as the field's type. -/
structure FieldDecl where
  name : String
  tag : Option String
  deriving DecidableEq, Repr

structure StructDecl where
  name : String
  includes : List String
  fields : List FieldDecl
  deriving DecidableEq, Repr

/-- Constants that are printed with one format after one cast. -/
structure ConstantBatch where
  names : List String
  format : String
  cast : String
  deriving DecidableEq, Repr

structure GroupDecl where
  name : String
  includes : List String
  batches : List ConstantBatch
  deriving DecidableEq, Repr

structure Catalog where
  structs : List StructDecl
  groups : List GroupDecl
  typedefHeaders : List String
  deriving DecidableEq, Repr

/-- The format of a constant for which none is given. -/
def defaultFormat : String := "%ld"

/-- The cast of a constant for which none is given. -/
def defaultCast : String := "(long)"

/-- The words of a text, as names. -/
def namesIn (s : String) : List String := (words s.toList).map String.ofList

namespace StructDecl

def new (name : String) (includes : List String) : StructDecl := ⟨name, includes, []⟩

/-- One more field, with a tag. -/
def field (d : StructDecl) (name tag : String) : StructDecl :=
  { d with fields := d.fields ++ [⟨name, some tag⟩] }

/-- One more field, without a tag. -/
def untyped (d : StructDecl) (name : String) : StructDecl :=
  { d with fields := d.fields ++ [⟨name, none⟩] }

end StructDecl

namespace GroupDecl

def new (name : String) (includes : List String) : GroupDecl := ⟨name, includes, []⟩

/-- One more batch, with the names that are the words of a text. -/
def constantsAs (d : GroupDecl) (names format cast : String) : GroupDecl :=
  { d with batches := d.batches ++ [⟨namesIn names, format, cast⟩] }

/-- One more batch, printed in the default way. -/
def constants (d : GroupDecl) (names : String) : GroupDecl :=
  d.constantsAs names defaultFormat defaultCast

end GroupDecl

namespace Catalog

def empty : Catalog := ⟨[], [], []⟩

end Catalog

end AbiProbe
