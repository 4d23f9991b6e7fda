/-
The primitive categories to which the type names of a platform come down.
-/

namespace AbiProbe

/-- What a type name stands for on the platform, as far as a foreign
function interface tells types apart. -/
inductive Category where
  | char
  | uchar
  | short
  | ushort
  | int
  | uint
  | long
  | ulong
  | longLong
  | ulongLong
  | string
  | pointer
  deriving DecidableEq, Repr

namespace Category

def all : List Category :=
  [.char, .uchar, .short, .ushort, .int, .uint, .long, .ulong, .longLong, .ulongLong, .string,
    .pointer]

/-- The name under which a category is published. -/
def name : Category → String
  | .char => "char"
  | .uchar => "uchar"
  | .short => "short"
  | .ushort => "ushort"
  | .int => "int"
  | .uint => "uint"
  | .long => "long"
  | .ulong => "ulong"
  | .longLong => "long_long"
  | .ulongLong => "ulong_long"
  | .string => "string"
  | .pointer => "pointer"

/-- The category of a published name. -/
def ofName? (s : String) : Option Category := all.find? (·.name == s)

@[simp] theorem ofName?_name (c : Category) : ofName? c.name = some c := by
  cases c <;> rfl

end Category

end AbiProbe
