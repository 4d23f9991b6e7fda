/-
An entry: one discovered fact, a dotted key with its value. Keys are
relative; published keys stand under the root that the configuration names.
-/
import AbiProbe.Value

namespace AbiProbe

structure Entry where
  /-- The dotted key, without the root. -/
  key : String
  value : Value
  deriving DecidableEq, Repr

namespace Entry

/-- The key under a root; an empty root adds nothing, not even its dot. -/
def qualifiedKey (root : String) (e : Entry) : String :=
  if root.isEmpty then e.key else root ++ "." ++ e.key

end Entry

end AbiProbe
