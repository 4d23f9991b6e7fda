/-
Sinks: where the entries of a run go. A sink takes entries one by one and is
finished once after the last; both may be refused. The sink of a run is
whatever has these two steps, on a state of its own.
-/
import AbiProbe.Entry
import AbiProbe.Error

namespace AbiProbe

/-- A sink with states in `σ`. A step gives a new state also where it is
refused. -/
structure Sink (σ : Type) where
  name : String
  register : Entry → σ → Except Error Unit × σ
  finish : σ → Except Error Unit × σ

end AbiProbe
