/-
The sink that keeps its entries. After it was finished it takes no more.
-/
import AbiProbe.Sink

namespace AbiProbe

structure MemorySink where
  entries : List Entry
  finished : Bool
  deriving DecidableEq, Repr

namespace MemorySink

def new : MemorySink := ⟨[], false⟩

/-- The value of a key: the first entry counts. -/
def get? (s : MemorySink) (key : String) : Option Value :=
  (s.entries.find? (·.key == key)).map (·.value)

def register (e : Entry) (s : MemorySink) : Except Error Unit × MemorySink :=
  if s.finished then (.error (.config (.entryAfterFinish e.key)), s)
  else (.ok (), { s with entries := s.entries ++ [e] })

def finish (s : MemorySink) : Except Error Unit × MemorySink :=
  (.ok (), { s with finished := true })

def sink : Sink MemorySink := ⟨"memory", register, finish⟩

end MemorySink

end AbiProbe
