/-
Watching a run: what it asks of its toolchain and of its sink, in order.
Watching leaves toolchain and sink as they are.
-/
import AbiProbe.Run

namespace AbiProbe

/-- One thing that a run asks for. -/
inductive Event where
  /-- A program goes to the toolchain. -/
  | call (mode : Mode) (source : String)
  /-- An entry goes to the sink, which may refuse it. -/
  | offer (e : Entry)
  /-- The sink is to finish, which it may refuse. -/
  | finish
  deriving DecidableEq, Repr

/-- What was asked for so far, in order. -/
structure Trace where
  events : List Event

namespace Trace

def empty : Trace := ⟨[]⟩

def add (t : Trace) (e : Event) : Trace := ⟨t.events ++ [e]⟩

/-- The programs that the toolchain was asked for. -/
def calls (t : Trace) : List (Mode × String) :=
  t.events.filterMap fun
    | .call mode source => some (mode, source)
    | _ => none

/-- The entries that the sink was offered. -/
def offers (t : Trace) : List Entry :=
  t.events.filterMap fun
    | .offer e => some e
    | _ => none

end Trace

namespace Toolchain

/-- The toolchain with a trace of its calls. -/
def watched {σ : Type} (t : Toolchain σ) : Toolchain (σ × Trace) where
  call mode source := fun (s, trace) =>
    let (r, s) := t.call mode source s
    (r, s, trace.add (.call mode source))

end Toolchain

namespace Sink

/-- The sink with a trace of its steps. -/
def watched {σ : Type} (k : Sink σ) : Sink (σ × Trace) where
  name := k.name
  register e := fun (s, trace) =>
    let (r, s) := k.register e s
    (r, s, trace.add (.offer e))
  finish := fun (s, trace) =>
    let (r, s) := k.finish s
    (r, s, trace.add .finish)

end Sink

end AbiProbe
