/-
What is done with a sink as long as it is there. A caller may go on after a
call that failed, and between two calls others may change the files; a
session has the calls so far, each with its result.
-/
import AbiProbe.Sink
import AbiProbe.Sink.Publish

namespace AbiProbe

/-- What a caller asks of a sink. Each finish has the faults that the device
has at that time. -/
inductive Call where
  | register (e : Entry)
  | finish (faults : Faults)

/-- What happens to a sink or to its files. -/
inductive Happening where
  | call (c : Call)
  /-- The files are changed, but not by the sink. -/
  | outside (change : FileSystem → FileSystem)

/-- A sink, the files around it, and the calls so far with their results. -/
structure Session (σ : Type) where
  log : List (Call × Except Error Unit)
  sink : σ
  files : FileSystem

namespace Session

variable {σ : Type}

/-- A sink that was opened. -/
def ofOpened (sink : σ) (files : FileSystem) : Session σ := ⟨[], sink, files⟩

/-- The session after a call, with the result of the call. -/
def add (s : Session σ) (c : Call) : Except Error Unit × σ × FileSystem → Session σ
  | (r, sink, files) => ⟨s.log ++ [(c, r)], sink, files⟩

/-- The session after one more step. The sink depends on the faults of the
device; entries are registered on one without. -/
def step (k : Faults → Sink (σ × FileSystem)) (s : Session σ) : Happening → Session σ
  | .call (.register e) => s.add (.register e) ((k Faults.none).register e (s.sink, s.files))
  | .call (.finish faults) => s.add (.finish faults) ((k faults).finish (s.sink, s.files))
  | .outside change => { s with files := change s.files }

def run (k : Faults → Sink (σ × FileSystem)) (s : Session σ) (hs : List Happening) : Session σ :=
  hs.foldl (step k) s

/-- The entries that were taken, in order. -/
def taken (s : Session σ) : List Entry :=
  s.log.filterMap fun
    | (.register e, .ok ()) => some e
    | _ => none

/-- Whether the sink has said of some finish that it succeeded. -/
def succeeded (s : Session σ) : Bool :=
  s.log.any fun
    | (.finish _, .ok ()) => true
    | _ => false

/-- Whether the sink has said of some finish that it failed. -/
def failed (s : Session σ) : Bool :=
  s.log.any fun
    | (.finish _, .error _) => true
    | _ => false

section

variable (s : Session σ) (e : Entry) (err : Error) (faults : Faults) (after : σ × FileSystem)

@[simp] theorem sink_add (c : Call) (r : Except Error Unit) : (s.add c (r, after)).sink = after.1 := rfl

@[simp] theorem files_add (c : Call) (r : Except Error Unit) : (s.add c (r, after)).files = after.2 := rfl

@[simp] theorem taken_add_register_ok :
    (s.add (.register e) (.ok (), after)).taken = s.taken ++ [e] := by
  simp [add, taken]

@[simp] theorem taken_add_register_error :
    (s.add (.register e) (.error err, after)).taken = s.taken := by
  simp [add, taken]

@[simp] theorem taken_add_finish (r : Except Error Unit) :
    (s.add (.finish faults) (r, after)).taken = s.taken := by
  simp [add, taken]

@[simp] theorem succeeded_add_register (r : Except Error Unit) :
    (s.add (.register e) (r, after)).succeeded = s.succeeded := by
  simp [add, succeeded]

@[simp] theorem succeeded_add_finish_ok :
    (s.add (.finish faults) (.ok (), after)).succeeded = true := by
  simp [add, succeeded]

@[simp] theorem succeeded_add_finish_error :
    (s.add (.finish faults) (.error err, after)).succeeded = s.succeeded := by
  simp [add, succeeded]

@[simp] theorem failed_add_register (r : Except Error Unit) :
    (s.add (.register e) (r, after)).failed = s.failed := by
  simp [add, failed]

@[simp] theorem failed_add_finish_ok :
    (s.add (.finish faults) (.ok (), after)).failed = s.failed := by
  simp [add, failed]

@[simp] theorem failed_add_finish_error :
    (s.add (.finish faults) (.error err, after)).failed = true := by
  simp [add, failed]

end

/-- What holds of a session and is kept by each of some steps holds after all
of them. -/
theorem run_induction {k : Faults → Sink (σ × FileSystem)} {P : Session σ → Prop} {s : Session σ}
    {hs : List Happening} (hstep : ∀ s, ∀ h ∈ hs, P s → P (s.step k h)) (hstart : P s) :
    P (s.run k hs) :=
  List.foldlRecOn hs (step k) hstart fun s hs' h hmem => hstep s h hmem hs'

end Session

end AbiProbe
