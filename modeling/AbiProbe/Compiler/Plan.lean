/-
What a compiler plans for a program, and what comes of it. To run a program
it plans two commands, to expand one it plans one; each is started only if
those before it succeeded, and the last one tells the result.

Files that were made on the way are to be gone afterwards, and nothing else is
to be touched.
-/
import AbiProbe.Compiler

namespace AbiProbe

open Text

/-- A command that a host was asked for, and what came of it. -/
structure Attempt where
  command : Command
  outcome : Except FileFault Completed

namespace Attempt

/-- The command ran to its end with success. -/
def Succeeds (a : Attempt) : Prop := ∃ done, a.outcome = .ok done ∧ done.status.isSuccess = true

/-- The command failed, and this tells why: all that it printed, first to its
output and then to its errors. If it printed nothing or could not be started,
it is some explanation. -/
def FailsWith (a : Attempt) (why : String) : Prop :=
  match a.outcome with
  | .error _ => why ≠ ""
  | .ok done => done.status.isSuccess = false ∧
      if done.stdout.size = 0 ∧ done.stderr.size = 0 then why ≠ ""
      else why = Utf8.decode done.stdout ++ Utf8.decode done.stderr

end Attempt

namespace Host

/-- The attempts that a host makes one after the other, from the files before
the first to those after the last. -/
inductive Runs (host : Host) : FileSystem → List Attempt → FileSystem → Prop where
  | nil (fs : FileSystem) : Runs host fs [] fs
  | cons {fs between after : FileSystem} {c : Command} {outcome : Except FileFault Completed}
      {tries : List Attempt} (first : host.start c fs = (outcome, between))
      (rest : Runs host between tries after) : Runs host fs (⟨c, outcome⟩ :: tries) after

end Host

/-- What a plan comes to. It succeeds if all its commands do, with what the
last one printed; it fails with the first that fails, and none is started
after that. -/
inductive ComesTo (plan : List Command) : List Attempt → Except Error String → Prop where
  | done {tries : List Attempt} {last : Attempt} {done : Completed}
      (all : (tries ++ [last]).map (·.command) = plan)
      (succeed : ∀ a ∈ tries ++ [last], a.Succeeds) (ends : last.outcome = .ok done) :
      ComesTo plan (tries ++ [last]) (.ok (Utf8.decode done.stdout))
  | failed {tries : List Attempt} {last : Attempt} {rest : List Command} {why : String}
      (begun : (tries ++ [last]).map (·.command) ++ rest = plan)
      (succeed : ∀ a ∈ tries, a.Succeeds) (fails : last.FailsWith why) :
      ComesTo plan (tries ++ [last]) (.error (.toolFailure last.command.text why))

namespace Compiler

/-- The commands for a program: the compiler and then the binary, or the
compiler as a preprocessor alone. -/
def plan (c : Compiler) (paths : Paths) : Mode → List Command
  | .execute => [c.compileCommand paths.source paths.binary, ⟨paths.binary, [], true⟩]
  | .preprocess => [c.preprocessCommand paths.source]

/-- The paths of what is removed when the plan is through. -/
def leftovers (paths : Paths) : Mode → List String
  | .execute => [paths.binary, paths.source]
  | .preprocess => [paths.source]

end Compiler

namespace FileSystem

/-- A path leads to a directory. No path at all leads to the working
directory. -/
structure LeadsTo (fs : FileSystem) (path : String) (dir : Place) : Prop where
  directory : fs.hasDirectory dir = true
  leads : if path = "" then dir = [] else fs.resolve path = .ok dir

/-- Where some paths led, no file is left, and nothing at all unless a
directory was put there. Everything else is as it was. -/
structure Cleared (paths : List String) (before after : FileSystem) : Prop where
  noFile : ∀ path ∈ paths, ∀ place, before.resolve path = .ok place →
    ∀ content mode, after.node? place ≠ some (.file content mode)
  nothing : ∀ path ∈ paths, ∀ place, before.resolve path = .ok place →
    before.hasDirectory place = false → after.node? place = none
  others : ∀ place, (∀ path ∈ paths, before.resolve path ≠ .ok place) →
    after.node? place = before.node? place

end FileSystem

end AbiProbe
