/-
Processes as far as a run needs them: a command is started, runs to its end,
and leaves its exit status and all it printed. It may also change files.
-/
import AbiProbe.FileSystem
import AbiProbe.Text.Utf8

namespace AbiProbe

/-- How a process ends. -/
inductive ExitStatus where
  | code (n : Nat)
  /-- By a signal; `dumped` tells of an image of its memory. -/
  | signal (n : Nat) (dumped : Bool)
  deriving DecidableEq, Repr

namespace ExitStatus

def isSuccess (s : ExitStatus) : Bool := s == .code 0

/-- The names of signals by their numbers. -/
def signalNames : List (Nat × String) :=
  [(1, "SIGHUP"), (2, "SIGINT"), (3, "SIGQUIT"), (4, "SIGILL"), (5, "SIGTRAP"), (6, "SIGABRT"),
    (7, "SIGBUS"), (8, "SIGFPE"), (9, "SIGKILL"), (10, "SIGUSR1"), (11, "SIGSEGV"),
    (12, "SIGUSR2"), (13, "SIGPIPE"), (14, "SIGALRM"), (15, "SIGTERM"), (16, "SIGSTKFLT"),
    (17, "SIGCHLD"), (18, "SIGCONT"), (19, "SIGSTOP"), (20, "SIGTSTP"), (21, "SIGTTIN"),
    (22, "SIGTTOU"), (23, "SIGURG"), (24, "SIGXCPU"), (25, "SIGXFSZ"), (26, "SIGVTALRM"),
    (27, "SIGPROF"), (28, "SIGWINCH"), (29, "SIGIO"), (30, "SIGPWR"), (31, "SIGSYS")]

def text : ExitStatus → String
  | .code n => "exit status: " ++ toString n
  | .signal n dumped =>
    "signal: " ++ toString n ++
      (match signalNames.lookup n with
      | some name => " (" ++ name ++ ")"
      | none => "") ++
      (if dumped then " (core dumped)" else "")

end ExitStatus

/-- What a process leaves. -/
structure Completed where
  status : ExitStatus
  stdout : ByteArray
  stderr : ByteArray

structure Command where
  program : String
  arguments : List String
  /-- Whether the program is a file of just this path; any other program may
  be a name that the host looks up. -/
  isFile : Bool
  deriving DecidableEq, Repr

namespace Command

/-- A command in one line, for messages. -/
def text (c : Command) : String := String.intercalate " " (c.program :: c.arguments)

end Command

/-- What runs commands. A command that cannot be started leaves the reason. -/
structure Host where
  start : Command → FileSystem → Except FileFault Completed × FileSystem

namespace Host

/-- A host on which no command can be started. -/
def none : Host := ⟨fun _ fs => (.error .denied, fs)⟩

/-- Runs a command to its end; gives what it printed. A command that fails is
an error with all it printed, or else with how it ended. -/
def run (host : Host) (c : Command) (fs : FileSystem) : Except Error String × FileSystem :=
  match host.start c fs with
  | (.error f, fs) => (.error (.toolFailure c.text ("could not start process: " ++ f.text)), fs)
  | (.ok done, fs) =>
    let stdout := Text.Utf8.decode done.stdout
    if done.status.isSuccess then (.ok stdout, fs)
    else
      let printed := stdout ++ Text.Utf8.decode done.stderr
      let output := if printed.isEmpty then "exited with " ++ done.status.text else printed
      (.error (.toolFailure c.text output), fs)

/-- Runs a command and, if it succeeds, another one; gives what the other
printed. -/
def runBoth (host : Host) (first second : Command) (fs : FileSystem) :
    Except Error String × FileSystem :=
  match host.run first fs with
  | (.error e, fs) => (.error e, fs)
  | (.ok _, fs) => host.run second fs

end Host

end AbiProbe
