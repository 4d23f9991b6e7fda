/-
The arguments of the program. Options take their value from the next
argument or attached to them; each may be given once. Arguments are taken
from the left, and the first one that is wrong, or that asks for help or the
version, decides.
-/
import AbiProbe.Config

namespace AbiProbe

/-- What the arguments ask for. -/
structure Arguments where
  config : Option String
  catalog : Option String
  sink : Option SinkKind
  output : Option String
  target : Option String
  summaryJson : Bool
  verbose : Bool
  deriving DecidableEq, Repr

namespace Arguments

def none : Arguments := ⟨.none, .none, .none, .none, .none, false, false⟩

/-- Why the arguments are not acted upon. -/
inductive Stop where
  | help
  | version
  | wrong (reason : String)
  deriving DecidableEq, Repr

/-- The options that take a value. -/
inductive Setting where
  | config
  | catalog
  | sink
  | output
  | target
  deriving DecidableEq, Repr

/-- The options that take none. -/
inductive Switch where
  | summaryJson
  | verbose
  | help
  | version
  deriving DecidableEq, Repr

inductive Opt where
  | setting (s : Setting)
  | switch (s : Switch)
  deriving DecidableEq, Repr

/-- Options by their long names. -/
def longNames : List (String × Opt) :=
  [("config", .setting .config), ("catalog", .setting .catalog), ("sink", .setting .sink),
    ("output", .setting .output), ("target", .setting .target),
    ("summary-json", .switch .summaryJson), ("verbose", .switch .verbose), ("help", .switch .help),
    ("version", .switch .version)]

/-- Options by their letters. -/
def letters : List (Char × Opt) :=
  [('c', .setting .config), ('s', .setting .sink), ('o', .setting .output),
    ('t', .setting .target), ('v', .switch .verbose), ('h', .switch .help), ('V', .switch .version)]

/-- The value of an option that must be given once only. -/
def once {α : Type} (before : Option α) (value : α) : Except Stop (Option α) :=
  if before.isSome then .error (.wrong "the option cannot be used multiple times")
  else .ok (some value)

/-- The arguments with one more setting. A path must not be empty. -/
def set (a : Arguments) (s : Setting) (value : String) : Except Stop Arguments := do
  if value.isEmpty then throw (.wrong "a value is required")
  match s with
  | .config => return { a with config := ← once a.config value }
  | .catalog => return { a with catalog := ← once a.catalog value }
  | .sink =>
    match SinkKind.ofName value with
    | .ok kind => return { a with sink := ← once a.sink kind }
    | .error e => throw (.wrong e.message)
  | .output => return { a with output := ← once a.output value }
  | .target => return { a with target := ← once a.target value }

def turnOn (a : Arguments) : Switch → Except Stop Arguments
  | .summaryJson =>
    if a.summaryJson then .error (.wrong "the option cannot be used multiple times")
    else .ok { a with summaryJson := true }
  | .verbose =>
    if a.verbose then .error (.wrong "the option cannot be used multiple times")
    else .ok { a with verbose := true }
  | .help => .error .help
  | .version => .error .version

/-- Whether an argument can be the value of the option before it: it does not
begin with a dash, or is nothing but one. -/
def isValue (argument : List Char) : Bool := argument.head? != some '-' || argument == ['-']

/-- The options of a cluster of letters. An option that takes a value takes
the rest of the cluster, or leaves the value to the next argument. -/
def readLetters (a : Arguments) : List Char → Except Stop (Arguments × Option Setting)
  | [] => .ok (a, .none)
  | letter :: rest =>
    match letters.lookup letter with
    | .none => .error (.wrong "unexpected argument")
    | some (.switch s) =>
      match a.turnOn s with
      | .error stop => .error stop
      | .ok a => readLetters a rest
    | some (.setting s) =>
      match rest with
      | [] => .ok (a, some s)
      | '=' :: value => (a.set s (String.ofList value)).map fun a => (a, .none)
      | value => (a.set s (String.ofList value)).map fun a => (a, .none)

/-- The option of a long name, perhaps with a value attached. -/
def readLong (a : Arguments) (name : List Char) (value : Option (List Char)) :
    Except Stop (Arguments × Option Setting) :=
  match longNames.lookup (String.ofList name), value with
  | .none, _ => .error (.wrong "unexpected argument")
  | some (.switch s), .none => (a.turnOn s).map fun a => (a, .none)
  | some (.switch _), some _ => .error (.wrong "unexpected value")
  | some (.setting s), .none => .ok (a, some s)
  | some (.setting s), some value => (a.set s (String.ofList value)).map fun a => (a, .none)

/-- One argument that is not the value of an option before it. -/
def readOne (a : Arguments) : List Char → Except Stop (Arguments × Option Setting)
  | '-' :: '-' :: long =>
    match long.dropWhile (· != '=') with
    | '=' :: value => a.readLong (long.takeWhile (· != '=')) (some value)
    | _ => a.readLong long .none
  | '-' :: letter :: rest => a.readLetters (letter :: rest)
  | _ => .error (.wrong "unexpected argument")

/-- The arguments after `a`, where `pending` waits for its value. -/
def read (a : Arguments) (pending : Option Setting) : List String → Except Stop Arguments
  | [] =>
    match pending with
    | .none => .ok a
    | some _ => .error (.wrong "a value is required")
  | argument :: rest =>
    match pending with
    | some s =>
      if isValue argument.toList then
        match a.set s argument with
        | .error stop => .error stop
        | .ok a => read a .none rest
      else .error (.wrong "a value is required")
    | .none =>
      if argument = "--" then
        (if rest.isEmpty then .ok a else .error (.wrong "unexpected argument"))
      else match a.readOne argument.toList with
        | .error stop => .error stop
        | .ok (a, pending) => read a pending rest

def ofList (arguments : List String) : Except Stop Arguments := none.read .none arguments

/-- A configuration with what the arguments ask for instead. -/
def applyTo (a : Arguments) (c : Config) : Config :=
  { c with
    sink := a.sink.getD c.sink
    flatOutput := a.output.getD c.flatOutput
    patch := { c.patch with target := a.target <|> c.patch.target } }

end Arguments

end AbiProbe
