/-
A file system: directories, and files with their content and mode, by their
places. The working directory is the empty place. Links and owners are left
out; what one process sees of its own files is all there is.
-/
import AbiProbe.Error
import AbiProbe.FileSystem.Path

namespace AbiProbe

/-- The names on the way from the working directory; an absolute place
begins with `Path.top`. -/
abbrev Place := List String

/-- What can stand at a place. -/
inductive FileNode where
  | file (content : ByteArray) (mode : Nat)
  | directory (mode : Nat)

namespace FileNode

def mode : FileNode → Nat
  | .file _ mode => mode
  | .directory mode => mode

def isDirectory : FileNode → Bool
  | .directory _ => true
  | .file _ _ => false

end FileNode

structure FileSystem where
  nodes : List (Place × FileNode)

namespace FileSystem

def empty : FileSystem := ⟨[]⟩

/-! ## Places -/

def lookup (place : Place) : List (Place × FileNode) → Option FileNode
  | [] => none
  | (p, n) :: rest => if p = place then some n else lookup place rest

/-- What stands at a place; the working directory always does. -/
def node? (fs : FileSystem) (place : Place) : Option FileNode :=
  if place = [] then some (.directory 0o755) else lookup place fs.nodes

/-- The file system without what stands at a place. -/
def erase (fs : FileSystem) (place : Place) : FileSystem :=
  ⟨fs.nodes.filter fun p => p.1 != place⟩

/-- The file system with one node set. -/
def put (fs : FileSystem) (place : Place) (n : FileNode) : FileSystem :=
  ⟨(place, n) :: (fs.erase place).nodes⟩

theorem lookup_filter_self (place : Place) (nodes : List (Place × FileNode)) :
    lookup place (nodes.filter fun p => p.1 != place) = none := by
  induction nodes with
  | nil => rfl
  | cons p rest ih =>
    by_cases h : p.1 = place
    · simp [h, ih]
    · simp [h, lookup, ih]

theorem lookup_filter_other {place other : Place} (h : place ≠ other)
    (nodes : List (Place × FileNode)) :
    lookup other (nodes.filter fun p => p.1 != place) = lookup other nodes := by
  induction nodes with
  | nil => rfl
  | cons p rest ih =>
    obtain ⟨q, n⟩ := p
    by_cases hp : q = place
    · simp [hp, lookup, ih, h]
    · by_cases ho : q = other
      · simp [ho, lookup, Ne.symm h]
      · simp [hp, lookup, ho, ih]

theorem node?_erase_self {fs : FileSystem} {place : Place} (h : place ≠ []) :
    (fs.erase place).node? place = none := by
  simp [node?, h, erase, lookup_filter_self]

theorem node?_erase_other {place other : Place} (h : place ≠ other) (fs : FileSystem) :
    (fs.erase place).node? other = fs.node? other := by
  simp [node?, erase, lookup_filter_other h]

theorem node?_put_self {fs : FileSystem} {place : Place} {n : FileNode} (h : place ≠ []) :
    (fs.put place n).node? place = some n := by
  simp [node?, h, put, lookup]

theorem node?_put_other {place other : Place} (h : place ≠ other) (fs : FileSystem) (n : FileNode) :
    (fs.put place n).node? other = fs.node? other := by
  simp only [node?, put, lookup, if_neg h]
  simp [erase, lookup_filter_other h]

/-- Whether a directory stands at a place. -/
def hasDirectory (fs : FileSystem) (place : Place) : Bool :=
  match fs.node? place with
  | some n => n.isDirectory
  | none => false

/-! ## Paths -/

/-- How many bytes a name may have. -/
def longestName : Nat := 255

/-- The place of one more part, from a place where a directory has to be. -/
def enter (fs : FileSystem) (place : Place) (part : String) : Except FileFault Place :=
  match fs.node? place with
  | none => .error .notFound
  | some (.file _ _) => .error .notDirectory
  | some (.directory _) =>
    if longestName < part.utf8ByteSize then .error .nameTooLong
    else if part = "." then .ok place
    else if part = ".." then
      (if place.isEmpty then .error .notFound
      else if place = [Path.top] then .ok place
      else .ok place.dropLast)
    else .ok (place ++ [part])

/-- The place at the end of some parts. -/
def walk (fs : FileSystem) : List String → Except FileFault Place
  | [] => .error .notFound
  | first :: rest =>
    if first = Path.top then rest.foldlM fs.enter [Path.top]
    else (first :: rest).foldlM fs.enter []

/-- The place that a path names. All but its last part have to be there. -/
def resolve (fs : FileSystem) (path : String) : Except FileFault Place :=
  if path.toList.contains '\x00' then .error .nulInName
  else match fs.walk (Path.parts path) with
    | .error f => .error f
    | .ok place =>
      if Path.namesDirectory path then
        match fs.node? place with
        | none => .error .notFound
        | some (.file _ _) => .error .notDirectory
        | some (.directory _) => .ok place
      else .ok place

/-- What a path names. -/
def find (fs : FileSystem) (path : String) : Except FileFault FileNode := do
  match fs.node? (← fs.resolve path) with
  | some n => return n
  | none => throw .notFound

/-- The bytes of a file. -/
def readBytes (fs : FileSystem) (path : String) : Except FileFault ByteArray := do
  match ← fs.find path with
  | .file content _ => return content
  | .directory _ => throw .isDirectory

/-- The text of a file. -/
def readText (fs : FileSystem) (path : String) : Except FileFault String := do
  match String.fromUTF8? (← fs.readBytes path) with
  | some s => return s
  | none => throw .notText

/-- Writes a file: a new one has mode 644, an existing one keeps its mode. -/
def writeFile (fs : FileSystem) (path : String) (content : ByteArray) :
    Except FileFault FileSystem := do
  let place ← fs.resolve path
  match fs.node? place with
  | some (.directory _) => throw .isDirectory
  | some (.file _ mode) => return fs.put place (.file content mode)
  | none =>
    if fs.hasDirectory place.dropLast then return fs.put place (.file content 0o644)
    else throw .notFound

/-- Removes a file; a directory stays. -/
def removeFile (fs : FileSystem) (path : String) : Except FileFault FileSystem := do
  let place ← fs.resolve path
  match fs.node? place with
  | some (.file _ _) => return fs.erase place
  | some (.directory _) => throw .isDirectory
  | none => throw .notFound

/-- Makes a directory with all directories on its way. -/
def makeDirectories (fs : FileSystem) (path : String) : FileSystem :=
  (List.range ((Path.parts path).length + 1)).foldl (fun fs n =>
    let place := ((Path.parts path).take n).filter (· != ".")
    if (fs.node? place).isSome then fs else fs.put place (.directory 0o755)) fs

/-- The names in a directory, in the order of their code points. -/
def list (fs : FileSystem) (path : String) : List String :=
  match fs.resolve path with
  | .error _ => []
  | .ok place =>
    (fs.nodes.filterMap fun (p, _) =>
      if p.length = place.length + 1 ∧ p.dropLast = place ∧ p ≠ [Path.top] then p.getLast?
      else none).mergeSort

/-! ## Temporary files -/

/-- The parts of fresh names, the first one tried first. -/
def freshPart (k : Nat) : String := if k = 0 then "XXXXXX" else "XXXXX" ++ toString k

/-- A name that is free in a directory: `stem`, a part that makes it unique,
and `suffix`. -/
def freshName (fs : FileSystem) (dir : Place) (stem suffix : String) : String :=
  let name (k : Nat) := stem ++ freshPart k ++ suffix
  match (List.range (fs.nodes.length + 1)).find? fun k => (fs.node? (dir ++ [name k])).isNone with
  | some k => name k
  | none => name (fs.nodes.length + 1)

/-- Creates an empty file that only its owner may use, under a fresh name in
the directory at a place; gives the name and the place. -/
def temporaryIn (fs : FileSystem) (dir : Place) (stem suffix : String) :
    Except FileFault (String × Place × FileSystem) :=
  match fs.node? dir with
  | none => .error .notFound
  | some (.file _ _) => .error .notDirectory
  | some (.directory _) =>
    let name := fs.freshName dir stem suffix
    .ok (name, dir ++ [name], fs.put (dir ++ [name]) (.file ByteArray.empty 0o600))

/-- Creates a temporary file in the directory that a path names. No directory
at all is the working directory. -/
def createTemporary (fs : FileSystem) (dir stem suffix : String) :
    Except FileFault (String × Place × FileSystem) := do
  let place ← if dir.isEmpty then pure [] else fs.resolve dir
  fs.temporaryIn place stem suffix

/-- Gives the file at a place some content, and keeps its mode. -/
def setContent (fs : FileSystem) (place : Place) (content : ByteArray) : FileSystem :=
  match fs.node? place with
  | some (.file _ mode) => fs.put place (.file content mode)
  | _ => fs

/-- Gives the file at a place a mode. -/
def setMode (fs : FileSystem) (place : Place) (mode : Nat) : FileSystem :=
  match fs.node? place with
  | some (.file content _) => fs.put place (.file content mode)
  | _ => fs

/-- Moves the file at a place to what a path names, which it replaces as a
whole. A directory is not replaced. -/
def replace (fs : FileSystem) (source : Place) (path : String) : Except FileFault FileSystem := do
  let place ← fs.resolve path
  match fs.node? place with
  | some (.directory _) => throw .isDirectory
  | _ =>
    match fs.node? source with
    | some n =>
      if fs.hasDirectory place.dropLast then return (fs.erase source).put place n
      else throw .notFound
    | none => throw .notFound

end FileSystem

end AbiProbe
