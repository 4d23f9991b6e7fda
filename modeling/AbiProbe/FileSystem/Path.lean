/-
Paths as texts: their parts, the directory that holds what they name, and
the path of a name in a directory. A path is kept as it was written, since
messages show it so.
-/
import AbiProbe.Text.Pieces

namespace AbiProbe.Path

open Text

/-- The part that stands for the top of an absolute path. -/
def top : String := "/"

/-- The names between slashes, empty ones left out. -/
def namesOf (path : String) : List String :=
  ((pieces (· == '/') path.toList).filter (!·.isEmpty)).map String.ofList

/-- The parts of a path. A dot counts only where it is the first part of a
relative path. -/
def parts (path : String) : List String :=
  if path.toList.head? = some '/' then top :: (namesOf path).filter (· != ".")
  else match namesOf path with
    | [] => []
    | first :: rest => first :: rest.filter (· != ".")

/-- The path with some parts. -/
def ofParts : List String → String
  | [] => ""
  | first :: rest =>
    if first = top then top ++ String.intercalate "/" rest
    else String.intercalate "/" (first :: rest)

/-- The directory of what a path names; where the path tells none, it is the
working directory. -/
def directory (path : String) : String :=
  let parent := (parts path).dropLast
  if parent.isEmpty then "." else ofParts parent

/-- The path of a name in a directory. -/
def join (dir name : String) : String :=
  if dir.isEmpty then name
  else if dir.toList.getLast? = some '/' then dir ++ name
  else dir ++ "/" ++ name

/-- Whether a path can only name a directory. -/
def namesDirectory (path : String) : Bool :=
  path.toList.getLast? == some '/' || path == "." || path.toList.reverse.take 2 == ['.', '/']

end AbiProbe.Path
