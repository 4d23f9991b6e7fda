/-
Replacing a file as a whole. The new content goes to a temporary file beside
the target, which takes the target's place in one step at the end. If any
step fails, the temporary file is removed and the target is as it was.
-/
import AbiProbe.FileSystem

namespace AbiProbe

/-- The steps of a publication that the device may refuse. -/
inductive PublishStep where
  /-- Reading the target. -/
  | read
  /-- Taking a line after so many others. -/
  | line (before : Nat)
  /-- Looking at the target. -/
  | inspect
  /-- Creating the temporary file. -/
  | create
  /-- Writing its content. -/
  | write
  /-- Setting its mode. -/
  | setMode
  /-- Putting it in the target's place. -/
  | replace
  deriving DecidableEq, Repr

/-- Which steps the device refuses. -/
abbrev Faults := PublishStep → Bool

namespace Faults

/-- A device that refuses nothing. -/
def none : Faults := fun _ => false

end Faults

namespace FileSystem

/-- The stem of the names of temporary files. -/
def temporaryStem : String := ".tmp"

/-- Gives the temporary file at `source` its content and mode, and puts it
in the place of what `path` names. -/
def publish (fs : FileSystem) (faults : Faults) (source : Place) (content : ByteArray) (mode : Nat)
    (path : String) : Except FileFault Unit × FileSystem :=
  if faults .write then (.error .device, fs.erase source)
  else
    let written := fs.setContent source content
    if faults .setMode then (.error .device, written.erase source)
    else
      let ready := written.setMode source mode
      if faults .replace then (.error .device, ready.erase source)
      else match ready.replace source path with
        | .error f => (.error f, ready.erase source)
        | .ok published => (.ok (), published)

end FileSystem

end AbiProbe
