/-
Why a run fails. Every cause is a constructor and every wording is here:
`Error.message` is the only place where an error becomes text.
-/
import AbiProbe.Text.Quoted

namespace AbiProbe

open Text

/-- What a name in a catalog names. -/
inductive NameKind where
  | struct
  | field
  | group
  | constant
  deriving DecidableEq, Repr

namespace NameKind

def text : NameKind → String
  | .struct => "struct"
  | .field => "field"
  | .group => "constant group"
  | .constant => "constant"

end NameKind

/-- What a configuration, a catalog or a caller got wrong. -/
inductive Misuse where
  /-- The name of a sink that does not exist. -/
  | unknownSink (name : String)
  /-- No environment variable to look a compiler up in. -/
  | emptyCompilerVariable
  /-- A marker that would occur everywhere. -/
  | emptyMarker
  /-- A name that cannot stand in generated source. -/
  | invalidName (kind : NameKind) (name : String)
  /-- A header that cannot stand between angle brackets. -/
  | invalidHeader (header : String)
  /-- A format or cast with a quote in it. -/
  | quoteInGroup (group : String)
  /-- An entry for a sink that was finished. -/
  | entryAfterFinish (key : String)
  /-- An entry for a flat file that was closed. -/
  | alreadyClosed (path : String)
  /-- An entry for a patched file that was written. -/
  | alreadyWritten (path : String)
  /-- A refusal in the words of the one who refuses. -/
  | other (reason : String)
  deriving DecidableEq, Repr

namespace Misuse

def text : Misuse → String
  | .unknownSink name => "unknown sink: " ++ name
  | .emptyCompilerVariable => "compiler_env must not be empty"
  | .emptyMarker => "patch markers must not be empty"
  | .invalidName kind name => "invalid " ++ kind.text ++ " name: " ++ quoted name
  | .invalidHeader header => "invalid header: " ++ quoted header
  | .quoteInGroup group => "format and cast of group " ++ group ++ " must not contain quotes"
  | .entryAfterFinish key => "entry " ++ key ++ " registered after the sink was finished"
  | .alreadyClosed path => path ++ " is already closed"
  | .alreadyWritten path => path ++ " was already written"
  | .other reason => reason

end Misuse

/-- How a line of probe output departs from what the probe prints. -/
inductive Mismatch where
  /-- The first line is not the size of the struct. -/
  | structSize
  /-- A line is not the offset and size of the field whose turn it is. -/
  | fieldLayout (field : String)
  /-- Digits that denote no 64-bit number. -/
  | numberRange
  /-- A field that ends beyond the end of its struct. -/
  | fieldPastEnd (field : String) (total : Nat)
  /-- A line after the last field. -/
  | trailing
  /-- A line that is not a name, a space and a value. -/
  | constantLine
  /-- A name that the group does not declare. -/
  | undeclared (name : String)
  /-- Any other departure. -/
  | other (reason : String)
  deriving DecidableEq, Repr

namespace Mismatch

def text : Mismatch → String
  | .structSize => "expected struct size"
  | .fieldLayout field => "expected offset and size of " ++ field
  | .numberRange => "number out of range"
  | .fieldPastEnd field total =>
    "field " ++ field ++ " extends past the struct size " ++ toString total
  | .trailing => "unexpected trailing output"
  | .constantLine => "expected NAME VALUE"
  | .undeclared name => name ++ " was not declared in this group"
  | .other reason => reason

end Mismatch

/-- Why an operation on a file fails. -/
inductive FileFault where
  | notFound
  | notDirectory
  | isDirectory
  /-- A name on the way is longer than a directory can hold. -/
  | nameTooLong
  /-- A name on the way holds the character that ends names. -/
  | nulInName
  /-- The content is not UTF-8. -/
  | notText
  /-- The file may not be used so. -/
  | denied
  /-- The operation failed for a reason of the device. -/
  | device
  deriving DecidableEq, Repr

namespace FileFault

def text : FileFault → String
  | .notFound => "No such file or directory (os error 2)"
  | .notDirectory => "Not a directory (os error 20)"
  | .isDirectory => "Is a directory (os error 21)"
  | .nameTooLong => "File name too long (os error 36)"
  | .nulInName => "file name contained an unexpected NUL byte"
  | .notText => "stream did not contain valid UTF-8"
  | .denied => "Permission denied (os error 13)"
  | .device => "Input/output error (os error 5)"

end FileFault

/-- Why a run fails. -/
inductive Error where
  /-- The compiler or a probe's program failed; `output` is all it printed. -/
  | toolFailure (command output : String)
  /-- A line of output that its probe cannot have printed. -/
  | formatMismatch (probe line : String) (reason : Mismatch)
  /-- A file to patch lacks one of its markers. -/
  | missingMarker (path marker : String)
  | unsupportedPlatform (name : String)
  | config (misuse : Misuse)
  | file (fault : FileFault)
  /-- A document that is not YAML, or not of the expected shape. -/
  | yaml (reason : String)
  deriving DecidableEq, Repr

namespace Error

/-- The text of an error. -/
def message : Error → String
  | .toolFailure command output => command ++ " failed:\n" ++ output
  | .formatMismatch probe line reason =>
    "unexpected output from probe " ++ probe ++ ": " ++ reason.text ++ ": " ++ quoted line
  | .missingMarker path marker => "could not find marker " ++ quoted marker ++ " in " ++ path
  | .unsupportedPlatform name => "unsupported platform: " ++ name
  | .config misuse => "Configuration error: " ++ misuse.text
  | .file fault => "IO error: " ++ fault.text
  | .yaml reason => "YAML error: " ++ reason

/-- The text of what lies beneath an error, if another one does. -/
def cause? : Error → Option String
  | .file fault => some fault.text
  | .yaml reason => some reason
  | _ => none

end Error

end AbiProbe
