/-
What the program prints: the summary of a run as lines or as JSON, and the
chain of an error, each cause below what it was the cause of.
-/
import AbiProbe.Run
import AbiProbe.Text.Pieces

namespace AbiProbe.Report

open Text

/-! ## Summaries -/

/-- A text with spaces after it, up to a width in characters. -/
def padRight (width : Nat) (s : String) : String :=
  s ++ String.ofList (List.replicate (width - s.toList.length) ' ')

/-- A text with spaces before it, up to a width in characters. -/
def padLeft (width : Nat) (s : String) : String :=
  String.ofList (List.replicate (width - s.toList.length) ' ') ++ s

def probeLine (p : ProbeSummary) : String :=
  "   " ++ padRight 16 p.label ++ " " ++ padLeft 4 (toString p.entries) ++ " entries\n"

/-- A summary in lines, one for each probe. -/
def lines (s : Summary) : String :=
  "Platform: " ++ s.platform.name ++ "\nSink: " ++ s.sinkName ++ "\n" ++
    String.join (s.probes.map probeLine) ++ "Total: " ++ toString s.total ++ " entries\n"

def hexPair (n : Nat) : List Char := [Nat.digitChar (n / 16), Nat.digitChar (n % 16)]

/-- How one character stands in a JSON string. -/
def jsonChar (c : Char) : List Char :=
  if c = '"' then ['\\', '"']
  else if c = '\\' then ['\\', '\\']
  else if c = '\x08' then ['\\', 'b']
  else if c = '\x0c' then ['\\', 'f']
  else if c = '\n' then ['\\', 'n']
  else if c = '\r' then ['\\', 'r']
  else if c = '\t' then ['\\', 't']
  else if c.toNat < 0x20 then ['\\', 'u', '0', '0'] ++ hexPair c.toNat
  else [c]

def jsonString (s : String) : String :=
  String.ofList (['"'] ++ s.toList.flatMap jsonChar ++ ['"'])

def jsonProbe (p : ProbeSummary) : String :=
  "    \x7b\n      \"name\": " ++ jsonString p.label ++ ",\n      \"kind\": " ++
    jsonString p.kind.name ++ ",\n      \"entries\": " ++ toString p.entries ++ "\n    \x7d"

/-- A summary as JSON, indented by two spaces. -/
def json (s : Summary) : String :=
  let probes :=
    if s.probes.isEmpty then "[]"
    else "[\n" ++ String.intercalate ",\n" (s.probes.map jsonProbe) ++ "\n  ]"
  "\x7b\n  \"platform\": " ++ jsonString s.platform.name ++ ",\n  \"sink\": " ++
    jsonString s.sinkName ++ ",\n  \"probes\": " ++ probes ++ "\n\x7d\n"

/-! ## Errors -/

/-- A text whose first line follows `first` and whose other lines follow
`other`. -/
def indented (first other s : String) : String :=
  match (pieces (· == '\n') s.toList).map String.ofList with
  | [] => first
  | line :: rest => first ++ line ++ String.join (rest.map fun line => "\n" ++ other ++ line)

/-- The causes of an error, the nearest one first. They are numbered where
there is more than one. -/
def causes : List String → String
  | [] => ""
  | [only] => "\n" ++ indented "    " "    " only
  | several =>
    String.join (several.zipIdx.map fun (cause, n) =>
      "\n" ++ indented (padLeft 5 (toString n) ++ ": ") "       " cause)

/-- An error under what was being done when it came up. -/
def failure (context : String) (e : Error) : String :=
  "Error: " ++ context ++ "\n\nCaused by:" ++ causes (e.message :: e.cause?.toList) ++ "\n"

end AbiProbe.Report
