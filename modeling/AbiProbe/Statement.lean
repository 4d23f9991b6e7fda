/-
The statements that hold facts in a source file: each one calls
`configuration.config` with the quoted key and a literal. Five literal
shapes keep the five forms of a value apart.
-/
import AbiProbe.Entry

namespace AbiProbe.Statement

/-- How one character stands inside a quoted string. -/
def quoteChar (c : Char) : List Char :=
  if c = '"' then ['\\', '"']
  else if c = '\\' then ['\\', '\\']
  else if c = '\n' then ['\\', 'n']
  else if c = '\r' then ['\\', 'r']
  else if c = '\t' then ['\\', 't']
  else [c]

/-- A text as a double-quoted string of the source language. -/
def quote (s : String) : String :=
  String.ofList (['"'] ++ s.toList.flatMap quoteChar ++ ['"'])

/-- A value as an argument of the call. -/
def literal (v : Value) : String :=
  match v with
  | .integer _ | .boolean _ => v.toText
  | .wide _ => v.toText ++ "L"
  | .bignum numeral => "newBignum(context, " ++ quote numeral ++ ")"
  | .text s => "string(context, " ++ quote s ++ ")"

/-- The statement of an entry whose key stands under `root`. -/
def render (root : String) (e : Entry) : String :=
  "configuration.config(" ++ quote (e.qualifiedKey root) ++ ", " ++ literal e.value ++ ");"

end AbiProbe.Statement
