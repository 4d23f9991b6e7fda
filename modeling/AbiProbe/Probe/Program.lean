/-
What the generated C programs have in common: the headers before them, and
the frame around the statements of `main`.
-/

namespace AbiProbe.Program

/-- The line that includes a header. -/
def includeLine (header : String) : String := "#include <" ++ header ++ ">\n"

/-- The lines that include headers, in order. -/
def includeLines (headers : List String) : String := String.join (headers.map includeLine)

/-- A program that prints facts: the headers, between those that it needs
itself, and a `main` of some statements. -/
def printing (headers : List String) (statements : String) : String :=
  includeLine "stdio.h" ++ includeLines headers ++ includeLine "stddef.h" ++ "\n" ++
    "int main(int argc, char **argv) \x7b\n" ++ statements ++ "\n  return 0;\n\x7d\n"

end AbiProbe.Program
