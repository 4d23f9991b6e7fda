/-
The build hosts that can be probed: their names, the compiler flags they
need, the compiler they use by default, and the source file that holds the
published facts of each.
-/
import AbiProbe.Error

namespace AbiProbe

inductive Platform where
  | x86Linux
  | armLinux
  | x86Darwin
  | armDarwin
  | sparcSolaris
  deriving DecidableEq, Repr

/-- A text with the letters of ASCII in lower case. This decides equality
with a name in lower-case ASCII letters other than k as every case rule
does: outside ASCII only the Kelvin sign has a lower case in ASCII. -/
def lowerCase (s : String) : String := String.ofList (s.toList.map Char.toLower)

namespace Platform

def name : Platform → String
  | .x86Linux => "x86_64-linux"
  | .armLinux => "aarch64-linux"
  | .x86Darwin => "x86_64-darwin"
  | .armDarwin => "aarch64-darwin"
  | .sparcSolaris => "sparcv9-solaris"

/-- The names under which a platform may be asked for, in lower case. -/
def names : List (String × Platform) :=
  [("x86_64-linux", .x86Linux), ("aarch64-linux", .armLinux), ("arm64-linux", .armLinux),
    ("x86_64-darwin", .x86Darwin), ("x86_64-macos", .x86Darwin),
    ("aarch64-darwin", .armDarwin), ("arm64-darwin", .armDarwin), ("aarch64-macos", .armDarwin),
    ("sparcv9-solaris", .sparcSolaris)]

/-- The platform of a name, in any case. -/
def ofName (s : String) : Except Error Platform :=
  match names.lookup (lowerCase s) with
  | some p => .ok p
  | none => .error (.unsupportedPlatform s)

def isDarwin : Platform → Bool
  | .x86Darwin | .armDarwin => true
  | _ => false

/-- The flags a platform needs on top of the strict ones. -/
def compilerFlags : Platform → List String
  | .x86Linux | .armLinux => ["-D_GNU_SOURCE"]
  | .x86Darwin | .armDarwin => []
  | .sparcSolaris => ["-std=gnu99", "-m64", "-D_XOPEN_SOURCE=600", "-D__EXTENSIONS__=1"]

/-- The compiler where neither the configuration nor the environment names
one. -/
def defaultCompiler : Platform → String
  | .sparcSolaris => "gcc"
  | _ => "cc"

/-- The source file that holds the published facts of a platform. -/
def defaultTarget : Platform → String
  | .x86Linux | .armLinux =>
    "src/main/java/org/truffleruby/platform/linux/LinuxRubiniusConfiguration.java"
  | .x86Darwin | .armDarwin =>
    "src/main/java/org/truffleruby/platform/darwin/DarwinRubiniusConfiguration.java"
  | .sparcSolaris =>
    "src/main/java/org/truffleruby/platform/solaris/SolarisSparcV9RubiniusConfiguration.java"

theorem ofName_name (p : Platform) : ofName p.name = .ok p := by
  cases p <;> rfl

end Platform

end AbiProbe
