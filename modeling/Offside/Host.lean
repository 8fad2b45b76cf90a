import Offside.Text.Cutting
import Offside.Text.Numeral

/-!
# Answers of the operating system

What the system says when it is asked about a file or a variable of the environment. The rest of the
library works on these answers and asks nothing itself. A variable that is set to something that
cannot be read counts as not set.
-/

namespace Offside

set_option autoImplicit false

inductive Refusal
  | notFound
  | permissionDenied
  | invalidData
  | other
deriving DecidableEq, Inhabited

/-- A refusal with the system's own words. -/
structure OsError where
  refusal : Refusal
  text : String
deriving DecidableEq, Inhabited

namespace OsError

/-- The content of a file is no text. -/
def notUtf8 : OsError := ⟨.invalidData, "stream did not contain valid UTF-8"⟩

end OsError

def decodeText (bytes : ByteArray) : Except OsError String :=
  match String.fromUTF8? bytes with
  | some s => .ok s
  | none => .error .notUtf8

/-- What the system says about a path. -/
structure FileAnswers where
  /-- Whether the path leads somewhere. -/
  found : Bool
  /-- Whether it leads to a regular file. -/
  isFile : Bool
  /-- The path without links and detours. -/
  canonical : Except OsError String
  /-- The number of bytes in the file. -/
  size : Except OsError Nat
  /-- The bytes in the file. -/
  content : Except OsError ByteArray

def FileAnswers.text (a : FileAnswers) : Except OsError String :=
  match a.content with
  | .ok bytes => decodeText bytes
  | .error e => .error e

/-- The values of environment variables by their names. -/
abbrev Environment := String → Option String

namespace Environment

/-- What a variable says, or a default if it is not set or says nothing valid. -/
def get {β : Type} (env : Environment) (name : String) (read : String → Option β) (default : β) :
    β :=
  ((env name).bind read).getD default

def names : List String :=
  ["TOKENIZER_REQUIRE_PY_EXTENSION", "TOKENIZER_ENABLE_PERFORMANCE_LOGGING",
   "TOKENIZER_ALLOW_EMPTY_FILES", "TOKENIZER_OPERATOR_PRESET", "TOKENIZER_EXTRA_OPERATORS",
   "TOKENIZER_END_OF_INPUT", "TOKENIZER_LOGGING_USE_STRUCTURED",
   "TOKENIZER_LOGGING_ENABLE_CONSOLE", "TOKENIZER_LOGGING_MIN_LEVEL", "TOKENIZER_LOGGING_FILE",
   "TOKENIZER_REFERENCE_PROGRAM", "TOKENIZER_REFERENCE_TIMEOUT"]

/-- A truth value, written out. -/
def truth? : String → Option Bool
  | "true" => some true
  | "false" => some false
  | _ => none

/-- A text that is not only white space. -/
def nonBlank? (s : String) : Option String :=
  if s.toList.all Text.isBlank then none else some s

/-- A number of seconds that is not zero. -/
def seconds? (s : String) : Option Nat :=
  match Text.uint64? s.toList with
  | some (n + 1) => some (n + 1)
  | _ => none

end Environment

end Offside
