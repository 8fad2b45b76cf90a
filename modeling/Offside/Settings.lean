import Offside.Document
import Offside.Host
import Offside.Journal.Event
import Offside.Lexer.Tokenization
import Offside.Limits
import Offside.Operator
import Offside.SourceFile
import Offside.Toml.Reader

/-!
# Settings

What a person may choose, and how the choices are written down: in environment variables, and in a
document where a field that is left out keeps its default. As JSON, settings are a record with all
of its fields, so that reading them gives the settings back.
-/

namespace Offside

set_option autoImplicit false

open Document

namespace FileRules

def ofEnvironment (env : Environment) : FileRules where
  requireExtension := env.get "TOKENIZER_REQUIRE_PY_EXTENSION" Environment.truth? false
  reportMeasures := env.get "TOKENIZER_ENABLE_PERFORMANCE_LOGGING" Environment.truth? true
  allowEmpty := env.get "TOKENIZER_ALLOW_EMPTY_FILES" Environment.truth? true

def ofDocument? {α : Type} [Document α] (default : FileRules) (d : α) : Option FileRules := do
  match ← fields? ["require_py_extension", "enable_performance_logging", "allow_empty_files"] d with
  | [extension, measures, empty] =>
    some
      { requireExtension := ← orElse? bool? default.requireExtension extension
        reportMeasures := ← orElse? bool? default.reportMeasures measures
        allowEmpty := ← orElse? bool? default.allowEmpty empty }
  | _ => none

end FileRules

namespace Preset

def ofLabel? : String → Option Preset
  | "core" => some core
  | "extended" => some extended
  | _ => none

end Preset

namespace EndPolicy

def ofLabel? : String → Option EndPolicy
  | "strict" => some strict
  | "lenient" => some lenient
  | _ => none

end EndPolicy

namespace LexPrefs

def ofEnvironment (env : Environment) : LexPrefs where
  preset := env.get "TOKENIZER_OPERATOR_PRESET" Preset.ofText? .extended
  extraOperators := env.get "TOKENIZER_EXTRA_OPERATORS" (some ∘ OperatorSet.listOfText) []
  policy := env.get "TOKENIZER_END_OF_INPUT" EndPolicy.ofText? .strict

def ofDocument? {α : Type} [Document α] (default : LexPrefs) (d : α) : Option LexPrefs := do
  match ← fields? ["operator_preset", "extra_operators", "end_of_input"] d with
  | [preset, extra, policy] =>
    some
      { preset := ← orElse? (fun d => (choice? d).bind Preset.ofLabel?) default.preset preset
        extraOperators := ← orElse? texts? default.extraOperators extra
        policy := ← orElse? (fun d => (choice? d).bind EndPolicy.ofLabel?) default.policy policy }
  | _ => none

end LexPrefs

/-- What is logged, and where. -/
structure JournalPrefs where
  /-- Whether events are written as JSON. -/
  structured : Bool := false
  console : Bool := true
  bound : Level := .warning
  /-- A file to append events to. -/
  file : Option String := none
deriving DecidableEq, Inhabited

namespace JournalPrefs

def ofEnvironment (env : Environment) : JournalPrefs where
  structured := env.get "TOKENIZER_LOGGING_USE_STRUCTURED" Environment.truth? false
  console := env.get "TOKENIZER_LOGGING_ENABLE_CONSOLE" Environment.truth? true
  bound := env.get "TOKENIZER_LOGGING_MIN_LEVEL" Level.ofText? .warning
  file := (env "TOKENIZER_LOGGING_FILE").bind Environment.nonBlank?

def ofDocument? {α : Type} [Document α] (default : JournalPrefs) (d : α) :
    Option JournalPrefs := do
  match ← fields? ["use_structured_logging", "enable_console_logging", "min_log_level", "log_file"]
      d with
  | [structured, console, bound, file] =>
    some
      { structured := ← orElse? bool? default.structured structured
        console := ← orElse? bool? default.console console
        bound := ← orElse? (fun d => (choice? d).bind Level.ofName?) default.bound bound
        file := ← orElse? (optional? text?) default.file file }
  | _ => none

end JournalPrefs

structure Settings where
  files : FileRules := {}
  lexical : LexPrefs := {}
  journal : JournalPrefs := {}
deriving DecidableEq, Inhabited

namespace Settings

def ofEnvironment (env : Environment) : Settings :=
  ⟨.ofEnvironment env, .ofEnvironment env, .ofEnvironment env⟩

def ofDocument? {α : Type} [Document α] (default : Settings) (d : α) : Option Settings := do
  match ← fields? ["file_processor", "lexical", "logging"] d with
  | [files, lexical, journal] =>
    some
      { files := ← orElse? (FileRules.ofDocument? default.files) default.files files
        lexical := ← orElse? (LexPrefs.ofDocument? default.lexical) default.lexical lexical
        journal := ← orElse? (JournalPrefs.ofDocument? default.journal) default.journal journal }
  | _ => none

def ofToml? (default : Settings) (s : String) : Option Settings :=
  (Toml.ofString? s).bind (ofDocument? default)

/-- Why settings cannot be loaded. -/
inductive LoadError
  | unreadable (path : String) (reason : OsError)
  | invalid (path : String)
deriving DecidableEq

def LoadError.message : LoadError → String
  | unreadable path reason => "Cannot read configuration file '" ++ path ++ "': " ++ reason.text
  | invalid path => "Invalid configuration file '" ++ path ++ "': not a table of settings in TOML"

def load (default : Settings) (answers : FileAnswers) (path : String) :
    Except LoadError Settings :=
  match answers.text with
  | .error e => .error (.unreadable path e)
  | .ok s =>
    match ofToml? default s with
    | some settings => .ok settings
    | none => .error (.invalid path)

end Settings

structure ReferencePrefs where
  /-- The program that has the reference tokenizer as a module. -/
  program : String
  timeoutSeconds : Nat
  maxOutputBytes : Nat
deriving DecidableEq, Inhabited

namespace ReferencePrefs

/-- The settings of a build, for an environment without variables. -/
def ofLimits (limits : Limits) : ReferencePrefs where
  program := "python3"
  timeoutSeconds := limits.referenceTimeoutSeconds
  maxOutputBytes := limits.maxReferenceOutputBytes

def ofEnvironment (limits : Limits) (env : Environment) : ReferencePrefs :=
  let default := ofLimits limits
  { default with
    program := env.get "TOKENIZER_REFERENCE_PROGRAM" Environment.nonBlank? default.program
    timeoutSeconds :=
      env.get "TOKENIZER_REFERENCE_TIMEOUT" Environment.seconds? default.timeoutSeconds }

/-- The settings with another time; it is one second at least. -/
def withTimeout (p : ReferencePrefs) (seconds : Nat) : ReferencePrefs :=
  { p with timeoutSeconds := max seconds 1 }

def ofDocument? {α : Type} [Document α] (default : ReferencePrefs) (d : α) :
    Option ReferencePrefs := do
  match ← fields? ["program", "timeout_seconds", "max_output_bytes"] d with
  | [program, seconds, bytes] =>
    some
      { program := ← orElse? text? default.program program
        timeoutSeconds := ← orElse? natural? default.timeoutSeconds seconds
        maxOutputBytes := ← orElse? natural? default.maxOutputBytes bytes }
  | _ => none

end ReferencePrefs

def FileRules.toJson (r : FileRules) : Json :=
  .struct
    [("require_py_extension", .bool r.requireExtension),
     ("enable_performance_logging", .bool r.reportMeasures),
     ("allow_empty_files", .bool r.allowEmpty)]

def LexPrefs.toJson (p : LexPrefs) : Json :=
  .struct
    [("operator_preset", .string p.preset.label),
     ("extra_operators", .array (p.extraOperators.map .string)),
     ("end_of_input", .string p.policy.label)]

def JournalPrefs.toJson (p : JournalPrefs) : Json :=
  .struct
    [("use_structured_logging", .bool p.structured), ("enable_console_logging", .bool p.console),
     ("min_log_level", .string p.bound.name), ("log_file", .ofOption .string p.file)]

def Settings.toJson (s : Settings) : Json :=
  .struct
    [("file_processor", s.files.toJson), ("lexical", s.lexical.toJson),
     ("logging", s.journal.toJson)]

def ReferencePrefs.toJson (p : ReferencePrefs) : Json :=
  .struct
    [("program", .string p.program), ("timeout_seconds", .nat p.timeoutSeconds),
     ("max_output_bytes", .nat p.maxOutputBytes)]

end Offside
