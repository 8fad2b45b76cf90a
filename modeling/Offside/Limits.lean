import Offside.Host
import Offside.Toml.Reader

/-!
# Limits

The bounds a build is made with. They come from a profile, a TOML file: they have to stay within
absolute bounds, and those of a production build within narrower ones; then they become a module of
constants.
-/

namespace Offside

set_option autoImplicit false

open Document

structure Limits where
  /-- The size of the largest file that is read, in bytes. -/
  maxFileSize : Nat
  /-- A file of more bytes counts as large. -/
  largeFileThreshold : Nat
  maxLineCount : Nat
  referenceTimeoutSeconds : Nat
  maxReferenceOutputBytes : Nat
  /-- How many events are kept in memory. -/
  maxMemoryEvents : Nat
  /-- The length of the longest message that is logged whole, in bytes. -/
  maxLogMessageLength : Nat
  /-- How many bytes are held back before a log file is written. -/
  logWriteBufferSize : Nat
deriving DecidableEq

namespace Limits

/-- The limits of a build for development. -/
def development : Limits where
  maxFileSize := 10485760
  largeFileThreshold := 1048576
  maxLineCount := 200000
  referenceTimeoutSeconds := 30
  maxReferenceOutputBytes := 67108864
  maxMemoryEvents := 10000
  maxLogMessageLength := 4096
  logWriteBufferSize := 8192

def ofDocument? {α : Type} [Document α] (d : α) : Option Limits := do
  let [files, reference, logging] ←
    allFields? ["file_processing", "differential", "logging"] d | none
  let [size, large, lines] ←
    allFields? ["max_file_size", "large_file_threshold", "max_line_count"] files | none
  let [seconds, bytes] ←
    allFields? ["reference_timeout_seconds", "max_reference_output_bytes"] reference | none
  let [events, message, buffer] ←
    allFields? ["max_memory_events", "max_log_message_length", "log_write_buffer_size"] logging
    | none
  some
    { maxFileSize := ← natural? size
      largeFileThreshold := ← natural? large
      maxLineCount := ← natural? lines
      referenceTimeoutSeconds := ← natural? seconds
      maxReferenceOutputBytes := ← natural? bytes
      maxMemoryEvents := ← natural? events
      maxLogMessageLength := ← natural? message
      logWriteBufferSize := ← natural? buffer }

inductive Fault
  | fileSize
  | largeFile
  | timeout
  | output
  | messageLength
  | productionFileSize
  | productionTimeout
deriving DecidableEq

def Fault.message : Fault → String
  | fileSize => "SECURITY: max_file_size exceeds absolute maximum"
  | largeFile => "CONFIG: large_file_threshold must not exceed max_file_size"
  | timeout => "SECURITY: reference_timeout_seconds must be within 1..=3600"
  | output => "SECURITY: max_reference_output_bytes exceeds absolute maximum"
  | messageLength => "CONFIG: max_log_message_length must be positive"
  | productionFileSize => "PRODUCTION: max_file_size too high for production"
  | productionTimeout => "PRODUCTION: reference_timeout_seconds too high for production"

/-- The first reason, if there is one, to refuse the limits of a profile. -/
def fault? (profile : String) (l : Limits) : Option Fault :=
  if 1000000000 < l.maxFileSize then some .fileSize
  else if l.maxFileSize < l.largeFileThreshold then some .largeFile
  else if l.referenceTimeoutSeconds = 0 || 3600 < l.referenceTimeoutSeconds then some .timeout
  else if 1073741824 < l.maxReferenceOutputBytes then some .output
  else if l.maxLogMessageLength = 0 then some .messageLength
  else if profile = "production" then
    if 50000000 < l.maxFileSize then some .productionFileSize
    else if 600 < l.referenceTimeoutSeconds then some .productionTimeout
    else none
  else none

def constant (name type : String) (value : Nat) : String :=
  "        pub const " ++ name ++ ": " ++ type ++ " = " ++ toString value ++ ";\n"

def group (name : String) (constants : List String) : String :=
  "    pub mod " ++ name ++ " \x7b\n" ++ String.join constants ++ "    \x7d\n"

/-- The module of constants for the limits of a profile. -/
def constants (profile : String) (l : Limits) : String :=
  "\n// Generated compile-time constants from TOML configuration\n// Profile: " ++ profile ++
  "\n// DO NOT EDIT - Generated by build.rs\n\npub mod compile_time \x7b\n" ++
  "\n".intercalate
    [group "file_processing"
      [constant "MAX_FILE_SIZE" "u64" l.maxFileSize,
       constant "LARGE_FILE_THRESHOLD" "u64" l.largeFileThreshold,
       constant "MAX_LINE_COUNT" "usize" l.maxLineCount],
     group "differential"
      [constant "REFERENCE_TIMEOUT_SECONDS" "u64" l.referenceTimeoutSeconds,
       constant "MAX_REFERENCE_OUTPUT_BYTES" "usize" l.maxReferenceOutputBytes],
     group "logging"
      [constant "MAX_MEMORY_EVENTS" "usize" l.maxMemoryEvents,
       constant "MAX_LOG_MESSAGE_LENGTH" "usize" l.maxLogMessageLength,
       constant "LOG_WRITE_BUFFER_SIZE" "usize" l.logWriteBufferSize]] ++
  "\x7d\n"

/-- The name of a profile and the directory its file is in. -/
structure Profile where
  name : String := "development"
  directory : String := "config"

namespace Profile

/-- Where the limits of a profile come from, in words. -/
def sourceInfo (p : Profile) : String :=
  "Generated from " ++ p.directory ++ "/" ++ p.name ++ ".toml"

/-- The path of a name seen from a directory; a name that starts at the top stays as it is. -/
def join (directory name : String) : String :=
  if name.toList.head? == some '/' then name
  else if directory.toList.getLast? == some '/' then directory ++ name
  else directory ++ "/" ++ name

def path (p : Profile) (workspace : String) : String :=
  join (join workspace p.directory) (p.name ++ ".toml")

/-- What the build is told about its inputs. -/
def notices (p : Profile) (workspace : String) : String :=
  String.join <|
    ["changed=build.rs", "env-changed=TOKENIZER_BUILD_PROFILE", "env-changed=TOKENIZER_CONFIG_DIR",
     "changed=" ++ p.path workspace].map fun s => "cargo:rerun-if-" ++ s ++ "\n"

inductive Trouble
  | missing (path workspace lookedFor : String)
  | unreadable (path : String) (reason : OsError)
  | invalid (path : String)
  | refused (fault : Fault)
deriving DecidableEq

def Trouble.message : Trouble → String
  | missing path workspace lookedFor =>
    "Configuration file not found: " ++ path ++ "\nWorkspace root: " ++ workspace ++
      "\nLooking for: " ++ lookedFor
  | unreadable path reason => "Failed to read " ++ path ++ ": " ++ reason.text
  | invalid path => "Invalid TOML in " ++ path
  | refused fault => fault.message

/-- The constants of a profile, given what the system says about its file. -/
def build (p : Profile) (workspace : String) (answers : FileAnswers) : Except Trouble String :=
  let path := p.path workspace
  if !answers.found then
    .error (.missing path workspace
      (workspace ++ "/" ++ p.directory ++ "/" ++ p.name ++ ".toml"))
  else match answers.text with
    | .error e => .error (.unreadable path e)
    | .ok s =>
      match (Toml.ofString? s).bind ofDocument? with
      | none => .error (.invalid path)
      | some l =>
        match l.fault? p.name with
        | some fault => .error (.refused fault)
        | none => .ok (constants p.name l)

end Profile

end Limits

end Offside
