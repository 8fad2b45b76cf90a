import Offside.Host
import Offside.Journal.Event
import Offside.Text.Numeral
import Offside.Text.Cutting
import Offside.Text.Quoted

/-!
# Source files

A path becomes a source in five steps: the path is checked, the file is measured, the measures are
held against the limits and the rules, the text is read, and it is cut into lines. Each step that
fails has one error and reports it by one event. Events are numbered as they are made, and a clock
gives the time of each.
-/

namespace Offside

set_option autoImplicit false

inductive FileError
  | notFound (path : String)
  | extension (found : Option String)
  | tooLarge (size limit : Nat)
  | empty
  | permission (path : String)
  | encoding (path : String)
  | io (message : String)
  | invalidPath (path : String)
  | tooManyLines (lines limit : Nat)
deriving DecidableEq

namespace FileError

def code : FileError → Code
  | notFound _ => Code.fileNotFound
  | extension _ => Code.extension
  | tooLarge .. => Code.fileTooLarge
  | empty => Code.emptyFile
  | permission _ => Code.filePermission
  | encoding _ => Code.encoding
  | io _ => Code.io
  | invalidPath _ => Code.path
  | tooManyLines .. => Code.tooManyLines

def message : FileError → String
  | notFound path => "No file named \"" ++ path ++ "\""
  | extension found =>
    "Invalid file extension: expected .py, found " ++
      match found with
      | some e => "Some(" ++ Text.quoted e ++ ")"
      | none => "None"
  | tooLarge size limit =>
    "File too large: " ++ toString size ++ " bytes (max: " ++ toString limit ++ ")"
  | empty => "File is empty"
  | permission path => "Permission denied: " ++ path
  | encoding path => "Invalid UTF-8 encoding in file: " ++ path
  | io message => "I/O error reading file: " ++ message
  | invalidPath path => "Invalid file path: " ++ Text.quoted path
  | tooManyLines lines limit =>
    "File exceeds maximum line count: " ++ toString lines ++ " (max: " ++ toString limit ++ ")"

/-- The error of a path for which the system refused to answer. -/
def ofOs (path : String) (e : OsError) : FileError :=
  match e.refusal with
  | .notFound => notFound path
  | .permissionDenied => permission path
  | .invalidData => encoding path
  | .other => io ("'" ++ path ++ "': " ++ e.text)

end FileError

/-- What a person may choose about source files. -/
structure FileRules where
  requireExtension : Bool := false
  /-- Whether a success is reported with measures. -/
  reportMeasures : Bool := true
  allowEmpty : Bool := true
deriving DecidableEq, Inhabited

structure FileMeasures where
  /-- The path without links and detours. -/
  path : String
  size : Nat
  /-- What follows the last point of the name, in lower case. -/
  extension : Option String
deriving DecidableEq

namespace FileMeasures

def isPython (m : FileMeasures) : Bool := m.extension == some "py"

def isLarge (limits : Limits) (m : FileMeasures) : Bool := limits.largeFileThreshold < m.size

def humanSize (m : FileMeasures) : String := Text.byteCount m.size

/-- The extension as logs show it. -/
def extensionText (m : FileMeasures) : String := m.extension.getD "none"

end FileMeasures

/-- What follows the last point of the last name of a path; a name that starts with its only point
has no extension. -/
def extensionOf (path : String) : Option String :=
  let reversedName := path.toList.reverse.takeWhile (· != '/')
  let reversedExtension := reversedName.takeWhile (· != '.')
  match reversedName.dropWhile (· != '.') with
  | [] => none
  | ['.'] => none
  | _ => some (Text.lowercase (String.ofList reversedExtension.reverse))

structure SourceFile where
  measures : FileMeasures
  text : String
  lines : List String

namespace SourceFile

def charCount (f : SourceFile) : Nat := f.text.length

def endsWithNewline (f : SourceFile) : Bool := f.text.toList.getLast? == some '\n'

def isBlank (f : SourceFile) : Bool := f.text.toList.all Text.isBlank

/-- An error and the event that reports it. -/
structure Failure where
  error : FileError
  event : Event

section Steps

variable (limits : Limits) (time : String)

def fail (error : FileError) (message : String) (details : List (String × String)) : Failure :=
  ⟨error, .error limits time error.code message details⟩

def measure (answers : FileAnswers) (path : String) : Except Failure FileMeasures :=
  let fail := fail limits time
  if path.isEmpty then .error (fail (.invalidPath path) "Empty file path provided" [])
  else if !answers.found then
    .error (fail (.notFound path) "File not found" [("path", path)])
  else if !answers.isFile then
    .error (fail (.invalidPath path) "Path is not a file" [("path", path)])
  else match answers.canonical with
    | .error e =>
      .error (fail (.ofOs path e) "Failed to canonicalize path"
        [("path", path), ("io_error", e.text)])
    | .ok canonical =>
      match answers.size with
      | .error e =>
        .error (fail (.ofOs canonical e) "Failed to read file metadata"
          [("path", canonical), ("io_error", e.text)])
      | .ok size => .ok ⟨canonical, size, extensionOf canonical⟩

/-- Holds the measures of a file against the limits and the rules. -/
def checkMeasures (rules : FileRules) (m : FileMeasures) (path : String) : Except Failure Unit :=
  let fail := fail limits time
  let limit := limits.maxFileSize
  if limit < m.size then
    .error (fail (.tooLarge m.size limit) "File exceeds maximum size limit"
      [("file", path), ("size_human", m.humanSize), ("limit_human", Text.byteCount limit)])
  else if m.size = 0 && !rules.allowEmpty then
    .error (fail .empty "File is empty" [("file", path)])
  else if rules.requireExtension && !m.isPython then
    .error (fail (.extension m.extension) "File does not have required .py extension"
      [("file", path), ("extension", m.extensionText)])
  else .ok ()

def load (answers : FileAnswers) (m : FileMeasures) (path : String) : Except Failure SourceFile :=
  let fail := fail limits time
  match answers.text with
  | .error e =>
    .error (fail (.ofOs m.path e) "Failed to read file" [("file", path), ("io_error", e.text)])
  | .ok text =>
    let lines := Text.lines text
    let limit := limits.maxLineCount
    if limit < lines.length then
      .error (fail (.tooManyLines lines.length limit) "File exceeds maximum line count"
        [("file", path), ("lines", toString lines.length), ("max_lines", toString limit)])
    else .ok ⟨m, text, lines⟩

/-- The event that reports a file that was read in a time of `elapsed` milliseconds. -/
def success (rules : FileRules) (f : SourceFile) (path elapsed : String) : Event :=
  if rules.reportMeasures then
    .success limits time Code.fileRead "File processed successfully with performance metrics"
      [("file", path), ("size_bytes", toString f.measures.size),
       ("size_human", f.measures.humanSize), ("lines", toString f.lines.length),
       ("chars", toString f.charCount), ("duration_ms", elapsed),
       ("is_large_file", toString (f.measures.isLarge limits)),
       ("trailing_newline", toString f.endsWithNewline)]
  else
    .success limits time Code.fileRead "File processed successfully"
      [("file", path), ("lines", toString f.lines.length)]

end Steps

/-- The source at a path, and the events on the way. -/
def process (limits : Limits) (clock : Nat → String) (rules : FileRules) (answers : FileAnswers)
    (elapsed path : String) : List Event × Except FileError SourceFile :=
  let started := Event.debug limits (clock 0) "Starting file processing" [("file", path)]
  match measure limits (clock 1) answers path with
  | .error f => ([started, f.event], .error f.error)
  | .ok m =>
    let measured := Event.debug limits (clock 1) "File metadata collected"
      [("size_bytes", toString m.size), ("size_human", m.humanSize),
       ("extension", m.extensionText), ("max_size_bytes", toString limits.maxFileSize)]
    match (checkMeasures limits (clock 2) rules m path).bind fun _ =>
        load limits (clock 2) answers m path with
    | .error f => ([started, measured, f.event], .error f.error)
    | .ok f => ([started, measured, success limits (clock 2) rules f path elapsed], .ok f)

def linesOf (answers : FileAnswers) (path : String) : Except FileError (List String) :=
  match answers.text with
  | .error e => .error (.ofOs path e)
  | .ok text => .ok (Text.lines text)

end SourceFile

end Offside
