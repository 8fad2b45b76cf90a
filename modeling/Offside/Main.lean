import Offside.Program.Compare
import Offside.Program.Tokenize
import Std.Time.Format

/-!
# Command line

The programs on the real system. The first argument names the program. The rows of the reference
are read from standard input, so that whatever prints them can be put in front of a pipe.
-/

namespace Offside

set_option autoImplicit false

/-- The number that the system gives to an error; some are handed on as negative numbers. -/
def errorNumber (code : UInt32) : Nat :=
  if 0x80000000 ≤ code.toNat then 0x100000000 - code.toNat else code.toNat

/-- The words of the system for an error. -/
def errorText (code : UInt32) (details : String) : String :=
  match details.toList with
  | c :: rest =>
    String.ofList (c.toUpper :: rest) ++ " (os error " ++ toString (errorNumber code) ++ ")"
  | [] => "os error " ++ toString (errorNumber code)

def OsError.ofIo : IO.Error → OsError
  | .noFileOrDirectory _ code details => ⟨.notFound, errorText code details⟩
  | .permissionDenied _ code details => ⟨.permissionDenied, errorText code details⟩
  | .inappropriateType _ code details => ⟨.other, errorText code details⟩
  | .alreadyExists _ code details => ⟨.other, errorText code details⟩
  | .invalidArgument _ code details => ⟨.other, errorText code details⟩
  | .resourceExhausted _ code details => ⟨.other, errorText code details⟩
  | .otherError code details => ⟨.other, errorText code details⟩
  | e => ⟨.other, toString e⟩

def ask {α : Type} (action : IO α) : IO (Except OsError α) := do
  match ← action.toBaseIO with
  | .ok a => pure (.ok a)
  | .error e => pure (.error (.ofIo e))

def askAbout (path : String) : IO FileAnswers := do
  let content ← ask (IO.FS.readBinFile path)
  match ← ask (IO.FS.realPath path) with
  | .error e => pure ⟨false, false, .error e, .error e, content⟩
  | .ok p =>
    match ← ask p.metadata with
    | .error e => pure ⟨false, false, .ok p.toString, .error e, content⟩
    | .ok m => pure ⟨true, m.type == .file, .ok p.toString, .ok m.byteSize.toNat, content⟩

/-- The time of day in years, months, days, hours, minutes, seconds and their thousandths. -/
def timeOfDay : IO String := do
  let now ← Std.Time.Timestamp.now
  let moment := Std.Time.PlainDateTime.ofWallTime (.ofTimestamp now .zero)
  pure (moment.format "uuuu-MM-dd'T'HH:mm:ss.SSS'Z'")

def openLogFile (path : String) : IO (Except OsError Unit) :=
  ask do
    let directory := (path.toList.reverse.dropWhile (· != '/')).tail.reverse
    if !directory.isEmpty then IO.FS.createDirAll (String.ofList directory)
    let _ ← IO.FS.Handle.mk path .append

/-- Appends to a log file; a log that cannot be written is lost. -/
def appendLog (path text : String) : IO Unit := do
  let _ ← ask do
    let file ← IO.FS.Handle.mk path .append
    file.putStr text

/-- The patterns of a table are run as they are, so none of them is too large. -/
def compilesAll : PatternCompiler := fun _ => none

instance : System IO where
  variableNamed name := IO.getEnv name
  look := askAbout
  openLog := openLogFile
  append := appendLog
  launch _ := do
    let rows ← (← IO.getStdin).readBinToEnd
    pure (.started ⟨[.bytes rows.toList], [], .exit 0, 0⟩)
  print channel text := do
    let stream ← match channel with
      | .out => IO.getStdout
      | .err => IO.getStderr
    stream.putStr text
    stream.flush
  time := timeOfDay
  milliseconds := IO.monoMsNow

end Offside

def main : List String → IO UInt32
  | "tokenize" :: args => do
    pure (UInt32.ofNat (← Offside.Program.Tokenize.run .development Offside.compilesAll args))
  | "compare" :: args => do
    pure (UInt32.ofNat (← Offside.Program.Compare.run .development Offside.compilesAll args))
  | _ => do
    let stderr ← IO.getStderr
    stderr.putStrLn (Offside.Program.Tokenize.usage ++ "\n" ++ Offside.Program.Compare.usage)
    pure 2
