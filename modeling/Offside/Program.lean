import Offside.Command.Executor
import Offside.CommandLine
import Offside.Journal
import Offside.Settings

/-!
# Programs

What a program asks of the system it runs on, and how it keeps its journal. A program is written
for any system, be it a real one or a model of one. Its journal goes to the console, to a file or to
both, as the settings say. If they say neither, it records nothing.
-/

namespace Offside

set_option autoImplicit false

namespace Journal

structure OpenError where
  path : String
  reason : OsError
deriving DecidableEq

def OpenError.code (_ : OpenError) : Code := Code.initialization

def OpenError.message (e : OpenError) : String :=
  "Cannot open log file '" ++ e.path ++ "': " ++ e.reason.text

/-- The bound of a writer of whom nothing is recorded. -/
def silentBound : Level := .error

/-- The journal that settings ask for, its files being open. -/
def ofPrefs (limits : Limits) (p : JournalPrefs) : Journal :=
  let form := if p.structured then Form.structured else .plain
  let console := if p.console then [Sink.console ⟨p.bound, form, #[]⟩] else []
  let file := match p.file with
    | some path =>
      [Sink.file
        { path := path, bound := p.bound, form := form, capacity := limits.logWriteBufferSize }]
    | none => []
  if console.isEmpty && file.isEmpty then disabled else ofSink (.multi p.bound (console ++ file))

end Journal

namespace JournalPrefs

/-- The bound of who writes to the journal that settings ask for. -/
def writerBound (p : JournalPrefs) : Level :=
  if p.console || p.file.isSome then p.bound else Journal.silentBound

end JournalPrefs

class System (m : Type → Type) where
  /-- The value of an environment variable. -/
  variableNamed : String → m (Option String)
  look : String → m FileAnswers
  /-- Makes sure that there is a log file at a path. -/
  openLog : String → m (Except OsError Unit)
  /-- Appends to a log file. -/
  append : String → String → m Unit
  launch : Invocation → m Launch
  print : Channel → String → m Unit
  /-- The time of day, as events bear it. -/
  time : m String
  /-- A clock that counts milliseconds. -/
  milliseconds : m Nat

namespace Program

variable {m : Type → Type} [Monad m] [System m] (limits : Limits)

/-- The environment, as far as settings depend on it. -/
def environment : m Environment := do
  let values ← Environment.names.mapM fun name => do
    pure (name, ← System.variableNamed name)
  pure fun name => (values.find? fun v => v.1 == name).bind (·.2)

def complain (message : String) : m Unit := System.print .err (message ++ "\n")

/-- Carries out what a journal has shown and written. -/
def settle (j : Journal) : m Journal := do
  for line in j.sink.shown do
    System.print line.1 (line.2 ++ "\n")
  for file in j.sink.files do
    if !file.written.isEmpty then System.append file.path file.written
  pure { j with sink := j.sink.settled }

def record (bound : Level) (events : List Event) (j : Journal) : m Journal :=
  settle (events.foldl (fun j e => j.record bound e) j)

/-- Opens the journal that settings ask for. -/
def openJournal (p : JournalPrefs) : m (Except Journal.OpenError Journal) := do
  match p.file with
  | none => pure (.ok (.ofPrefs limits p))
  | some path =>
    match ← System.openLog path with
    | .ok () => pure (.ok (.ofPrefs limits p))
    | .error e => pure (.error ⟨path, e⟩)

/-- Reads a source, and tells the events on the way: the first is made before the system is asked
for the file, and all others when it has answered. -/
def readSource (rules : FileRules) (path : String) :
    m (List Event × Except FileError SourceFile) := do
  let started ← System.time
  let start ← System.milliseconds
  let answers ← System.look path
  let stop ← System.milliseconds
  let answered ← System.time
  let clock (k : Nat) := if k = 0 then started else answered
  pure (SourceFile.process limits clock rules answers (toString (stop - start)) path)

def recordLexical (bound : Level) (path : String) (e : LexError) (j : Journal) : m Journal := do
  let time ← System.time
  record bound [.error limits time e.code e.message [("file", path)]] j

/-- An error under its code. -/
def coded (code : Code) (message : String) : String := "error[" ++ code ++ "]: " ++ message

def isLevel (s : String) : Bool := (Level.ofText? s).isSome

def isPath (s : String) : Bool := !s.isEmpty

def version : String := "0.1.0"

/-- Grants a request: runs the program, or says what it is. -/
def answer (name usage : String) (request : Option Request) (run : Arguments → m Nat) : m Nat :=
  match request with
  | none => do
    complain ("error: unexpected arguments\n\n" ++ usage)
    pure 2
  | some .version => do
    System.print .out (name ++ " " ++ version ++ "\n")
    pure 0
  | some .help => do
    System.print .out (usage ++ "\n")
    pure 0
  | some (.run a) => run a

end Program

end Offside
