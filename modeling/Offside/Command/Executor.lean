import Offside.Command.Pipe
import Offside.Diagnostic

/-!
# Running programs

A program runs only if it is on the list of allowed programs. Its two outputs are drained, each up
to a bound, and it is stopped when its time is over. What the system and the program do is given;
this module says what becomes of it.
-/

namespace Offside

set_option autoImplicit false

inductive CommandError
  | notFound (program : String)
  | failed (program reason : String)
  | timeout (milliseconds : Nat)
  | permission (program : String)
  | notAllowed (reason : String)
  | outputTooLarge (program : String) (limit : Nat)
deriving DecidableEq

namespace CommandError

def code : CommandError → Code
  | notFound _ => Code.referenceNotFound
  | failed .. => Code.referenceFailed
  | timeout _ => Code.referenceTimeout
  | permission _ => Code.referencePermission
  | notAllowed _ => Code.referencePermission
  | outputTooLarge .. => Code.referenceFailed

def message : CommandError → String
  | notFound program => "Program not found: " ++ program
  | failed program reason => "Execution failed for '" ++ program ++ "': " ++ reason
  | timeout milliseconds => "Command timed out after " ++ toString milliseconds ++ "ms"
  | permission program => "Permission denied: " ++ program
  | notAllowed reason => "Security violation: " ++ reason
  | outputTooLarge program limit =>
    "Output of '" ++ program ++ "' exceeds " ++ toString limit ++ " bytes"

def ofOs (program : String) (e : OsError) : CommandError :=
  match e.refusal with
  | .notFound => notFound program
  | .permissionDenied => permission program
  | _ => failed program e.text

end CommandError

structure Invocation where
  program : String
  arguments : List String
deriving DecidableEq

inductive Ending
  | exit (status : Int)
  /-- The program was ended by a signal and has no status. -/
  | signal
  /-- The program does not end by itself. -/
  | never

/-- What a program does once it has been started. -/
structure Run where
  stdout : List Piped
  stderr : List Piped
  ending : Ending
  /-- How long the program runs. -/
  milliseconds : Nat

inductive Launch
  | refused (error : OsError)
  | started (run : Run)

structure CommandOutput where
  stdout : String
  stderr : String
  status : Int
deriving DecidableEq

def CommandOutput.isSuccess (o : CommandOutput) : Bool := o.status == 0

structure Executor where
  timeoutMilliseconds : Nat
  /-- How many bytes of each output are kept. -/
  cap : Nat
  allowed : List String

namespace Executor

def allow (x : Executor) (programs : List String) : Executor :=
  { x with allowed := x.allowed ++ programs }

def allows (x : Executor) (program : String) : Bool := x.allowed.contains program

/-- The whole environment of a program, given where programs are looked for. -/
def environment (path : Option String) : List (String × String) :=
  [("PATH", path.getD "/usr/local/bin:/usr/bin:/bin"), ("PYTHONIOENCODING", "utf-8")]

/-- The status of a program that ends within a time. -/
def status? (timeout : Nat) (r : Run) : Option Int :=
  if timeout < r.milliseconds then none
  else match r.ending with
    | .exit status => some status
    | .signal => some (-1)
    | .never => none

def collect (x : Executor) (program : String) (timeout : Nat) (r : Run) :
    Except CommandError CommandOutput :=
  match status? timeout r with
  | none => .error (.timeout timeout)
  | some status =>
    match Drained.drain x.cap {} r.stdout with
    | .error e => .error (.failed program e.text)
    | .ok out =>
      match Drained.drain x.cap {} r.stderr with
      | .error e => .error (.failed program e.text)
      | .ok err =>
        if out.overflowed then .error (.outputTooLarge program x.cap)
        else .ok ⟨Text.lossy out.bytes, Text.lossy err.bytes, status⟩

/-- Runs a program, for the given time or the executor's own. -/
def execute (x : Executor) (system : Invocation → Launch) (i : Invocation)
    (timeout : Option Nat) : Except CommandError CommandOutput :=
  if !x.allows i.program then
    .error (.notAllowed ("Program '" ++ i.program ++ "' not in allow-list"))
  else match system i with
    | .refused e => .error (.ofOs i.program e)
    | .started run => x.collect i.program (timeout.getD x.timeoutMilliseconds) run

end Executor

end Offside
