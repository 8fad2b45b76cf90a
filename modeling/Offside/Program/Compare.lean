import Offside.Program
import Offside.Reference.Tokenizer

/-!
# The program that compares

It compares the tokens of a source with those that a reference prints. Its exit status is 0 if they
match, 1 if they differ, and 2 if there is nothing to compare.
-/

namespace Offside.Program

set_option autoImplicit false

variable {m : Type → Type} [Monad m] [System m] (limits : Limits) (compiler : PatternCompiler)

namespace Compare

def name : String := "tokenizer-diff"

def usage : String :=
  "Usage: " ++ name ++ " [--reference PROGRAM] [--timeout SECONDS] [--silent] [--show-tokens] " ++
  "[--lenient] [--log-level LEVEL] [FILE]"

def commandLine : CommandLine where
  flags := ["silent", "show-tokens", "lenient"]
  options :=
    [("reference", fun _ => true), ("timeout", fun s => (Text.uint64? s.toList).isSome),
     ("log-level", isLevel)]
  operand := isPath

structure Choices where
  lexical : LexPrefs
  reference : ReferencePrefs
  journal : JournalPrefs

/-- The choices of the environment with those of a command line put over them. -/
def choices (a : Arguments) (env : Environment) : Choices where
  lexical :=
    let p := LexPrefs.ofEnvironment env
    { p with policy := if a.hasFlag "lenient" then .lenient else p.policy }
  reference :=
    let p := ReferencePrefs.ofEnvironment limits env
    let p := { p with program := (a.value? "reference").getD p.program }
    match (a.value? "timeout").bind fun s => Text.uint64? s.toList with
    | some seconds => p.withTimeout seconds
    | none => p
  journal :=
    let p := JournalPrefs.ofEnvironment env
    { p with bound := ((a.value? "log-level").bind Level.ofText?).getD p.bound }

def compare (a : Arguments) (c : Choices) (rules : FileRules) (path : String) (j : Journal) :
    m (Journal × Except DiffError Comparison) := do
  let bound := c.journal.bound
  let (events, source) ← readSource limits rules path
  let j ← record bound events j
  match source with
  | .error e => pure (j, .error (.file e))
  | .ok f =>
    match c.lexical.tokenize compiler f.lines with
    | .error e => pure (← recordLexical limits bound path e j, .error (.lexical e))
    | .ok t =>
      if a.hasFlag "show-tokens" then
        System.print .out ("tokens:\n" ++ Token.rows t.tokens.toList)
      let i := c.reference.invocation ReferenceTokenizer.moduleArguments path
      let launch ← System.launch i
      let reference :=
        ReferenceTokenizer.ofProgram c.reference ReferenceTokenizer.moduleArguments fun _ => launch
      let (event, outcome) := Comparison.ofTokenization limits (← System.time) path t reference
      pure (← record bound [event] j, outcome)

def complaint : DiffError → String
  | .file e => e.message
  | e => coded e.code e.message

def runWith (a : Arguments) : m Nat := do
  match a.operand with
  | none =>
    complain "Missing input filename"
    pure 2
  | some path =>
    let env ← environment
    let c := choices limits a env
    match ← openJournal limits c.journal with
    | .error e =>
      complain (coded e.code e.message)
      pure 2
    | .ok j =>
      let (j, outcome) ← compare limits compiler a c (.ofEnvironment env) path j
      let _ ← settle j.close
      match outcome with
      | .ok comparison =>
        System.print .out (comparison.report (a.hasFlag "silent"))
        pure (if comparison.isMatch then 0 else 1)
      | .error e =>
        complain (complaint e)
        pure 2

/-- Runs the program; gives its exit status. -/
def run (args : List String) : m Nat :=
  answer name usage (commandLine.read args) (runWith limits compiler)

end Compare

end Offside.Program
