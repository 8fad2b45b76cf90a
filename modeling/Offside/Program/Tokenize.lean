import Offside.Program
import Offside.Token.Json
import Offside.Token.Row

/-!
# The program that prints tokens

It reads a source, prints its tokens as rows or as JSON, and reports the measures of the run.
-/

namespace Offside.Program

set_option autoImplicit false

variable {m : Type → Type} [Monad m] [System m] (limits : Limits) (compiler : PatternCompiler)

namespace Tokenize

def name : String := "regex-tokenizer"

def usage : String :=
  "Usage: " ++ name ++ " [--format table|json] [--log-level LEVEL] [--structured-logs] " ++
  "[--log-file PATH] [--lenient] [--config PATH] [FILE]"

def commandLine : CommandLine where
  flags := ["structured-logs", "lenient"]
  options :=
    [("format", fun s => s == "table" || s == "json"), ("log-level", isLevel),
     ("log-file", isPath), ("config", isPath)]
  operand _ := true

/-- Settings with the choices of a command line put over them. -/
def adjust (a : Arguments) (s : Settings) : Settings :=
  { s with
    lexical :=
      { s.lexical with policy := if a.hasFlag "lenient" then .lenient else s.lexical.policy }
    journal :=
      { s.journal with
        bound := ((a.value? "log-level").bind Level.ofText?).getD s.journal.bound
        structured := a.hasFlag "structured-logs" || s.journal.structured
        file := (a.value? "log-file").or s.journal.file } }

def settings (a : Arguments) : m (Except Settings.LoadError Settings) := do
  let default := Settings.ofEnvironment (← environment)
  match a.value? "config" with
  | none => pure (.ok (adjust a default))
  | some path => pure ((default.load (← System.look path) path).map (adjust a))

def listing (format : Option String) (tokens : List Token) : String :=
  if format = some "json" then (Json.array (tokens.map Token.toJson)).pretty ++ "\n"
  else "tokens:\n" ++ Token.rows tokens

/-- The event that reports the measures of a run. -/
def report (time path : String) (t : Tokenization) : Event :=
  .success limits time Code.tokenized "Tokenization complete"
    [("file", path), ("tokens", toString t.metrics.totalTokens),
     ("lines", toString t.metrics.linesProcessed),
     ("max_indent_depth", toString t.metrics.maxIndentDepth),
     ("max_bracket_depth", toString t.metrics.maxBracketDepth),
     ("multiline_strings", toString t.metrics.multilineStrings),
     ("kinds", t.metrics.kindSummary), ("clean_end", toString t.endOfInput.isClean)]

/-- Prints the tokens of a source; gives the journal and what is to be complained of. -/
def tokenize (a : Arguments) (s : Settings) (path : String) (j : Journal) :
    m (Journal × Option String) := do
  let (events, source) ← readSource limits s.files path
  let j ← record s.journal.bound events j
  match source with
  | .error e => pure (j, some e.message)
  | .ok f =>
    match s.lexical.tokenize compiler f.lines with
    | .error e =>
      pure (← recordLexical limits s.journal.bound path e j, coded e.code e.message)
    | .ok t =>
      System.print .out (listing (a.value? "format") t.tokens.toList)
      pure (← record s.journal.bound [report limits (← System.time) path t] j, none)

def runWith (a : Arguments) : m Nat := do
  match a.operand with
  | none =>
    complain "Missing input filename"
    pure 1
  | some path =>
    match ← settings a with
    | .error e =>
      complain ("error: " ++ e.message)
      pure 1
    | .ok s =>
      match ← openJournal limits s.journal with
      | .error e =>
        complain (coded e.code e.message)
        pure 1
      | .ok j =>
        let (j, complaint) ← tokenize limits compiler a s path j
        let _ ← settle j.close
        match complaint with
        | none => pure 0
        | some message =>
          complain message
          pure 1

/-- Runs the program; gives its exit status. -/
def run (args : List String) : m Nat :=
  answer name usage (commandLine.read args) (runWith limits compiler)

end Tokenize

end Offside.Program
