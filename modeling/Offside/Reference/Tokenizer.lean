import Offside.Command.Executor
import Offside.Comparison
import Offside.Lexer.Tokenization
import Offside.Reference.Rows
import Offside.Settings
import Offside.SourceFile

/-!
# Comparing a file with a reference

A file is read, tokenized and compared with the rows that a reference prints for it. Whatever the
outcome, one event reports it.
-/

namespace Offside

set_option autoImplicit false

inductive DiffError
  | file (e : FileError)
  | lexical (e : LexError)
  | command (e : CommandError)
  | referenceFailed (status : Int) (stderr : String)
  | malformed (m : Reference.Malformed)
deriving DecidableEq

namespace DiffError

def code : DiffError → Code
  | file e => e.code
  | lexical e => e.code
  | command e => e.code
  | referenceFailed .. => Code.referenceFailed
  | malformed _ => Code.malformedReference

def message : DiffError → String
  | file e => e.message
  | lexical e => e.message
  | command e => "Reference tokenizer could not run: " ++ e.message
  | referenceFailed status stderr =>
    "Reference tokenizer exited with status " ++ toString status ++ ": " ++ stderr
  | malformed m =>
    "Malformed reference output on line " ++ toString m.line ++ ": " ++ Text.quoted m.text

end DiffError

namespace ReferencePrefs

/-- How the rows of a file are asked for, with the arguments that come before the path. -/
def invocation (p : ReferencePrefs) (arguments : List String) (path : String) : Invocation :=
  ⟨p.program, arguments ++ [path]⟩

end ReferencePrefs

/-- Something that prints rows for a file, under a name that reports use. -/
structure ReferenceTokenizer where
  name : String
  output : String → Except DiffError String

namespace ReferenceTokenizer

def moduleArguments : List String := ["-m", "tokenize"]

def ofProgram (prefs : ReferencePrefs) (arguments : List String) (system : Invocation → Launch) :
    ReferenceTokenizer where
  name := Comparison.defaultLabel
  output path :=
    let executor : Executor :=
      ⟨prefs.timeoutSeconds * 1000, prefs.maxOutputBytes, [prefs.program]⟩
    match executor.execute system (prefs.invocation arguments path) none with
    | .error e => .error (.command e)
    | .ok o =>
      if o.isSuccess then .ok o.stdout
      else .error (.referenceFailed o.status (String.ofList (Text.trimEnd o.stderr.toList)))

def tokens (r : ReferenceTokenizer) (path : String) : Except DiffError (List Token) :=
  match r.output path with
  | .error e => .error e
  | .ok output =>
    match Reference.read output with
    | .error m => .error (.malformed m)
    | .ok ts => .ok ts

end ReferenceTokenizer

namespace Comparison

section Reporting

variable (limits : Limits) (time : String)

def event (c : Comparison) (path : String) : Event :=
  match c.mismatch with
  | none =>
    .success limits time Code.referenceMatch "Tokens match reference"
      [("file", path), ("reference", c.reference), ("tokens", toString c.oursSize)]
  | some m =>
    .error limits time Code.tokenMismatch "Tokens differ from reference"
      [("file", path), ("reference", c.reference), ("index", toString m.index),
       ("line", toString m.line), ("ours_len", toString c.oursSize),
       ("theirs_len", toString c.theirsSize)]

/-- Compares a tokenized file with a reference, and reports it. -/
def ofTokenization (path : String) (t : Tokenization) (reference : ReferenceTokenizer) :
    Event × Except DiffError Comparison :=
  match reference.tokens path with
  | .error e =>
    (.error limits time e.code e.message [("file", path), ("reference", reference.name)], .error e)
  | .ok theirs =>
    let c := ofStreams (.ofArray t.tokens) (.ofList theirs) reference.name
    (event limits time c path, .ok c)

end Reporting

/-- Reads a file, tokenizes it and compares it with a reference, and reports what is done. -/
def ofFile (limits : Limits) (compiler : PatternCompiler) (clock : Nat → String)
    (answers : FileAnswers) (elapsed path : String) (prefs : LexPrefs)
    (reference : ReferenceTokenizer) : List Event × Except DiffError Comparison :=
  match SourceFile.process limits clock {} answers elapsed path with
  | (events, .error e) => (events, .error (.file e))
  | (events, .ok f) =>
    let time := clock events.length
    match prefs.tokenize compiler f.lines with
    | .error e =>
      (events ++ [.error limits time e.code e.message [("file", path)]], .error (.lexical e))
    | .ok t =>
      let (event, result) := ofTokenization limits time path t reference
      (events ++ [event], result)

end Comparison

end Offside
