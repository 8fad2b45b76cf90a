import Offside.Lexer.State
import Offside.Text.Cutting
import Offside.Token.Json

/-!
# Tokenizations

The tokens of a whole source. They start with the encoding marker, go through the lines one by one
and end with the blocks still open and the end marker. What else is still open at the end is an
error or, if the policy is lenient, part of the answer. Before a table is used, all of its patterns
are compiled, and the first that cannot be is an error.
-/

namespace Offside

set_option autoImplicit false

inductive EndPolicy
  | strict
  | lenient
deriving DecidableEq, Inhabited

namespace EndPolicy

def label : EndPolicy → String
  | strict => "strict"
  | lenient => "lenient"

/-- The policy a person asked for; case and surrounding white space do not matter. -/
def ofText? (s : String) : Option EndPolicy :=
  match Text.lowercase (Text.trimmed s) with
  | "strict" => some strict
  | "lenient" => some lenient
  | _ => none

end EndPolicy

/-- What was open when a source ended. -/
structure EndOfInput where
  /-- Where a string starts that never closes; it is no token. -/
  unterminated : Option Position := none
  openBrackets : Nat := 0
deriving DecidableEq, Inhabited

def EndOfInput.isClean (e : EndOfInput) : Bool :=
  e.unterminated.isNone && e.openBrackets == 0

def Metrics.toJson (m : Metrics) : Json :=
  .struct
    [("total_tokens", .nat m.totalTokens),
     ("kind_counts", .struct (m.kinds.map fun p => (p.1.jsonName, .nat p.2))),
     ("lines_processed", .nat m.linesProcessed), ("max_indent_depth", .nat m.maxIndentDepth),
     ("max_bracket_depth", .nat m.maxBracketDepth),
     ("multiline_strings", .nat m.multilineStrings)]

def EndOfInput.toJson (e : EndOfInput) : Json :=
  .struct
    [("unterminated_string", .ofOption Position.toJson e.unterminated),
     ("open_brackets", .nat e.openBrackets)]

structure Tokenization where
  tokens : Array Token
  metrics : Metrics
  endOfInput : EndOfInput

namespace LexState

/-- The state before the first line. -/
def start : LexState := LexState.emit {} ⟨.encoding, "utf-8", .point .origin⟩

/-- Ends a source of `count` lines. -/
def finish (s : LexState) (count : Nat) (policy : EndPolicy) : Except LexError Tokenization :=
  let place := Position.of (count + 1) 0
  let s' := s.dedent place (s.indents.length - 1)
  let s' := s'.emit ⟨.endMarker, "", .point place⟩
  let done (unterminated : Option Position) : Tokenization :=
    ⟨s'.emitted, s'.metrics, ⟨unterminated, s.depth⟩⟩
  match s.pending, policy with
  | some o, .strict => .error (.unterminatedString o.line o.column)
  | some o, .lenient => .ok (done (some (.of o.line o.column)))
  | none, .strict =>
    if 0 < s.depth then .error (.unclosedBracket s.depth count) else .ok (done none)
  | none, .lenient => .ok (done none)

end LexState

/-- The tokens of a source given line by line. -/
def Table.tokenize (t : Table) (policy : EndPolicy) (lines : List String) :
    Except LexError Tokenization :=
  match t.readLines 1 .start lines with
  | .error e => .error e
  | .ok s => s.finish lines.length policy

/-- What keeps a pattern from being compiled, if anything does. -/
abbrev PatternCompiler := String → Option String

/-- A table, if all of its patterns can be compiled. -/
def Table.compile (compiler : PatternCompiler) (t : Table) : Except LexError Table :=
  match t.entries.findSome? fun e => (compiler e.spelling).map (.invalidPattern e.spelling) with
  | some e => .error e
  | none => .ok t

theorem findSome?_invalidPattern_eq_none {compiler : PatternCompiler} {entries : List Entry}
    (h : ∀ e ∈ entries, compiler e.spelling = none) :
    (entries.findSome? fun e =>
      (compiler e.spelling).map (LexError.invalidPattern e.spelling)) = none :=
  List.findSome?_eq_none_iff.mpr fun e he => by rw [h e he, Option.map_none]

theorem Table.compile_of_compiles {compiler : PatternCompiler} {t : Table}
    (h : ∀ e ∈ t.entries, compiler e.spelling = none) : t.compile compiler = .ok t := by
  rw [compile, findSome?_invalidPattern_eq_none h]

/-- The tokens of a source with the core operators, where nothing may be left open. -/
def tokenize (compiler : PatternCompiler) (lines : List String) : Except LexError Tokenization :=
  (Table.standard.compile compiler).bind fun t => t.tokenize .strict lines

structure LexPrefs where
  preset : Preset := .extended
  extraOperators : List String := []
  policy : EndPolicy := .strict
deriving DecidableEq, Inhabited

namespace LexPrefs

def operators (p : LexPrefs) : OperatorSet :=
  (OperatorSet.ofPreset p.preset).insertMany p.extraOperators

def table (p : LexPrefs) : Table := .ofOperators p.operators

/-- The tokens of a source as a person wants them. -/
def tokenize (p : LexPrefs) (compiler : PatternCompiler) (lines : List String) :
    Except LexError Tokenization :=
  (p.table.compile compiler).bind fun t => t.tokenize p.policy lines

end LexPrefs

end Offside
