import Offside.Lexer.Closing
import Offside.Lexer.LexError

/-!
# Reading lines

The state a tokenizer carries from line to line, what it counts on the way, and how one line changes
it. A line continues an open string, or stands within brackets, or starts with its indentation; what
follows is cut into lexemes by the table. Every line but one that leaves a string open ends with one
terminator.
-/

namespace Offside

set_option autoImplicit false

/-- How often each kind occurred, in the order of kinds and without the kinds that did not. -/
abbrev Tally := List (Kind × Nat)

namespace Tally

def bump (k : Kind) : Tally → Tally
  | [] => [(k, 1)]
  | (l, n) :: rest =>
    if k = l then (l, n + 1) :: rest
    else if k.rank < l.rank then (k, 1) :: (l, n) :: rest
    else (l, n) :: bump k rest

def count (t : Tally) (k : Kind) : Nat := (t.lookup k).getD 0

end Tally

structure Metrics where
  totalTokens : Nat := 0
  kinds : Tally := []
  linesProcessed : Nat := 0
  /-- The greatest number of open blocks. -/
  maxIndentDepth : Nat := 0
  /-- The greatest number of open brackets. -/
  maxBracketDepth : Nat := 0
  /-- The number of strings that reach over a line end. -/
  multilineStrings : Nat := 0
deriving DecidableEq, Inhabited

namespace Metrics

def record (m : Metrics) (t : Token) : Metrics :=
  { m with totalTokens := m.totalTokens + 1, kinds := Tally.bump t.kind m.kinds }

def count (m : Metrics) (k : Kind) : Nat := Tally.count m.kinds k

def kindSummary (m : Metrics) : String :=
  ",".intercalate (m.kinds.map fun p => p.1.label ++ "=" ++ toString p.2)

end Metrics

/-- A triple-quoted string whose end has not been read. -/
structure OpenString where
  quote : TripleQuote
  /-- The text so far, with a line feed for every line end. -/
  text : String
  line : Nat
  column : Nat
deriving DecidableEq

structure LexState where
  /-- The widths of the open blocks, the innermost first; the outermost has width zero. -/
  indents : List Nat := [0]
  /-- The number of open brackets. -/
  depth : Nat := 0
  pending : Option OpenString := none
  /-- The tokens read so far. -/
  emitted : Array Token := #[]
  metrics : Metrics := {}

/-- White space that may stand between tokens. -/
def isInlineSpace (c : Char) : Bool := c == ' ' || c == '\t' || c == '\x0c'

/-- White space that indents a line. -/
def isMargin (c : Char) : Bool := c == ' ' || c == '\t'

namespace LexState

def emit (s : LexState) (t : Token) : LexState :=
  { s with emitted := s.emitted.push t, metrics := s.metrics.record t }

/-- Emits the token that ends a line of `length` characters. -/
def terminate (s : LexState) (kind : Kind) (line length : Nat) : LexState :=
  s.emit ⟨kind, "\n", .of line length, .of line (length + 1)⟩

def width (s : LexState) : Nat := s.indents.headD 0

/-- Emits `n` tokens that each close a block at a place. -/
def dedent (s : LexState) (place : Position) : Nat → LexState
  | 0 => s
  | n + 1 => (s.emit ⟨.dedent, "", .point place⟩).dedent place n

/-- Opens or closes blocks for a line that starts with the given margin. -/
def indent (s : LexState) (line : Nat) (margin : List Char) : Except LexError LexState :=
  let width := margin.length
  if s.width < width then
    let s := { s with
      indents := width :: s.indents
      metrics :=
        { s.metrics with maxIndentDepth := max s.metrics.maxIndentDepth s.indents.length } }
    .ok (s.emit ⟨.indent, String.ofList margin, .of line 0, .of line width⟩)
  else if width < s.width then
    let kept := s.indents.dropWhile (width < ·)
    let s := { s with indents := kept }.dedent (.of line width) (s.indents.length - kept.length)
    if s.width = width then .ok s else .error (.indentation line width)
  else .ok s

def bracket (s : LexState) (line column : Nat) (x : Lexeme) : Except LexError LexState :=
  if x.kind = .op && Bracket.isOpener x.text then
    let depth := s.depth + 1
    .ok { s with
      depth
      metrics := { s.metrics with maxBracketDepth := max s.metrics.maxBracketDepth depth } }
  else if x.kind = .op && Bracket.isCloser x.text then
    if s.depth = 0 then .error (.bracketUnderflow line column (x.text.toList.headD ')'))
    else .ok { s with depth := s.depth - 1 }
  else .ok s

/-- Takes a lexeme: emits it, or starts the string it opens. -/
def take (s : LexState) (line column : Nat) (x : Lexeme) : Except LexError LexState :=
  match x.role with
  | .token => do
    let s ← s.bracket line column x
    .ok (s.emit ⟨x.kind, x.text, .of line column, .of line (column + x.width)⟩)
  | .opens quote => .ok { s with pending := some ⟨quote, x.text ++ "\n", line, column⟩ }

end LexState

namespace Table

/-- Cuts the rest of a line into lexemes, from a column on. -/
def scan (t : Table) (line : Nat) (s : LexState) (column : Nat) (rest : List Char) :
    Except LexError LexState :=
  let text := rest.dropWhile isInlineSpace
  let column := column + (rest.takeWhile isInlineSpace).length
  if text.isEmpty then .ok s
  else match _h : t.classify text with
    | none => .error (.patternMismatch line column (String.ofList text))
    | some x =>
      match s.take line column x with
      | .error e => .error e
      | .ok s => t.scan line s (column + x.width) x.rest
termination_by rest.length
decreasing_by
  exact Nat.lt_of_lt_of_le (rest_length_lt_of_classify _h) (List.dropWhile_sublist _).length_le

/-- Cuts the rest of a line into lexemes and ends the line. -/
def finishLine (t : Table) (line length : Nat) (s : LexState) (column : Nat) (rest : List Char) :
    Except LexError LexState := do
  let s ← t.scan line s column rest
  if s.pending.isSome then .ok s
  else .ok (s.terminate (if 0 < s.depth then .nl else .newline) line length)

/-- Reads a line outside strings and brackets. -/
def logicalLine (t : Table) (line : Nat) (s : LexState) (text : List Char) :
    Except LexError LexState := do
  let margin := text.takeWhile isMargin
  let body := text.dropWhile isMargin
  if body.all isInlineSpace then .ok (s.terminate .nl line text.length)
  else if body.head? = some '#' then
    let comment : Token :=
      ⟨.comment, String.ofList body, .of line margin.length, .of line text.length⟩
    .ok ((s.emit comment).terminate .nl line text.length)
  else
    let s ← s.indent line margin
    t.finishLine line text.length s margin.length body

/-- Reads a line that starts within a string. -/
def stringLine (t : Table) (line : Nat) (s : LexState) (o : OpenString) (text : List Char) :
    Except LexError LexState :=
  match o.quote.seek text with
  | none => .ok { s with pending := some { o with text := o.text ++ String.ofList text ++ "\n" } }
  | some (before, rest) =>
    let inside := before ++ rest.take 3
    let s := { s with
      pending := none
      metrics := { s.metrics with multilineStrings := s.metrics.multilineStrings + 1 } }
    let string : Token :=
      ⟨.string, o.text ++ String.ofList inside, .of o.line o.column, .of line inside.length⟩
    t.finishLine line text.length (s.emit string) inside.length (rest.drop 3)

def readLine (t : Table) (line : Nat) (s : LexState) (text : List Char) :
    Except LexError LexState :=
  let s := { s with
    metrics := { s.metrics with linesProcessed := s.metrics.linesProcessed + 1 } }
  match s.pending with
  | some o => t.stringLine line s o text
  | none =>
    if 0 < s.depth then t.finishLine line text.length s 0 text else t.logicalLine line s text

/-- Reads lines, of which the first has the number `line`. -/
def readLines (t : Table) (line : Nat) (s : LexState) : List String → Except LexError LexState
  | [] => .ok s
  | text :: rest =>
    match t.readLine line s text.toList with
    | .error e => .error e
    | .ok s => t.readLines (line + 1) s rest

end Table

end Offside
