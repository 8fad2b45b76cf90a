import Offside.Position

/-!
# Tokens

A token is a kind, the text it was read from and the span of that text. Two tokens agree when kind
and text are the same, wherever they stand, so that the streams of two tokenizers can be compared.
-/

namespace Offside

set_option autoImplicit false

/-- The categories of tokens, in the order in which counts are listed. -/
inductive Kind
  | encoding
  | name
  | number
  | string
  | comment
  | op
  | indent
  | dedent
  /-- The end of a logical line. -/
  | newline
  /-- The end of a line that ends no logical line. -/
  | nl
  | endMarker
  /-- A kind that is never read from a source. -/
  | unknown
deriving DecidableEq, Inhabited

namespace Kind

/-- The kinds a source can give rise to. -/
def emitted : List Kind :=
  [encoding, name, number, string, comment, op, indent, dedent, newline, nl, endMarker]

def label : Kind → String
  | encoding => "ENCODING"
  | name => "NAME"
  | number => "NUMBER"
  | string => "STRING"
  | comment => "COMMENT"
  | op => "OP"
  | indent => "INDENT"
  | dedent => "DEDENT"
  | newline => "NEWLINE"
  | nl => "NL"
  | endMarker => "ENDMARKER"
  | unknown => "unknown"

def ofLabel? (s : String) : Option Kind :=
  (emitted ++ [unknown]).find? fun k => k.label == s

def rank : Kind → Nat
  | encoding => 0
  | name => 1
  | number => 2
  | string => 3
  | comment => 4
  | op => 5
  | indent => 6
  | dedent => 7
  | newline => 8
  | nl => 9
  | endMarker => 10
  | unknown => 11

def isTerminator (k : Kind) : Bool :=
  k == newline || k == nl

/-- Whether tokens of this kind are made by the tokenizer and not matched in a line. -/
def isSynthetic (k : Kind) : Bool :=
  k == encoding || k == indent || k == dedent || k == newline || k == nl || k == endMarker

@[simp] theorem ofLabel?_label (k : Kind) : ofLabel? k.label = some k := by
  cases k <;> decide

end Kind

structure Token where
  kind : Kind
  text : String
  span : Span
deriving DecidableEq, Inhabited

namespace Token

/-- The token that stands for every place outside a stream. -/
def missing : Token := ⟨.unknown, "undefined", .nowhere⟩

def isMissing (t : Token) : Bool :=
  t.kind == .unknown && t.span == .nowhere

/-- Whether two tokens have the same kind and the same text. -/
def agrees (t u : Token) : Bool :=
  t.kind == u.kind && t.text == u.text

theorem agrees_iff {t u : Token} : t.agrees u = true ↔ t.kind = u.kind ∧ t.text = u.text := by
  simp [agrees]

@[simp] theorem agrees_refl (t : Token) : t.agrees t = true := by
  simp [agrees]

theorem agrees_comm (t u : Token) : t.agrees u = u.agrees t := by
  simp only [agrees, BEq.comm]

end Token

end Offside
