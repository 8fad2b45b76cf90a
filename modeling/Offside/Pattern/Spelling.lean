import Offside.Pattern

/-!
# The notation of patterns

How a pattern is written down: `.`, `\w` and bracketed sets for characters, `|`, `*`, `+`, `?` and
`{m,n}` with a `?` behind lazy repetitions, and `(?:…)` wherever an alternative or a sequence
stands as one operand.
-/

namespace Offside

set_option autoImplicit false

/-- Characters with a meaning of their own outside a bracketed set. -/
def reserved : List Char :=
  ['\\', '.', '+', '*', '?', '(', ')', '|', '[', ']', '\x7b', '\x7d', '^', '$']

/-- Characters escaped in a literal: the reserved ones and those that some notations reserve. -/
def reservedInLiterals : List Char :=
  reserved ++ ['#', '&', '-', '~']

/-- A character with a backslash before it if it is one of `special`. -/
def escapeAmong (special : List Char) (c : Char) : List Char :=
  if special.contains c then ['\\', c] else [c]

namespace CharSet

def spelling : CharSet → List Char
  | just c => escapeAmong reserved c
  | any => ['.']
  | word => ['\\', 'w']
  | within ranges =>
    '[' :: ranges.flatMap (fun r => if r.1 = r.2 then [r.1] else [r.1, '-', r.2]) ++ [']']
  | without excluded => '[' :: '^' :: excluded.flatMap (escapeAmong ['\\']) ++ [']']

end CharSet

/-- A spelling as one operand. -/
def grouped (s : List Char) : List Char :=
  '(' :: '?' :: ':' :: s ++ [')']

namespace Piece

def spelling : Piece → List Char
  | one s => s.spelling
  | two s t => s.spelling ++ t.spelling
  | either p q => p.spelling ++ '|' :: q.spelling

def operand : Piece → List Char
  | one s => s.spelling
  | p => grouped p.spelling

end Piece

namespace Pattern

def bounds : Nat → Option Nat → String
  | 0, none => "*"
  | 1, none => "+"
  | m, none => "\x7b" ++ toString m ++ ",\x7d"
  | m, some n => "\x7b" ++ toString m ++ "," ++ toString n ++ "\x7d"

def spelling : Pattern → List Char
  | piece p => p.spelling
  | literal text => text.flatMap (escapeAmong reservedInLiterals)
  | seq p q => inSequence p p.spelling ++ inSequence q q.spelling
  | alt p q => p.spelling ++ '|' :: q.spelling
  | opt (piece p) => p.operand ++ ['?']
  | opt p => grouped p.spelling ++ ['?']
  | reps p least most mode =>
    p.operand ++ (bounds least most).toList ++ (if mode = .lazy then ['?'] else [])
where
  /-- A pattern's spelling as part of a sequence. -/
  inSequence : Pattern → List Char → List Char
    | alt _ _, s => grouped s
    | piece (.either _ _), s => grouped s
    | _, s => s

end Pattern

end Offside
