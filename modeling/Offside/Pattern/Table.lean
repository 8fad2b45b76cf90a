import Offside.Operator
import Offside.Pattern.Reach
import Offside.Pattern.Spelling
import Offside.Token

/-!
# The table of token classes

The patterns of the tokens, in order of precedence: brackets, numbers with a leading point,
operators with the longest first, strings between triple quotes, strings between single quotes,
comments, numbers and names. The first entry that matches decides.
-/

namespace Offside

set_option autoImplicit false

inductive TripleQuote
  | double
  | single
deriving DecidableEq, Inhabited

namespace TripleQuote

/-- The character written three times. -/
def mark : TripleQuote → Char
  | double => '"'
  | single => '\''

def delimiter (q : TripleQuote) : List Char := List.replicate 3 q.mark

end TripleQuote

/-- What a match means beside being a token. -/
inductive Role
  /-- The matched text is a token. -/
  | token
  /-- The matched text opens a string that does not close on its line. -/
  | opens (quote : TripleQuote)
deriving DecidableEq, Inhabited

/-- One row of the table. -/
structure Entry where
  kind : Kind
  role : Role
  pattern : Pattern
deriving DecidableEq

namespace Pattern

def inRow : Pattern → List Pattern → Pattern
  | p, [] => p
  | p, q :: qs => seq p (inRow q qs)

/-- The first of several patterns that fits. -/
def anyOf : Pattern → List Pattern → Pattern
  | p, [] => p
  | p, q :: qs => alt p (anyOf q qs)

def one (s : CharSet) : Pattern := piece (.one s)

def manyOf (s : CharSet) : Pattern := reps (.one s) 0 none .greedy

def someOf (s : CharSet) : Pattern := reps (.one s) 1 none .greedy

end Pattern

namespace Table

open Pattern CharSet

def digit : CharSet := within [('0', '9')]

def digitOrLine : CharSet := within [('0', '9'), ('_', '_')]

/-- The letters before the opening quote of a string: none, one or two. -/
def stringPrefix : Pattern :=
  opt (reps (.one (oneOf ['r', 'R', 'b', 'B', 'u', 'U', 'f', 'F'])) 1 (some 2) .greedy)

def exponent : Pattern :=
  opt (inRow (one (oneOf ['e', 'E'])) [opt (one (oneOf ['+', '-'])), someOf digitOrLine])

def imaginary : Pattern := opt (one (oneOf ['j', 'J']))

def pointNumber : Pattern :=
  inRow (one (just '.')) [one digit, manyOf digitOrLine, exponent, imaginary]

/-- A zero, the letter of a radix and digits of that radix. -/
def radixNumber (letters : List Char) (digits : List (Char × Char)) : Pattern :=
  inRow (one (just '0')) [one (oneOf letters), someOf (within digits)]

def decimalNumber : Pattern :=
  inRow (one digit)
    [manyOf digitOrLine, opt (inRow (one (just '.')) [manyOf digitOrLine]), exponent, imaginary]

def number : Pattern :=
  inRow (opt (one (just '-')))
    [anyOf (radixNumber ['x', 'X'] [('0', '9'), ('a', 'f'), ('A', 'F'), ('_', '_')])
      [radixNumber ['o', 'O'] [('0', '7'), ('_', '_')],
       radixNumber ['b', 'B'] [('0', '0'), ('1', '1'), ('_', '_')],
       decimalNumber]]

/-- A backslash with the character after it, or a character that is no backslash. -/
def escapedOrPlain : Piece :=
  .either (.two (just '\\') any) (.one (without ['\\']))

/-- Strings between triple quotes that close on their line. -/
def closedTriple (q : TripleQuote) : Pattern :=
  inRow stringPrefix [literal q.delimiter, reps escapedOrPlain 0 none .lazy, literal q.delimiter]

/-- The head of a string between triple quotes that does not close on its line. -/
def openTriple (q : TripleQuote) : Pattern :=
  inRow stringPrefix [literal q.delimiter, manyOf any]

def shortString (mark : Char) : Pattern :=
  inRow stringPrefix
    [one (just mark),
     reps (.either (.one (without [mark, '\\'])) (.two (just '\\') any)) 0 none .greedy,
     one (just mark)]

def comment : Pattern := inRow (one (just '#')) [manyOf any]

def name : Pattern := someOf word

end Table

namespace Entry

/-- The entry of a text that stands for itself. -/
def ofOperator (op : String) : Entry := ⟨.op, .token, .literal op.toList⟩

/-- The spelling of an entry's pattern; it matches at the head of a text only. -/
def spelling (e : Entry) : String := String.ofList ('^' :: e.pattern.spelling)

end Entry

/-- What the head of a text is: its class, its text and what follows it. -/
structure Lexeme where
  kind : Kind
  role : Role
  /-- The number of characters. -/
  width : Nat
  text : String
  rest : List Char
deriving DecidableEq

/-- Entries in order of precedence. -/
structure Table where
  entries : List Entry

namespace Table

/-- The table around a set of operators. -/
def ofOperators (ops : OperatorSet) : Table where
  entries :=
    ((Bracket.openers.zip Bracket.closers).flatMap fun b =>
        [Entry.ofOperator b.1, Entry.ofOperator b.2]) ++
      ⟨.number, .token, pointNumber⟩ ::
      ops.matchOrder.map Entry.ofOperator ++
      [⟨.string, .token, closedTriple .double⟩,
       ⟨.string, .opens .double, openTriple .double⟩,
       ⟨.string, .token, closedTriple .single⟩,
       ⟨.string, .opens .single, openTriple .single⟩,
       ⟨.string, .token, shortString '"'⟩,
       ⟨.string, .token, shortString '\''⟩,
       ⟨.comment, .token, comment⟩,
       ⟨.number, .token, number⟩,
       ⟨.name, .token, name⟩]

def standard : Table := ofOperators .core

/-- How the head of a text matches an entry, if it takes at least one character. -/
def lexeme? (text : List Char) (e : Entry) : Option Lexeme :=
  match e.pattern.match? text with
  | some z =>
    if z.count = 0 then none
    else some ⟨e.kind, e.role, z.count, String.ofList (text.take z.count), z.rest⟩
  | none => none

/-- The class of the head of a text: that of the first entry that matches. -/
def classify (t : Table) (text : List Char) : Option Lexeme :=
  t.entries.findSome? (lexeme? text)

/-- A lexeme is not empty, and it is followed by what its text leaves. -/
theorem append_rest_of_lexeme? {text : List Char} {e : Entry} {x : Lexeme}
    (h : lexeme? text e = some x) :
    0 < x.width ∧ x.text.toList.length = x.width ∧ x.text.toList ++ x.rest = text := by
  simp only [lexeme?] at h
  split at h
  · rename_i z hz
    obtain ⟨hle, happ⟩ := Pattern.take_append_of_match? hz
    split at h
    · simp at h
    · simp only [Option.some.injEq] at h
      subst h
      exact ⟨by simp only; omega, by simp [hle], by simpa using happ⟩
  · simp at h

theorem append_rest_of_classify {t : Table} {text : List Char} {x : Lexeme}
    (h : t.classify text = some x) :
    0 < x.width ∧ x.text.toList.length = x.width ∧ x.text.toList ++ x.rest = text := by
  obtain ⟨_, _, he⟩ := List.exists_of_findSome?_eq_some h
  exact append_rest_of_lexeme? he

theorem rest_length_lt_of_classify {t : Table} {text : List Char} {x : Lexeme}
    (h : t.classify text = some x) : x.rest.length < text.length := by
  obtain ⟨hpos, hlen, happ⟩ := append_rest_of_classify h
  rw [← happ, List.length_append, hlen]
  omega

end Table

end Offside
