import Offside.Token

/-!
# Token streams

A finished sequence of tokens with a cursor for reading it in order. Looking up a place outside the
sequence gives `Token.missing`; the cursor plays no part in it.
-/

namespace Offside

set_option autoImplicit false

structure TokenStream where
  tokens : Array Token
  /-- The number of tokens already read. -/
  cursor : Nat
deriving Inhabited

namespace TokenStream

/-- A stream of which nothing has been read. -/
def ofArray (tokens : Array Token) : TokenStream := ⟨tokens, 0⟩

def ofList (tokens : List Token) : TokenStream := ofArray tokens.toArray

def size (s : TokenStream) : Nat := s.tokens.size

def isEmpty (s : TokenStream) : Bool := s.tokens.isEmpty

/-- There is no next token in a stream of `length` tokens. -/
structure Exhausted where
  length : Nat
deriving DecidableEq

def Exhausted.message (e : Exhausted) : String :=
  "next_token() with no tokens remaining (stream length " ++ toString e.length ++ ")"

/-- The token at the cursor, and the stream with the cursor behind it. -/
def next (s : TokenStream) : Except Exhausted (Token × TokenStream) :=
  match s.tokens[s.cursor]? with
  | some t => .ok (t, { s with cursor := s.cursor + 1 })
  | none => .error ⟨s.size⟩

def get? (s : TokenStream) (i : Nat) : Option Token := s.tokens[i]?

/-- The token at a place, or `Token.missing` behind the end. -/
def look (s : TokenStream) (i : Nat) : Token := (s.get? i).getD .missing

/-- The token at a place, or `Token.missing` before the start and behind the end. -/
def lookAt : TokenStream → Int → Token
  | s, .ofNat i => s.look i
  | _, .negSucc _ => .missing

def isAtEnd (s : TokenStream) : Bool := s.size ≤ s.cursor

/-- The number of tokens not yet read. -/
def remainingCount (s : TokenStream) : Nat := s.size - s.cursor

def remaining (s : TokenStream) : List Token := s.tokens.toList.drop s.cursor

def reset (s : TokenStream) : TokenStream := { s with cursor := 0 }

/-- The tokens from `before` places ahead of `i` to `after` places behind it. -/
def context (s : TokenStream) (i before after : Int) : List Token :=
  (List.range (before + 1 + after).toNat).map fun (k : Nat) => s.lookAt (i - before + k)

end TokenStream

namespace Token

/-- The first token that ends before it starts, with its place. -/
def firstReversed? (ts : List Token) : Option (Token × Nat) :=
  ts.zipIdx.find? fun p => !p.1.span.isOrdered

/-- The first two neighbours of which the second starts before the first, with the first's place. -/
def firstBackwards? (ts : List Token) : Option ((Token × Token) × Nat) :=
  (ts.zip ts.tail).zipIdx.find? fun p => p.1.2.span.start < p.1.1.span.start

/-- Complains of the first token that ends before it starts. -/
def checkSpans (ts : List Token) : Except String Unit :=
  match firstReversed? ts with
  | none => .ok ()
  | some (t, i) => .error <|
    "Token " ++ toString i ++ " (" ++ t.kind.label ++ ") starts after it ends: " ++ t.span.text

/-- Complains of the first token that starts before its predecessor does. -/
def checkOrder (ts : List Token) : Except String Unit :=
  match firstBackwards? ts with
  | none => .ok ()
  | some ((t, u), i) => .error <|
    "Token " ++ toString (i + 1) ++ " starts at " ++ u.span.start.text ++ " before token " ++
      toString i ++ " at " ++ t.span.start.text

end Token

end Offside
