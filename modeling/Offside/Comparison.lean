import Offside.Token.Row
import Offside.Token.Stream

/-!
# Comparing token streams

Two streams are compared place by place, the shorter one filled up with `Token.missing`. The first
place where the tokens do not agree is reported with its neighbours.
-/

namespace Offside

set_option autoImplicit false

structure Mismatch where
  index : Nat
  /-- The line of our token, or of theirs where ours is missing. -/
  line : Int
  /-- The token before the place, if there is one, the token there and the one behind it. -/
  ours : List Token
  theirs : List Token

namespace TokenStream

def around (s : TokenStream) (i : Nat) : List Token :=
  let first := i - 1
  (List.range' first (i + 2 - first)).map s.look

end TokenStream

namespace Mismatch

/-- The mismatch of two streams at a place. -/
def of (ours theirs : TokenStream) (index : Nat) : Mismatch where
  index := index
  line :=
    if (ours.look index).isMissing then (theirs.look index).span.start.line
    else (ours.look index).span.start.line
  ours := ours.around index
  theirs := theirs.around index

end Mismatch

structure Comparison where
  /-- What the reference is called. -/
  reference : String
  oursSize : Nat
  theirsSize : Nat
  mismatch : Option Mismatch

namespace Comparison

/-- What the reference is called unless it has a name of its own. -/
def defaultLabel : String := "python -m tokenize"

/-- The first place from `i` on, below `bound`, where two streams differ. -/
def firstDifference? (ours theirs : TokenStream) (i bound : Nat) : Option Nat :=
  if i < bound then
    if (ours.look i).agrees (theirs.look i) then firstDifference? ours theirs (i + 1) bound
    else some i
  else none
termination_by bound - i

def ofStreams (ours theirs : TokenStream) (reference : String) : Comparison where
  reference := reference
  oursSize := ours.size
  theirsSize := theirs.size
  mismatch :=
    (firstDifference? ours theirs 0 (max ours.size theirs.size)).map (Mismatch.of ours theirs)

def isMatch (c : Comparison) : Bool := c.mismatch.isNone

def details (m : Mismatch) : String :=
  "\nTokens did not match on line: " ++ toString m.line ++ "\nmine:\n" ++ Token.rows m.ours ++
    "theirs:\n" ++ Token.rows m.theirs

/-- The verdict, behind the rows around the mismatch unless `silent`. -/
def report (c : Comparison) (silent : Bool) : String :=
  (match c.mismatch with
    | some m => if silent then "" else details m
    | none => "") ++
  "\nTokens " ++ (if c.isMatch then "match" else "DID NOT match") ++ " '" ++ c.reference ++ "'\n"

end Comparison

end Offside
