import Offside.Text.Cutting
import Offside.Text.Lowercase

/-!
# Operators

The operators a tokenizer knows beside the brackets. A set keeps the order in which operators were
added; white space around a spelling does not count, and adding a blank, a bracket or a spelling
that is there already changes nothing.
-/

namespace Offside

set_option autoImplicit false

namespace Bracket

def openers : List String := ["(", "[", "\x7b"]

def closers : List String := [")", "]", "\x7d"]

def isOpener (s : String) : Bool := openers.contains s

def isCloser (s : String) : Bool := closers.contains s

end Bracket

inductive Preset
  /-- Assignment, arithmetic, `:`, `,` and `.`. -/
  | core
  /-- The core with comparisons, augmented assignments, bitwise operators and punctuation. -/
  | extended
deriving DecidableEq, Inhabited

namespace Preset

def label : Preset → String
  | core => "core"
  | extended => "extended"

/-- The preset a person asked for; case and surrounding white space do not matter. -/
def ofText? (s : String) : Option Preset :=
  match Text.lowercase (Text.trimmed s) with
  | "core" => some core
  | "extended" => some extended
  | "full" => some extended
  | _ => none

end Preset

structure OperatorSet where
  /-- The operators in the order in which they were added. -/
  members : List String
deriving DecidableEq

namespace OperatorSet

def contains (s : OperatorSet) (op : String) : Bool := s.members.contains op

def size (s : OperatorSet) : Nat := s.members.length

def isEmpty (s : OperatorSet) : Bool := s.members.isEmpty

/-- Whether a trimmed spelling can join the set. -/
def admits (s : OperatorSet) (op : String) : Bool :=
  !(op.isEmpty || Bracket.isOpener op || Bracket.isCloser op || s.contains op)

def insert (s : OperatorSet) (op : String) : OperatorSet :=
  let op := Text.trimmed op
  if s.admits op then ⟨s.members ++ [op]⟩ else s

def insertMany (s : OperatorSet) (ops : List String) : OperatorSet :=
  ops.foldl insert s

def core : OperatorSet :=
  insertMany ⟨[]⟩ ["==", "=", "**", "*", "//", "/", ":", "+", "-", ",", "."]

def extended : OperatorSet :=
  core.insertMany
    ["**=", "//=", ">>=", "<<=", "...", "!=", "<=", ">=", "+=", "-=", "*=", "/=", "%=", "@=",
     "&=", "|=", "^=", ":=", "->", "<<", ">>", "<", ">", "%", "@", "&", "|", "^", "~", ";"]

/-- Who does not choose a set has the core operators. -/
instance : Inhabited OperatorSet := ⟨core⟩

def ofPreset : Preset → OperatorSet
  | .core => core
  | .extended => extended

/-- The operators a person listed in a text, divided by commas; blank ones do not count. -/
def listOfText (s : String) : List String :=
  ((Text.stringPieces ',' s).map Text.trimmed).filter fun op => !op.isEmpty

/-- The operators longest first; those of one length keep their order. -/
def matchOrder (s : OperatorSet) : List String :=
  s.members.mergeSort fun a b => b.length ≤ a.length

end OperatorSet

end Offside
