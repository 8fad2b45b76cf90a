import Offside.Text.CharClass

/-!
# Cutting a text

White space is cut off the ends of a text, a text is cut at every occurrence of a character, and a
source is cut at every line feed. A carriage return directly before the line feed belongs to the
terminator, and a final terminator starts no further line.
-/

namespace Offside.Text

set_option autoImplicit false

def blankRanges : CodeRanges :=
  [(0x09, 0x0D), (0x20, 0x20), (0x85, 0x85), (0xA0, 0xA0), (0x1680, 0x1680), (0x2000, 0x200A),
   (0x2028, 0x2029), (0x202F, 0x202F), (0x205F, 0x205F), (0x3000, 0x3000)]

def isBlank (c : Char) : Bool :=
  blankRanges.holds c

def trimStart (cs : List Char) : List Char :=
  cs.dropWhile isBlank

def trimEnd (cs : List Char) : List Char :=
  (cs.reverse.dropWhile isBlank).reverse

def trim (cs : List Char) : List Char :=
  trimEnd (trimStart cs)

def trimmed (s : String) : String :=
  String.ofList (trim s.toList)

/-- The pieces of a text between the occurrences of a character. -/
def pieces (mark : Char) : List Char → List (List Char)
  | [] => [[]]
  | c :: rest =>
    if c = mark then [] :: pieces mark rest
    else match pieces mark rest with
      | first :: others => (c :: first) :: others
      | [] => [[c]]

def stringPieces (mark : Char) (s : String) : List String :=
  (pieces mark s.toList).map String.ofList

/-- The line read so far, newest character first, without the carriage return of its terminator. -/
def closeLine (read : List Char) : String :=
  match read with
  | '\r' :: r => String.ofList r.reverse
  | r => String.ofList r.reverse

/-- Cuts what is left of a source, given the lines already cut and the line read so far. -/
def cutLines (done : Array String) (read : List Char) : List Char → Array String
  | [] => if read.isEmpty then done else done.push (String.ofList read.reverse)
  | '\n' :: rest => cutLines (done.push (closeLine read)) [] rest
  | c :: rest => cutLines done (c :: read) rest

/-- The lines of a source, without their terminators. -/
def lines (source : String) : List String :=
  (cutLines #[] [] source.toList).toList

end Offside.Text
