import Offside.Text.Numeral
import Offside.Token

/-!
# Token rows

A token printed on a line of its own: its span, its kind and its text between quotes, in columns of
20, 15 and 15 characters. The text is set between single quotes, or between double quotes when it
holds a single quote and no double one; a backslash, the chosen quote and the ASCII control
characters are escaped.
-/

namespace Offside

set_option autoImplicit false

namespace Text

def fill (c : Char) (n : Nat) : String :=
  String.ofList (List.replicate n c)

/-- The text at the left of a field of `width` characters. -/
def padRight (width : Nat) (s : String) : String :=
  s ++ fill ' ' (width - s.length)

/-- The text at the right of a field of `width` characters. -/
def padLeft (width : Nat) (s : String) : String :=
  fill ' ' (width - s.length) ++ s

/-- The text in the middle of a field filled with `c`; an odd place goes to the right. -/
def padCenter (c : Char) (width : Nat) (s : String) : String :=
  let room := width - s.length
  fill c (room / 2) ++ s ++ fill c (room - room / 2)

def clip (width : Nat) (s : String) : String :=
  String.ofList (s.toList.take width)

end Text

namespace Token

/-- The quote a text is set between. -/
def quoteFor (text : List Char) : Char :=
  if text.contains '\'' && !text.contains '"' then '"' else '\''

/-- A character of a text between the quotes `quote`. -/
def escapeIn (quote c : Char) : List Char :=
  match c with
  | '\\' => ['\\', '\\']
  | '\n' => ['\\', 'n']
  | '\r' => ['\\', 'r']
  | '\t' => ['\\', 't']
  | c =>
    if c = quote then ['\\', c]
    else if c.toNat < 0x20 || c.toNat = 0x7F then '\\' :: 'x' :: Text.hexPadded 2 c.toNat
    else [c]

def quote (text : List Char) : List Char :=
  let q := quoteFor text
  q :: text.flatMap (escapeIn q) ++ [q]

def quotedText (t : Token) : String :=
  String.ofList (quote t.text.toList)

def row (t : Token) : String :=
  Text.padRight 20 (t.span.text ++ ":") ++ Text.padRight 15 t.kind.label ++
    Text.padRight 15 t.quotedText

def rows (ts : List Token) : String :=
  String.join (ts.map fun t => t.row ++ "\n")

end Token

end Offside
