import Offside.Text.Numeral

/-!
# JSON

JSON documents as they are written: numbers keep their spelling and objects the order of their
members, also of those with the same name. A document is printed on one line without spaces, or over
several lines with two spaces per level; a string escapes the quote, the backslash and the control
characters, and keeps everything else.
-/

namespace Offside

set_option autoImplicit false

inductive Json
  | null
  | bool (b : Bool)
  | number (spelling : String)
  /-- A text; `none` if it names half of a surrogate pair and so spells no characters. -/
  | text (s : Option String)
  | array (items : List Json)
  | object (members : List (Option String × Json))
deriving Inhabited

namespace Json

def string (s : String) : Json := text (some s)

def int (n : Int) : Json := number (toString n)

def nat (n : Nat) : Json := number (toString n)

def struct (members : List (String × Json)) : Json :=
  object (members.map fun m => (some m.1, m.2))

def ofOption {α : Type} (f : α → Json) : Option α → Json
  | some a => f a
  | none => null

def text? : Json → Option String
  | text s => s
  | _ => none

def bool? : Json → Option Bool
  | bool b => some b
  | _ => none

def items? : Json → Option (List Json)
  | array items => some items
  | _ => none

def members? : Json → Option (List (Option String × Json))
  | object members => some members
  | _ => none

def get? (j : Json) (name : String) : Option Json :=
  j.members?.bind fun ms => (ms.find? fun m => m.1 == some name).map (·.2)

/-- A character of a string. -/
def escapeChar (c : Char) : List Char :=
  match c with
  | '"' => ['\\', '"']
  | '\\' => ['\\', '\\']
  | '\n' => ['\\', 'n']
  | '\r' => ['\\', 'r']
  | '\t' => ['\\', 't']
  | '\x08' => ['\\', 'b']
  | '\x0c' => ['\\', 'f']
  | c => if c.toNat < 0x20 then '\\' :: 'u' :: Text.hexPadded 4 c.toNat else [c]

def quote (s : String) : String :=
  String.ofList ('"' :: s.toList.flatMap escapeChar ++ ['"'])

/-- A string, or `null` for a text without characters of its own. -/
def quoteText : Option String → String
  | some s => quote s
  | none => "null"

mutual

def compact : Json → String
  | null => "null"
  | bool b => if b then "true" else "false"
  | number spelling => spelling
  | text s => quoteText s
  | array items => "[" ++ ",".intercalate (compactItems items) ++ "]"
  | object members => "\x7b" ++ ",".intercalate (compactMembers members) ++ "\x7d"

def compactItems : List Json → List String
  | [] => []
  | j :: js => j.compact :: compactItems js

def compactMembers : List (Option String × Json) → List String
  | [] => []
  | (name, j) :: ms => (quoteText name ++ ":" ++ j.compact) :: compactMembers ms

end

/-- Parts on lines of their own between two brackets, or the brackets alone. -/
def block (opening closing margin : String) (parts : List String) : String :=
  if parts.isEmpty then opening ++ closing
  else
    opening ++ "\n" ++ ",\n".intercalate (parts.map fun p => margin ++ "  " ++ p) ++ "\n" ++
      margin ++ closing

mutual

/-- A document over several lines, all but the first behind `margin`. -/
def prettyFrom (margin : String) : Json → String
  | array items => block "[" "]" margin (prettyItems (margin ++ "  ") items)
  | object members => block "\x7b" "\x7d" margin (prettyMembers (margin ++ "  ") members)
  | null => "null"
  | bool b => if b then "true" else "false"
  | number spelling => spelling
  | text s => quoteText s

def prettyItems (margin : String) : List Json → List String
  | [] => []
  | j :: js => j.prettyFrom margin :: prettyItems margin js

def prettyMembers (margin : String) : List (Option String × Json) → List String
  | [] => []
  | (name, j) :: ms => (quoteText name ++ ": " ++ j.prettyFrom margin) :: prettyMembers margin ms

end

/-- A document over several lines. -/
def pretty (j : Json) : String := j.prettyFrom ""

end Json

end Offside
