import Offside.Text.Cutting
import Offside.Text.Numeral
import Offside.Token

/-!
# Reading token rows

The rows a reference tokenizer prints: a span, a colon, the name of a kind and a quoted text, with
white space between them. Blank lines are skipped, and a name that is no kind counts as unknown.
-/

namespace Offside.Reference

set_option autoImplicit false

/-- Cuts a text at the first occurrence of a character, which is dropped. -/
def splitAt? (c : Char) (cs : List Char) : Option (List Char × List Char) :=
  match cs.dropWhile (· != c) with
  | [] => none
  | _ :: rest => some (cs.takeWhile (· != c), rest)

/-- The number that an escape's digits spell; a plus sign may lead. -/
def codeValue? : List Char → Option Nat
  | ['+'] => none
  | '+' :: digits => Text.hexRun? digits
  | digits => Text.hexRun? digits

def codePoint? (digits : List Char) : Option Char :=
  match codeValue? digits with
  | some n => if n < 0xD800 || (0xDFFF < n && n < 0x110000) then some (Char.ofNat n) else none
  | none => none

/-- The character behind a backslash, for the escapes of one character. -/
def shortEscape? (c : Char) : Option Char :=
  match c with
  | 'n' => some '\n'
  | 'r' => some '\r'
  | 't' => some '\t'
  | '0' => some '\x00'
  | '\\' => some '\\'
  | '\'' => some '\''
  | '"' => some '"'
  | _ => none

/-- What stands between the quotes, with every escape replaced by its character. -/
def unescape? : List Char → Option (List Char)
  | [] => some []
  | '\\' :: 'x' :: a :: b :: rest => join? (codePoint? [a, b]) (unescape? rest)
  | '\\' :: 'u' :: a :: b :: c :: d :: rest => join? (codePoint? [a, b, c, d]) (unescape? rest)
  | '\\' :: 'U' :: a :: b :: c :: d :: e :: f :: g :: h :: rest =>
    join? (codePoint? [a, b, c, d, e, f, g, h]) (unescape? rest)
  | '\\' :: c :: rest => join? (shortEscape? c) (unescape? rest)
  | c :: rest => if c = '\\' then none else join? (some c) (unescape? rest)
where
  join? : Option Char → Option (List Char) → Option (List Char)
    | some c, some cs => some (c :: cs)
    | _, _ => none

/-- The text that a quoted text stands for. -/
def unquote? : List Char → Option (List Char)
  | [] => none
  | q :: body =>
    if (q == '\'' || q == '"') && body.getLast? == some q then unescape? body.dropLast else none

def unquoteString? (s : String) : Option String :=
  (unquote? s.toList).map String.ofList

def position? (cs : List Char) : Option Position := do
  let (line, column) ← splitAt? ',' cs
  some ⟨← Text.int64? (Text.trim line), ← Text.int64? (Text.trim column)⟩

def span? (cs : List Char) : Option Span := do
  let (start, stop) ← splitAt? '-' cs
  some ⟨← position? start, ← position? stop⟩

def row? (cs : List Char) : Option Token := do
  let (range, rest) ← splitAt? ':' cs
  let span ← span? (Text.trim range)
  let rest := Text.trimStart rest
  let label := rest.takeWhile fun c => !Text.isBlank c
  let value := rest.dropWhile fun c => !Text.isBlank c
  if value.isEmpty then none
  let text ← unquote? (Text.trim value)
  some ⟨(Kind.ofLabel? (String.ofList label)).getD .unknown, String.ofList text, span⟩

/-- A line that is no row; lines are counted from one. -/
structure Malformed where
  line : Nat
  text : String
deriving DecidableEq

/-- Reads lines, of which the first has the number `line`, behind the tokens `done`. -/
def readFrom (line : Nat) (done : Array Token) : List String → Except Malformed (List Token)
  | [] => .ok done.toList
  | text :: rest =>
    if text.toList.all Text.isBlank then readFrom (line + 1) done rest
    else match row? text.toList with
      | some t => readFrom (line + 1) (done.push t) rest
      | none => .error ⟨line, text⟩

def read (output : String) : Except Malformed (List Token) :=
  readFrom 1 #[] (Text.lines output)

end Offside.Reference
