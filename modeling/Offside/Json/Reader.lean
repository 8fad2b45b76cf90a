import Offside.Json
import Offside.Text.Numeral

/-!
# Reading JSON

A text is cut into lexemes, and the lexemes are put together by a machine with a stack of the
arrays and objects that are open. White space may stand between lexemes; nothing else may.
-/

namespace Offside.Json

set_option autoImplicit false

inductive Lexeme
  | openArray
  | closeArray
  | openObject
  | closeObject
  | comma
  | colon
  | null
  | bool (b : Bool)
  | number (spelling : String)
  | text (s : Option String)

def isSpace (c : Char) : Bool := c == ' ' || c == '\n' || c == '\t' || c == '\r'

def isNumeric (c : Char) : Bool :=
  c.isDigit || c == '-' || c == '+' || c == '.' || c == 'e' || c == 'E'

/-- Drops an integer part: a zero, or digits that start with none. -/
def dropInteger? : List Char → Option (List Char)
  | '0' :: r => some r
  | c :: r => if c.isDigit then some (r.dropWhile Char.isDigit) else none
  | [] => none

/-- Drops one digit or more. -/
def dropDigits? : List Char → Option (List Char)
  | c :: r => if c.isDigit then some (r.dropWhile Char.isDigit) else none
  | [] => none

def dropFraction? : List Char → Option (List Char)
  | '.' :: r => dropDigits? r
  | r => some r

def dropExponent? : List Char → Option (List Char)
  | c :: r =>
    if c == 'e' || c == 'E' then
      match r with
      | '+' :: r => dropDigits? r
      | '-' :: r => dropDigits? r
      | r => dropDigits? r
    else some (c :: r)
  | [] => some []

def isNumber (cs : List Char) : Bool :=
  let unsigned := match cs with
    | '-' :: r => r
    | r => r
  ((dropInteger? unsigned).bind dropFraction?).bind dropExponent? == some []

/-- What has been read of a string: its characters, newest first, unless a surrogate stood alone. -/
abbrev Read := Option (List Char)

def Read.push (c : Char) (r : Read) : Read := r.map (c :: ·)

/-- The character behind a backslash, for the escapes of one character. -/
def unescape? (c : Char) : Option Char :=
  match c with
  | '"' => some '"'
  | '\\' => some '\\'
  | '/' => some '/'
  | 'b' => some '\x08'
  | 'f' => some '\x0c'
  | 'n' => some '\n'
  | 'r' => some '\r'
  | 't' => some '\t'
  | _ => none

def isHighHalf (n : Nat) : Bool := 0xD800 ≤ n && n < 0xDC00

def isLowHalf (n : Nat) : Bool := 0xDC00 ≤ n && n < 0xE000

def joinHalves (high low : Nat) : Char :=
  Char.ofNat (0x10000 + (high - 0xD800) * 0x400 + (low - 0xDC00))

/-- Reads a string up to its closing quote; gives what it spells and the text behind the quote. -/
def readString (read : Read) : List Char → Option (Option String × List Char)
  | [] => none
  | '"' :: rest => some (read.map fun r => String.ofList r.reverse, rest)
  | '\\' :: 'u' :: a :: b :: c :: d :: rest =>
    match Text.hexRun? [a, b, c, d] with
    | none => none
    | some n =>
      if isHighHalf n then
        match rest with
        | '\\' :: 'u' :: e :: f :: g :: h :: rest' =>
          match Text.hexRun? [e, f, g, h] with
          | none => none
          | some m =>
            if isLowHalf m then readString (read.push (joinHalves n m)) rest'
            else readString none ('\\' :: 'u' :: e :: f :: g :: h :: rest')
        | rest => readString none rest
      else if isLowHalf n then readString none rest
      else readString (read.push (Char.ofNat n)) rest
  | '\\' :: c :: rest =>
    match unescape? c with
    | some d => readString (read.push d) rest
    | none => none
  | c :: rest => if c == '\\' || c.toNat < 0x20 then none else readString (read.push c) rest
termination_by cs => cs.length

theorem length_lt_of_readString {read : Read} {cs rest : List Char} {s : Option String}
    (h : readString read cs = some (s, rest)) : rest.length < cs.length := by
  fun_induction readString read cs <;> simp_all <;> omega

/-- Cuts a text into lexemes, given those already cut, the newest first. -/
def lexemes (done : List Lexeme) : List Char → Option (List Lexeme)
  | [] => some done.reverse
  | '[' :: rest => lexemes (.openArray :: done) rest
  | ']' :: rest => lexemes (.closeArray :: done) rest
  | '\x7b' :: rest => lexemes (.openObject :: done) rest
  | '\x7d' :: rest => lexemes (.closeObject :: done) rest
  | ',' :: rest => lexemes (.comma :: done) rest
  | ':' :: rest => lexemes (.colon :: done) rest
  | '"' :: rest =>
    match _h : readString (some []) rest with
    | some (s, rest') => lexemes (.text s :: done) rest'
    | none => none
  | 'n' :: 'u' :: 'l' :: 'l' :: rest => lexemes (.null :: done) rest
  | 't' :: 'r' :: 'u' :: 'e' :: rest => lexemes (.bool true :: done) rest
  | 'f' :: 'a' :: 'l' :: 's' :: 'e' :: rest => lexemes (.bool false :: done) rest
  | c :: rest =>
    if isSpace c then lexemes done rest
    else if isNumeric c then
      let spelling := c :: rest.takeWhile isNumeric
      if isNumber spelling then
        lexemes (.number (String.ofList spelling) :: done) (rest.dropWhile isNumeric)
      else none
    else none
termination_by cs => cs.length
decreasing_by
  all_goals simp only [List.length_cons]
  all_goals first
    | omega
    | exact Nat.lt_succ_of_lt (length_lt_of_readString _h)
    | exact Nat.lt_succ_of_le (List.dropWhile_sublist _).length_le

/-- An array or object that is open, its parts newest first. -/
inductive Frame
  | array (items : List Json)
  | object (members : List (Option String × Json)) (name : Option (Option String))

/-- What has to come next. -/
inductive Next
  | value
  /-- A value, or the end of an array without items. -/
  | firstItem
  /-- A name, or the end of an object without members. -/
  | firstName
  | name
  | colon
  /-- A comma or the end of the innermost array or object. -/
  | separator
  | nothing (document : Json)

def accept (j : Json) : List Frame → Option (List Frame × Next)
  | [] => some ([], .nothing j)
  | .array items :: frames => some (.array (j :: items) :: frames, .separator)
  | .object members (some name) :: frames =>
    some (.object ((name, j) :: members) none :: frames, .separator)
  | .object _ none :: _ => none

def close : Lexeme → List Frame → Option (List Frame × Next)
  | .closeArray, .array items :: frames => accept (.array items.reverse) frames
  | .closeObject, .object members none :: frames => accept (.object members.reverse) frames
  | _, _ => none

def value : Lexeme → List Frame → Option (List Frame × Next)
  | .openArray, frames => some (.array [] :: frames, .firstItem)
  | .openObject, frames => some (.object [] none :: frames, .firstName)
  | .null, frames => accept .null frames
  | .bool b, frames => accept (.bool b) frames
  | .number spelling, frames => accept (.number spelling) frames
  | .text s, frames => accept (.text s) frames
  | _, _ => none

def memberName : Lexeme → List Frame → Option (List Frame × Next)
  | .text s, .object members none :: frames => some (.object members (some s) :: frames, .colon)
  | _, _ => none

def step (frames : List Frame) : Next → Lexeme → Option (List Frame × Next)
  | .value, x => value x frames
  | .firstItem, .closeArray => close .closeArray frames
  | .firstItem, x => value x frames
  | .firstName, .closeObject => close .closeObject frames
  | .firstName, x => memberName x frames
  | .name, x => memberName x frames
  | .colon, .colon => some (frames, .value)
  | .colon, _ => none
  | .separator, .comma =>
    match frames with
    | .array _ :: _ => some (frames, .value)
    | .object .. :: _ => some (frames, .name)
    | [] => none
  | .separator, x => close x frames
  | .nothing _, _ => none

/-- Puts lexemes together. -/
def assemble (frames : List Frame) (next : Next) : List Lexeme → Option Json
  | [] =>
    match next with
    | .nothing j => some j
    | _ => none
  | x :: xs =>
    match step frames next x with
    | some (frames, next) => assemble frames next xs
    | none => none

def parse? (cs : List Char) : Option Json :=
  (lexemes [] cs).bind (assemble [] .value)

def ofString? (s : String) : Option Json := parse? s.toList

end Offside.Json
