import Offside.Text.Numeral

/-!
# Strings in TOML

The four kinds of strings: with or without escapes, on one line or over several. In a string over
several lines a line end is one line feed, however it is written, and up to two quotes may stand
before the closing ones.
-/

namespace Offside.Toml

set_option autoImplicit false

/-- Control characters but the tab; they stand in no string and no comment. -/
def isControl (c : Char) : Bool := c.toNat < 0x20 && c != '\t' || c.toNat = 0x7F

def isSpace (c : Char) : Bool := c == ' ' || c == '\t'

/-- The character of a code point that digits spell. -/
def codePoint? (digits : List Char) : Option Char :=
  match Text.hexRun? digits with
  | some n => if n < 0xD800 || (0xDFFF < n && n < 0x110000) then some (Char.ofNat n) else none
  | none => none

/-- The character behind a backslash, for the escapes of one character. -/
def unescape? (c : Char) : Option Char :=
  match c with
  | 'b' => some '\x08'
  | 't' => some '\t'
  | 'n' => some '\n'
  | 'f' => some '\x0c'
  | 'r' => some '\r'
  | '"' => some '"'
  | '\\' => some '\\'
  | _ => none

/-- The escape behind a backslash: its character and what follows. -/
def escape? : List Char → Option (Char × List Char)
  | 'u' :: a :: b :: c :: d :: rest => (codePoint? [a, b, c, d]).map fun x => (x, rest)
  | 'U' :: a :: b :: c :: d :: e :: f :: g :: h :: rest =>
    (codePoint? [a, b, c, d, e, f, g, h]).map fun x => (x, rest)
  | c :: rest => (unescape? c).map fun x => (x, rest)
  | [] => none

theorem length_lt_of_escape? {cs rest : List Char} {x : Char} (h : escape? cs = some (x, rest)) :
    rest.length < cs.length := by
  unfold escape? at h
  split at h
  · obtain ⟨_, _, hx⟩ := Option.map_eq_some_iff.1 h
    cases hx
    simp only [List.length_cons]
    omega
  · obtain ⟨_, _, hx⟩ := Option.map_eq_some_iff.1 h
    cases hx
    simp only [List.length_cons]
    omega
  · obtain ⟨_, _, hx⟩ := Option.map_eq_some_iff.1 h
    cases hx
    simp
  · cases h

def dropBlank : List Char → List Char
  | ' ' :: rest => dropBlank rest
  | '\t' :: rest => dropBlank rest
  | '\n' :: rest => dropBlank rest
  | '\r' :: '\n' :: rest => dropBlank rest
  | rest => rest

theorem length_dropBlank_le (cs : List Char) : (dropBlank cs).length ≤ cs.length := by
  fun_induction dropBlank cs <;> simp_all <;> omega

def startsLine : List Char → Bool
  | '\n' :: _ => true
  | '\r' :: '\n' :: _ => true
  | _ => false

def dropNewline : List Char → List Char
  | '\n' :: rest => rest
  | '\r' :: '\n' :: rest => rest
  | rest => rest

/-- What was read of a string, newest character first, and what follows the closing quotes. -/
abbrev StringRest := Option (List Char × List Char)

/-- Reads a string with escapes on one line. -/
def basic (read : List Char) : List Char → StringRest
  | [] => none
  | '"' :: rest => some (read, rest)
  | '\\' :: rest =>
    match _h : escape? rest with
    | some (x, rest') => basic (x :: read) rest'
    | none => none
  | c :: rest => if isControl c then none else basic (c :: read) rest
termination_by cs => cs.length
decreasing_by
  · have := length_lt_of_escape? _h
    simp only [List.length_cons]
    omega
  · simp

/-- Reads a string without escapes on one line. -/
def literal (read : List Char) : List Char → StringRest
  | [] => none
  | '\'' :: rest => some (read, rest)
  | c :: rest => if isControl c then none else literal (c :: read) rest

/-- Reads a string with escapes over several lines. -/
def basicLines (read : List Char) : List Char → StringRest
  | [] => none
  | '"' :: '"' :: '"' :: '"' :: '"' :: rest => some ('"' :: '"' :: read, rest)
  | '"' :: '"' :: '"' :: '"' :: rest => some ('"' :: read, rest)
  | '"' :: '"' :: '"' :: rest => some (read, rest)
  | '\\' :: rest =>
    if startsLine (rest.dropWhile isSpace) then basicLines read (dropBlank rest)
    else
      match _h : escape? rest with
      | some (x, rest') => basicLines (x :: read) rest'
      | none => none
  | '\r' :: '\n' :: rest => basicLines ('\n' :: read) rest
  | '\n' :: rest => basicLines ('\n' :: read) rest
  | c :: rest => if isControl c then none else basicLines (c :: read) rest
termination_by cs => cs.length
decreasing_by
  · have := length_dropBlank_le rest
    simp only [List.length_cons]
    omega
  · have := length_lt_of_escape? _h
    simp only [List.length_cons]
    omega
  · simp only [List.length_cons]
    omega
  · simp
  · simp

/-- Reads a string without escapes over several lines. -/
def literalLines (read : List Char) : List Char → StringRest
  | [] => none
  | '\'' :: '\'' :: '\'' :: '\'' :: '\'' :: rest => some ('\'' :: '\'' :: read, rest)
  | '\'' :: '\'' :: '\'' :: '\'' :: rest => some ('\'' :: read, rest)
  | '\'' :: '\'' :: '\'' :: rest => some (read, rest)
  | '\r' :: '\n' :: rest => literalLines ('\n' :: read) rest
  | '\n' :: rest => literalLines ('\n' :: read) rest
  | c :: rest => if isControl c then none else literalLines (c :: read) rest

/-- The string that was read. -/
def finish (r : StringRest) : Option (String × List Char) :=
  r.map fun p => (String.ofList p.1.reverse, p.2)

def string? : List Char → Option (String × List Char)
  | '"' :: '"' :: '"' :: rest => finish (basicLines [] (dropNewline rest))
  | '"' :: rest => finish (basic [] rest)
  | '\'' :: '\'' :: '\'' :: rest => finish (literalLines [] (dropNewline rest))
  | '\'' :: rest => finish (literal [] rest)
  | _ => none

/-- Reads a string on one line. -/
def lineString? : List Char → Option (String × List Char)
  | '"' :: rest => finish (basic [] rest)
  | '\'' :: rest => finish (literal [] rest)
  | _ => none

end Offside.Toml
