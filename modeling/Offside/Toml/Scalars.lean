import Offside.Text.Numeral
import Offside.Document

/-!
# Numbers, truth values and moments in TOML

An underscore may stand between two digits of a number. Integers have 64 bits; decimal ones may
have a sign and start with no needless zero. A floating-point number may be infinite only if it is
written so or is negative.
-/

namespace Offside.Toml

set_option autoImplicit false

/-- Drops the underscores between digits; any other underscore makes the digits invalid. -/
def joinDigits? (isDigit : Char → Bool) (cs : List Char) : Option (List Char) :=
  if cs.head?.any isDigit && cs.getLast?.any isDigit && cs.all (fun c => c == '_' || isDigit c) &&
      !(cs.zip cs.tail).contains ('_', '_') then
    some (cs.filter (· != '_'))
  else none

def decimal? (cs : List Char) : Option (List Char) :=
  match joinDigits? Char.isDigit cs with
  | some ('0' :: _ :: _) => none
  | r => r

/-- A text without its leading sign. -/
def unsigned : List Char → List Char
  | '+' :: rest => rest
  | '-' :: rest => rest
  | rest => rest

def inRadix? (radix : Nat) (cs : List Char) : Option Int :=
  let isDigit c := match Text.hexValue? c with
    | some v => v < radix
    | none => false
  (joinDigits? isDigit cs).bind fun digits =>
    (Text.numeralUpTo? radix Text.int64Max.toNat (digits.filterMap Text.hexValue?)).map Int.ofNat

def integer? : List Char → Option Int
  | '0' :: 'x' :: rest => inRadix? 16 rest
  | '0' :: 'o' :: rest => inRadix? 8 rest
  | '0' :: 'b' :: rest => inRadix? 2 rest
  | cs =>
    match decimal? (unsigned cs) with
    | some digits => Text.int64? (if cs.head? == some '-' then '-' :: digits else digits)
    | none => none

/-- The exponent that a text spells, its letter left out. One of more than six digits counts as one
of their first six. -/
def exponent? (cs : List Char) : Option Int :=
  (joinDigits? Char.isDigit (unsigned cs)).map fun digits =>
    let n : Int := (Text.digits? ((digits.dropWhile (· == '0')).take 6)).getD 0
    if cs.head? == some '-' then -n else n

/-- The parts of a number without sign: the digits before and behind its point, and its exponent.
A point or an exponent is needed. -/
def floatParts? (cs : List Char) : Option (List Char × List Char × Int) := do
  let isMark c := c == 'e' || c == 'E'
  let significand := cs.takeWhile fun c => !isMark c
  let exponent := cs.dropWhile fun c => !isMark c
  let point := significand.dropWhile (· != '.')
  if point.isEmpty && exponent.isEmpty then none
  let whole ← decimal? (significand.takeWhile (· != '.'))
  let fraction ← if point.isEmpty then some [] else joinDigits? Char.isDigit point.tail
  let exponent ← if exponent.isEmpty then some 0 else exponent? exponent.tail
  some (whole, fraction, exponent)

/-- The least number that rounds to infinity: half a step above the greatest finite one. It has 309
digits. -/
def overflowBound : Nat := Nat.pow 2 1024 - Nat.pow 2 970

/-- Whether a number is at least `overflowBound`. -/
def overflows (whole fraction : List Char) (exponent : Int) : Bool :=
  let digits := (whole ++ fraction).dropWhile (· == '0')
  let size := whole.length + exponent - (whole.length + fraction.length - digits.length : Nat)
  !digits.isEmpty && (309 < size || size = 309 &&
    overflowBound ≤ (Text.digits? ((digits ++ List.replicate 309 '0').take 309)).getD 0)

def isFloat (cs : List Char) : Bool :=
  let body := unsigned cs
  body == "inf".toList || body == "nan".toList ||
    match floatParts? body with
    | some (whole, fraction, exponent) =>
      cs.head? == some '-' || !overflows whole fraction exponent
    | none => false

/-- The number that exactly `n` digits spell. -/
def fixedDigits? (n : Nat) (cs : List Char) : Option Nat :=
  if cs.length = n then Text.digits? cs else none

def isLeapYear (y : Nat) : Bool := y % 4 == 0 && y % 100 != 0 || y % 400 == 0

def daysInMonth (year month : Nat) : Nat :=
  if month = 2 then if isLeapYear year then 29 else 28
  else if month = 4 || month = 6 || month = 9 || month = 11 then 30 else 31

def isDate (cs : List Char) : Bool :=
  match fixedDigits? 4 (cs.take 4), fixedDigits? 2 ((cs.drop 5).take 2),
      fixedDigits? 2 (cs.drop 8) with
  | some y, some m, some d =>
    cs[4]? == some '-' && cs[7]? == some '-' && 1 ≤ m && m ≤ 12 && 1 ≤ d && d ≤ daysInMonth y m
  | _, _, _ => false

/-- Whether a text is hours and minutes such as `07:32`. -/
def isHourMinute (cs : List Char) : Bool :=
  match fixedDigits? 2 (cs.take 2), fixedDigits? 2 (cs.drop 3) with
  | some h, some m => cs[2]? == some ':' && h ≤ 23 && m ≤ 59
  | _, _ => false

/-- Whether a text is a time such as `07:32:00.5`. -/
def isTime (cs : List Char) : Bool :=
  match fixedDigits? 2 ((cs.drop 6).take 2) with
  | some s =>
    isHourMinute (cs.take 5) && cs[5]? == some ':' && s ≤ 60 &&
      match cs.drop 8 with
      | [] => true
      | '.' :: digits => (Text.digits? digits).isSome
      | _ => false
  | none => false

/-- Whether a text is a time with an offset, such as `07:32:00Z`. -/
def isOffsetTime (cs : List Char) : Bool :=
  match cs.reverse with
  | 'Z' :: rest => isTime rest.reverse
  | 'z' :: rest => isTime rest.reverse
  | _ =>
    let offset := cs.drop (cs.length - 6)
    (offset.head? == some '+' || offset.head? == some '-') && isHourMinute offset.tail &&
      isTime (cs.take (cs.length - 6))

def isMoment (cs : List Char) : Bool :=
  isDate cs || isTime cs ||
    (isDate (cs.take 10) &&
      (cs[10]? == some 'T' || cs[10]? == some 't' || cs[10]? == some ' ') &&
      (isTime (cs.drop 11) || isOffsetTime (cs.drop 11)))

/-- Characters that values without quotes or brackets are spelled with. -/
def isScalarChar (c : Char) : Bool :=
  c.isAlphanum || c == '+' || c == '-' || c == '_' || c == '.' || c == ':'

/-- The spelling of such a value at the head of a text; one space may divide a date from a time. -/
def scalarSpelling (cs : List Char) : List Char :=
  let first := cs.takeWhile isScalarChar
  match cs.dropWhile isScalarChar with
  | ' ' :: a :: rest =>
    if isDate first && a.isDigit then first ++ ' ' :: (a :: rest).takeWhile isScalarChar else first
  | _ => first

/-- Reads a value without quotes or brackets. -/
def scalar? (cs : List Char) : Option (Toml × List Char) :=
  let spelling := scalarSpelling cs
  let rest := cs.drop spelling.length
  if spelling == "true".toList then some (.bool true, rest)
  else if spelling == "false".toList then some (.bool false, rest)
  else match integer? spelling with
    | some n => some (.integer n, rest)
    | none =>
      if isFloat spelling then some (.float (String.ofList spelling), rest)
      else if isMoment spelling then some (.moment (String.ofList spelling), rest)
      else none

end Offside.Toml
