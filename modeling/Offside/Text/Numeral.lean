/-!
# Numerals

Hexadecimal digits, integers whose value has to fit a given range, and numbers of bytes for people.
A sign may lead an integer, and nothing but ASCII digits may follow it; however many digits there
are, no number much above the range is computed.
-/

namespace Offside.Text

set_option autoImplicit false

def hexDigit (n : Nat) : Char :=
  if n < 10 then Char.ofNat ('0'.toNat + n) else Char.ofNat ('a'.toNat + (n - 10))

/-- The shortest hexadecimal numeral of a number. -/
def hexNumeral (n : Nat) : List Char :=
  Nat.toDigits 16 n

/-- The numeral with zeros in front, at least `width` digits wide. -/
def hexPadded (width n : Nat) : List Char :=
  let digits := hexNumeral n
  List.replicate (width - digits.length) '0' ++ digits

def hexValue? (c : Char) : Option Nat :=
  if '0' ≤ c && c ≤ '9' then some (c.toNat - '0'.toNat)
  else if 'a' ≤ c && c ≤ 'f' then some (c.toNat - 'a'.toNat + 10)
  else if 'A' ≤ c && c ≤ 'F' then some (c.toNat - 'A'.toNat + 10)
  else none

/-- The value of a run of hexadecimal digits, most significant first. -/
def hexRun? (cs : List Char) : Option Nat :=
  cs.foldlM (fun n c => (hexValue? c).map (n * 16 + ·)) 0

/-- The number that digits spell in a radix, most significant digit first. -/
def numeral (radix : Nat) (digits : List Nat) : Nat :=
  digits.foldl (fun n d => n * radix + d) 0

/-- The number behind `n`, which digits spell after those of `n`, if it is at most `limit`. -/
def numeralFrom? (radix limit n : Nat) : List Nat → Option Nat
  | [] => if n ≤ limit then some n else none
  | d :: rest => if n ≤ limit then numeralFrom? radix limit (n * radix + d) rest else none

/-- The number that digits spell in a radix, if it is at most `limit`. -/
def numeralUpTo? (radix limit : Nat) (digits : List Nat) : Option Nat :=
  numeralFrom? radix limit 0 digits

theorem le_foldl_numeral {radix : Nat} (h : 0 < radix) (n : Nat) (digits : List Nat) :
    n ≤ digits.foldl (fun n d => n * radix + d) n := by
  induction digits generalizing n with
  | nil => exact Nat.le_refl n
  | cons d rest ih =>
    exact Nat.le_trans (Nat.le_trans (Nat.le_mul_of_pos_right n h) (Nat.le_add_right _ d)) (ih _)

theorem numeralFrom?_eq {radix : Nat} (h : 0 < radix) (limit n : Nat) (digits : List Nat) :
    numeralFrom? radix limit n digits =
      if digits.foldl (fun n d => n * radix + d) n ≤ limit
      then some (digits.foldl (fun n d => n * radix + d) n) else none := by
  induction digits generalizing n with
  | nil => rfl
  | cons d rest ih =>
    rw [numeralFrom?]
    split
    · rw [ih]
      rfl
    · next hn =>
      have := le_foldl_numeral h n (d :: rest)
      rw [if_neg (by omega)]

/-- Stopping early changes nothing. -/
theorem numeralUpTo?_eq {radix : Nat} (h : 0 < radix) (limit : Nat) (digits : List Nat) :
    numeralUpTo? radix limit digits =
      if numeral radix digits ≤ limit then some (numeral radix digits) else none :=
  numeralFrom?_eq h limit 0 digits

/-- The values of a run of decimal digits; at least one is needed. -/
def digitValues? (cs : List Char) : Option (List Nat) :=
  if cs.isEmpty || !cs.all Char.isDigit then none
  else some (cs.map fun c => c.toNat - '0'.toNat)

def digits? (cs : List Char) : Option Nat := (digitValues? cs).map (numeral 10)

def digitsUpTo? (limit : Nat) (cs : List Char) : Option Nat :=
  (digitValues? cs).bind (numeralUpTo? 10 limit)

/-- The integer a text spells, if it lies between `low` and `high`. -/
def integer? (low high : Int) (cs : List Char) : Option Int := do
  let digits := digitsUpTo? (max low.natAbs high.natAbs)
  let value ← match cs with
    | '+' :: r => (digits r).map Int.ofNat
    | '-' :: r => (digits r).map fun n => -Int.ofNat n
    | r => (digits r).map Int.ofNat
  if low ≤ value && value ≤ high then some value else none

def size64 : Nat := 0x10000000000000000

/-- The least and the greatest signed 64-bit integer. -/
def int64Min : Int := -0x8000000000000000

def int64Max : Int := 0x7fffffffffffffff

def uint64Max : Nat := 0xffffffffffffffff

def int64? (cs : List Char) : Option Int :=
  integer? int64Min int64Max cs

/-- The unsigned 64-bit integer a text spells; it takes no minus sign. -/
def uint64? (cs : List Char) : Option Nat :=
  match cs with
  | '-' :: _ => none
  | r => (integer? 0 uint64Max r).map Int.toNat

/-- The signed integer that the 64 bits of a natural number stand for. -/
def signed64 (n : Nat) : Int := Int.bmod n size64

/-- The quotient of two numbers rounded to the nearest integer, half-way to the even one. -/
def roundDiv (n d : Nat) : Nat :=
  let q := n / d
  let r := n % d
  if d < 2 * r || (2 * r = d && q % 2 = 1) then q + 1 else q

/-- A number of hundredths with two decimals. -/
def hundredths (n : Nat) : String :=
  toString (n / 100) ++ "." ++ toString (n / 10 % 10) ++ toString (n % 10)

/-- How often a number of bytes can be divided by 1024, at most `most` times. -/
def unitIndex (bytes : Nat) : Nat → Nat
  | 0 => 0
  | most + 1 => if bytes < 1024 then 0 else unitIndex (bytes / 1024) most + 1

def byteCount (bytes : Nat) : String :=
  match unitIndex bytes 3 with
  | 0 => toString bytes ++ " B"
  | i =>
    hundredths (roundDiv (bytes * 100) (Nat.pow 1024 i)) ++ " " ++
      ["B", "KB", "MB", "GB"].getD i ""

end Offside.Text
