import Offside.Pattern.Table
import Offside.Text.Bytes

/-!
# The end of a triple-quoted string

Where a string that was opened on an earlier line closes: at the first delimiter with an even
number of backslashes directly before it. `seek` cuts a line there, character by character.
`closing?` counts the bytes before it and goes from one delimiter to the next: behind a delimiter
that is escaped it looks again from the next byte on.
-/

namespace Offside

set_option autoImplicit false

namespace TripleQuote

/-- The number of backslashes a text ends with, the text being given newest character first. -/
def backslashes (before : List Char) : Nat := (before.takeWhile (· == '\\')).length

/-- Cuts a text before its first unescaped delimiter, given what was passed, newest first. -/
def seekFrom (q : TripleQuote) (passed : List Char) : List Char → Option (List Char × List Char)
  | [] => none
  | c :: rest =>
    if q.delimiter.isPrefixOf (c :: rest) && backslashes passed % 2 == 0 then
      some (passed.reverse, c :: rest)
    else seekFrom q (c :: passed) rest

/-- What stands before the first unescaped delimiter of a text, and the text from there on. -/
def seek (q : TripleQuote) (text : List Char) : Option (List Char × List Char) :=
  q.seekFrom [] text

def bytes (q : TripleQuote) : List UInt8 := Text.utf8 (String.ofList q.delimiter)

/-- What looking for a delimiter comes to. -/
inductive Attempt
  /-- The delimiter at a place closes the string. -/
  | closes (place : Nat)
  /-- A backslash escapes the delimiter at a place. -/
  | escaped (place : Nat)
  | nothing
deriving DecidableEq

/-- Looks for a delimiter behind the first `start` bytes of a text. A text can only be cut between
two characters, else there is no answer. -/
def attempt? (q : TripleQuote) (text : String) (start : Nat) : Option Attempt :=
  if Text.isBoundary text start then
    match Text.findFrom? text q.bytes start with
    | none => some .nothing
    | some place =>
      if Text.isBoundary text place then
        if Text.runBefore text '\\'.toUInt8 place % 2 = 0 then some (.closes place)
        else some (.escaped place)
      else none
  else none

variable {q : TripleQuote} {text : String} {start place : Nat}

/-- What is known after an attempt. -/
inductive Attempt.Tells (q : TripleQuote) (text : String) (start : Nat) : Attempt → Prop
  | closes {place : Nat} (found : Text.findFrom? text q.bytes start = some place)
      (even : Text.runBefore text '\\'.toUInt8 place % 2 = 0) : Tells q text start (.closes place)
  | escaped {place : Nat} (found : Text.findFrom? text q.bytes start = some place)
      (odd : Text.runBefore text '\\'.toUInt8 place % 2 ≠ 0) : Tells q text start (.escaped place)
  | nothing (none : Text.findFrom? text q.bytes start = none) : Tells q text start .nothing

theorem tells_of_attempt? {a : Attempt} (h : q.attempt? text start = some a) :
    a.Tells q text start := by
  unfold attempt? at h
  split at h
  · split at h
    · rename_i hnone
      obtain rfl := Option.some.inj h
      exact .nothing hnone
    · rename_i place hfound
      split at h
      · split at h
        · rename_i heven
          obtain rfl := Option.some.inj h
          exact .closes hfound heven
        · rename_i hodd
          obtain rfl := Option.some.inj h
          exact .escaped hfound hodd
      · cases h
  · cases h

theorem bytes_eq (q : TripleQuote) : q.bytes = List.replicate 3 q.mark.toUInt8 := by
  cases q <;> decide +kernel

theorem byte?_of_standsAt (h : Text.standsAt text q.bytes place = true) {i : Nat} (hi : i < 3) :
    Text.byte? text (place + i) = some q.mark.toUInt8 := by
  obtain ⟨more, hmore⟩ := Text.standsAt_iff.mp h
  rw [bytes_eq] at hmore
  rw [Text.byte?_eq_getElem?, ← List.getElem?_drop, ← hmore,
    List.getElem?_append_left (by rwa [List.length_replicate]), List.getElem?_replicate, if_pos hi]

/-- No byte of a delimiter lies within another character. -/
theorem isBoundary_of_standsAt (h : Text.standsAt text q.bytes place = true) {i : Nat}
    (hi : i < 3) : Text.isBoundary text (place + i) = true := by
  apply Text.isBoundary_of_byte? (byte?_of_standsAt h hi)
  cases q <;> decide

/-- A delimiter ends within the text. -/
theorem add_three_le_of_standsAt (h : Text.standsAt text q.bytes place = true) :
    place + 3 ≤ text.utf8ByteSize := by
  have hlength := (Text.standsAt_iff.mp h).length_le
  rw [bytes_eq, List.length_replicate, List.length_drop, Text.length_utf8] at hlength
  omega

/-- The number of bytes before the first unescaped delimiter behind the first `start` bytes. -/
def closingFrom? (q : TripleQuote) (text : String) (start : Nat) : Option (Option Nat) :=
  match _h : q.attempt? text start with
  | none => none
  | some .nothing => some none
  | some (.closes place) => some (some place)
  | some (.escaped place) => q.closingFrom? text (place + 1)
termination_by text.utf8ByteSize - start
decreasing_by
  cases tells_of_attempt? _h with
  | escaped hfound =>
    obtain ⟨hle, hstands, -⟩ := Text.findFrom?_eq_some hfound
    have hsize := add_three_le_of_standsAt hstands
    omega

theorem isSome_attempt? (h : Text.isBoundary text start = true) :
    (q.attempt? text start).isSome = true := by
  unfold attempt?
  rw [if_pos h]
  split
  · rfl
  · rename_i place hfound
    obtain ⟨-, hstands, -⟩ := Text.findFrom?_eq_some hfound
    have hplace : Text.isBoundary text place = true :=
      isBoundary_of_standsAt hstands (by omega : 0 < 3)
    rw [if_pos hplace]
    split <;> rfl

/-- Nowhere does the search cut a text within a character. -/
theorem isSome_closingFrom? (h : Text.isBoundary text start = true) :
    (q.closingFrom? text start).isSome = true := by
  fun_induction closingFrom? q text start with
  | case1 start hnone =>
    have hsome := isSome_attempt? (q := q) h
    rw [hnone] at hsome
    cases hsome
  | case2 => rfl
  | case3 => rfl
  | case4 start place hescaped ih =>
    cases tells_of_attempt? hescaped with
    | escaped hfound =>
      obtain ⟨-, hstands, -⟩ := Text.findFrom?_eq_some hfound
      exact ih (isBoundary_of_standsAt hstands (by omega))

/-- The number of bytes before the first unescaped delimiter of a text. -/
def closing? (q : TripleQuote) (text : String) : Option Nat :=
  (q.closingFrom? text 0).get (isSome_closingFrom? (Text.isBoundary_zero text))

end TripleQuote

end Offside
