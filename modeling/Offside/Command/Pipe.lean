import Offside.Host

/-!
# Draining a pipe

A pipe gives its bytes in pieces, may be interrupted between them and ends with an empty piece.
Draining reads it to the end but keeps no more than a bounded number of bytes. What was kept need
not be text: every longest run of octets that starts a character but does not end one, and every
octet that starts none, becomes one replacement character.
-/

namespace Offside

set_option autoImplicit false

inductive Piped
  | bytes (piece : List UInt8)
  /-- Nothing was read, and reading can go on. -/
  | interrupted
  | failed (error : OsError)

structure Drained where
  bytes : List UInt8 := []
  /-- Whether there was more than could be kept. -/
  overflowed : Bool := false
deriving DecidableEq

namespace Drained

/-- Keeps as much of a piece as there is room for. -/
def keep (cap : Nat) (d : Drained) (piece : List UInt8) : Drained :=
  let room := cap - d.bytes.length
  ⟨d.bytes ++ piece.take room, d.overflowed || room < piece.length⟩

def drain (cap : Nat) (d : Drained) : List Piped → Except OsError Drained
  | [] => .ok d
  | .bytes [] :: _ => .ok d
  | .bytes piece :: rest => drain cap (d.keep cap piece) rest
  | .interrupted :: rest => drain cap d rest
  | .failed e :: _ => .error e

end Drained

namespace Text

/-- Where the reader stands between two octets. -/
inductive Utf8State
  | start
  /-- `owed + 1` octets are missing, the next one between `low` and `high`; `value` was read. -/
  | within (owed low high value : Nat)

def replacement : Char := '\uFFFD'

/-- The reader after an octet that comes between characters, and what the octet shows. -/
def firstOctet (b : Nat) : List Char × Utf8State :=
  if b < 0x80 then ([Char.ofNat b], .start)
  else if 0xC2 ≤ b && b ≤ 0xDF then ([], .within 0 0x80 0xBF (b - 0xC0))
  else if b = 0xE0 then ([], .within 1 0xA0 0xBF 0)
  else if b = 0xED then ([], .within 1 0x80 0x9F 0xD)
  else if 0xE1 ≤ b && b ≤ 0xEF then ([], .within 1 0x80 0xBF (b - 0xE0))
  else if b = 0xF0 then ([], .within 2 0x90 0xBF 0)
  else if 0xF1 ≤ b && b ≤ 0xF3 then ([], .within 2 0x80 0xBF (b - 0xF0))
  else if b = 0xF4 then ([], .within 2 0x80 0x8F 4)
  else ([replacement], .start)

/-- The reader after one more octet, and what the octet shows. -/
def nextOctet (state : Utf8State) (b : Nat) : List Char × Utf8State :=
  match state with
  | .start => firstOctet b
  | .within owed low high value =>
    if low ≤ b && b ≤ high then
      let value := value * 0x40 + (b - 0x80)
      match owed with
      | 0 => ([Char.ofNat value], .start)
      | n + 1 => ([], .within n 0x80 0xBF value)
    else
      let (shown, state) := firstOctet b
      (replacement :: shown, state)

/-- What is left to show when no octet follows. -/
def lastShown : Utf8State → List Char
  | .start => []
  | .within .. => [replacement]

def lossy (bytes : List UInt8) : String :=
  let (shown, state) := bytes.foldl (fun (acc, state) b =>
    let (shown, state) := nextOctet state b.toNat
    (shown.reverse ++ acc, state)) ([], Utf8State.start)
  String.ofList ((lastShown state).reverse ++ shown).reverse

end Text

end Offside
