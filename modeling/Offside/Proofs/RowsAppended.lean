import Mathlib.Control.Monad.Basic
import Offside.Proofs.Lines
import Offside.Reference.Rows

/-!
# Reading one output behind another

An output that ends with its last line can be read by itself: the tokens of what follows come behind
its tokens, and the lines of what follows are counted on from its lines.
-/

namespace Offside

set_option autoImplicit false

namespace Reference

def Malformed.behind (k : Nat) (e : Malformed) : Malformed := ⟨k + e.line, e.text⟩

/-- What is read of lines that stand behind others: `k` more lines, which gave the tokens `ts`. -/
def behind (k : Nat) (ts : List Token) :
    Except Malformed (List Token) → Except Malformed (List Token)
  | .ok us => .ok (ts ++ us)
  | .error e => .error (e.behind k)

theorem behind_behind (k l : Nat) (ts us : List Token) (r : Except Malformed (List Token)) :
    behind k ts (behind l us r) = behind (k + l) (ts ++ us) r := by
  cases r with
  | ok vs => simp [behind]
  | error e => simp [behind, Malformed.behind, Nat.add_assoc]

/-- Lines are read in the same way wherever they stand. -/
theorem readFrom_eq_behind (k line : Nat) (done : Array Token) (rows : List String) :
    readFrom (k + line) done rows = behind k done.toList (readFrom line #[] rows) := by
  induction rows generalizing k line done with
  | nil => simp [readFrom, behind]
  | cons text rest ih =>
    rw [readFrom, readFrom]
    split
    · exact ih k (line + 1) done
    · split
      · next t _ =>
        -- the token of the row stands in front of the others, with no line more before them
        have hrow := ih 0 (line + 1) (#[].push t)
        rw [Nat.zero_add] at hrow
        rw [hrow, behind_behind, Nat.add_assoc, ih k (line + 1) (done.push t)]
        simp
      · rfl

/-- The first malformed line ends the reading, and else it goes on with the lines that follow. -/
theorem readFrom_append (line : Nat) (done : Array Token) (rows more : List String) :
    readFrom line done (rows ++ more) =
      (readFrom line done rows).bind fun ts => readFrom (line + rows.length) ts.toArray more := by
  induction rows generalizing line done with
  | nil => simp [readFrom, Except.bind]
  | cons text rest ih =>
    have hlength : line + (text :: rest).length = line + 1 + rest.length := by
      rw [List.length_cons]
      omega
    rw [List.cons_append, readFrom, readFrom, hlength]
    split
    · exact ih (line + 1) done
    · split
      · exact ih (line + 1) _
      · rfl

variable {a : String}

theorem read_append (h : Text.Ended a) (b : String) :
    read (a ++ b) = (read a).bind fun ts => behind (a.toList.count '\n') ts (read b) := by
  rw [read, Text.lines_append h, readFrom_append, read, Text.length_lines h]
  congr 1
  funext ts
  rw [Nat.add_comm, readFrom_eq_behind]
  rfl

/-- An output read behind another: a malformed line of the first is reported as it is without the
second, the tokens follow those of the first, and a malformed line of the second is counted on
behind the line feeds of the first. -/
theorem outputs_compose (h : Text.Ended a) (b : String) :
    (∀ e, read a = .error e → read (a ++ b) = .error e) ∧
      (∀ ts us, read a = .ok ts → read b = .ok us → read (a ++ b) = .ok (ts ++ us)) ∧
      ∀ ts e, read a = .ok ts → read b = .error e →
        read (a ++ b) = .error ⟨a.toList.count '\n' + e.line, e.text⟩ := by
  rw [read_append h]
  refine ⟨?_, ?_, ?_⟩
  · intro e ha
    rw [ha]
    rfl
  · intro ts us ha hb
    rw [ha, hb]
    rfl
  · intro ts e ha hb
    rw [ha, hb]
    rfl

/-- The blank line and the one ended by a carriage return as well count before a malformed line. -/
theorem outputs_compose_counted :
    let a := "\n1,0-1,1:   NAME   'x'\r\n"
    let b := "\nno row\n"
    Text.Ended a ∧ read a = .ok [⟨.name, "x", .of 1 0, .of 1 1⟩] ∧ read b = .error ⟨2, "no row"⟩ ∧
      read (a ++ b) = .error ⟨4, "no row"⟩ := by
  intro a b
  have hended : Text.Ended a := .inr ⟨"\n1,0-1,1:   NAME   'x'\r", by decide +kernel⟩
  have ha : read a = .ok [⟨.name, "x", .of 1 0, .of 1 1⟩] := by decide +kernel
  have hb : read b = .error ⟨2, "no row"⟩ := by decide +kernel
  have hcount : a.toList.count '\n' = 2 := by decide +kernel
  have hab := (outputs_compose hended b).2.2 _ _ ha hb
  rw [hcount] at hab
  exact ⟨hended, ha, hb, hab⟩

end Reference

end Offside
