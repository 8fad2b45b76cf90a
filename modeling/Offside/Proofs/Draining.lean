import Offside.Command.Pipe

/-!
# What is kept of a pipe

Draining keeps a start of the bytes that come before the pipe ends, and says whether there were more
of them. Both depend on the bytes alone: how they are cut into pieces and how often the reading is
interrupted makes no difference.
-/

namespace Offside

set_option autoImplicit false

namespace Piped

inductive GoesOn : Piped → Prop where
  | bytes {piece : List UInt8} : piece ≠ [] → GoesOn (.bytes piece)
  | interrupted : GoesOn .interrupted

/-- A pipe of which no more is read: the next piece is empty, or there is none. -/
inductive AtEnd : List Piped → Prop where
  | empty (unread : List Piped) : AtEnd (.bytes [] :: unread)
  | nothing : AtEnd []

def given : Piped → List UInt8
  | .bytes piece => piece
  | .interrupted => []
  | .failed _ => []

def delivered (reads : List Piped) : List UInt8 := reads.flatMap given

theorem delivered_cons (r : Piped) (reads : List Piped) :
    delivered (r :: reads) = r.given ++ delivered reads := List.flatMap_cons

end Piped

namespace Drained

open Piped

/-- What is kept of some bytes if they come in one piece. -/
def start (cap : Nat) (all : List UInt8) : Drained := ⟨all.take cap, cap < all.length⟩

theorem keep_start (cap : Nat) (all piece : List UInt8) :
    (start cap all).keep cap piece = start cap (all ++ piece) := by
  have hroom : cap - (all.take cap).length = cap - all.length := by
    rw [List.length_take]
    omega
  have hmore : (cap < all.length ∨ cap - all.length < piece.length) ↔
      cap < (all ++ piece).length := by
    rw [List.length_append]
    omega
  unfold start keep
  simp only [hroom, List.take_append, ← hmore, Bool.decide_or]

variable {cap : Nat} {reads ending : List Piped}

theorem drain_append (h : ∀ r ∈ reads, r.GoesOn) (all : List UInt8) (ending : List Piped) :
    drain cap (start cap all) (reads ++ ending) =
      drain cap (start cap (all ++ delivered reads)) ending := by
  induction reads generalizing all with
  | nil =>
    rw [delivered, List.flatMap_nil, List.append_nil]
    rfl
  | cons r reads ih =>
    have hrest : ∀ r ∈ reads, r.GoesOn := fun r hr => h r (List.mem_cons_of_mem _ hr)
    rw [List.cons_append, delivered_cons, ← List.append_assoc, ← ih hrest]
    cases h r List.mem_cons_self with
    | bytes hne =>
      rw [drain, keep_start]
      · rfl
      · exact hne
    | interrupted =>
      rw [drain, given, List.append_nil]

theorem drain_atEnd (h : AtEnd ending) (d : Drained) : drain cap d ending = .ok d := by
  cases h <;> rw [drain]

theorem drain_eq_start (h : ∀ r ∈ reads, r.GoesOn) (hend : AtEnd ending) :
    drain cap {} (reads ++ ending) = .ok (start cap (delivered reads)) := by
  have hnone : ({} : Drained) = start cap [] := by simp [start]
  rw [hnone, drain_append h, List.nil_append, drain_atEnd hend]

/-- A pipe that ends is drained: as many bytes as there is room for are kept, from the first on, it
overflows if and only if there are more, and the same bytes in other pieces give the same. -/
theorem drain_keeps_first (cap : Nat) (h : ∀ r ∈ reads, r.GoesOn) (hend : AtEnd ending) :
    ∃ d, drain cap {} (reads ++ ending) = .ok d ∧
      d.bytes = (delivered reads).take (min cap (delivered reads).length) ∧
      (d.overflowed = true ↔ cap < (delivered reads).length) ∧
      ∀ reads' ending', (∀ r ∈ reads', r.GoesOn) → AtEnd ending' →
        delivered reads' = delivered reads → drain cap {} (reads' ++ ending') = .ok d := by
  refine ⟨start cap (delivered reads), drain_eq_start h hend, ?_, ?_, ?_⟩
  · rw [start, List.take_eq_take_min]
  · rw [start, decide_eq_true_iff]
  · intro reads' ending' h' hend' hsame
    rw [drain_eq_start h' hend', hsame]

/-- The third byte is the last for which there is room, wherever the pieces are cut. -/
theorem drain_keeps_first_three :
    let reads : List Piped := [.bytes [1, 2], .interrupted, .bytes [3, 4]]
    let others : List Piped := [.interrupted, .bytes [1], .bytes [2, 3, 4]]
    (∀ r ∈ reads, r.GoesOn) ∧ AtEnd [.bytes [], .bytes [5]] ∧ delivered others = delivered reads ∧
      drain 3 {} (reads ++ [.bytes [], .bytes [5]]) = .ok ⟨[1, 2, 3], true⟩ ∧
      drain 3 {} (others ++ []) = .ok ⟨[1, 2, 3], true⟩ := by
  intro reads others
  have hreads : ∀ r ∈ reads, r.GoesOn := by
    intro r hr
    simp only [reads, List.mem_cons, List.not_mem_nil, or_false] at hr
    rcases hr with rfl | rfl | rfl
    · exact .bytes (by decide)
    · exact .interrupted
    · exact .bytes (by decide)
  have hothers : ∀ r ∈ others, r.GoesOn := by
    intro r hr
    simp only [others, List.mem_cons, List.not_mem_nil, or_false] at hr
    rcases hr with rfl | rfl | rfl
    · exact .interrupted
    · exact .bytes (by decide)
    · exact .bytes (by decide)
  obtain ⟨d, hd, hbytes, hover, hsame⟩ := drain_keeps_first 3 hreads (.empty [.bytes [5]])
  have hd' : d = ⟨[1, 2, 3], true⟩ := by
    obtain ⟨bytes, overflowed⟩ := d
    obtain rfl : bytes = [1, 2, 3] := hbytes
    obtain rfl : overflowed = true := hover.mpr (by decide)
    rfl
  rw [hd'] at hd hsame
  exact ⟨hreads, .empty _, rfl, hd, hsame others [] hothers .nothing rfl⟩

end Drained

end Offside
