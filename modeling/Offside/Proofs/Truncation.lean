import Offside.Proofs.Locality
import Offside.Proofs.ShortString

/-!
# Texts cut off behind a lexeme

When the end of a text is cut off, the ways to match a pattern are those that stopped before the
cut, provided that one character decides between the alternatives of each part: a part that can no
longer go its old way then has no other. This holds of all patterns in the table, so what the table
makes of a text depends on the matched characters only.
-/

namespace Offside

set_option autoImplicit false

open Reach

variable {a head : List Char} {n : Nat}

namespace Piece

def Deterministic : Piece → Prop
  | one _ => True
  | two _ _ => True
  | either p q => p.Deterministic ∧ q.Deterministic ∧ ∀ c, p.starts c = true → q.starts c = false

theorem step?_nil (p : Piece) (n : Nat) : p.step? ⟨n, []⟩ = none := by
  cases h : p.step? ⟨n, []⟩ with
  | none => rfl
  | some w => exact absurd (rest_length_lt h) (Nat.not_lt_zero _)

theorem step?_of_not_starts {p : Piece} {c : Char} (h : p.starts c = false) (rest : List Char) :
    p.step? ⟨n, c :: rest⟩ = none := by
  cases hs : p.step? ⟨n, c :: rest⟩ with
  | none => rfl
  | some w =>
    rw [starts_of_step? hs] at h
    cases h

theorem exchange?_of_step? {p : Piece} {z : Reach} (h : p.step? ⟨n, a⟩ = some z) :
    exchange? a [] z = none :=
  exchange?_of_lt (rest_length_lt h)

/-- A step in a text that is cut off is one that stopped before the cut. -/
theorem exchangeable_nil {p : Piece} (h : p.Deterministic) : p.Exchangeable a [] := by
  intro n head
  rw [List.append_nil]
  cases head with
  | nil =>
    rw [step?_nil, List.nil_append]
    cases hs : p.step? ⟨n, a⟩ with
    | none => rfl
    | some z => exact (exchange?_of_step? hs).symm
  | cons c head =>
    induction p with
    | one s =>
      have hhere := exchange?_append a [] head (n + 1)
      rw [List.append_nil] at hhere
      by_cases hc : s.holds c = true <;> simp [step?, hc, hhere]
    | two s t =>
      cases head with
      | nil =>
        -- the second character, if there is one, has been cut off
        cases a with
        | nil => rfl
        | cons d a =>
          by_cases hcd : (s.holds c && t.holds d) = true <;> simp [step?, hcd, exchange?]
      | cons d head =>
        have hhere := exchange?_append a [] head (n + 2)
        rw [List.append_nil] at hhere
        by_cases hcd : (s.holds c && t.holds d) = true <;> simp [step?, hcd, hhere]
    | either p q ihp ihq =>
      obtain ⟨hp, hq, hapart⟩ := h
      simp only [step?]
      rw [ihp hp]
      cases hs : p.step? ⟨n, c :: head ++ a⟩ with
      | none => exact ihq hq
      | some z =>
        rw [Option.bind_some]
        cases he : exchange? a [] z with
        | some w => rfl
        | none => exact step?_of_not_starts (hapart c (starts_of_step? hs)) head

end Piece

namespace Pattern

def Deterministic : Pattern → Prop
  | piece p => p.Deterministic
  | literal _ => True
  | seq p q => p.Deterministic ∧ q.Deterministic
  | alt p q => p.Deterministic ∧ q.Deterministic
  | opt p => p.Deterministic
  | reps p _ _ _ => p.Deterministic

theorem exchangeable_nil {p : Pattern} (h : p.Deterministic) : p.Exchangeable a [] := by
  induction p with
  | piece p => exact Piece.exchangeable_nil h
  | literal text =>
    intro head hp
    rwa [List.append_nil] at hp
  | seq p q ihp ihq => exact ⟨ihp h.1, ihq h.2⟩
  | alt p q ihp ihq => exact ⟨ihp h.1, ihq h.2⟩
  | opt p ih => exact ih h
  | reps p least most mode => exact Piece.exchangeable_nil h

end Pattern

namespace Table

open Pattern CharSet

variable {ops : OperatorSet} {text : List Char} {x : Lexeme} {e : Entry}

theorem deterministic_escapedOrPlain : escapedOrPlain.Deterministic := by
  refine ⟨trivial, trivial, ?_⟩
  intro c hc
  obtain rfl : c = '\\' := by simpa [Piece.starts, holds] using hc
  rfl

theorem deterministic_plainOrEscaped (q : TripleQuote) : (plainOrEscaped q).Deterministic := by
  refine ⟨trivial, trivial, ?_⟩
  intro c hc
  have hne : c ≠ '\\' := by
    rintro rfl
    simp [Piece.starts, holds] at hc
  simpa [Piece.starts, holds] using hne

theorem deterministic_closedTriple (q : TripleQuote) : (closedTriple q).Deterministic :=
  ⟨trivial, trivial, deterministic_escapedOrPlain, trivial⟩

theorem deterministic_openTriple (q : TripleQuote) : (openTriple q).Deterministic :=
  ⟨trivial, trivial, trivial⟩

theorem deterministic_shortString (q : TripleQuote) : (shortString q.mark).Deterministic :=
  ⟨trivial, trivial, deterministic_plainOrEscaped q, trivial⟩

theorem deterministic_of_mem_entries (he : e ∈ (ofOperators ops).entries) :
    e.pattern.Deterministic := by
  rw [entries_ofOperators] at he
  simp only [tripleEntries, shortEntries, plainEntries, List.mem_append, List.mem_cons,
    List.not_mem_nil, or_false] at he
  rcases he with (((he | rfl | rfl) | rfl | rfl) | rfl | rfl) | rfl | rfl | rfl
  · simp only [heads, List.mem_append, List.mem_flatMap, List.mem_cons, List.mem_map] at he
    rcases he with ⟨b, -, rfl | rfl | hb⟩ | rfl | ⟨op, -, rfl⟩
    · trivial
    · trivial
    · cases hb
    · simp [pointNumber, exponent, imaginary, inRow, one, manyOf, someOf, Pattern.Deterministic,
        Piece.Deterministic]
    · trivial
  · exact deterministic_closedTriple .double
  · exact deterministic_openTriple .double
  · exact deterministic_closedTriple .single
  · exact deterministic_openTriple .single
  · exact deterministic_shortString .double
  · exact deterministic_shortString .single
  · simp [comment, inRow, one, manyOf, Pattern.Deterministic, Piece.Deterministic]
  · simp [number, radixNumber, decimalNumber, exponent, imaginary, anyOf, inRow, one, manyOf,
      someOf, Pattern.Deterministic, Piece.Deterministic]
  · trivial

theorem classify_of_append {more : List Char}
    (h : (ofOperators ops).classify (head ++ a) = some x) (hr : x.rest = more ++ a) :
    (ofOperators ops).classify head = some { x with rest := more } := by
  have hkeeps : ∀ e ∈ (ofOperators ops).entries, e.Keeps head a [] := fun e he =>
    keeps_of_exchangeable (exchangeable_nil (deterministic_of_mem_entries he))
  have hcut := classify_exchange hkeeps h hr
  rwa [List.append_nil, List.append_nil] at hcut

/-- What the table makes of a text depends on the matched characters only: they are what it makes of
every start of the text that has them, and of themselves. -/
theorem classify_depends_on_match (h : (ofOperators ops).classify text = some x) :
    x.text ≠ "" ∧ x.text.toList <+: text ∧
      (∀ s, x.text.toList <+: s → s <+: text →
        (ofOperators ops).classify s = some { x with rest := s.drop x.width }) ∧
      (ofOperators ops).classify x.text.toList = some { x with rest := [] } := by
  obtain ⟨hpos, hwidth, happ⟩ := append_rest_of_classify h
  have hcut : ∀ s, x.text.toList <+: s → s <+: text →
      (ofOperators ops).classify s = some { x with rest := s.drop x.width } := by
    rintro s ⟨more, rfl⟩ ⟨a, rfl⟩
    rw [List.append_assoc] at happ
    have hrest : x.rest = more ++ a := List.append_cancel_left happ
    rw [List.drop_left' hwidth]
    exact classify_of_append h hrest
  have hprefix : x.text.toList <+: text := ⟨x.rest, happ⟩
  refine ⟨?_, hprefix, hcut, ?_⟩
  · intro hempty
    rw [hempty] at hwidth
    exact absurd hwidth (Nat.ne_of_lt hpos)
  · have hself := hcut _ (List.prefix_refl _) hprefix
    rwa [List.drop_eq_nil_of_le (Nat.le_of_eq hwidth)] at hself

/-- A string whose text goes on with an escaped mark, cut off between the string and the name
behind it. -/
theorem classify_depends_on_match_string :
    (ofOperators .core).classify "rb'\\'a' or".toList =
        some ⟨.string, .token, 7, "rb'\\'a'", " or".toList⟩ ∧
      (ofOperators .core).classify "rb'\\'a' o".toList =
        some ⟨.string, .token, 7, "rb'\\'a'", " o".toList⟩ := by
  have h : (ofOperators .core).classify "rb'\\'a' or".toList =
      some ⟨.string, .token, 7, "rb'\\'a'", " or".toList⟩ := by
    rw [ofOperators, OperatorSet.matchOrder_core]
    decide +kernel
  obtain ⟨-, -, hcut, -⟩ := classify_depends_on_match h
  exact ⟨h, hcut "rb'\\'a' o".toList (by decide) (by decide)⟩

end Table

end Offside
