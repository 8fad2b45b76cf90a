import Offside.Pattern
import Mathlib.Data.List.Basic
import Mathlib.Data.List.TakeWhile

/-!
# How patterns match

Which characters a match can begin with, and where the repetition of a set of characters can stop:
the greedy one takes the whole run of such characters.
-/

namespace Offside

set_option autoImplicit false

namespace Piece

def starts : Piece → Char → Bool
  | one s, c => s.holds c
  | two s _, c => s.holds c
  | either p q, c => p.starts c || q.starts c

theorem starts_of_step? {p : Piece} {n : Nat} {c : Char} {rest : List Char} {w : Reach}
    (h : p.step? ⟨n, c :: rest⟩ = some w) : p.starts c = true := by
  induction p with
  | one s =>
    simp only [step?, Option.ite_none_right_eq_some] at h
    exact h.1
  | two s t =>
    cases rest with
    | nil => cases h
    | cons d r =>
      simp only [step?, Option.ite_none_right_eq_some, Bool.and_eq_true] at h
      exact h.1.1
  | either p q ihp ihq =>
    rw [starts, Bool.or_eq_true]
    simp only [step?] at h
    split at h
    · rename_i v hv
      exact .inl (ihp (hv.trans h))
    · exact .inr (ihq h)

/-- The places of the repetition of a set: one behind each character of the leading run. -/
theorem places_one (s : CharSet) (n : Nat) (text : List Char) :
    (one s).places ⟨n, text⟩ =
      (List.range ((text.takeWhile s.holds).length + 1)).map fun i => ⟨n + i, text.drop i⟩ := by
  induction text generalizing n with
  | nil => exact places_of_none rfl
  | cons c rest ih =>
    by_cases hc : s.holds c = true
    · have hs : (one s).step? ⟨n, c :: rest⟩ = some ⟨n + 1, rest⟩ := by simp [step?, hc]
      rw [places_of_some hs, ih, List.takeWhile_cons, if_pos hc, List.length_cons,
        List.range_succ_eq_map (n := _ + 1), List.map_cons, List.map_map]
      refine List.cons_eq_cons.mpr ⟨by simp, List.map_congr_left fun i _ => ?_⟩
      simp only [Function.comp_apply, List.drop_succ_cons, Reach.mk.injEq, and_true]
      omega
    · have hs : (one s).step? ⟨n, c :: rest⟩ = none := by simp [step?, hc]
      rw [places_of_none hs, List.takeWhile_cons, if_neg hc]
      simp

end Piece

namespace Pattern

def nullable : Pattern → Bool
  | piece _ => false
  | literal text => text.isEmpty
  | seq p q => p.nullable && q.nullable
  | alt p q => p.nullable || q.nullable
  | opt _ => true
  | reps _ least _ _ => least == 0

def starts : Pattern → Char → Bool
  | piece p, c => p.starts c
  | literal text, c => text.head? == some c
  | seq p q, c => p.starts c || p.nullable && q.starts c
  | alt p q, c => p.starts c || q.starts c
  | opt p, c => p.starts c
  | reps p _ _ _, c => p.starts c

theorem mem_ways_reps {p : Piece} {least : Nat} {most : Option Nat} {mode : Mode} {z w : Reach}
    (h : w ∈ (reps p least most mode).ways z) : w ∈ (p.places z).drop least := by
  cases most <;> cases mode <;> simp only [ways, List.mem_reverse] at h
  · exact h
  · exact h
  · rw [List.drop_take] at h
    exact List.mem_of_mem_take h
  · rw [List.drop_take] at h
    exact List.mem_of_mem_take h

theorem starts_of_mem_ways {p : Pattern} {n : Nat} {c : Char} {rest : List Char} {w : Reach}
    (h : w ∈ p.ways ⟨n, c :: rest⟩) :
    (w = ⟨n, c :: rest⟩ ∧ p.nullable = true) ∨ p.starts c = true := by
  induction p generalizing w with
  | piece p => exact .inr (Piece.starts_of_step? (Option.mem_toList.mp h))
  | literal text =>
    cases text with
    | nil => exact .inl ⟨by simpa [ways, List.isPrefixOf?] using h, rfl⟩
    | cons d text =>
      by_cases hd : d = c
      · exact .inr (by simp [starts, hd])
      · simp [ways, List.isPrefixOf?, hd] at h
  | seq p q ihp ihq =>
    obtain ⟨v, hv, hw⟩ := List.mem_flatMap.mp h
    simp only [nullable, starts, Bool.and_eq_true, Bool.or_eq_true]
    rcases ihp hv with ⟨rfl, hp⟩ | hp
    · rcases ihq hw with ⟨rfl, hq⟩ | hq
      · exact .inl ⟨rfl, hp, hq⟩
      · exact .inr (.inr ⟨hp, hq⟩)
    · exact .inr (.inl hp)
  | alt p q ihp ihq =>
    simp only [nullable, starts, Bool.or_eq_true]
    rcases List.mem_append.mp h with h | h
    · rcases ihp h with ⟨rfl, hp⟩ | hp
      · exact .inl ⟨rfl, .inl hp⟩
      · exact .inr (.inl hp)
    · rcases ihq h with ⟨rfl, hq⟩ | hq
      · exact .inl ⟨rfl, .inr hq⟩
      · exact .inr (.inr hq)
  | opt p ih =>
    rcases List.mem_append.mp h with h | h
    · rcases ih h with ⟨rfl, -⟩ | hp
      · exact .inl ⟨rfl, rfl⟩
      · exact .inr hp
    · exact .inl ⟨List.mem_singleton.mp h, rfl⟩
  | reps p least most mode =>
    have hw := mem_ways_reps h
    cases hs : p.step? ⟨n, c :: rest⟩ with
    | some v => exact .inr (Piece.starts_of_step? hs)
    | none =>
      rw [Piece.places_of_none hs] at hw
      cases least with
      | zero => exact .inl ⟨List.mem_singleton.mp hw, rfl⟩
      | succ k => simp at hw

theorem isPrefixOf?_eq (text rest : List Char) :
    text.isPrefixOf? rest =
      if text.isPrefixOf rest then some (rest.drop text.length) else none := by
  induction text generalizing rest with
  | nil => simp [List.isPrefixOf?]
  | cons c text ih =>
    cases rest with
    | nil => rfl
    | cons d rest =>
      by_cases h : c = d
      · simp [List.isPrefixOf?, List.isPrefixOf, h, ih]
      · simp [List.isPrefixOf?, List.isPrefixOf, h]

theorem ways_literal (text : List Char) (n : Nat) (rest : List Char) :
    (literal text).ways ⟨n, rest⟩ =
      if text.isPrefixOf rest then [⟨n + text.length, rest.drop text.length⟩] else [] := by
  by_cases h : text.isPrefixOf rest <;> simp [ways, isPrefixOf?_eq, h]

theorem ways_one (s : CharSet) (n : Nat) (c : Char) (rest : List Char) :
    (piece (.one s)).ways ⟨n, c :: rest⟩ = if s.holds c then [⟨n + 1, rest⟩] else [] := by
  by_cases h : s.holds c = true <;> simp [ways, Piece.step?, h]

theorem drop_length_takeWhile {α : Type} (p : α → Bool) (text : List α) :
    text.drop (text.takeWhile p).length = text.dropWhile p := by
  have h : text.takeWhile p ++ text.dropWhile p = text := List.takeWhile_append_dropWhile
  calc
    text.drop (text.takeWhile p).length =
        (text.takeWhile p ++ text.dropWhile p).drop (text.takeWhile p).length := by rw [h]
    _ = text.dropWhile p := List.drop_left

/-- The preferred match of a greedy repetition takes the whole run, if that is long enough. -/
theorem head?_ways_greedy (s : CharSet) (least n : Nat) (text : List Char) :
    ((reps (.one s) least none .greedy).ways ⟨n, text⟩).head? =
      if least ≤ (text.takeWhile s.holds).length then
        some ⟨n + (text.takeWhile s.holds).length, text.dropWhile s.holds⟩
      else none := by
  simp only [ways, List.head?_reverse, List.getLast?_drop, Piece.places_one, List.length_map,
    List.length_range, List.range_succ, List.map_append, List.map_cons, List.map_nil,
    List.getLast?_concat, drop_length_takeWhile, List.length_append, List.length_singleton]
  by_cases h : least ≤ (text.takeWhile s.holds).length
  · rw [if_neg (by omega), if_pos h]
  · rw [if_pos (by omega), if_neg h]

theorem head?_ways_run (s : CharSet) (n : Nat) (text : List Char) :
    ((reps (.one s) 0 none .greedy).ways ⟨n, text⟩).head? =
      some ⟨n + (text.takeWhile s.holds).length, text.dropWhile s.holds⟩ := by
  rw [head?_ways_greedy, if_pos (Nat.zero_le _)]

end Pattern

end Offside
