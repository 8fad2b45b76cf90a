import Offside.Pattern.Table
import Offside.Proofs.Matching
import Offside.Proofs.TripleQuote

/-!
# What the string patterns match

A string starts with none, one or two letters and a quote. The pattern of a string that closes on
its line stops where `TripleQuote.scan` does, and the pattern of one that does not takes the rest
of the line.
-/

namespace Offside

set_option autoImplicit false

def isPrefixLetter (c : Char) : Bool := ['r', 'R', 'b', 'B', 'u', 'U', 'f', 'F'].contains c

def IsStringPrefix (pre : List Char) : Prop := pre.length ≤ 2 ∧ ∀ c ∈ pre, isPrefixLetter c = true

theorem isStringPrefix_nil : IsStringPrefix [] := ⟨Nat.zero_le 2, by simp⟩

theorem isPrefixLetter_mark (q : TripleQuote) : isPrefixLetter q.mark = false := by
  cases q <;> decide

theorem CharSet.holds_oneOf (cs : List Char) (d : Char) : (oneOf cs).holds d = cs.contains d := by
  rw [Bool.eq_iff_iff, List.contains_iff_mem, oneOf, holds, List.any_map, List.any_eq_true]
  constructor
  · rintro ⟨c, hc, h⟩
    simp only [Function.comp_apply, Bool.and_eq_true, decide_eq_true_eq] at h
    rwa [Char.le_antisymm h.2 h.1]
  · intro h
    exact ⟨d, h, by simp⟩

namespace Table

open Pattern CharSet

/-- A string can have as many letters before its quote as there are, at most two; the more the
better. -/
theorem ways_stringPrefix (n : Nat) (text : List Char) :
    stringPrefix.ways ⟨n, text⟩ =
      ((List.range (min (text.takeWhile isPrefixLetter).length 2 + 1)).map
        fun i => ⟨n + i, text.drop i⟩).reverse := by
  have hs : (oneOf ['r', 'R', 'b', 'B', 'u', 'U', 'f', 'F']).holds = isPrefixLetter := by
    funext c
    exact holds_oneOf _ c
  have hm : min (2 + 1) ((text.takeWhile isPrefixLetter).length + 1) =
      min (text.takeWhile isPrefixLetter).length 2 + 1 := by omega
  simp only [stringPrefix, ways, Piece.places_one, hs, ← List.map_take, List.take_range, hm]
  rw [List.range_succ_eq_map, List.map_cons, List.reverse_cons]
  rfl

variable {R : Pattern}

theorem ways_seq_stringPrefix (hR : ∀ n c r, isPrefixLetter c = true → R.ways ⟨n, c :: r⟩ = [])
    (n : Nat) (text : List Char) :
    (seq stringPrefix R).ways ⟨n, text⟩ =
      if (text.takeWhile isPrefixLetter).length ≤ 2 then
        R.ways ⟨n + (text.takeWhile isPrefixLetter).length, text.dropWhile isPrefixLetter⟩
      else [] := by
  generalize hk : (text.takeWhile isPrefixLetter).length = k
  -- Where letters are left, what follows them cannot start.
  have hnone : ∀ i < k, R.ways ⟨n + i, text.drop i⟩ = [] := by
    intro i hi
    rw [← hk] at hi
    have hd : text.drop i =
        (text.takeWhile isPrefixLetter).drop i ++ text.dropWhile isPrefixLetter := by
      rw [← List.drop_append_of_le_length (Nat.le_of_lt hi), List.takeWhile_append_dropWhile]
    cases hl : (text.takeWhile isPrefixLetter).drop i with
    | nil => exact absurd (List.drop_eq_nil_iff.mp hl) (Nat.not_le.mpr hi)
    | cons c r =>
      rw [hd, hl]
      have hc : c ∈ text.takeWhile isPrefixLetter := List.mem_of_mem_drop (hl ▸ List.mem_cons_self)
      exact hR _ _ _ (List.mem_takeWhile_imp hc)
  have hrest : ((List.range (min k 2)).map fun i => (⟨n + i, text.drop i⟩ : Reach)).reverse.flatMap
      R.ways = [] := by
    rw [List.flatMap_eq_nil_iff]
    intro z hz
    obtain ⟨i, hi, rfl⟩ := List.mem_map.mp (List.mem_reverse.mp hz)
    exact hnone i (Nat.lt_of_lt_of_le (List.mem_range.mp hi) (Nat.min_le_left k 2))
  rw [ways, ways_stringPrefix, hk, List.range_succ, List.map_append, List.reverse_append,
    List.flatMap_append, hrest, List.append_nil, List.map_singleton, List.reverse_singleton,
    List.flatMap_singleton]
  by_cases h2 : k ≤ 2
  · rw [if_pos h2, Nat.min_eq_left h2, ← hk, drop_length_takeWhile]
  · rw [if_neg h2]
    exact hnone _ (by omega)

theorem takeWhile_isPrefixLetter {pre : List Char} {mark : Char} (hp : IsStringPrefix pre)
    (hm : isPrefixLetter mark = false) (rest : List Char) :
    (pre ++ mark :: rest).takeWhile isPrefixLetter = pre ∧
      (pre ++ mark :: rest).dropWhile isPrefixLetter = mark :: rest := by
  rw [List.takeWhile_append_of_pos hp.2, List.dropWhile_append_of_pos hp.2]
  simp [hm]

theorem ways_seq_delimiter (q : TripleQuote) (R : Pattern) (n : Nat) (c : Char) (r : List Char)
    (h : isPrefixLetter c = true) : (seq (literal q.delimiter) R).ways ⟨n, c :: r⟩ = [] := by
  have hne : q.mark ≠ c := by
    rintro rfl
    rw [isPrefixLetter_mark] at h
    cases h
  rw [ways, ways_literal, if_neg, List.flatMap_nil]
  simp [TripleQuote.delimiter_eq, List.isPrefixOf, hne]

theorem ways_quoted {pre : List Char} (hp : IsStringPrefix pre) (q : TripleQuote)
    (rest : List Char) (R : Pattern) :
    (inRow stringPrefix [literal q.delimiter, R]).ways ⟨0, pre ++ q.delimiter ++ rest⟩ =
      R.ways ⟨pre.length + 3, rest⟩ := by
  obtain ⟨htake, hdrop⟩ := takeWhile_isPrefixLetter hp (isPrefixLetter_mark q)
    (q.mark :: q.mark :: rest)
  have hd : q.delimiter.isPrefixOf (q.mark :: q.mark :: q.mark :: rest) = true := by
    simp [TripleQuote.delimiter_eq, List.isPrefixOf]
  rw [List.append_assoc]
  change (seq stringPrefix (seq (literal q.delimiter) R)).ways
    ⟨0, pre ++ q.mark :: q.mark :: q.mark :: rest⟩ = _
  rw [ways_seq_stringPrefix (ways_seq_delimiter q R), htake, hdrop, if_pos hp.1, ways,
    ways_literal, if_pos hd, List.flatMap_singleton, Nat.zero_add]
  rfl

theorem quoted_of_mem_ways {q : TripleQuote} {text : List Char} {w : Reach}
    (h : w ∈ (inRow stringPrefix [literal q.delimiter, R]).ways ⟨0, text⟩) :
    ∃ pre rest, IsStringPrefix pre ∧ text = pre ++ q.delimiter ++ rest := by
  change w ∈ (seq stringPrefix (seq (literal q.delimiter) R)).ways ⟨0, text⟩ at h
  rw [ways_seq_stringPrefix (ways_seq_delimiter q R)] at h
  split at h
  · rename_i hk
    obtain ⟨v, hv, -⟩ := List.mem_flatMap.mp h
    rw [ways_literal] at hv
    split at hv
    · rename_i hd
      obtain ⟨rest, hrest⟩ := List.isPrefixOf_iff_prefix.mp hd
      refine ⟨text.takeWhile isPrefixLetter, rest, ⟨hk, fun c hc => List.mem_takeWhile_imp hc⟩, ?_⟩
      rw [List.append_assoc, hrest, List.takeWhile_append_dropWhile]
    · cases hv
  · cases h

/-- How far a match has come that takes what stands before a cut and the delimiter behind it. -/
def reachOfCut (n : Nat) (cut : List Char × List Char) : Reach :=
  ⟨n + cut.1.length + 3, cut.2.drop 3⟩

theorem map_reachOfCut (n : Nat) (passed : List Char) (cut? : Option (List Char × List Char)) :
    (cut?.map (TripleQuote.behind passed)).map (reachOfCut n) =
      cut?.map (reachOfCut (n + passed.length)) := by
  cases cut? with
  | none => rfl
  | some cut => simp [reachOfCut, TripleQuote.behind, Nat.add_assoc]

/-- The lazy repetition inside a string stops before the first delimiter that the scan meets. -/
theorem head?_ways_lazy (q : TripleQuote) (n : Nat) {rest : List Char} (hn : '\n' ∉ rest) :
    ((inRow (reps escapedOrPlain 0 none .lazy) [literal q.delimiter]).ways ⟨n, rest⟩).head? =
      (q.scan rest).map (reachOfCut n) := by
  have hways : ∀ z, (inRow (reps escapedOrPlain 0 none .lazy) [literal q.delimiter]).ways z =
      (escapedOrPlain.places z).flatMap (literal q.delimiter).ways := by
    intro z
    simp [inRow, ways]
  rw [hways]
  fun_induction TripleQuote.scan q rest generalizing n with
  | case1 =>
    rw [Piece.places_of_none rfl]
    simp [ways_literal, TripleQuote.delimiter_eq, List.isPrefixOf]
  | case2 c rest ih =>
    have hstep : escapedOrPlain.step? ⟨n, '\\' :: c :: rest⟩ = some ⟨n + 2, rest⟩ := by
      have hc : c ≠ '\n' := by
        rintro rfl
        simp at hn
      simp [escapedOrPlain, Piece.step?, holds, hc]
    rw [Piece.places_of_some hstep, List.flatMap_cons, ways_literal,
      TripleQuote.isPrefixOf_backslash, if_neg Bool.false_ne_true, List.nil_append,
      ih _ (by simp_all), map_reachOfCut]
    rfl
  | case3 c rest _ hd =>
    have hplaces : ∃ tail, escapedOrPlain.places ⟨n, c :: rest⟩ = ⟨n, c :: rest⟩ :: tail := by
      cases hs : escapedOrPlain.step? ⟨n, c :: rest⟩ with
      | none => exact ⟨[], Piece.places_of_none hs⟩
      | some w => exact ⟨_, Piece.places_of_some hs⟩
    obtain ⟨tail, ht⟩ := hplaces
    rw [ht, List.flatMap_cons, ways_literal, if_pos hd]
    rfl
  | case4 c rest hc hd ih =>
    by_cases hb : c = '\\'
    · subst hb
      cases rest with
      | nil =>
        rw [Piece.places_of_none rfl]
        simp [ways_literal, TripleQuote.isPrefixOf_backslash, TripleQuote.scan]
      | cons d r => exact absurd rfl (hc d r rfl)
    · have hstep : escapedOrPlain.step? ⟨n, c :: rest⟩ = some ⟨n + 1, rest⟩ := by
        cases rest <;> simp [escapedOrPlain, Piece.step?, holds, hb]
      rw [Piece.places_of_some hstep, List.flatMap_cons, ways_literal, if_neg hd,
        List.nil_append, ih _ (by simp_all), map_reachOfCut]
      rfl

variable {pre rest : List Char}

theorem match?_closedTriple (hp : IsStringPrefix pre) (q : TripleQuote) (hn : '\n' ∉ rest) :
    (closedTriple q).match? (pre ++ q.delimiter ++ rest) =
      (q.scan rest).map (reachOfCut (pre.length + 3)) := by
  rw [match?_eq_head?, ← head?_ways_lazy q _ hn, ← ways_quoted hp]
  rfl

theorem match?_openTriple (hp : IsStringPrefix pre) (q : TripleQuote) (rest : List Char) :
    (openTriple q).match? (pre ++ q.delimiter ++ rest) =
      some ⟨pre.length + 3 + (rest.takeWhile any.holds).length, rest.dropWhile any.holds⟩ := by
  rw [match?_eq_head?, ← head?_ways_run, ← ways_quoted hp]
  rfl

/-- Only a text that starts like a triple-quoted string is matched as the head of one. -/
theorem quoted_of_match?_openTriple {q : TripleQuote} {text : List Char} {z : Reach}
    (h : (openTriple q).match? text = some z) :
    ∃ pre rest, IsStringPrefix pre ∧ text = pre ++ q.delimiter ++ rest := by
  rw [match?_eq_head?] at h
  exact quoted_of_mem_ways (List.mem_of_head? h)

theorem quoted_of_match?_closedTriple {q : TripleQuote} {text : List Char} {z : Reach}
    (h : (closedTriple q).match? text = some z) :
    ∃ pre rest, IsStringPrefix pre ∧ text = pre ++ q.delimiter ++ rest := by
  rw [match?_eq_head?] at h
  exact quoted_of_mem_ways (R := inRow (reps escapedOrPlain 0 none .lazy) [literal q.delimiter])
    (List.mem_of_head? h)

end Table

theorem takeWhile_opening {pre : List Char} (hp : IsStringPrefix pre) (q : TripleQuote)
    (rest : List Char) :
    (pre ++ q.delimiter ++ rest).takeWhile isPrefixLetter = pre ∧
      (pre ++ q.delimiter ++ rest).dropWhile isPrefixLetter = q.delimiter ++ rest := by
  rw [List.append_assoc]
  exact Table.takeWhile_isPrefixLetter hp (isPrefixLetter_mark q) _

theorem length_opening (pre : List Char) (q : TripleQuote) (rest : List Char) :
    (pre ++ q.delimiter ++ rest).length = pre.length + 3 + rest.length := by
  simp only [List.length_append, TripleQuote.delimiter_eq, List.length_cons, List.length_nil]

theorem opening_inj {pre pre' rest rest' : List Char} {q q' : TripleQuote}
    (hp : IsStringPrefix pre) (hp' : IsStringPrefix pre')
    (h : pre ++ q.delimiter ++ rest = pre' ++ q'.delimiter ++ rest') :
    pre = pre' ∧ q = q' ∧ rest = rest' := by
  have hq := takeWhile_opening hp q rest
  have hq' := takeWhile_opening hp' q' rest'
  rw [h] at hq
  have hrest : q.delimiter ++ rest = q'.delimiter ++ rest' := hq.2.symm.trans hq'.2
  obtain ⟨hd, hr⟩ := List.append_inj hrest rfl
  refine ⟨hq.1.symm.trans hq'.1, ?_, hr⟩
  cases q <;> cases q' <;> first | rfl | exact absurd hd (by decide)

end Offside
