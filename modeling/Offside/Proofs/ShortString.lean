import Offside.Proofs.StringPattern

/-!
# Strings between single quotation marks

The pattern of these strings has one way to match at most: it stops at the first mark that no
backslash escapes. `TripleQuote.shortScan` finds this mark, and what stands behind it does not
matter.
-/

namespace Offside

set_option autoImplicit false

namespace TripleQuote

/-- Cuts a text at the mark that closes the string in which it starts, and leaves out the mark. -/
def shortScan (q : TripleQuote) : List Char → Option (List Char × List Char)
  | [] => none
  | '\\' :: c :: rest => (q.shortScan rest).map (behind ['\\', c])
  | c :: rest => if c = q.mark then some ([], rest) else (q.shortScan rest).map (behind [c])

variable {q : TripleQuote} {text body after : List Char}

theorem shortScan_cons {c : Char} (h : c ≠ '\\') (rest : List Char) :
    q.shortScan (c :: rest) =
      if c = q.mark then some ([], rest) else (q.shortScan rest).map (behind [c]) :=
  shortScan.eq_3 q c rest fun _ _ hc _ => absurd hc h

theorem shortScan_eq_some (h : q.shortScan text = some (body, after)) :
    text = body ++ q.mark :: after := by
  fun_induction shortScan q text generalizing body with
  | case1 => cases h
  | case2 c rest ih =>
    obtain ⟨⟨b, a⟩, hs, hb⟩ := Option.map_eq_some_iff.mp h
    obtain ⟨rfl, rfl⟩ := Prod.mk.inj hb
    rw [ih hs]
    rfl
  | case3 rest =>
    obtain ⟨rfl, rfl⟩ := Prod.mk.inj (Option.some.inj h)
    rfl
  | case4 c rest _ _ ih =>
    obtain ⟨⟨b, a⟩, hs, hb⟩ := Option.map_eq_some_iff.mp h
    obtain ⟨rfl, rfl⟩ := Prod.mk.inj hb
    rw [ih hs]
    rfl

/-- What stands behind the mark can be exchanged. -/
theorem shortScan_exchange (h : q.shortScan text = some (body, after)) (more : List Char) :
    q.shortScan (body ++ q.mark :: more) = some (body, more) := by
  fun_induction shortScan q text generalizing body with
  | case1 => cases h
  | case2 c rest ih =>
    obtain ⟨⟨b, a⟩, hs, hb⟩ := Option.map_eq_some_iff.mp h
    obtain ⟨rfl, rfl⟩ := Prod.mk.inj hb
    change (q.shortScan (b ++ q.mark :: more)).map (behind ['\\', c]) = _
    rw [ih hs]
    rfl
  | case3 rest =>
    obtain ⟨rfl, rfl⟩ := Prod.mk.inj (Option.some.inj h)
    rw [List.nil_append, shortScan_cons (mark_ne_backslash q), if_pos rfl]
  | case4 c rest hesc hc ih =>
    obtain ⟨⟨b, a⟩, hs, hb⟩ := Option.map_eq_some_iff.mp h
    obtain ⟨rfl, rfl⟩ := Prod.mk.inj hb
    have hne : c ≠ '\\' := by
      cases rest with
      | nil => cases hs
      | cons d r => exact fun he => hesc d r he rfl
    change q.shortScan (c :: (b ++ q.mark :: more)) = _
    rw [shortScan_cons hne, if_neg hc, ih hs]
    rfl

end TripleQuote

namespace Table

open Pattern CharSet

variable {q : TripleQuote} {pre rest text : List Char}

def plainOrEscaped (q : TripleQuote) : Piece :=
  .either (.one (without [q.mark, '\\'])) (.two (just '\\') any)

theorem step?_escape (n : Nat) {c : Char} (hc : c ≠ '\n') (rest : List Char) :
    (plainOrEscaped q).step? ⟨n, '\\' :: c :: rest⟩ = some ⟨n + 2, rest⟩ := by
  simp [plainOrEscaped, Piece.step?, holds, hc]

theorem step?_plain (n : Nat) {c : Char} (hm : c ≠ q.mark) (hb : c ≠ '\\') (rest : List Char) :
    (plainOrEscaped q).step? ⟨n, c :: rest⟩ = some ⟨n + 1, rest⟩ := by
  simp [plainOrEscaped, Piece.step?, holds, hm, hb]

theorem step?_mark (n : Nat) (rest : List Char) :
    (plainOrEscaped q).step? ⟨n, q.mark :: rest⟩ = none := by
  have hne := TripleQuote.mark_ne_backslash q
  cases rest <;> simp [plainOrEscaped, Piece.step?, holds, hne]

theorem step?_backslash (n : Nat) : (plainOrEscaped q).step? ⟨n, ['\\']⟩ = none := by
  simp [plainOrEscaped, Piece.step?, holds]

theorem ways_mark (n : Nat) (c : Char) (rest : List Char) :
    (one (just q.mark)).ways ⟨n, c :: rest⟩ = if c = q.mark then [⟨n + 1, rest⟩] else [] := by
  rw [one, ways_one]
  simp [holds]

/-- How far a match has come that takes what stands before a mark and the mark. -/
def reachBehind (n : Nat) (cut : List Char × List Char) : Reach := ⟨n + cut.1.length + 1, cut.2⟩

theorem map_reachBehind (n : Nat) (passed : List Char) (cut? : Option (List Char × List Char)) :
    (cut?.map (TripleQuote.behind passed)).map (reachBehind n) =
      cut?.map (reachBehind (n + passed.length)) := by
  cases cut? with
  | none => rfl
  | some cut => simp [reachBehind, TripleQuote.behind, Nat.add_assoc]

/-- The repetition inside a string can only stop before the mark at which the scan stops. -/
theorem ways_shortBody (n : Nat) (hn : '\n' ∉ rest) :
    ((plainOrEscaped q).places ⟨n, rest⟩).reverse.flatMap (one (just q.mark)).ways =
      ((q.shortScan rest).map (reachBehind n)).toList := by
  fun_induction TripleQuote.shortScan q rest generalizing n with
  | case1 =>
    rw [Piece.places_of_none rfl]
    rfl
  | case2 c rest ih =>
    have hc : c ≠ '\n' := by
      rintro rfl
      simp at hn
    rw [Piece.places_of_some (step?_escape n hc rest), List.reverse_cons, List.flatMap_append,
      ih _ (by simp_all), List.flatMap_singleton, ways_mark,
      if_neg (TripleQuote.mark_ne_backslash q).symm, List.append_nil, map_reachBehind]
    rfl
  | case3 rest =>
    rw [Piece.places_of_none (step?_mark n rest), List.reverse_singleton, List.flatMap_singleton,
      ways_mark, if_pos rfl]
    rfl
  | case4 c rest hesc hc ih =>
    by_cases hb : c = '\\'
    · subst hb
      cases rest with
      | nil =>
        rw [Piece.places_of_none (step?_backslash n), List.reverse_singleton,
          List.flatMap_singleton, ways_mark, if_neg hc]
        rfl
      | cons d r => exact absurd rfl (hesc d r rfl)
    · rw [Piece.places_of_some (step?_plain n hc hb rest), List.reverse_cons,
        List.flatMap_append, ih _ (by simp_all), List.flatMap_singleton, ways_mark, if_neg hc,
        List.append_nil, map_reachBehind]
      rfl

theorem ways_shortString (text : List Char) :
    (shortString q.mark).ways ⟨0, text⟩ =
      if (text.takeWhile isPrefixLetter).length ≤ 2 then
        (seq (one (just q.mark)) (seq (reps (plainOrEscaped q) 0 none .greedy)
          (one (just q.mark)))).ways
            ⟨(text.takeWhile isPrefixLetter).length, text.dropWhile isPrefixLetter⟩
      else [] := by
  have hnone : ∀ n c r, isPrefixLetter c = true →
      (seq (one (just q.mark)) (seq (reps (plainOrEscaped q) 0 none .greedy)
        (one (just q.mark)))).ways ⟨n, c :: r⟩ = [] := by
    intro n c r hc
    have hne : c ≠ q.mark := by
      rintro rfl
      rw [isPrefixLetter_mark] at hc
      cases hc
    rw [ways, ways_mark, if_neg hne, List.flatMap_nil]
  have hways := ways_seq_stringPrefix hnone 0 text
  rw [Nat.zero_add] at hways
  exact hways

/-- A string between single marks ends at the mark at which the scan stops. -/
theorem match?_shortString (hp : IsStringPrefix pre) (hn : '\n' ∉ rest) :
    (shortString q.mark).match? (pre ++ q.mark :: rest) =
      (q.shortScan rest).map (reachBehind (pre.length + 1)) := by
  obtain ⟨htake, hdrop⟩ := takeWhile_isPrefixLetter hp (isPrefixLetter_mark q) rest
  have hbody : (seq (reps (plainOrEscaped q) 0 none .greedy) (one (just q.mark))).ways
      ⟨pre.length + 1, rest⟩ =
        ((plainOrEscaped q).places ⟨pre.length + 1, rest⟩).reverse.flatMap
          (one (just q.mark)).ways := rfl
  rw [match?_eq_head?, ways_shortString, htake, hdrop, if_pos hp.1, ways, ways_mark, if_pos rfl,
    List.flatMap_singleton, hbody, ways_shortBody _ hn]
  cases q.shortScan rest <;> rfl

theorem quoted_of_match?_shortString {z : Reach}
    (h : (shortString q.mark).match? text = some z) :
    ∃ pre rest, IsStringPrefix pre ∧ text = pre ++ q.mark :: rest := by
  rw [match?_eq_head?] at h
  have hmem := List.mem_of_head? h
  rw [ways_shortString] at hmem
  split at hmem
  · rename_i hk
    obtain ⟨v, hv, -⟩ := List.mem_flatMap.mp hmem
    have happ : text.takeWhile isPrefixLetter ++ text.dropWhile isPrefixLetter = text :=
      List.takeWhile_append_dropWhile
    cases hd : text.dropWhile isPrefixLetter with
    | nil =>
      rw [hd] at hv
      cases hv
    | cons c rest =>
      rw [hd, ways_mark] at hv
      split at hv
      · rename_i hc
        have hp : IsStringPrefix (text.takeWhile isPrefixLetter) :=
          ⟨hk, fun c hc => List.mem_takeWhile_imp hc⟩
        refine ⟨text.takeWhile isPrefixLetter, rest, hp, ?_⟩
        rw [← hc, ← hd, happ]
      · cases hv
  · cases hmem

end Table

end Offside
