import Offside.Proofs.Verdict

/-!
# What a comparison reports of the first mismatch

The place reported is the first at which the streams do not agree, each followed by stand-ins. The
windows show its neighbours, and the line is that of our token where we have one. The other way
round, the same place is reported with the windows exchanged.
-/

namespace Offside

set_option autoImplicit false

namespace TokenStream

def neighbours (s : TokenStream) : Nat → List Token
  | 0 => [s.look 0, s.look 1]
  | i + 1 => [s.look i, s.look (i + 1), s.look (i + 2)]

theorem around_eq (s : TokenStream) (i : Nat) : s.around i = s.neighbours i := by
  cases i with
  | zero => rfl
  | succ i =>
    have hlength : i + 1 + 2 - i = 3 := by omega
    rw [around, Nat.add_sub_cancel, hlength]
    rfl

/-- The first place at which two streams do not agree; behind their ends they have stand-ins. -/
structure DifferFirst (ours theirs : TokenStream) (i : Nat) : Prop where
  lt : i < max ours.size theirs.size
  agree : ∀ k < i, (ours.look k).kind = (theirs.look k).kind ∧
    (ours.look k).text = (theirs.look k).text
  differ : ¬ ((ours.look i).kind = (theirs.look i).kind ∧ (ours.look i).text = (theirs.look i).text)

variable {ours theirs : TokenStream} {i : Nat}

theorem DifferFirst.symm (h : DifferFirst ours theirs i) : DifferFirst theirs ours i where
  lt := by
    rw [Nat.max_comm]
    exact h.lt
  agree k hk := ⟨(h.agree k hk).1.symm, (h.agree k hk).2.symm⟩
  differ := fun ⟨hkind, htext⟩ => h.differ ⟨hkind.symm, htext.symm⟩

theorem isMissing_look (h : ∀ t ∈ ours.tokens, t.isMissing = false) :
    (ours.look i).isMissing = true ↔ ours.size ≤ i := by
  constructor
  · intro hi
    refine Nat.le_of_not_lt fun hlt => ?_
    have hmem : ours.look i ∈ ours.tokens := Array.mem_of_getElem? (get?_of_lt hlt)
    rw [h _ hmem] at hi
    cases hi
  · intro hi
    rw [look_of_le hi]
    rfl

end TokenStream

namespace Comparison

open TokenStream

variable {ours theirs : TokenStream} {i k bound : Nat} {label : String} {m : Mismatch}

theorem firstDifference?_eq_some :
    firstDifference? ours theirs i bound = some k ↔
      i ≤ k ∧ k < bound ∧ (∀ j, i ≤ j → j < k → (ours.look j).agrees (theirs.look j) = true) ∧
        (ours.look k).agrees (theirs.look k) = false := by
  fun_induction firstDifference? ours theirs i bound with
  | case1 i hi ha ih =>
    rw [ih]
    constructor
    · rintro ⟨hle, hlt, hagree, hdiffer⟩
      refine ⟨Nat.le_of_succ_le hle, hlt, fun j hj hjk => ?_, hdiffer⟩
      rcases Nat.eq_or_lt_of_le hj with rfl | hj
      · exact ha
      · exact hagree j hj hjk
    · rintro ⟨hle, hlt, hagree, hdiffer⟩
      refine ⟨?_, hlt, fun j hj hjk => hagree j (Nat.le_of_succ_le hj) hjk, hdiffer⟩
      rcases Nat.eq_or_lt_of_le hle with rfl | hlt
      · rw [ha] at hdiffer
        cases hdiffer
      · exact hlt
  | case2 i hi ha =>
    rw [Option.some.injEq]
    constructor
    · rintro rfl
      exact ⟨Nat.le_refl i, hi, by omega, by simpa using ha⟩
    · rintro ⟨hle, -, hagree, -⟩
      rcases Nat.eq_or_lt_of_le hle with rfl | hlt
      · rfl
      · exact absurd (hagree i (Nat.le_refl i) hlt) ha
  | case3 i hi =>
    constructor
    · intro h
      cases h
    · rintro ⟨hle, hlt, -, -⟩
      omega

theorem firstDifference?_eq_some_iff :
    firstDifference? ours theirs 0 (max ours.size theirs.size) = some i ↔
      DifferFirst ours theirs i := by
  rw [firstDifference?_eq_some]
  constructor
  · rintro ⟨-, hlt, hagree, hdiffer⟩
    refine ⟨hlt, fun k hk => Token.agrees_iff.mp (hagree k (Nat.zero_le k) hk), ?_⟩
    rw [← Token.agrees_iff, hdiffer]
    exact Bool.false_ne_true
  · intro h
    refine ⟨Nat.zero_le i, h.lt, fun k _ hk => Token.agrees_iff.mpr (h.agree k hk), ?_⟩
    rw [← Bool.not_eq_true, Token.agrees_iff]
    exact h.differ

theorem mismatch_eq_some_iff :
    (ofStreams ours theirs label).mismatch = some m ↔
      ∃ i, DifferFirst ours theirs i ∧ m = .of ours theirs i := by
  rw [ofStreams, Option.map_eq_some_iff]
  simp only [firstDifference?_eq_some_iff]
  exact exists_congr fun i => and_congr_right fun _ => eq_comm

/-- The mismatch that is reported is the first. If none of our tokens passes for a stand-in, its
line is that of our token, or of theirs where our stream has ended. -/
theorem first_mismatch_reported (h : (ofStreams ours theirs label).mismatch = some m) :
    DifferFirst ours theirs m.index ∧
      m.ours = ours.neighbours m.index ∧ m.theirs = theirs.neighbours m.index ∧
      ((∀ t ∈ ours.tokens, t.isMissing = false) →
        m.line = if m.index < ours.size then (ours.look m.index).span.start.line
          else (theirs.look m.index).span.start.line) ∧
      ∀ label', ∃ m', (ofStreams theirs ours label').mismatch = some m' ∧
        m'.index = m.index ∧ m'.ours = m.theirs ∧ m'.theirs = m.ours := by
  obtain ⟨i, hi, rfl⟩ := mismatch_eq_some_iff.mp h
  refine ⟨hi, around_eq .., around_eq .., ?_, ?_⟩
  · intro hours
    rw [Mismatch.of]
    by_cases hlt : i < ours.size
    · rw [if_pos hlt, if_neg (fun hm => Nat.not_le.mpr hlt ((isMissing_look hours).mp hm))]
    · rw [if_neg hlt, if_pos ((isMissing_look hours).mpr (Nat.not_lt.mp hlt))]
  · intro label'
    exact ⟨.of theirs ours i, mismatch_eq_some_iff.mpr ⟨i, hi.symm, rfl⟩, rfl, rfl, rfl⟩

/-- Where our stream ends before theirs, the line is that of their token. -/
theorem first_mismatch_reported_ended :
    let x : Token := ⟨.name, "x", .of 1 0, .of 1 1⟩
    let y : Token := ⟨.name, "y", .of 3 0, .of 3 1⟩
    let ours := ofList [x]
    let theirs := ofList [x, y]
    (ofStreams ours theirs defaultLabel).mismatch = some (.of ours theirs 1) ∧
      (∀ t ∈ ours.tokens, t.isMissing = false) ∧
      DifferFirst ours theirs 1 ∧
      ours.neighbours 1 = [x, .missing, .missing] ∧ theirs.neighbours 1 = [x, y, .missing] ∧
      (Mismatch.of ours theirs 1).line = 3 := by
  intro x y ours theirs
  have hplace : firstDifference? ours theirs 0 (max ours.size theirs.size) = some 1 := by
    decide +kernel
  have hmismatch : (ofStreams ours theirs defaultLabel).mismatch = some (.of ours theirs 1) := by
    rw [ofStreams, hplace, Option.map_some]
  have hours : ∀ t ∈ ours.tokens, t.isMissing = false := by decide
  obtain ⟨hfirst, -, -, hline, -⟩ := first_mismatch_reported hmismatch
  exact ⟨hmismatch, hours, hfirst, rfl, rfl, hline hours⟩

end Comparison

end Offside
