import Offside.Operator
import Mathlib.Data.List.TakeWhile

/-!
# Sets of operators that can be built

A set starts as one of the presets and grows by insertion. Its members are trimmed spellings.
-/

namespace Offside.OperatorSet

set_option autoImplicit false

/-- The sets that start as a preset and grow by insertion. -/
inductive Reachable : OperatorSet → Prop
  | ofPreset (p : Preset) : Reachable (ofPreset p)
  | insert {s : OperatorSet} (h : Reachable s) (op : String) : Reachable (s.insert op)

theorem insertMany_cons (s : OperatorSet) (x : String) (ops : List String) :
    s.insertMany (x :: ops) = (s.insert x).insertMany ops := by
  unfold insertMany
  exact List.foldl_cons ..

theorem Reachable.insertMany {s : OperatorSet} (h : Reachable s) (ops : List String) :
    Reachable (s.insertMany ops) := by
  induction ops generalizing s with
  | nil => exact h
  | cons op ops ih =>
    rw [insertMany_cons]
    exact ih (h.insert op)

theorem mem_insert {s : OperatorSet} {op x : String} :
    op ∈ (s.insert x).members ↔ op ∈ s.members ∨ op = Text.trimmed x ∧ s.admits op = true := by
  simp only [insert]
  split
  · rename_i h
    simp only [List.mem_append, List.mem_singleton]
    constructor
    · rintro (hm | rfl)
      · exact .inl hm
      · exact .inr ⟨rfl, h⟩
    · rintro (hm | ⟨rfl, -⟩)
      · exact .inl hm
      · exact .inr rfl
  · rename_i h
    constructor
    · exact .inl
    · rintro (hm | ⟨rfl, ha⟩)
      · exact hm
      · exact absurd ha h

def isSpelling (op : String) : Bool := !(op.isEmpty || Bracket.isOpener op || Bracket.isCloser op)

theorem admits_iff {s : OperatorSet} {op : String} :
    s.admits op = true ↔ isSpelling op = true ∧ op ∉ s.members := by
  simp [admits, isSpelling, contains, and_assoc]

/-- Which operators a set has does not depend on the order in which they were added, nor on how
often. -/
theorem mem_insertMany {s : OperatorSet} {ops : List String} {op : String} :
    op ∈ (s.insertMany ops).members ↔
      op ∈ s.members ∨ isSpelling op = true ∧ ∃ x ∈ ops, op = Text.trimmed x := by
  induction ops generalizing s with
  | nil => simp [insertMany]
  | cons x ops ih =>
    rw [insertMany_cons, ih, mem_insert, admits_iff]
    constructor
    · rintro ((hm | ⟨rfl, hspelling, -⟩) | ⟨hspelling, y, hy, heq⟩)
      · exact .inl hm
      · exact .inr ⟨hspelling, x, List.mem_cons_self, rfl⟩
      · exact .inr ⟨hspelling, y, List.mem_cons_of_mem x hy, heq⟩
    · rintro (hm | ⟨hspelling, y, hy, heq⟩)
      · exact .inl (.inl hm)
      · rcases List.mem_cons.mp hy with rfl | hy
        · by_cases hm : op ∈ s.members
          · exact .inl (.inl hm)
          · subst heq
            exact .inl (.inr ⟨rfl, hspelling, hm⟩)
        · exact .inr ⟨hspelling, y, hy, heq⟩

theorem forall_mem_insertMany {P : String → Prop} {s : OperatorSet}
    (hP : ∀ (s : OperatorSet) x, s.admits (Text.trimmed x) = true → P (Text.trimmed x))
    (hs : ∀ op ∈ s.members, P op) (ops : List String) :
    ∀ op ∈ (s.insertMany ops).members, P op := by
  induction ops generalizing s with
  | nil => exact hs
  | cons x ops ih =>
    rw [insertMany_cons]
    refine ih fun op hop => ?_
    rcases mem_insert.mp hop with hop | ⟨rfl, ha⟩
    · exact hs op hop
    · exact hP s x ha

theorem Reachable.forall_mem {P : String → Prop} {s : OperatorSet} (h : Reachable s)
    (hP : ∀ (s : OperatorSet) x, s.admits (Text.trimmed x) = true → P (Text.trimmed x)) :
    ∀ op ∈ s.members, P op := by
  have hcore : ∀ op ∈ core.members, P op := forall_mem_insertMany hP (by simp) _
  induction h with
  | ofPreset p =>
    cases p with
    | core => exact hcore
    | extended => exact forall_mem_insertMany hP hcore _
  | @insert s _ x ih =>
    intro op hop
    rcases mem_insert.mp hop with hop | ⟨rfl, ha⟩
    · exact ih op hop
    · exact hP s x ha

theorem trim_prefix (cs : List Char) : Text.trim cs <+: Text.trimStart cs := by
  rw [Text.trim, Text.trimEnd, ← List.reverse_suffix, List.reverse_reverse]
  exact List.dropWhile_suffix _

theorem isBlank_head_trim {cs rest : List Char} {c : Char} (h : Text.trim cs = c :: rest) :
    Text.isBlank c = false := by
  obtain ⟨more, hm⟩ := trim_prefix cs
  rw [h, Text.trimStart, List.cons_append] at hm
  have hc := List.head?_dropWhile_not Text.isBlank cs
  rw [← hm] at hc
  simpa using hc

theorem Reachable.isBlank_head {s : OperatorSet} (h : Reachable s) {op : String} {c : Char}
    {rest : List Char} (hop : op ∈ s.members) (hc : op.toList = c :: rest) :
    Text.isBlank c = false := by
  refine h.forall_mem (P := fun op => ∀ c rest, op.toList = c :: rest → Text.isBlank c = false)
    ?_ op hop c rest hc
  intro s x _ c rest hx
  rw [Text.trimmed, String.toList_ofList] at hx
  exact isBlank_head_trim hx

theorem Reachable.isSpelling {s : OperatorSet} (h : Reachable s) :
    ∀ op ∈ s.members, isSpelling op = true :=
  h.forall_mem fun _ _ ha => (admits_iff.mp ha).1

theorem Reachable.empty_not_mem {s : OperatorSet} (h : Reachable s) : "" ∉ s.members := by
  intro hm
  have hspelling := h.isSpelling "" hm
  cases hspelling

theorem Reachable.core_subset {s : OperatorSet} (h : Reachable s) :
    ∀ op ∈ core.members, op ∈ s.members := by
  intro op hop
  induction h with
  | ofPreset p =>
    cases p with
    | core => exact hop
    | extended => exact mem_insertMany.mpr (.inl hop)
  | insert _ x ih => exact mem_insert.mpr (.inl ih)

theorem length_le_trans (a b c : String) (hab : decide (b.length ≤ a.length) = true)
    (hbc : decide (c.length ≤ b.length) = true) : decide (c.length ≤ a.length) = true := by
  rw [decide_eq_true_eq] at hab hbc ⊢
  exact Nat.le_trans hbc hab

theorem length_le_total (a b : String) :
    (decide (b.length ≤ a.length) || decide (a.length ≤ b.length)) = true := by
  rw [Bool.or_eq_true, decide_eq_true_eq, decide_eq_true_eq]
  exact Nat.le_total b.length a.length

theorem pairwise_matchOrder (s : OperatorSet) :
    s.matchOrder.Pairwise fun a b => b.length ≤ a.length := by
  have h := List.pairwise_mergeSort length_le_trans length_le_total s.members
  simpa only [matchOrder, decide_eq_true_eq] using h

theorem mem_matchOrder {s : OperatorSet} {op : String} : op ∈ s.matchOrder ↔ op ∈ s.members := by
  simp [matchOrder]

theorem members_core :
    core.members = ["==", "=", "**", "*", "//", "/", ":", "+", "-", ",", "."] := by
  decide +kernel

theorem matchOrder_core :
    core.matchOrder = ["==", "**", "//", "=", "*", "/", ":", "+", "-", ",", "."] := by
  rw [matchOrder, members_core]
  simp +decide [List.mergeSort, List.MergeSort.Internal.splitInTwo]

end Offside.OperatorSet
