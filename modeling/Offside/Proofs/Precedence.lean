import Offside.Proofs.Classification

/-!
# Operators before classes

Brackets, numbers with a leading point and operators stand in the table before the classes of
strings, comments, numbers and names. Of the operators that start a text the table takes the
longest, so that it does not matter in which order they came into the set.
-/

namespace Offside

set_option autoImplicit false

namespace OperatorSet

variable {ops ops' : OperatorSet} {text : List Char} {op op' : String}

structure IsLongest (ops : OperatorSet) (text : List Char) (op : String) : Prop where
  mem : op ∈ ops.members
  starts : op.toList <+: text
  longest : ∀ o ∈ ops.members, o.toList <+: text → o.length ≤ op.length

theorem IsLongest.unique (h : ops.IsLongest text op) (h' : ops.IsLongest text op') :
    op = op' := by
  have hle : op.length ≤ op'.length := h'.longest op h.mem h.starts
  have hge : op'.length ≤ op.length := h.longest op' h'.mem h'.starts
  have hlength : op.toList.length = op'.toList.length := Nat.le_antisymm hle hge
  have hlist : op.toList = op'.toList :=
    (List.prefix_of_prefix_length_le h.starts h'.starts (Nat.le_of_eq hlength)).eq_of_length hlength
  exact String.toList_injective hlist

theorem IsLongest.congr (hm : ∀ op, op ∈ ops'.members ↔ op ∈ ops.members)
    (h : ops.IsLongest text op) : ops'.IsLongest text op where
  mem := (hm op).mpr h.mem
  starts := h.starts
  longest o ho := h.longest o ((hm o).mp ho)

theorem isLongest_congr (hm : ∀ op, op ∈ ops'.members ↔ op ∈ ops.members) :
    ops'.IsLongest text op ↔ ops.IsLongest text op :=
  ⟨.congr fun o => (hm o).symm, .congr hm⟩

end OperatorSet

namespace Table

open Pattern CharSet

variable {ops ops' : OperatorSet} {text : List Char} {op : String} {x : Lexeme}

def operatorLexeme (text : List Char) (op : String) : Lexeme :=
  ⟨.op, .token, op.length, op, text.drop op.length⟩

theorem lexeme?_of_starts (hne : op ≠ "") (h : op.toList <+: text) :
    lexeme? text (.ofOperator op) = some (operatorLexeme text op) := by
  obtain ⟨more, rfl⟩ := h
  have hmatch : (literal op.toList).match? (op.toList ++ more) = some ⟨op.length, more⟩ := by
    rw [match?_eq_head?, ways_literal, if_pos (by simp), Nat.zero_add, List.drop_left]
    rfl
  have hchars : op.toList ≠ [] := by simpa using hne
  have hlexeme : lexeme? (op.toList ++ more) (.ofOperator op) = _ :=
    lexeme?_of_match? hchars rfl hmatch
  rw [hlexeme, operatorLexeme, String.ofList_toList, ← String.length_toList, List.drop_left]
  rfl

theorem lexeme?_of_not_starts (h : ¬ op.toList <+: text) :
    lexeme? text (.ofOperator op) = none := by
  have hmatch : (literal op.toList).match? text = none := by
    rw [match?_eq_head?, ways_literal, if_neg (fun hp => h (List.isPrefixOf_iff_prefix.mp hp))]
    rfl
  rw [lexeme?, Entry.ofOperator, hmatch]

theorem lexeme?_ofOperator_eq_none (hne : op ≠ "") :
    lexeme? text (.ofOperator op) = none ↔ ¬ op.toList <+: text := by
  constructor
  · intro hnone hp
    rw [lexeme?_of_starts hne hp] at hnone
    cases hnone
  · exact lexeme?_of_not_starts

theorem literals_eq_none {literals : List String} (hempty : "" ∉ literals) :
    (literals.map Entry.ofOperator).findSome? (lexeme? text) = none ↔
      ∀ op ∈ literals, ¬ op.toList <+: text := by
  rw [List.findSome?_eq_none_iff]
  constructor
  · intro h op hop
    have hne : op ≠ "" := fun he => hempty (he ▸ hop)
    exact (lexeme?_ofOperator_eq_none hne).mp (h _ (List.mem_map_of_mem hop))
  · intro h e he
    obtain ⟨op, hop, rfl⟩ := List.mem_map.mp he
    exact lexeme?_of_not_starts (h op hop)

theorem brackets_eq_none :
    bracketEntries.findSome? (lexeme? text) = none ↔
      ∀ b ∈ Bracket.openers ++ Bracket.closers, ¬ b.toList <+: text := by
  have hmap : bracketEntries = ["(", ")", "[", "]", "\x7b", "\x7d"].map Entry.ofOperator := rfl
  rw [hmap, literals_eq_none (by decide)]
  refine forall_congr' fun b => imp_congr_left ?_
  simp only [Bracket.openers, Bracket.closers, List.mem_append, List.mem_cons, List.not_mem_nil,
    or_false]
  tauto

theorem digit_holds (d : Char) : digit.holds d = d.isDigit := by
  simp [digit, holds, Char.isDigit, Char.le_def]

/-- A number with a leading point needs a digit behind the point. -/
theorem pointNumber_eq_none (h : ∀ d rest, text = '.' :: d :: rest → d.isDigit = false) :
    lexeme? text ⟨.number, .token, pointNumber⟩ = none := by
  have hsplit : pointNumber.ways ⟨0, text⟩ = ((one (just '.')).ways ⟨0, text⟩).flatMap fun z =>
      ((one digit).ways z).flatMap (inRow (manyOf digitOrLine) [exponent, imaginary]).ways := rfl
  have hways : pointNumber.ways ⟨0, text⟩ = [] := by
    rw [hsplit]
    cases text with
    | nil => rfl
    | cons c rest =>
      have hpoint : (one (just '.')).ways ⟨0, c :: rest⟩ =
          if (just '.').holds c then [⟨1, rest⟩] else [] := ways_one ..
      rw [hpoint]
      by_cases hc : c = '.'
      · subst hc
        rw [if_pos (by simp [holds]), List.flatMap_singleton]
        cases rest with
        | nil => rfl
        | cons d rest =>
          have hdigit : digit.holds d = false := (digit_holds d).trans (h d rest rfl)
          rw [one, ways_one, hdigit]
          rfl
      · rw [if_neg (by simpa [holds] using hc)]
        rfl
  rw [lexeme?, match?_eq_head?, hways]
  rfl

theorem operators_eq_none (hempty : "" ∉ ops.members) :
    (ops.matchOrder.map Entry.ofOperator).findSome? (lexeme? text) = none ↔
      ∀ op ∈ ops.members, ¬ op.toList <+: text := by
  have hordered : "" ∉ ops.matchOrder := fun hm => hempty (OperatorSet.mem_matchOrder.mp hm)
  rw [literals_eq_none hordered]
  simp only [OperatorSet.mem_matchOrder]

/-- The first operator that matches is the longest, as the longer ones come first. -/
theorem isLongest_of_operators (hempty : "" ∉ ops.members)
    (h : (ops.matchOrder.map Entry.ofOperator).findSome? (lexeme? text) = some x) :
    ∃ op, ops.IsLongest text op ∧ x = operatorLexeme text op := by
  have hne : ∀ op ∈ ops.members, op ≠ "" := fun op hop he => hempty (he ▸ hop)
  rw [List.findSome?_map, List.findSome?_eq_some_iff] at h
  obtain ⟨before, op, after, horder, hop, hbefore⟩ := h
  have hmem : ∀ o, o ∈ before ++ op :: after ↔ o ∈ ops.members := by
    intro o
    rw [← horder, OperatorSet.mem_matchOrder]
  have hown : op ∈ ops.members := (hmem op).mp (by simp)
  have hstarts : op.toList <+: text := by
    by_contra hno
    rw [Function.comp_apply, lexeme?_of_not_starts hno] at hop
    cases hop
  rw [Function.comp_apply, lexeme?_of_starts (hne op hown) hstarts] at hop
  refine ⟨op, ⟨hown, hstarts, ?_⟩, (Option.some.inj hop).symm⟩
  intro o ho hprefix
  rcases List.mem_append.mp ((hmem o).mpr ho) with hb | ha
  · exact absurd hprefix ((lexeme?_ofOperator_eq_none (hne o ho)).mp (hbefore o hb))
  · rcases List.mem_cons.mp ha with rfl | ha
    · exact Nat.le_refl _
    · have hsorted := ops.pairwise_matchOrder
      rw [horder, List.pairwise_append, List.pairwise_cons] at hsorted
      exact hsorted.2.1.1 o ha

theorem operators_eq_some (hempty : "" ∉ ops.members) :
    (ops.matchOrder.map Entry.ofOperator).findSome? (lexeme? text) = some x ↔
      ∃ op, ops.IsLongest text op ∧ x = operatorLexeme text op := by
  constructor
  · exact isLongest_of_operators hempty
  · rintro ⟨op, hop, rfl⟩
    have hsome : (ops.matchOrder.map Entry.ofOperator).findSome? (lexeme? text) ≠ none :=
      fun hnone => (operators_eq_none hempty).mp hnone op hop.mem hop.starts
    obtain ⟨y, hy⟩ := Option.ne_none_iff_exists'.mp hsome
    obtain ⟨op', hop', rfl⟩ := isLongest_of_operators hempty hy
    rw [hy, hop.unique hop']

theorem operators_congr (hempty : "" ∉ ops.members)
    (hm : ∀ op, op ∈ ops'.members ↔ op ∈ ops.members) (text : List Char) :
    (ops'.matchOrder.map Entry.ofOperator).findSome? (lexeme? text) =
      (ops.matchOrder.map Entry.ofOperator).findSome? (lexeme? text) := by
  have hempty' : "" ∉ ops'.members := fun h => hempty ((hm "").mp h)
  apply Option.ext
  intro x
  rw [operators_eq_some hempty', operators_eq_some hempty]
  exact exists_congr fun op => and_congr_left' (OperatorSet.isLongest_congr hm)

theorem heads_eq (ops : OperatorSet) (text : List Char) :
    (heads ops).findSome? (lexeme? text) =
      (bracketEntries.findSome? (lexeme? text)).or
        ((lexeme? text ⟨.number, .token, pointNumber⟩).or
          ((ops.matchOrder.map Entry.ofOperator).findSome? (lexeme? text))) := by
  change (bracketEntries ++ ⟨.number, .token, pointNumber⟩ ::
    ops.matchOrder.map Entry.ofOperator).findSome? (lexeme? text) = _
  rw [List.findSome?_append, List.findSome?_cons]
  cases lexeme? text ⟨.number, .token, pointNumber⟩ <;> rfl

theorem classify_congr (hempty : "" ∉ ops.members)
    (hm : ∀ op, op ∈ ops'.members ↔ op ∈ ops.members) (text : List Char) :
    (ofOperators ops').classify text = (ofOperators ops).classify text := by
  rw [classify_eq, classify_eq, heads_eq, heads_eq, operators_congr hempty hm]

/-- An operator at the head of a text decides, unless a bracket or a number with a leading point
stands there: the longest operator is taken, so sets with the same members are alike, in whichever
order and however often their members were added. -/
theorem operators_longest_first (h : ops.Reachable) :
    (∀ text, (∀ b ∈ Bracket.openers ++ Bracket.closers, ¬ b.toList <+: text) →
      (∀ d rest, text = '.' :: d :: rest → d.isDigit = false) →
      (∃ op ∈ ops.members, op.toList <+: text) →
      ∃ op, ops.IsLongest text op ∧
        (ofOperators ops).classify text =
          some ⟨.op, .token, op.length, op, text.drop op.length⟩) ∧
    (∀ ops' : OperatorSet, ops'.Reachable → (∀ op, op ∈ ops'.members ↔ op ∈ ops.members) →
      ∀ text, (ofOperators ops').classify text = (ofOperators ops).classify text) ∧
    ∀ added added' : List String, (∀ op, op ∈ added' ↔ op ∈ added) →
      ∀ text, (ofOperators (ops.insertMany added')).classify text =
        (ofOperators (ops.insertMany added)).classify text := by
  refine ⟨?_, ?_, ?_⟩
  · rintro text hbrackets hpoint ⟨op, hop, hstarts⟩
    have hsome : (ops.matchOrder.map Entry.ofOperator).findSome? (lexeme? text) ≠ none :=
      fun hnone => (operators_eq_none h.empty_not_mem).mp hnone op hop hstarts
    obtain ⟨x, hx⟩ := Option.ne_none_iff_exists'.mp hsome
    obtain ⟨longest, hlongest, rfl⟩ := (operators_eq_some h.empty_not_mem).mp hx
    refine ⟨longest, hlongest, ?_⟩
    rw [classify_eq, heads_eq, brackets_eq_none.mpr hbrackets, pointNumber_eq_none hpoint, hx]
    rfl
  · intro ops' _ hm text
    exact classify_congr h.empty_not_mem hm text
  · intro added added' hadded text
    apply classify_congr (h.insertMany added).empty_not_mem
    intro op
    rw [OperatorSet.mem_insertMany, OperatorSet.mem_insertMany]
    simp only [hadded]

/-- Operators that start one another, with a letter and a bracket in them, added in two orders. -/
theorem operators_longest_first_added :
    (ofOperators (OperatorSet.core.insertMany ["é", "é(", "é(é"])).classify "é(é=".toList =
        some ⟨.op, .token, 3, "é(é", ['=']⟩ ∧
      (ofOperators (OperatorSet.core.insertMany ["é(é", "é", "é(", "é"])).classify "é(é=".toList =
        some ⟨.op, .token, 3, "é(é", ['=']⟩ := by
  have hcore : OperatorSet.core.Reachable := .ofPreset .core
  obtain ⟨hlongest, -, -⟩ := operators_longest_first (hcore.insertMany ["é", "é(", "é(é"])
  obtain ⟨-, -, horder⟩ := operators_longest_first hcore
  have hown : (OperatorSet.core.insertMany ["é", "é(", "é(é"]).IsLongest "é(é=".toList "é(é" :=
    ⟨by decide +kernel, by decide, by decide +kernel⟩
  obtain ⟨op, hop, hclassify⟩ := hlongest "é(é=".toList (by decide) (by simp)
    ⟨"é(é", hown.mem, hown.starts⟩
  obtain rfl := hop.unique hown
  refine ⟨hclassify, ?_⟩
  rw [horder ["é", "é(", "é(é"] ["é(é", "é", "é(", "é"] (by simp; tauto)]
  exact hclassify

end Table

end Offside
