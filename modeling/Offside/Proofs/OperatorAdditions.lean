import Offside.Proofs.OperatorSet
import Mathlib.Data.List.Nodup

/-!
# Sets of operators after any additions

A set that starts as one of the presets keeps the preset's operators in front. Behind them stand
the spellings that were added and taken, each where it was added first. Its operators are distinct
trimmed spellings, and they are matched the longest first, those of one length as they were added.
-/

namespace Offside

set_option autoImplicit false

namespace Text

variable {mark : Char} {cs : List Char}

theorem trimStart_trim (cs : List Char) : trimStart (trim cs) = trim cs := by
  cases h : trim cs with
  | nil => rfl
  | cons c rest =>
    have hc := OperatorSet.isBlank_head_trim h
    rw [trimStart, List.dropWhile_cons_of_neg (by simp [hc])]

theorem isBlank_last_trim {init : List Char} {c : Char} (h : trim cs = init ++ [c]) :
    isBlank c = false := by
  have hreverse : (trimStart cs).reverse.dropWhile isBlank = c :: init.reverse := by
    rw [← List.reverse_inj, ← trimEnd, ← trim, h]
    simp
  have hc := List.head?_dropWhile_not isBlank (trimStart cs).reverse
  rw [hreverse] at hc
  simpa using hc

theorem trimEnd_trim (cs : List Char) : trimEnd (trim cs) = trim cs := by
  rcases List.eq_nil_or_concat (trim cs) with h | ⟨init, c, h⟩
  · rw [h]
    rfl
  · rw [List.concat_eq_append] at h
    have hc := isBlank_last_trim h
    rw [h, trimEnd, List.reverse_append, List.reverse_singleton, List.singleton_append,
      List.dropWhile_cons_of_neg (by simp [hc])]
    simp

theorem trimmed_trimmed (s : String) : trimmed (trimmed s) = trimmed s := by
  rw [trimmed, trimmed, String.toList_ofList, trim, trimStart_trim, trimEnd_trim]

/-- A text is cut at every occurrence of a character: between its pieces stands the character, and
nowhere else. -/
structure IsCut (mark : Char) (s : String) (pieces : List String) : Prop where
  nonempty : pieces ≠ []
  joined : (String.singleton mark).intercalate pieces = s
  unmarked : ∀ p ∈ pieces, mark ∉ p.toList

theorem pieces_eq_splitOn (mark : Char) (cs : List Char) : pieces mark cs = cs.splitOn mark := by
  induction cs with
  | nil => rfl
  | cons c cs ih =>
    rw [pieces, List.splitOn_cons_eq_if_modifyHead, ih]
    by_cases h : c = mark
    · rw [if_pos h, if_pos (by simpa using h)]
    · rw [if_neg h, if_neg (by simpa using h)]
      cases hsplit : cs.splitOn mark with
      | nil => exact absurd hsplit (List.splitOn_ne_nil mark cs)
      | cons first others => rfl

theorem not_mem_of_mem_pieces {p : List Char} (h : p ∈ pieces mark cs) : mark ∉ p := by
  induction cs generalizing p with
  | nil =>
    rw [List.mem_singleton.mp h]
    exact List.not_mem_nil
  | cons c cs ih =>
    rw [pieces] at h
    split at h
    · rcases List.mem_cons.mp h with rfl | h
      · exact List.not_mem_nil
      · exact ih h
    · rename_i hc
      split at h
      · rename_i first others hp
        rw [hp] at ih
        rcases List.mem_cons.mp h with rfl | h
        · have hfirst := ih List.mem_cons_self
          simpa [hfirst] using Ne.symm hc
        · exact ih (List.mem_cons_of_mem first h)
      · rw [List.mem_singleton.mp h]
        simpa using Ne.symm hc

theorem isCut_stringPieces (mark : Char) (s : String) : IsCut mark s (stringPieces mark s) where
  nonempty := by
    rw [stringPieces, pieces_eq_splitOn]
    exact fun h => List.splitOn_ne_nil mark s.toList (List.map_eq_nil_iff.mp h)
  joined := by
    apply String.toList_injective
    rw [String.toList_intercalate, String.toList_singleton, stringPieces, List.map_map,
      pieces_eq_splitOn]
    have hid : String.toList ∘ String.ofList = id := funext fun _ => String.toList_ofList
    rw [hid, List.map_id, List.intercalate_splitOn]
  unmarked := by
    intro p hp
    obtain ⟨cs, hcs, rfl⟩ := List.mem_map.mp hp
    rw [String.toList_ofList]
    exact not_mem_of_mem_pieces hcs

end Text

namespace OperatorSet

variable {s start : OperatorSet} {x op : String} {ops : List String}

inductive Initial : OperatorSet → Prop
  | core : Initial core
  | extended : Initial extended
  | default : Initial default
  | ofPreset (p : Preset) : Initial (ofPreset p)

theorem Initial.eq_ofPreset (h : Initial start) : ∃ p, start = .ofPreset p := by
  cases h with
  | core => exact ⟨.core, rfl⟩
  | extended => exact ⟨.extended, rfl⟩
  | default => exact ⟨.core, rfl⟩
  | ofPreset p => exact ⟨p, rfl⟩

inductive Addition
  | one (op : String)
  | many (ops : List String)

def Addition.spellings : Addition → List String
  | one op => [op]
  | many ops => ops

def add (s : OperatorSet) : Addition → OperatorSet
  | .one op => s.insert op
  | .many ops => s.insertMany ops

def addAll (s : OperatorSet) (additions : List Addition) : OperatorSet := additions.foldl add s

def given (additions : List Addition) : List String := additions.flatMap Addition.spellings

theorem add_eq_insertMany (s : OperatorSet) (a : Addition) : s.add a = s.insertMany a.spellings := by
  cases a with
  | one op => rw [add, Addition.spellings, insertMany_cons, insertMany, List.foldl_nil]
  | many ops => rfl

theorem addAll_eq_insertMany (s : OperatorSet) (additions : List Addition) :
    s.addAll additions = s.insertMany (given additions) := by
  induction additions generalizing s with
  | nil => rfl
  | cons a additions ih =>
    have hgiven : given (a :: additions) = a.spellings ++ given additions := rfl
    change (s.add a).addAll additions = _
    rw [ih, add_eq_insertMany, hgiven, insertMany, insertMany, insertMany, List.foldl_append]

theorem Initial.reachable (h : Initial start) (additions : List Addition) :
    (start.addAll additions).Reachable := by
  obtain ⟨p, rfl⟩ := h.eq_ofPreset
  rw [addAll_eq_insertMany]
  exact (Reachable.ofPreset p).insertMany _

/-- The spellings a set takes from a list: trimmed, if it admits them, each where it comes first. -/
def accepted (s : OperatorSet) (ops : List String) : List String :=
  ((ops.map Text.trimmed).filter s.admits).eraseDups

theorem insert_of_not_admits (h : s.admits (Text.trimmed x) = false) : s.insert x = s := by
  rw [insert, h]
  rfl

theorem members_insert_of_admits (h : s.admits (Text.trimmed x) = true) :
    (s.insert x).members = s.members ++ [Text.trimmed x] := by
  rw [insert, h]
  rfl

theorem admits_insert (h : s.admits (Text.trimmed x) = true) (op : String) :
    (s.insert x).admits op = (!op == Text.trimmed x && s.admits op) := by
  rw [Bool.eq_iff_iff, Bool.and_eq_true, admits_iff, admits_iff, members_insert_of_admits h,
    List.mem_append, List.mem_singleton, Bool.not_eq_true', beq_eq_false_iff_ne, not_or]
  exact ⟨fun ⟨hs, hm, hne⟩ => ⟨hne, hs, hm⟩, fun ⟨hne, hs, hm⟩ => ⟨hs, hm, hne⟩⟩

theorem members_insertMany (s : OperatorSet) (ops : List String) :
    (s.insertMany ops).members = s.members ++ s.accepted ops := by
  induction ops generalizing s with
  | nil => simp [insertMany, accepted]
  | cons x ops ih =>
    rw [insertMany_cons, ih]
    unfold accepted
    rw [List.map_cons]
    by_cases h : s.admits (Text.trimmed x) = true
    -- the set that took the operator leaves out the same operators as `eraseDups` does
    · have hadmits : (s.insert x).admits = fun op => !op == Text.trimmed x && s.admits op :=
        funext (admits_insert h)
      rw [members_insert_of_admits h, hadmits, List.filter_cons_of_pos h, List.eraseDups_cons,
        List.filter_filter, List.append_assoc, List.singleton_append]
    · rw [insert_of_not_admits (Bool.eq_false_iff.mpr h), List.filter_cons_of_neg h]

theorem insertMany_eq_self (h : ∀ x ∈ ops, s.admits (Text.trimmed x) = false) :
    s.insertMany ops = s := by
  induction ops with
  | nil => rfl
  | cons x ops ih =>
    obtain ⟨hx, hops⟩ := List.forall_mem_cons.mp h
    rw [insertMany_cons, insert_of_not_admits hx, ih hops]

theorem admits_of_mem_given (h : x ∈ ops) : (s.insertMany ops).admits (Text.trimmed x) = false := by
  rw [Bool.eq_false_iff]
  intro hadmits
  obtain ⟨hspelling, hnew⟩ := admits_iff.mp hadmits
  exact hnew (mem_insertMany.mpr (.inr ⟨hspelling, x, h, rfl⟩))

theorem insert_trimmed (s : OperatorSet) (x : String) : s.insert (Text.trimmed x) = s.insert x := by
  rw [insert, insert, Text.trimmed_trimmed]

/-- Blank pieces and white space around the others make no difference. -/
theorem insertMany_trimmed (s : OperatorSet) (pieces : List String) :
    s.insertMany ((pieces.map Text.trimmed).filter fun op => !op.isEmpty) =
      s.insertMany pieces := by
  induction pieces generalizing s with
  | nil => rfl
  | cons p pieces ih =>
    rw [insertMany_cons, ← ih, List.map_cons]
    cases hp : (Text.trimmed p).isEmpty with
    | true =>
      have hblank : s.admits (Text.trimmed p) = false := by
        simp [admits, hp]
      rw [List.filter_cons_of_neg (by simp [hp]), insert_of_not_admits hblank]
    | false =>
      rw [List.filter_cons_of_pos (by simp [hp]), insertMany_cons, insert_trimmed]

structure IsOperator (op : String) : Prop where
  nonempty : op ≠ ""
  unbracketed : op ∉ Bracket.openers ++ Bracket.closers
  starts : ∀ c rest, op.toList = c :: rest → Text.isBlank c = false
  ends : ∀ init c, op.toList = init ++ [c] → Text.isBlank c = false

theorem isOperator_of_admits (h : s.admits (Text.trimmed x) = true) :
    IsOperator (Text.trimmed x) := by
  obtain ⟨hspelling, -⟩ := admits_iff.mp h
  simp only [isSpelling, Bracket.isOpener, Bracket.isCloser, Bool.not_eq_true', Bool.or_eq_false_iff,
    List.contains_eq_mem, decide_eq_false_iff_not] at hspelling
  obtain ⟨⟨hempty, hopener⟩, hcloser⟩ := hspelling
  refine ⟨?_, ?_, ?_, ?_⟩
  · intro he
    rw [he] at hempty
    cases hempty
  · rw [List.mem_append, not_or]
    exact ⟨hopener, hcloser⟩
  · intro c rest hc
    rw [Text.trimmed, String.toList_ofList] at hc
    exact isBlank_head_trim hc
  · intro init c hc
    rw [Text.trimmed, String.toList_ofList] at hc
    exact Text.isBlank_last_trim hc

theorem nodup_insert (h : s.members.Nodup) (x : String) : (s.insert x).members.Nodup := by
  by_cases ha : s.admits (Text.trimmed x) = true
  · rw [members_insert_of_admits ha, ← List.concat_eq_append]
    exact h.concat (admits_iff.mp ha).2
  · rw [insert_of_not_admits (Bool.eq_false_iff.mpr ha)]
    exact h

theorem nodup_insertMany (h : s.members.Nodup) (ops : List String) :
    (s.insertMany ops).members.Nodup := by
  induction ops generalizing s with
  | nil => exact h
  | cons x ops ih =>
    rw [insertMany_cons]
    exact ih (nodup_insert h x)

theorem Reachable.nodup (h : s.Reachable) : s.members.Nodup := by
  have hcore : core.members.Nodup := nodup_insertMany List.nodup_nil _
  induction h with
  | ofPreset p =>
    cases p with
    | core => exact hcore
    | extended => exact nodup_insertMany hcore _
  | insert _ x ih => exact nodup_insert ih x

structure WellFormed (s : OperatorSet) : Prop where
  distinct : s.members.Nodup
  operators : ∀ op ∈ s.members, IsOperator op
  core : ["==", "=", "**", "*", "//", "/", ":", "+", "-", ",", "."] ⊆ s.members

theorem Reachable.wellFormed (h : s.Reachable) : s.WellFormed where
  distinct := h.nodup
  operators := h.forall_mem fun _ _ => isOperator_of_admits
  core := members_core ▸ h.core_subset

/-- Some operators with the longest first; those of one length stand as they did. -/
structure LongestFirst (members ordered : List String) : Prop where
  perm : ordered.Perm members
  sorted : ordered.Pairwise fun a b => b.length ≤ a.length
  stable : ∀ n, (ordered.filter fun op => op.length == n) = members.filter fun op => op.length == n

theorem longestFirst_matchOrder (s : OperatorSet) : LongestFirst s.members s.matchOrder := by
  have hperm : s.matchOrder.Perm s.members := List.mergeSort_perm ..
  refine ⟨hperm, s.pairwise_matchOrder, ?_⟩
  intro n
  -- operators of one length are in order, so they come out of the sorting as they went in
  have hequal : (s.members.filter fun op => op.length == n).Pairwise
      fun a b => decide (b.length ≤ a.length) = true := by
    apply List.pairwise_of_forall_mem_list
    intro a ha b hb
    have hlength : a.length = n := by simpa using (List.mem_filter.mp ha).2
    have hlength' : b.length = n := by simpa using (List.mem_filter.mp hb).2
    rw [decide_eq_true_eq, hlength, hlength']
  have hsub : (s.members.filter fun op => op.length == n).Sublist s.matchOrder :=
    List.sublist_mergeSort length_le_trans length_le_total hequal List.filter_sublist
  have hfilter := hsub.filter fun op => op.length == n
  rw [List.filter_filter] at hfilter
  simp only [Bool.and_self] at hfilter
  exact (hfilter.eq_of_length (hperm.filter _).length_eq.symm).symm

/-- Whatever is added to a set a person can start from, its operators are distinct, none is blank or
a bracket or has white space on its ends, and the core is among them. Those of the start come
first, behind them those that were taken, in the order of their first addition. Adding again what
was added before changes nothing; operators listed in a text can as well be added as the pieces of
that text. The operators are matched the longest first, those of one length as they were added. -/
theorem operators_after_additions (h : Initial start) (additions : List Addition) :
    (start.addAll additions).WellFormed ∧
    (start.addAll additions).members = start.members ++ start.accepted (given additions) ∧
    (∀ again : List Addition, given again ⊆ given additions →
      (start.addAll additions).addAll again = start.addAll additions) ∧
    (∀ v : String, Text.IsCut ',' v (Text.stringPieces ',' v) ∧
      (start.addAll additions).add (.many (listOfText v)) =
        (start.addAll additions).add (.many (Text.stringPieces ',' v))) ∧
    LongestFirst (start.addAll additions).members (start.addAll additions).matchOrder := by
  refine ⟨(h.reachable additions).wellFormed, ?_, ?_, ?_, longestFirst_matchOrder _⟩
  · rw [addAll_eq_insertMany, members_insertMany]
  · intro again hagain
    rw [addAll_eq_insertMany _ again]
    apply insertMany_eq_self
    intro x hx
    rw [addAll_eq_insertMany]
    exact admits_of_mem_given (hagain hx)
  · intro v
    exact ⟨Text.isCut_stringPieces ',' v, insertMany_trimmed _ _⟩

/-- Brackets, blanks and repetitions among what is added to the default. -/
theorem operators_after_additions_repeated :
    let additions : List Addition := [.one " ?? ", .many ["(", "é\u00a0", "??", "\t", "=="]]
    let again : List Addition := [.many ["é\u00a0", " ?? "], .one "("]
    Initial default ∧ given again ⊆ given additions ∧
      ((default : OperatorSet).addAll additions).members = core.members ++ ["??", "é"] ∧
      ((default : OperatorSet).addAll additions).addAll again =
        (default : OperatorSet).addAll additions ∧
      ((default : OperatorSet).addAll additions).members.Nodup := by
  intro additions again
  have hagain : given again ⊆ given additions := by
    decide
  obtain ⟨hwell, hmembers, hsame, -, -⟩ := operators_after_additions .default additions
  have haccepted : (default : OperatorSet).accepted (given additions) = ["??", "é"] := by
    decide +kernel
  rw [haccepted] at hmembers
  exact ⟨.default, hagain, hmembers, hsame again hagain, hwell.distinct⟩

end OperatorSet

end Offside
