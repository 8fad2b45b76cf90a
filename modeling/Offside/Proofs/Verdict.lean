import Offside.Comparison

/-!
# What the verdict of a comparison says

The places behind the end of the shorter stream are compared with `Token.missing`, which no token
can be told from that has its kind and its text. So the verdict is about the common places and about
what the longer stream has beyond them.
-/

namespace Offside

set_option autoImplicit false

namespace TokenStream

variable {s ours theirs : TokenStream} {t : Token} {i : Nat}

theorem look_of_get? (h : s.get? i = some t) : s.look i = t := by
  rw [look, h]
  rfl

theorem look_of_le (h : s.size ≤ i) : s.look i = .missing := by
  rw [look, get?, Array.getElem?_eq_none h]
  rfl

theorem lt_size_of_get? (h : s.get? i = some t) : i < s.size :=
  (Array.getElem?_eq_some_iff.mp h).1

theorem get?_of_lt (h : i < s.size) : s.get? i = some (s.look i) := by
  rw [look, get?, Array.getElem?_eq_getElem h]
  rfl

def AgreeWithin (ours theirs : TokenStream) : Prop :=
  ∀ i t u, ours.get? i = some t → theirs.get? i = some u → t.kind = u.kind ∧ t.text = u.text

/-- From a place on, a stream has nothing but tokens of the kind and the text of `Token.missing`. -/
def OnlyStandIns (s : TokenStream) (place : Nat) : Prop :=
  ∀ i t, place ≤ i → s.get? i = some t → t.kind = .unknown ∧ t.text = "undefined"

end TokenStream

namespace Comparison

open TokenStream

variable {ours theirs : TokenStream}

theorem firstDifference?_eq_none {i bound : Nat} :
    firstDifference? ours theirs i bound = none ↔
      ∀ k, i ≤ k → k < bound → (ours.look k).agrees (theirs.look k) = true := by
  fun_induction firstDifference? ours theirs i bound with
  | case1 i hi ha ih =>
    rw [ih]
    constructor
    · intro h k hk hb
      rcases Nat.eq_or_lt_of_le hk with rfl | hk
      · exact ha
      · exact h k hk hb
    · intro h k hk hb
      exact h k (by omega) hb
  | case2 i hi ha =>
    constructor
    · nofun
    · intro h
      exact absurd (h i (Nat.le_refl i) hi) ha
  | case3 i hi =>
    constructor
    · intro _ k hk hb
      omega
    · intro _
      rfl

theorem isMatch_iff_look {label : String} :
    (ofStreams ours theirs label).isMatch = true ↔
      ∀ k, k < max ours.size theirs.size → (ours.look k).agrees (theirs.look k) = true := by
  rw [isMatch, ofStreams, Option.isNone_iff_eq_none, Option.map_eq_none_iff,
    firstDifference?_eq_none]
  constructor
  · intro h k hk
    exact h k (Nat.zero_le k) hk
  · intro h k _ hk
    exact h k hk

/-- Two streams are said to match if they agree at their common places and each has nothing beyond
them but stand-ins. -/
theorem isMatch_iff_standIns {label : String} :
    (ofStreams ours theirs label).isMatch = true ↔
      AgreeWithin ours theirs ∧ OnlyStandIns ours theirs.size ∧ OnlyStandIns theirs ours.size := by
  rw [isMatch_iff_look]
  constructor
  · intro h
    refine ⟨?_, ?_, ?_⟩
    · intro i t u ht hu
      have hagree := h i (Nat.lt_of_lt_of_le (lt_size_of_get? ht) (Nat.le_max_left ..))
      rw [look_of_get? ht, look_of_get? hu] at hagree
      exact Token.agrees_iff.mp hagree
    · intro i t hle ht
      have hagree := h i (Nat.lt_of_lt_of_le (lt_size_of_get? ht) (Nat.le_max_left ..))
      rw [look_of_get? ht, look_of_le hle] at hagree
      exact Token.agrees_iff.mp hagree
    · intro i u hle hu
      have hagree := h i (Nat.lt_of_lt_of_le (lt_size_of_get? hu) (Nat.le_max_right ..))
      rw [look_of_get? hu, look_of_le hle, Token.agrees_comm] at hagree
      exact Token.agrees_iff.mp hagree
  · rintro ⟨hcommon, hours, htheirs⟩ k hk
    rw [Token.agrees_iff]
    -- a common place, or one that only one of the two has
    by_cases ho : k < ours.size
    · by_cases ht : k < theirs.size
      · exact hcommon k _ _ (get?_of_lt ho) (get?_of_lt ht)
      · rw [look_of_le (Nat.not_lt.mp ht)]
        exact hours k _ (Nat.not_lt.mp ht) (get?_of_lt ho)
    · obtain ⟨hkind, htext⟩ := htheirs k _ (Nat.not_lt.mp ho) (get?_of_lt (by omega))
      rw [look_of_le (Nat.not_lt.mp ho)]
      exact ⟨hkind.symm, htext.symm⟩

def Same (ours theirs : TokenStream) : Prop :=
  ours.size = theirs.size ∧ AgreeWithin ours theirs

/-- The verdict is that of `Same` but for streams of different lengths where the longer one goes on
with stand-ins only. -/
theorem isMatch_exact (ours theirs : TokenStream) (label : String) :
    ((ofStreams ours theirs label).isMatch = true ↔
      Same ours theirs ∨ ours.size ≠ theirs.size ∧ AgreeWithin ours theirs ∧
        OnlyStandIns ours theirs.size ∧ OnlyStandIns theirs ours.size) := by
  rw [isMatch_iff_standIns]
  constructor
  · rintro ⟨hcommon, hours, htheirs⟩
    by_cases hsize : ours.size = theirs.size
    · exact .inl ⟨hsize, hcommon⟩
    · exact .inr ⟨hsize, hcommon, hours, htheirs⟩
  · rintro (⟨hsize, hcommon⟩ | ⟨-, hcommon, hours, htheirs⟩)
    · refine ⟨hcommon, ?_, ?_⟩
      · intro i t hle ht
        have hlt := lt_size_of_get? ht
        omega
      · intro i t hle ht
        have hlt := lt_size_of_get? ht
        omega
    · exact ⟨hcommon, hours, htheirs⟩

/-- A stream matches a longer one that goes on with a token of an unknown kind. -/
theorem isMatch_stand_in :
    let x : Token := ⟨.name, "x", .of 1 0, .of 1 1⟩
    let ours := ofList [x]
    let theirs := ofList [x, ⟨.unknown, "undefined", .of 1 2, .of 1 11⟩]
    (ofStreams ours theirs defaultLabel).isMatch = true ∧ ¬ Same ours theirs := by
  refine ⟨by decide +kernel, ?_⟩
  rintro ⟨hsize, -⟩
  exact absurd hsize (by decide)

end Comparison

end Offside
