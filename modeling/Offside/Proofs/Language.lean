import Offside.Pattern.Reach
import Offside.Proofs.Matching

/-!
# The texts a pattern stands for

Apart from the order in which a match prefers them, a pattern stands for a set of texts:
`Pattern.Spells`. For patterns of single characters the ways to match are just those texts that the
place begins with (`Pattern.mem_ways_iff`).
-/

namespace Offside

set_option autoImplicit false

namespace Reach

/-- The way from `z` to `w` takes the text `u`. -/
def Takes (z : Reach) (u : List Char) (w : Reach) : Prop :=
  z.rest = u ++ w.rest ∧ w.count = z.count + u.length

variable {x y z : Reach} {u v : List Char}

theorem takes_nil : x.Takes [] y ↔ y = x := by
  constructor
  · rintro ⟨hrest, hcount⟩
    cases x
    cases y
    simp_all
  · rintro rfl
    exact ⟨rfl, rfl⟩

theorem takes_append : x.Takes (u ++ v) z ↔ ∃ y, x.Takes u y ∧ y.Takes v z := by
  constructor
  · rintro ⟨hrest, hcount⟩
    refine ⟨⟨x.count + u.length, v ++ z.rest⟩, ⟨?_, rfl⟩, rfl, ?_⟩
    · rw [hrest, List.append_assoc]
    · rw [hcount, List.length_append, Nat.add_assoc]
  · rintro ⟨y, ⟨hrest, hcount⟩, hrest', hcount'⟩
    refine ⟨?_, ?_⟩
    · rw [hrest, hrest', List.append_assoc]
    · rw [hcount', hcount, List.length_append, Nat.add_assoc]

end Reach

namespace Piece

def Spells : Piece → List Char → Prop
  | one s, u => ∃ c, s.holds c = true ∧ u = [c]
  | two s t, u => ∃ c d, s.holds c = true ∧ t.holds d = true ∧ u = [c, d]
  | either p q, u => p.Spells u ∨ q.Spells u

inductive Times (p : Piece) : Nat → List Char → Prop
  | zero : Times p 0 []
  | succ {k : Nat} {u v : List Char} (h : p.Spells u) (hv : Times p k v) : Times p (k + 1) (u ++ v)

theorem times_one {s : CharSet} {k : Nat} {u : List Char} :
    (one s).Times k u ↔ u.length = k ∧ ∀ c ∈ u, s.holds c = true := by
  constructor
  · intro h
    induction h with
    | zero => simp
    | succ h _ ih =>
      obtain ⟨c, hc, rfl⟩ := h
      obtain ⟨hlength, hall⟩ := ih
      simp [hlength, hc]
      exact hall
  · rintro ⟨rfl, hall⟩
    induction u with
    | nil => exact .zero
    | cons c u ih =>
      exact .succ (u := [c]) ⟨c, hall c List.mem_cons_self, rfl⟩
        (ih fun d hd => hall d (List.mem_cons_of_mem c hd))

end Piece

namespace Pattern

def Spells : Pattern → List Char → Prop
  | piece p, u => p.Spells u
  | literal text, u => u = text
  | seq p q, u => ∃ v w, p.Spells v ∧ q.Spells w ∧ u = v ++ w
  | alt p q, u => p.Spells u ∨ q.Spells u
  | opt p, u => p.Spells u ∨ u = []
  | reps p least most _, u => ∃ k, least ≤ k ∧ (∀ m ∈ most, k ≤ m) ∧ p.Times k u

def isSingle : Pattern → Bool
  | piece (.one _) => true
  | piece _ => false
  | literal _ => true
  | seq p q => p.isSingle && q.isSingle
  | alt p q => p.isSingle && q.isSingle
  | opt p => p.isSingle
  | reps (.one _) _ _ _ => true
  | reps _ _ _ _ => false

theorem spells_seq {p q : Pattern} {u : List Char} :
    (seq p q).Spells u ↔ ∃ v w, p.Spells v ∧ q.Spells w ∧ u = v ++ w := Iff.rfl

theorem spells_alt {p q : Pattern} {u : List Char} :
    (alt p q).Spells u ↔ p.Spells u ∨ q.Spells u := Iff.rfl

theorem spells_opt {p : Pattern} {u : List Char} : (opt p).Spells u ↔ p.Spells u ∨ u = [] :=
  Iff.rfl

theorem spells_reps_one {s : CharSet} {least : Nat} {most : Option Nat} {mode : Mode}
    {u : List Char} :
    (reps (.one s) least most mode).Spells u ↔
      least ≤ u.length ∧ (∀ m ∈ most, u.length ≤ m) ∧ ∀ c ∈ u, s.holds c = true := by
  simp only [Spells, Piece.times_one]
  constructor
  · rintro ⟨k, hleast, hmost, rfl, hall⟩
    exact ⟨hleast, hmost, hall⟩
  · rintro ⟨hleast, hmost, hall⟩
    exact ⟨u.length, hleast, hmost, rfl, hall⟩

/-- Behind how many characters the repetition of a set can stop, at most. -/
def runLength (s : CharSet) (most : Option Nat) (text : List Char) : Nat :=
  match most with
  | none => (text.takeWhile s.holds).length
  | some m => min m (text.takeWhile s.holds).length

/-- The places at which the repetition of a set can stop, the nearest first. -/
def runPlaces (s : CharSet) (least : Nat) (most : Option Nat) (z : Reach) : List Reach :=
  (List.range' least (runLength s most z.rest + 1 - least)).map
    fun i => ⟨z.count + i, z.rest.drop i⟩

theorem ways_reps_one (s : CharSet) (least : Nat) (most : Option Nat) (mode : Mode) (z : Reach) :
    (reps (.one s) least most mode).ways z =
      match mode with
      | .greedy => (runPlaces s least most z).reverse
      | .lazy => runPlaces s least most z := by
  have hall : ((Piece.one s).places z).drop least = runPlaces s least none z := by
    rw [runPlaces, Piece.places_one, ← List.map_drop, List.range_eq_range', List.drop_range']
    simp [runLength]
  have hsome : ∀ m, (((Piece.one s).places z).take (m + 1)).drop least =
      runPlaces s least (some m) z := by
    intro m
    rw [runPlaces, Piece.places_one, ← List.map_take, List.take_range, ← List.map_drop,
      List.range_eq_range', List.drop_range']
    simp [runLength, Nat.add_min_add_right]
  cases most <;> cases mode <;> simp only [ways, hall, hsome]

theorem mem_runPlaces {s : CharSet} {least : Nat} {most : Option Nat} {z w : Reach} :
    w ∈ runPlaces s least most z ↔
      ∃ i, least ≤ i ∧ (∀ m ∈ most, i ≤ m) ∧ i ≤ (z.rest.takeWhile s.holds).length ∧
        w = ⟨z.count + i, z.rest.drop i⟩ := by
  simp only [runPlaces, List.mem_map, List.mem_range'_1]
  refine exists_congr fun i => ?_
  rw [← and_assoc, ← and_assoc]
  refine and_congr ?_ eq_comm
  cases most with
  | none =>
    simp [runLength]
    omega
  | some m =>
    simp [runLength]
    omega

theorem mem_runPlaces_iff_takes {s : CharSet} {least : Nat} {most : Option Nat} {z w : Reach} :
    w ∈ runPlaces s least most z ↔
      ∃ u, (least ≤ u.length ∧ (∀ m ∈ most, u.length ≤ m) ∧ ∀ c ∈ u, s.holds c = true) ∧
        z.Takes u w := by
  rw [mem_runPlaces]
  constructor
  · rintro ⟨i, hleast, hmost, hle, rfl⟩
    have hlength : (z.rest.take i).length = i := by
      have hrun := (List.takeWhile_prefix (l := z.rest) s.holds).length_le
      rw [List.length_take]
      omega
    have hbegins : z.rest.take i <+: z.rest.takeWhile s.holds :=
      List.prefix_of_prefix_length_le (List.take_prefix i _) (List.takeWhile_prefix _)
        (hlength.symm ▸ hle)
    refine ⟨z.rest.take i, ⟨hlength.symm ▸ hleast, hlength.symm ▸ hmost, ?_⟩, ?_, ?_⟩
    · intro c hc
      exact List.mem_takeWhile_imp (hbegins.subset hc)
    · rw [List.take_append_drop]
    · rw [hlength]
  · rintro ⟨u, ⟨hleast, hmost, hall⟩, hrest, hcount⟩
    refine ⟨u.length, hleast, hmost, ?_, ?_⟩
    · rw [hrest, List.takeWhile_append_of_pos hall, List.length_append]
      exact Nat.le_add_right ..
    · rw [hrest, List.drop_left, ← hcount]

theorem mem_ways_one {s : CharSet} {z w : Reach} :
    w ∈ (piece (.one s)).ways z ↔ ∃ u, (Piece.one s).Spells u ∧ z.Takes u w := by
  obtain ⟨n, rest⟩ := z
  cases rest with
  | nil =>
    simp [ways, Piece.step?, Piece.Spells, Reach.Takes]
  | cons d rest =>
    rw [ways_one]
    constructor
    · intro h
      split at h
      · rename_i hd
        rw [List.mem_singleton.mp h]
        exact ⟨[d], ⟨d, hd, rfl⟩, rfl, rfl⟩
      · cases h
    · rintro ⟨u, ⟨c, hc, rfl⟩, hrest, hcount⟩
      obtain ⟨rfl, rfl⟩ := List.cons.inj hrest
      rw [if_pos hc, List.mem_singleton]
      cases w
      exact congrArg (Reach.mk · _) hcount

theorem mem_ways_literal {text : List Char} {z w : Reach} :
    w ∈ (literal text).ways z ↔ z.Takes text w := by
  rw [ways_literal]
  constructor
  · intro h
    split at h
    · rename_i hbegins
      obtain ⟨rest, hrest⟩ := List.isPrefixOf_iff_prefix.mp hbegins
      rw [List.mem_singleton.mp h, ← hrest, List.drop_left]
      exact ⟨hrest.symm, rfl⟩
    · cases h
  · rintro ⟨hrest, hcount⟩
    have hbegins : text.isPrefixOf z.rest = true := by
      rw [List.isPrefixOf_iff_prefix, hrest]
      exact List.prefix_append ..
    rw [if_pos hbegins, List.mem_singleton, hrest, List.drop_left, ← hcount]

/-- The ways to match a pattern of single characters are the beginnings of the text for which the
pattern stands. -/
theorem mem_ways_iff {p : Pattern} (h : p.isSingle = true) {z w : Reach} :
    w ∈ p.ways z ↔ ∃ u, p.Spells u ∧ z.Takes u w := by
  induction p generalizing z w with
  | piece p =>
    cases p with
    | two => cases h
    | either => cases h
    | one s => exact mem_ways_one
  | literal text => simp only [mem_ways_literal, Spells, exists_eq_left]
  | seq p q ihp ihq =>
    rw [isSingle, Bool.and_eq_true] at h
    simp only [ways, List.mem_flatMap, ihp h.1, ihq h.2, Spells]
    constructor
    · rintro ⟨y, ⟨u, hu, hy⟩, v, hv, hw⟩
      exact ⟨u ++ v, ⟨u, v, hu, hv, rfl⟩, Reach.takes_append.mpr ⟨y, hy, hw⟩⟩
    · rintro ⟨_, ⟨u, v, hu, hv, rfl⟩, hw⟩
      obtain ⟨y, hy, hw⟩ := Reach.takes_append.mp hw
      exact ⟨y, ⟨u, hu, hy⟩, v, hv, hw⟩
  | alt p q ihp ihq =>
    rw [isSingle, Bool.and_eq_true] at h
    simp only [ways, List.mem_append, ihp h.1, ihq h.2, Spells, or_and_right, exists_or]
  | opt p ih =>
    simp only [ways, List.mem_append, List.mem_singleton, ih h, Spells, or_and_right, exists_or,
      exists_eq_left, Reach.takes_nil]
  | reps p least most mode =>
    cases p with
    | two => cases h
    | either => cases h
    | one s =>
      have hmem : w ∈ (reps (.one s) least most mode).ways z ↔ w ∈ runPlaces s least most z := by
        rw [ways_reps_one]
        cases mode with
        | greedy => exact List.mem_reverse
        | lazy => exact Iff.rfl
      rw [hmem, mem_runPlaces_iff_takes]
      simp only [spells_reps_one]

end Pattern

end Offside
