import Offside.Proofs.Language

/-!
# Where the preferred match is the longest

The way that a match prefers need not be the longest. It is the longest for the patterns in which
one character tells whether to go on: `Pattern.Decided`. What follows a part of such a pattern
cannot begin with a character before which a shorter match of the part could have stopped.
-/

namespace Offside

set_option autoImplicit false

namespace Reach

variable {z w : Reach}

theorem Leads.count_le (h : z.Leads w) : z.count ≤ w.count := by
  obtain ⟨taken, -, hcount⟩ := h
  rw [hcount]
  exact Nat.le_add_right ..

theorem Leads.count_lt (h : z.Leads w) (hlt : w.rest.length < z.rest.length) :
    z.count < w.count := by
  obtain ⟨taken, hrest, hcount⟩ := h
  rw [hrest, List.length_append] at hlt
  omega

def Descending (ws : List Reach) : Prop := ws.Pairwise fun v w => w.count ≤ v.count

theorem Descending.le_head {ws : List Reach} {v : Reach} (h : Descending ws)
    (hv : ws.head? = some v) (hw : w ∈ ws) : w.count ≤ v.count := by
  obtain ⟨others, rfl⟩ := List.head?_eq_some_iff.mp hv
  rcases List.mem_cons.mp hw with rfl | hw
  · exact Nat.le_refl _
  · exact (List.pairwise_cons.mp h).1 w hw

end Reach

def CharSet.isAscii : CharSet → Bool
  | just c => c.toNat < 128
  | within ranges => ranges.all fun r => r.2.toNat < 128
  | _ => false

theorem CharSet.lt_of_holds {s : CharSet} {c : Char} (h : s.isAscii = true)
    (hc : s.holds c = true) : c.toNat < 128 := by
  cases s with
  | just d =>
    rw [beq_iff_eq.mp hc]
    exact of_decide_eq_true h
  | within ranges =>
    obtain ⟨r, hr, hrc⟩ := List.any_eq_true.mp hc
    rw [Bool.and_eq_true, decide_eq_true_eq, decide_eq_true_eq] at hrc
    have hlast := of_decide_eq_true (List.all_eq_true.mp h r hr)
    exact Nat.lt_of_le_of_lt (UInt32.le_iff_toNat_le.mp hrc.2) hlast
  | any => cases h
  | word => cases h
  | without excluded => cases h

namespace Pattern

def isAscii : Pattern → Bool
  | piece (.one s) => s.isAscii
  | piece _ => false
  | literal text => text.all fun c => c.toNat < 128
  | seq p q => p.isAscii && q.isAscii
  | alt p q => p.isAscii && q.isAscii
  | opt p => p.isAscii
  | reps (.one s) _ _ _ => s.isAscii
  | reps _ _ _ _ => false

theorem lt_of_starts {p : Pattern} {c : Char} (h : p.isAscii = true) (hc : p.starts c = true) :
    c.toNat < 128 := by
  induction p with
  | piece p =>
    cases p with
    | one s => exact s.lt_of_holds h hc
    | two => cases h
    | either => cases h
  | literal text =>
    have hmem : c ∈ text := List.mem_of_head? (beq_iff_eq.mp hc)
    exact of_decide_eq_true (List.all_eq_true.mp h c hmem)
  | seq p q ihp ihq =>
    rw [isAscii, Bool.and_eq_true] at h
    rw [starts, Bool.or_eq_true, Bool.and_eq_true] at hc
    rcases hc with hc | hc
    · exact ihp h.1 hc
    · exact ihq h.2 hc.2
  | alt p q ihp ihq =>
    rw [isAscii, Bool.and_eq_true] at h
    rw [starts, Bool.or_eq_true] at hc
    rcases hc with hc | hc
    · exact ihp h.1 hc
    · exact ihq h.2 hc
  | opt p ih => exact ih h hc
  | reps p least most mode =>
    cases p with
    | one s => exact s.lt_of_holds h hc
    | two => cases h
    | either => cases h

/-- The characters before which a match that is not the preferred one can stop. -/
def resumes : Pattern → Char → Bool
  | piece _, _ => false
  | literal _, _ => false
  | seq p q, c => q.nullable && p.resumes c || q.resumes c
  | alt p q, c => p.resumes c || q.resumes c
  | opt p, c => p.starts c || p.resumes c
  | reps p _ _ _, c => p.starts c

/-- Patterns in which one character tells whether to go on, and then to go on is preferred. -/
inductive Decided : Pattern → Prop
  | piece (p : Piece) : Decided (piece p)
  | literal (text : List Char) : Decided (literal text)
  | seq {p q : Pattern} (hp : Decided p) (hq : Decided q)
      (h : ∀ c, p.resumes c = true → q.starts c = false) : Decided (seq p q)
  | alt {p q : Pattern} (hp : Decided p) (hq : Decided q) (hpn : p.nullable = false)
      (hqn : q.nullable = false) (h : ∀ c, p.starts c = true → q.starts c = false) :
      Decided (alt p q)
  | opt {p : Pattern} (hp : Decided p) (hpn : p.nullable = false) : Decided (opt p)
  | run (s : CharSet) (least : Nat) (most : Option Nat) : Decided (reps (.one s) least most .greedy)

variable {p q : Pattern} {z v w : Reach} {text u : List Char}

/-- The condition on what follows can be checked character by character if that is ASCII. -/
theorem Decided.followedBy (hp : p.Decided) (hq : q.Decided) (hascii : q.isAscii = true)
    (h : ∀ n : Fin 128, p.resumes (Char.ofNat n) = true → q.starts (Char.ofNat n) = false) :
    (Pattern.seq p q).Decided := by
  refine .seq hp hq fun c hc => ?_
  by_contra hs
  rw [Bool.not_eq_false] at hs
  have hchar := h ⟨c.toNat, lt_of_starts hascii hs⟩
  simp only [Char.ofNat_toNat] at hchar
  rw [hchar hc] at hs
  cases hs

/-- A match of a pattern that cannot take nothing goes forward. -/
theorem count_lt_of_mem_ways (hn : p.nullable = false) (h : w ∈ p.ways z) : z.count < w.count := by
  induction p generalizing z w with
  | piece p =>
    have hstep := Option.mem_toList.mp h
    exact (Piece.leads_of_step? hstep).count_lt (Piece.rest_length_lt hstep)
  | literal text =>
    rw [mem_ways_literal] at h
    have hne : text ≠ [] := by simpa [nullable] using hn
    have hpos := List.length_pos_iff.mpr hne
    have hcount := h.2
    omega
  | seq p q ihp ihq =>
    obtain ⟨v, hv, hw⟩ := List.mem_flatMap.mp h
    rw [nullable, Bool.and_eq_false_iff] at hn
    rcases hn with hn | hn
    · exact Nat.lt_of_lt_of_le (ihp hn hv) (leads_of_mem_ways hw).count_le
    · exact Nat.lt_of_le_of_lt (leads_of_mem_ways hv).count_le (ihq hn hw)
  | alt p q ihp ihq =>
    rw [nullable, Bool.or_eq_false_iff] at hn
    rcases List.mem_append.mp h with h | h
    · exact ihp hn.1 h
    · exact ihq hn.2 h
  | opt p ih => cases hn
  | reps p least most mode =>
    have hw := mem_ways_reps h
    cases least with
    | zero => cases hn
    | succ k =>
      cases hs : p.step? z with
      | none =>
        rw [Piece.places_of_none hs] at hw
        simp at hw
      | some v =>
        rw [Piece.places_of_some hs, List.drop_succ_cons] at hw
        have hfirst := (Piece.leads_of_step? hs).count_lt (Piece.rest_length_lt hs)
        have hmore := (Piece.leads_of_mem_places (List.mem_of_mem_drop hw)).count_le
        exact Nat.lt_of_lt_of_le hfirst hmore

theorem starts_of_mem_ways_of_not_nullable (hn : p.nullable = false) (h : w ∈ p.ways z) :
    ∃ c rest, z.rest = c :: rest ∧ p.starts c = true := by
  obtain ⟨n, rest⟩ := z
  cases rest with
  | nil =>
    obtain ⟨taken, hrest, hcount⟩ := leads_of_mem_ways h
    have hlt := count_lt_of_mem_ways hn h
    simp_all
  | cons c rest =>
    rcases starts_of_mem_ways h with ⟨-, hnull⟩ | hs
    · rw [hn] at hnull
      cases hnull
    · exact ⟨c, rest, rfl, hs⟩

/-- The way `w` is shorter than `v`, and it stops where the pattern could go on. -/
def Shorter (p : Pattern) (v w : Reach) : Prop :=
  w.count < v.count ∧ ∃ c rest, w.rest = c :: rest ∧ p.resumes c = true

theorem Shorter.mono (h : p.Shorter v w) (hpq : ∀ c, p.resumes c = true → q.resumes c = true) :
    q.Shorter v w := by
  obtain ⟨hlt, c, rest, hrest, hc⟩ := h
  exact ⟨hlt, c, rest, hrest, hpq c hc⟩

theorem holds_of_lt_run {s : CharSet} {i : Nat} (h : i < (text.takeWhile s.holds).length) :
    ∃ c rest, text.drop i = c :: rest ∧ s.holds c = true := by
  have htext : text.takeWhile s.holds ++ text.dropWhile s.holds = text :=
    List.takeWhile_append_dropWhile
  have hdrop : text.drop i = (text.takeWhile s.holds).drop i ++ text.dropWhile s.holds := by
    rw [← List.drop_append_of_le_length (Nat.le_of_lt h), htext]
  rw [hdrop, List.drop_eq_getElem_cons h]
  exact ⟨_, _, rfl, List.mem_takeWhile_imp (List.getElem_mem h)⟩

/-- A greedy run of characters of a set stops at its end or before one more of them. -/
theorem pairwise_run (s : CharSet) (least : Nat) (most : Option Nat) (z : Reach) :
    ((reps (.one s) least most .greedy).ways z).Pairwise
      (reps (.one s) least most .greedy).Shorter := by
  rw [ways_reps_one]
  simp only [List.pairwise_reverse, runPlaces, List.pairwise_map]
  refine List.Pairwise.imp_of_mem ?_ (List.pairwise_lt_range' ..)
  intro i j _ hj hij
  have hle : runLength s most z.rest ≤ (z.rest.takeWhile s.holds).length := by
    cases most with
    | none => exact Nat.le_refl _
    | some m => exact Nat.min_le_right ..
  obtain ⟨hfirst, hlast⟩ := List.mem_range'_1.mp hj
  have hwithin : i < (z.rest.takeWhile s.holds).length := by omega
  obtain ⟨c, rest, hrest, hc⟩ := holds_of_lt_run hwithin
  exact ⟨Nat.add_lt_add_left hij _, c, rest, hrest, hc⟩

/-- Each way to match such a pattern is shorter than those before it. -/
theorem Decided.pairwise_ways (h : p.Decided) (z : Reach) : (p.ways z).Pairwise p.Shorter := by
  induction h generalizing z with
  | piece p => cases hs : p.step? z <;> simp [ways, hs]
  | literal text =>
    rw [ways_literal]
    split
    · exact List.pairwise_singleton ..
    · exact .nil
  | @seq p q _ _ h ihp ihq =>
    rw [ways, List.pairwise_flatMap]
    constructor
    · intro v _
      exact (ihq v).imp fun hs => hs.mono fun c hc => by simp [resumes, hc]
    · refine (ihp z).imp ?_
      rintro v ⟨n, _⟩ ⟨hlt, c, rest, rfl, hc⟩ v' hv' w' hw'
      -- what follows cannot begin where the first part stopped early
      rcases starts_of_mem_ways hw' with ⟨rfl, hnull⟩ | hs
      · have hle := (leads_of_mem_ways hv').count_le
        exact ⟨Nat.lt_of_lt_of_le hlt hle, c, rest, rfl, by simp [resumes, hc, hnull]⟩
      · rw [h c hc] at hs
        cases hs
  | @alt p q _ _ hpn hqn h ihp ihq =>
    rw [ways, List.pairwise_append]
    refine ⟨(ihp z).imp fun hs => hs.mono fun c hc => by simp [resumes, hc],
      (ihq z).imp fun hs => hs.mono fun c hc => by simp [resumes, hc], ?_⟩
    intro v hv w hw
    obtain ⟨c, rest, hrest, hc⟩ := starts_of_mem_ways_of_not_nullable hpn hv
    obtain ⟨d, rest', hrest', hd⟩ := starts_of_mem_ways_of_not_nullable hqn hw
    obtain ⟨rfl, -⟩ := List.cons.inj (hrest.symm.trans hrest')
    rw [h c hc] at hd
    cases hd
  | @opt p _ hpn ih =>
    rw [ways, List.pairwise_append]
    refine ⟨(ih z).imp fun hs => hs.mono fun c hc => by simp [resumes, hc],
      List.pairwise_singleton .., ?_⟩
    intro v hv w hw
    obtain rfl := List.mem_singleton.mp hw
    obtain ⟨c, rest, hrest, hc⟩ := starts_of_mem_ways_of_not_nullable hpn hv
    exact ⟨count_lt_of_mem_ways hpn hv, c, rest, hrest, by simp [resumes, hc]⟩
  | run s least most => exact pairwise_run s least most z

theorem Decided.descending (h : p.Decided) (z : Reach) : Reach.Descending (p.ways z) :=
  (h.pairwise_ways z).imp fun hs => Nat.le_of_lt hs.1

/-- Where the ways to match a pattern come longest first, the match takes the longest beginning of
the text for which the pattern stands. -/
theorem length_le_of_match? (hp : p.isSingle = true) (h : Reach.Descending (p.ways ⟨0, text⟩))
    (hm : p.match? text = some v) (hu : p.Spells u) (hbegins : u <+: text) :
    u.length ≤ v.count := by
  obtain ⟨rest, rfl⟩ := hbegins
  rw [match?_eq_head?] at hm
  refine h.le_head (w := ⟨u.length, rest⟩) hm ?_
  exact (mem_ways_iff hp).mpr ⟨u, hu, rfl, (Nat.zero_add _).symm⟩

theorem starts_of_spells (hp : p.isSingle = true) (hn : p.nullable = false) (hu : p.Spells u)
    (hbegins : u <+: text) : ∃ c rest, text = c :: rest ∧ p.starts c = true := by
  obtain ⟨rest, rfl⟩ := hbegins
  have hway : (⟨0 + u.length, rest⟩ : Reach) ∈ p.ways ⟨0, u ++ rest⟩ :=
    (mem_ways_iff hp).mpr ⟨u, hu, rfl, rfl⟩
  exact starts_of_mem_ways_of_not_nullable hn hway

theorem spells_of_match? (hp : p.isSingle = true) (hm : p.match? text = some v) :
    p.Spells (text.take v.count) := by
  rw [match?_eq_head?] at hm
  obtain ⟨u, hu, hrest, hcount⟩ := (mem_ways_iff hp).mp (List.mem_of_head? hm)
  simp only [Nat.zero_add] at hrest hcount
  rw [hrest, hcount, List.take_left]
  exact hu

end Pattern

end Offside
