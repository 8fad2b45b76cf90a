import Offside.Proofs.Classification
import Mathlib.Data.List.Infix

/-!
# What matches depend on

If the end of a text is exchanged for one into which no part of a pattern reaches, the ways to match
the pattern are those that stopped before the old end, in the same order (`Pattern.ways_exchange`).
A character that no part of the pattern takes begins such an end. `Entry.Keeps` is what follows for
an entry of the table.
-/

namespace Offside

set_option autoImplicit false

namespace Reach

/-- A place before the end `a` of a text, once the end is exchanged for `b`. -/
def exchange? (a b : List Char) (z : Reach) : Option Reach :=
  if a.length ≤ z.rest.length then
    some ⟨z.count, z.rest.take (z.rest.length - a.length) ++ b⟩
  else none

variable {a b head : List Char} {n : Nat} {z : Reach}

theorem exchange?_append (a b head : List Char) (n : Nat) :
    exchange? a b ⟨n, head ++ a⟩ = some ⟨n, head ++ b⟩ := by
  simp [exchange?]

theorem exchange?_of_lt (h : z.rest.length < a.length) : exchange? a b z = none :=
  if_neg (Nat.not_le.mpr h)

theorem Leads.before_or_within (h : Leads ⟨n, head ++ a⟩ z) :
    (∃ more, z.rest = more ++ a) ∨ z.rest.length < a.length := by
  obtain ⟨taken, htaken, -⟩ := h
  have hz : z.rest <:+ head ++ a := ⟨taken, htaken.symm⟩
  rcases List.suffix_or_suffix_of_suffix hz (List.suffix_append head a) with hs | hs
  · rcases Nat.lt_or_ge z.rest.length a.length with hlt | hge
    · exact .inr hlt
    · exact .inl ⟨[], hs.eq_of_length_le hge⟩
  · obtain ⟨more, hmore⟩ := hs
    exact .inl ⟨more, hmore.symm⟩

theorem Leads.length_le {w : Reach} (h : z.Leads w) : w.rest.length ≤ z.rest.length := by
  obtain ⟨taken, htaken, -⟩ := h
  rw [htaken, List.length_append]
  exact Nat.le_add_left ..

/-- The places of one list that lie before the end are those of the other, and they come first. -/
def Exchanged (a b : List Char) (zs zs' : List Reach) : Prop :=
  ∃ near far, zs = near ++ far ∧ near.map (exchange? a b) = zs'.map some ∧
    ∀ z ∈ far, exchange? a b z = none

variable {zs zs' : List Reach}

theorem Exchanged.take (h : Exchanged a b zs zs') (k : Nat) :
    Exchanged a b (zs.take k) (zs'.take k) := by
  obtain ⟨near, far, rfl, hnear, hfar⟩ := h
  refine ⟨near.take k, far.take (k - near.length), List.take_append, ?_, ?_⟩
  · rw [List.map_take, hnear, List.map_take]
  · intro z hz
    exact hfar z (List.mem_of_mem_take hz)

theorem Exchanged.drop (h : Exchanged a b zs zs') (k : Nat) :
    Exchanged a b (zs.drop k) (zs'.drop k) := by
  obtain ⟨near, far, rfl, hnear, hfar⟩ := h
  refine ⟨near.drop k, far.drop (k - near.length), List.drop_append, ?_, ?_⟩
  · rw [List.map_drop, hnear, List.map_drop]
  · intro z hz
    exact hfar z (List.mem_of_mem_drop hz)

theorem Exchanged.filterMap (h : Exchanged a b zs zs') : zs.filterMap (exchange? a b) = zs' := by
  obtain ⟨near, far, rfl, hnear, hfar⟩ := h
  rw [List.filterMap_append, List.filterMap_eq_nil_iff.mpr hfar, List.append_nil]
  calc
    near.filterMap (exchange? a b) = (near.map (exchange? a b)).filterMap id := by
      rw [List.filterMap_map]
      rfl
    _ = zs' := by
      rw [hnear, List.filterMap_map]
      exact List.filterMap_some

end Reach

open Reach

variable {a b head : List Char} {c : Char} {n : Nat}

namespace Piece

/-- Whether the steps from places before an end `b` are those that stop before the end `a`, which
stood there. -/
def Exchangeable (p : Piece) (a b : List Char) : Prop :=
  ∀ n head, p.step? ⟨n, head ++ b⟩ = (p.step? ⟨n, head ++ a⟩).bind (exchange? a b)

theorem places_exchange {p : Piece} (h : p.Exchangeable a b) :
    Exchanged a b (p.places ⟨n, head ++ a⟩) (p.places ⟨n, head ++ b⟩) := by
  induction hlen : head.length using Nat.strong_induction_on generalizing n head with
  | _ k ih =>
    have hnew := h n head
    cases hold : p.step? ⟨n, head ++ a⟩ with
    | none =>
      rw [hold, Option.bind_none] at hnew
      rw [places_of_none hold, places_of_none hnew]
      exact ⟨[_], [], rfl, by simp [exchange?_append], by simp⟩
    | some w =>
      rw [hold, Option.bind_some] at hnew
      rcases (leads_of_step? hold).before_or_within with ⟨more, hmore⟩ | hlt
      · obtain ⟨m, rest⟩ := w
        obtain rfl : rest = more ++ a := hmore
        rw [exchange?_append] at hnew
        have hshort : more.length < k := by
          have hlt := rest_length_lt hold
          simp only [List.length_append] at hlt
          omega
        obtain ⟨near, far, hplaces, hnear, hfar⟩ := ih _ hshort rfl
        rw [places_of_some hold, places_of_some hnew, hplaces]
        refine ⟨_ :: near, far, rfl, ?_, hfar⟩
        rw [List.map_cons, List.map_cons, hnear, exchange?_append]
      · rw [exchange?_of_lt hlt] at hnew
        rw [places_of_none hnew, places_of_some hold]
        refine ⟨[_], p.places w, rfl, by simp [exchange?_append], ?_⟩
        intro z hz
        exact exchange?_of_lt (Nat.lt_of_le_of_lt (leads_of_mem_places hz).length_le hlt)

def avoids (c : Char) : Piece → Bool
  | one s => !s.holds c
  | two _ _ => false
  | either _ _ => false

theorem exchangeable_of_avoids {p : Piece} (h : p.avoids c = true) :
    p.Exchangeable a (c :: b) := by
  intro n head
  cases p with
  | two => cases h
  | either => cases h
  | one s =>
    have hc : s.holds c = false := by simpa [avoids] using h
    cases head with
    | nil =>
      cases a with
      | nil => simp [step?, hc]
      | cons d a =>
        by_cases hd : s.holds d = true
        · simp [step?, hc, hd, exchange?]
        · simp [step?, hc, hd]
    | cons d head =>
      by_cases hd : s.holds d = true
      · simp [step?, hd, exchange?_append]
      · simp [step?, hd]

end Piece

namespace Pattern

/-- Whether the parts of a pattern do not reach into an end `b` and stop before it where they stop
before the end `a`. -/
def Exchangeable : Pattern → List Char → List Char → Prop
  | piece p, a, b => p.Exchangeable a b
  | literal text, _, b => ∀ head, text <+: head ++ b → text <+: head
  | seq p q, a, b => p.Exchangeable a b ∧ q.Exchangeable a b
  | alt p q, a, b => p.Exchangeable a b ∧ q.Exchangeable a b
  | opt p, a, b => p.Exchangeable a b
  | reps p _ _ _, a, b => p.Exchangeable a b

theorem literal_exchange {text : List Char} (h : (literal text).Exchangeable a b) :
    (literal text).ways ⟨n, head ++ b⟩ =
      ((literal text).ways ⟨n, head ++ a⟩).filterMap (exchange? a b) := by
  rw [ways_literal, ways_literal]
  by_cases hin : text <+: head
  · obtain ⟨more, rfl⟩ := hin
    have hnew : text.isPrefixOf (text ++ more ++ b) = true := by simp
    have hold : text.isPrefixOf (text ++ more ++ a) = true := by simp
    rw [if_pos hnew, if_pos hold]
    simp [exchange?_append]
  · have hnew : ¬ text.isPrefixOf (head ++ b) = true := by
      rw [List.isPrefixOf_iff_prefix]
      exact fun hp => hin (h head hp)
    rw [if_neg hnew]
    split
    · rename_i hold
      -- the text reaches into the old end
      have hlt : ((head ++ a).drop text.length).length < a.length := by
        rw [List.isPrefixOf_iff_prefix] at hold
        by_contra hge
        have hle : text.length ≤ head.length := by
          have hlen := hold.length_le
          rw [List.length_append] at hlen
          rw [List.length_drop, List.length_append] at hge
          omega
        exact hin (List.prefix_of_prefix_length_le hold (List.prefix_append head a) hle)
      rw [List.filterMap_cons, exchange?_of_lt hlt]
      rfl
    · rfl

/-- The ways to match a pattern before an end into which it does not reach are those that stop
before the end that stood there. -/
theorem ways_exchange {p : Pattern} (h : p.Exchangeable a b) :
    p.ways ⟨n, head ++ b⟩ = (p.ways ⟨n, head ++ a⟩).filterMap (exchange? a b) := by
  induction p generalizing n head with
  | piece p =>
    rw [ways, ways, h n head]
    cases p.step? ⟨n, head ++ a⟩ with
    | none => rfl
    | some z => cases he : exchange? a b z <;> simp [he]
  | literal text => exact literal_exchange h
  | seq p q ihp ihq =>
    rw [ways, ways, ihp h.1, List.filterMap_flatMap, List.filterMap_eq_flatMap_toList,
      List.flatMap_assoc]
    apply List.flatMap_congr
    intro z hz
    rcases (leads_of_mem_ways hz).before_or_within with ⟨more, hmore⟩ | hlt
    · obtain ⟨k, rest⟩ := z
      obtain rfl : rest = more ++ a := hmore
      rw [exchange?_append, Option.toList_some, List.flatMap_singleton, ihq h.2]
    · rw [exchange?_of_lt hlt, Option.toList_none, List.flatMap_nil, eq_comm,
        List.filterMap_eq_nil_iff]
      intro w hw
      exact exchange?_of_lt (Nat.lt_of_le_of_lt (leads_of_mem_ways hw).length_le hlt)
  | alt p q ihp ihq => rw [ways, ways, ihp h.1, ihq h.2, List.filterMap_append]
  | opt p ih =>
    rw [ways, ways, ih h, List.filterMap_append]
    simp [exchange?_append]
  | reps p least most mode =>
    have hplaces : Exchanged a b (p.places ⟨n, head ++ a⟩) (p.places ⟨n, head ++ b⟩) :=
      Piece.places_exchange h
    have hlazy : ∀ zs zs', Exchanged a b zs zs' →
        zs'.drop least = (zs.drop least).filterMap (exchange? a b) := fun zs zs' hzs =>
      (hzs.drop least).filterMap.symm
    have hgreedy : ∀ zs zs', Exchanged a b zs zs' →
        (zs'.drop least).reverse = (zs.drop least).reverse.filterMap (exchange? a b) := by
      intro zs zs' hzs
      rw [List.filterMap_reverse, hlazy zs zs' hzs]
    cases mode with
    | lazy =>
      cases most with
      | none => exact hlazy _ _ hplaces
      | some m => exact hlazy _ _ (hplaces.take (m + 1))
    | greedy =>
      cases most with
      | none => exact hgreedy _ _ hplaces
      | some m => exact hgreedy _ _ (hplaces.take (m + 1))

theorem match?_exchange_none {p : Pattern} (h : p.Exchangeable a b)
    (hm : p.match? (head ++ a) = none) : p.match? (head ++ b) = none := by
  rw [match?_eq_head?, List.head?_eq_none_iff] at hm
  rw [match?_eq_head?, ways_exchange h, hm]
  rfl

theorem match?_exchange_some {p : Pattern} {more : List Char} (h : p.Exchangeable a b)
    (hm : p.match? (head ++ a) = some ⟨n, more ++ a⟩) :
    p.match? (head ++ b) = some ⟨n, more ++ b⟩ := by
  rw [match?_eq_head?] at hm
  obtain ⟨others, hothers⟩ := List.head?_eq_some_iff.mp hm
  rw [match?_eq_head?, ways_exchange h, hothers, List.filterMap_cons, exchange?_append]
  rfl

def avoids (c : Char) : Pattern → Bool
  | piece p => p.avoids c
  | literal text => !text.contains c
  | seq p q => p.avoids c && q.avoids c
  | alt p q => p.avoids c && q.avoids c
  | opt p => p.avoids c
  | reps p _ _ _ => p.avoids c

/-- What starts a text up to a character that it does not have starts it before that character. -/
theorem prefix_of_not_mem {text : List Char} (hc : c ∉ text) :
    text <+: head ++ c :: b ↔ text <+: head := by
  constructor
  · intro h
    have hhead : head ++ [c] <+: head ++ c :: b := ⟨b, by simp⟩
    rcases List.prefix_or_prefix_of_prefix h hhead with ht | ht
    · rcases List.prefix_concat_iff.mp ht with rfl | ht
      · exact absurd (List.mem_append_right head (List.mem_singleton.mpr rfl)) hc
      · exact ht
    · exact absurd (ht.subset (List.mem_append_right head (List.mem_singleton.mpr rfl))) hc
  · intro h
    exact h.trans (List.prefix_append ..)

/-- A pattern does not reach into an end that begins with a character it avoids. -/
theorem exchangeable_of_avoids {p : Pattern} (h : p.avoids c = true) :
    p.Exchangeable a (c :: b) := by
  induction p with
  | piece p => exact Piece.exchangeable_of_avoids h
  | literal text =>
    have hc : c ∉ text := by simpa [avoids] using h
    exact fun head => (prefix_of_not_mem hc).mp
  | seq p q ihp ihq =>
    rw [avoids, Bool.and_eq_true] at h
    exact ⟨ihp h.1, ihq h.2⟩
  | alt p q ihp ihq =>
    rw [avoids, Bool.and_eq_true] at h
    exact ⟨ihp h.1, ihq h.2⟩
  | opt p ih => exact ih h
  | reps p least most mode => exact Piece.exchangeable_of_avoids h

end Pattern

/-- What an entry makes of a text stays when the end `a` of the text is exchanged for `b`, if the
lexeme stops before the end. -/
structure Entry.Keeps (head a b : List Char) (e : Entry) : Prop where
  none : Table.lexeme? (head ++ a) e = none → Table.lexeme? (head ++ b) e = none
  some : ∀ x more, Table.lexeme? (head ++ a) e = some x → x.rest = more ++ a →
    Table.lexeme? (head ++ b) e = some { x with rest := more ++ b }

namespace Table

/-- An entry takes the same of two texts if what it leaves of them is the same up to the end. -/
theorem lexeme?_eq_of_rest {e : Entry} {x : Lexeme} {more : List Char} {z : Reach}
    (hx : lexeme? (head ++ a) e = some x) (hr : x.rest = more ++ a)
    (hm : e.pattern.match? (head ++ b) = some z) (hz : z.rest = more ++ b) :
    lexeme? (head ++ b) e = some { x with rest := more ++ b } := by
  obtain ⟨hpos, hwidth, happ⟩ := append_rest_of_lexeme? hx
  rw [hr, ← List.append_assoc] at happ
  obtain rfl := List.append_cancel_right happ
  obtain ⟨hle, hnew⟩ := Pattern.take_append_of_match? hm
  have hcount : z.count = x.width := by
    have hlen := congrArg List.length hnew
    rw [List.length_append, List.length_take_of_le hle, hz] at hlen
    simp only [List.length_append, hwidth] at hlen
    omega
  have htext : (x.text.toList ++ more ++ b).take z.count = x.text.toList := by
    rw [List.append_assoc, List.take_left' (hwidth.trans hcount.symm)]
  have hne : z.count ≠ 0 := by
    rw [hcount]
    exact Nat.ne_of_gt hpos
  obtain ⟨hkind, hrole⟩ := role_of_lexeme? hx
  rw [lexeme?, hm]
  dsimp only
  rw [if_neg hne, htext, hcount, hz, String.ofList_toList, ← hkind, ← hrole]

theorem keeps_of_exchangeable {e : Entry} (h : e.pattern.Exchangeable a b) :
    e.Keeps head a b where
  none hx := by
    simp only [lexeme?] at hx
    split at hx
    · rename_i z hz
      split at hx
      · rename_i hzero
        obtain ⟨-, happ⟩ := Pattern.take_append_of_match? hz
        obtain ⟨k, rest⟩ := z
        obtain rfl : k = 0 := hzero
        obtain rfl : rest = head ++ a := happ
        simp [lexeme?, Pattern.match?_exchange_some h hz]
      · cases hx
    · rename_i hz
      simp [lexeme?, Pattern.match?_exchange_none h hz]
  some x more hx hr := by
    obtain ⟨z, hz, -, rfl⟩ := lexeme?_eq_some hx
    obtain ⟨k, rest⟩ := z
    obtain rfl : rest = more ++ a := hr
    exact lexeme?_eq_of_rest hx rfl (Pattern.match?_exchange_some h hz) rfl

theorem keeps_of_avoids {e : Entry} (h : e.pattern.avoids c = true) : e.Keeps head a (c :: b) :=
  keeps_of_exchangeable (Pattern.exchangeable_of_avoids h)

theorem classify_exchange {t : Table} {x : Lexeme} {more : List Char}
    (h : ∀ e ∈ t.entries, e.Keeps head a b) (hx : t.classify (head ++ a) = some x)
    (hr : x.rest = more ++ a) : t.classify (head ++ b) = some { x with rest := more ++ b } := by
  unfold classify at *
  generalize t.entries = entries at h hx
  induction entries with
  | nil => cases hx
  | cons e others ih =>
    have hkeeps := h e List.mem_cons_self
    rw [List.findSome?_cons] at hx ⊢
    cases he : lexeme? (head ++ a) e with
    | none =>
      rw [he] at hx
      rw [hkeeps.none he]
      exact ih (fun e' he' => h e' (List.mem_cons_of_mem e he')) hx
    | some y =>
      rw [he] at hx
      obtain rfl := Option.some.inj hx
      rw [hkeeps.some y more he hr]

end Table

end Offside
