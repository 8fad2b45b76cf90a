import Offside.Pattern

/-!
# What matches take

A match takes a part of the text from its place on and leaves the rest: `Pattern.leads_of_mem_ways`
says so for every way to match a pattern, and `Pattern.take_append_of_match?` for the preferred one.
-/

namespace Offside

set_option autoImplicit false

namespace Reach

/-- The way from `z` to `w` takes some characters and leaves the rest. -/
def Leads (z w : Reach) : Prop :=
  ∃ taken, z.rest = taken ++ w.rest ∧ w.count = z.count + taken.length

theorem Leads.refl (z : Reach) : z.Leads z := ⟨[], by simp⟩

theorem Leads.trans {x y z : Reach} (h : x.Leads y) (k : y.Leads z) : x.Leads z := by
  obtain ⟨s, hs, hn⟩ := h
  obtain ⟨t, ht, hm⟩ := k
  exact ⟨s ++ t, by simp [hs, ht], by simp [hn, hm, Nat.add_assoc]⟩

end Reach

namespace Piece

theorem leads_of_step? {p : Piece} {z w : Reach} (h : p.step? z = some w) : z.Leads w := by
  induction p with
  | one s =>
    obtain ⟨n, rest⟩ := z
    cases rest with
    | nil => simp [step?] at h
    | cons c r =>
      simp only [step?, Option.ite_none_right_eq_some, Option.some.injEq] at h
      exact ⟨[c], by simp [← h.2]⟩
  | two s t =>
    obtain ⟨n, rest⟩ := z
    rcases rest with _ | ⟨c, _ | ⟨d, r⟩⟩
    · simp [step?] at h
    · simp [step?] at h
    · simp only [step?, Option.ite_none_right_eq_some, Option.some.injEq] at h
      exact ⟨[c, d], by simp [← h.2]⟩
  | either p q ihp ihq =>
    simp only [step?] at h
    split at h
    · rename_i v hv
      exact ihp (hv.trans h)
    · exact ihq h

theorem leads_of_mem_placesOnto {p : Piece} {x z : Reach} {passed : List Reach}
    (hz : x.Leads z) (hp : ∀ y ∈ passed, x.Leads y) :
    ∀ w ∈ p.placesOnto passed z, x.Leads w := by
  fun_induction placesOnto p passed z with
  | case1 passed z _ =>
    intro w hw
    rcases List.mem_cons.1 hw with rfl | hw
    · exact hz
    · exact hp w hw
  | case2 passed z v hv ih =>
    refine ih (hz.trans (leads_of_step? hv)) fun y hy => ?_
    rcases List.mem_cons.1 hy with rfl | hy
    · exact hz
    · exact hp y hy

theorem leads_of_mem_places {p : Piece} {z w : Reach} (h : w ∈ p.places z) : z.Leads w :=
  leads_of_mem_placesOnto (.refl z) (by simp) w (List.mem_reverse.1 h)

end Piece

theorem append_eq_of_isPrefixOf? {text s rest : List Char} (h : text.isPrefixOf? s = some rest) :
    text ++ rest = s := by
  induction text generalizing s with
  | nil => exact (Option.some.inj h).symm
  | cons c text ih =>
    cases s with
    | nil => exact nomatch h
    | cons d s =>
      change (if c == d then text.isPrefixOf? s else none) = some rest at h
      split at h
      · rename_i hc
        rw [eq_of_beq hc, List.cons_append, ih h]
      · exact nomatch h

namespace Pattern

theorem leads_of_mem_ways {p : Pattern} {z w : Reach} (h : w ∈ p.ways z) : z.Leads w := by
  induction p generalizing z w with
  | piece p => exact Piece.leads_of_step? (Option.mem_toList.1 h)
  | literal text =>
    simp only [ways] at h
    split at h
    · rename_i rest hr
      simp only [List.mem_singleton] at h
      exact ⟨text, by simp [h, append_eq_of_isPrefixOf? hr], by simp [h]⟩
    · simp at h
  | seq p q ihp ihq =>
    obtain ⟨v, hv, hw⟩ := List.mem_flatMap.1 h
    exact (ihp hv).trans (ihq hw)
  | alt p q ihp ihq =>
    rcases List.mem_append.1 h with h | h
    · exact ihp h
    · exact ihq h
  | opt p ih =>
    rcases List.mem_append.1 h with h | h
    · exact ih h
    · rw [List.mem_singleton.1 h]
      exact .refl z
  | reps p least most mode =>
    refine Piece.leads_of_mem_places (p := p) ?_
    simp only [ways] at h
    cases most <;> cases mode <;> simp only [List.mem_reverse] at h
    · exact List.mem_of_mem_drop h
    · exact List.mem_of_mem_drop h
    · exact List.mem_of_mem_take (List.mem_of_mem_drop h)
    · exact List.mem_of_mem_take (List.mem_of_mem_drop h)

theorem take_append_of_match? {p : Pattern} {text : List Char} {z : Reach}
    (h : p.match? text = some z) :
    z.count ≤ text.length ∧ text.take z.count ++ z.rest = text := by
  obtain ⟨taken, ht, hn⟩ := leads_of_mem_ways (List.mem_of_head? (p.match?_eq_head? text ▸ h))
  simp only [Nat.zero_add] at hn
  simp only at ht
  subst ht
  simp [hn]

end Pattern

end Offside
