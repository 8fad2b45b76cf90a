import Offside.Reference.Rows
import Offside.Token.Row
import Mathlib.Data.List.Basic

/-!
# Quoted texts read back

The reader of quoted texts undoes the printer: every escape the printer writes stands for the
character it was written for, and the quotes are those the text was set between.
-/

namespace Offside

set_option autoImplicit false

namespace Reference

theorem unescape?_short {c d : Char} (h : shortEscape? c = some d) (rest : List Char) :
    unescape? ('\\' :: c :: rest) = unescape?.join? (some d) (unescape? rest) := by
  rw [unescape?.eq_5, h]
  · rintro a b r rfl
    cases h
  · rintro a b c' d' r rfl
    cases h
  · rintro a b c' d' e f g i r rfl
    cases h

theorem unescape?_plain {c : Char} (h : c ≠ '\\') (rest : List Char) :
    unescape? (c :: rest) = unescape?.join? (some c) (unescape? rest) := by
  rw [unescape?.eq_6]
  · rw [if_neg h]
  all_goals simp_all

theorem codePoint?_hexPadded (n : Fin 128) (h : n.val < 0x20 ∨ n.val = 0x7F) :
    (Text.hexPadded 2 n).length = 2 ∧ codePoint? (Text.hexPadded 2 n) = some (Char.ofNat n) := by
  revert n
  decide

theorem unescape?_control {c : Char} (h : c.toNat < 0x20 ∨ c.toNat = 0x7F) (rest : List Char) :
    unescape? ('\\' :: 'x' :: Text.hexPadded 2 c.toNat ++ rest) =
      unescape?.join? (some c) (unescape? rest) := by
  have hlt : c.toNat < 128 := by omega
  obtain ⟨hlen, hcode⟩ := codePoint?_hexPadded ⟨c.toNat, hlt⟩ h
  obtain ⟨a, b, hab⟩ := List.length_eq_two.mp hlen
  simp only [hab, Char.ofNat_toNat] at hcode ⊢
  change unescape? ('\\' :: 'x' :: a :: b :: rest) = _
  rw [unescape?.eq_2, hcode]

/-- What the printer writes for a character is read as that character. -/
theorem unescape?_escapeIn {q : Char} (hq : q = '\'' ∨ q = '"') (c : Char) (rest : List Char) :
    unescape? (Token.escapeIn q c ++ rest) = unescape?.join? (some c) (unescape? rest) := by
  unfold Token.escapeIn
  split
  · exact unescape?_short rfl rest
  · exact unescape?_short rfl rest
  · exact unescape?_short rfl rest
  · exact unescape?_short rfl rest
  · rename_i hb _ _ _
    split
    · rename_i hc
      subst hc
      rcases hq with rfl | rfl
      · exact unescape?_short rfl rest
      · exact unescape?_short rfl rest
    · split
      · rename_i hctl
        simp only [Bool.or_eq_true, decide_eq_true_eq] at hctl
        exact unescape?_control hctl rest
      · exact unescape?_plain hb rest

theorem unescape?_flatMap {q : Char} (hq : q = '\'' ∨ q = '"') (text : List Char) :
    unescape? (text.flatMap (Token.escapeIn q)) = some text := by
  induction text with
  | nil => rfl
  | cons c text ih =>
    rw [List.flatMap_cons, unescape?_escapeIn hq, ih]
    rfl

end Reference

namespace Token

theorem quoteFor_cases (text : List Char) : quoteFor text = '\'' ∨ quoteFor text = '"' := by
  unfold quoteFor
  split
  · exact .inr rfl
  · exact .inl rfl

theorem of_quoteFor {P : Char → Prop} (hsingle : P '\'') (hdouble : P '"') (text : List Char) :
    P (quoteFor text) := by
  rcases quoteFor_cases text with hq | hq
  · rw [hq]
    exact hsingle
  · rw [hq]
    exact hdouble

theorem unquote?_quote (text : List Char) : Reference.unquote? (quote text) = some text := by
  have hmark : (quoteFor text == '\'' || quoteFor text == '"') = true :=
    of_quoteFor (P := fun q => (q == '\'' || q == '"') = true) rfl rfl text
  simp only [quote, Reference.unquote?, List.cons_append]
  rw [hmark, List.getLast?_concat, List.dropLast_concat,
    Reference.unescape?_flatMap (quoteFor_cases text)]
  simp

def endsLine (c : Char) : Bool := c == '\n' || c == '\r'

theorem endsLine_of_mem {cs : List Char} {d : Char} (hcs : cs.all (fun c => !endsLine c) = true)
    (h : d ∈ cs) : endsLine d = false := by
  simpa using List.all_eq_true.mp hcs d h

theorem endsLine_hexPadded (n : Fin 128) :
    ('\\' :: 'x' :: Text.hexPadded 2 n).all (fun c => !endsLine c) = true := by
  revert n
  decide

theorem endsLine_escapeIn {q c d : Char} (hq : q = '\'' ∨ q = '"') (h : d ∈ escapeIn q c) :
    endsLine d = false := by
  unfold escapeIn at h
  split at h
  · exact endsLine_of_mem rfl h
  · exact endsLine_of_mem rfl h
  · exact endsLine_of_mem rfl h
  · exact endsLine_of_mem rfl h
  · rename_i _ hn hr _
    have hc : endsLine c = false := by
      rw [endsLine, beq_eq_false_iff_ne.mpr hn, beq_eq_false_iff_ne.mpr hr]
      rfl
    split at h
    · rename_i hcq
      subst hcq
      rcases hq with rfl | rfl
      · exact endsLine_of_mem rfl h
      · exact endsLine_of_mem rfl h
    · split at h
      · rename_i hctl
        simp only [Bool.or_eq_true, decide_eq_true_eq] at hctl
        exact endsLine_of_mem (endsLine_hexPadded ⟨c.toNat, by omega⟩) h
      · rw [List.mem_singleton.mp h]
        exact hc

theorem endsLine_quote {text : List Char} {d : Char} (h : d ∈ quote text) :
    endsLine d = false := by
  have hmark : endsLine (quoteFor text) = false :=
    of_quoteFor (P := fun q => endsLine q = false) rfl rfl text
  simp only [quote, List.mem_append, List.mem_cons, List.not_mem_nil, or_false,
    List.mem_flatMap] at h
  rcases h with (rfl | ⟨c, -, hc⟩) | rfl
  · exact hmark
  · exact endsLine_escapeIn (quoteFor_cases text) hc
  · exact hmark

end Token

end Offside
