import Offside.Proofs.QuotedText
import Mathlib.Data.List.Forall2

/-!
# What quoted texts stand for

`Denotes` is the grammar of what stands between the quotes of a row: characters, escapes of one
letter, and escapes by number. `unquote_exact` says that just the texts of this grammar are read, if
the number of an escape may have a plus sign in place of its first digit.
-/

namespace Offside.Reference

set_option autoImplicit false

def shortEscapes : List (Char × Char) :=
  [('n', '\n'), ('r', '\r'), ('t', '\t'), ('0', '\x00'), ('\\', '\\'), ('\'', '\''), ('"', '"')]

/-- The letters of the escapes by number, and how many digits follow them. -/
def escapeWidths : List (Char × Nat) := [('x', 2), ('u', 4), ('U', 8)]

def IsHexDigit (d : Char) (v : Nat) : Prop :=
  "0123456789abcdef".toList[v]? = some d ∨ "0123456789ABCDEF".toList[v]? = some d

def IsHex (digits : List Char) (n : Nat) : Prop :=
  ∃ values, List.Forall₂ IsHexDigit digits values ∧ n = Text.numeral 16 values

def IsSignedHex (digits : List Char) (n : Nat) : Prop :=
  IsHex digits n ∨ ∃ more, more ≠ [] ∧ digits = '+' :: more ∧ IsHex more n

/-- What stands between quotes, and the text it stands for. Behind the letter of an escape by number
stand as many characters as the letter says, which spell the number as `Code` says. -/
inductive Denotes (Code : List Char → Nat → Prop) : List Char → List Char → Prop
  | nil : Denotes Code [] []
  | plain {c : Char} {body text : List Char} (h : c ≠ '\\') (hb : Denotes Code body text) :
      Denotes Code (c :: body) (c :: text)
  | short {letter c : Char} {body text : List Char} (h : (letter, c) ∈ shortEscapes)
      (hb : Denotes Code body text) : Denotes Code ('\\' :: letter :: body) (c :: text)
  | code {letter c : Char} {digits body text : List Char}
      (h : (letter, digits.length) ∈ escapeWidths) (hc : Code digits c.toNat)
      (hb : Denotes Code body text) :
      Denotes Code ('\\' :: letter :: (digits ++ body)) (c :: text)

def Quotes (Code : List Char → Nat → Prop) (s t : String) : Prop :=
  ∃ q body, (q = '\'' ∨ q = '"') ∧ s.toList = q :: (body ++ [q]) ∧ Denotes Code body t.toList

theorem lt_of_isHexDigit {d : Char} {v : Nat} (h : IsHexDigit d v) : v < 16 := by
  rcases h with h | h
  · exact (List.getElem?_eq_some_iff.mp h).1
  · exact (List.getElem?_eq_some_iff.mp h).1

theorem hexValue?_eq_some_iff {d : Char} {v : Nat} :
    Text.hexValue? d = some v ↔ IsHexDigit d v := by
  constructor
  · intro h
    have hrange : ∀ lo hi : Char, hi.toNat < 128 → (decide (lo ≤ d) && decide (d ≤ hi)) = true →
        d.toNat < 128 := by
      intro lo hi hlt hd
      rw [Bool.and_eq_true, decide_eq_true_eq, decide_eq_true_eq] at hd
      exact Nat.lt_of_le_of_lt (UInt32.le_iff_toNat_le.mp hd.2) hlt
    have hascii : d.toNat < 128 := by
      unfold Text.hexValue? at h
      split_ifs at h with hd hd hd
      · exact hrange _ _ (by decide) hd
      · exact hrange _ _ (by decide) hd
      · exact hrange _ _ (by decide) hd
    have hall : ∀ n : Fin 128, ∀ v ∈ Text.hexValue? (Char.ofNat n),
        IsHexDigit (Char.ofNat n) v := by
      unfold IsHexDigit
      decide
    have hd := hall ⟨d.toNat, hascii⟩
    simp only [Char.ofNat_toNat] at hd
    exact hd v h
  · intro h
    have hall : ∀ v < 16, ("0123456789abcdef".toList[v]?).bind Text.hexValue? = some v ∧
        ("0123456789ABCDEF".toList[v]?).bind Text.hexValue? = some v := by
      decide
    obtain ⟨hlower, hupper⟩ := hall v (lt_of_isHexDigit h)
    rcases h with h | h
    · rwa [h] at hlower
    · rwa [h] at hupper

theorem hexRun?_eq_some_iff {digits : List Char} {n : Nat} :
    Text.hexRun? digits = some n ↔ IsHex digits n := by
  -- the digits read so far have a value
  have hfrom : ∀ m, digits.foldlM (fun n c => (Text.hexValue? c).map (n * 16 + ·)) m = some n ↔
      ∃ values, List.Forall₂ IsHexDigit digits values ∧
        n = values.foldl (fun n d => n * 16 + d) m := by
    induction digits with
    | nil =>
      intro m
      simp [List.forall₂_nil_left_iff, eq_comm]
    | cons d digits ih =>
      intro m
      simp only [List.foldlM_cons, Option.bind_eq_bind, Option.bind_eq_some_iff,
        Option.map_eq_some_iff, ih, hexValue?_eq_some_iff]
      constructor
      · rintro ⟨_, ⟨v, hv, rfl⟩, values, hvalues, rfl⟩
        exact ⟨v :: values, .cons hv hvalues, rfl⟩
      · rintro ⟨_, hall, rfl⟩
        obtain ⟨v, values, hv, hvalues, rfl⟩ := List.forall₂_cons_left_iff.mp hall
        exact ⟨m * 16 + v, ⟨v, hv, rfl⟩, values, hvalues, rfl⟩
  exact hfrom 0

theorem not_isHex_plus {more : List Char} {n : Nat} : ¬ IsHex ('+' :: more) n := by
  rintro ⟨values, hvalues, -⟩
  obtain ⟨v, -, hv, -, -⟩ := List.forall₂_cons_left_iff.mp hvalues
  have hnone : Text.hexValue? '+' = none := by decide
  rw [hexValue?_eq_some_iff.mpr hv] at hnone
  cases hnone

theorem codeValue?_eq_some_iff {digits : List Char} {n : Nat} :
    codeValue? digits = some n ↔ IsSignedHex digits n := by
  unfold codeValue? IsSignedHex
  split
  · simp [not_isHex_plus]
  · rename_i more hne
    simp only [hexRun?_eq_some_iff, not_isHex_plus, false_or, List.cons.injEq, true_and]
    constructor
    · intro h
      exact ⟨more, hne, rfl, h⟩
    · rintro ⟨_, -, rfl, h⟩
      exact h
  · rename_i hplus
    rw [hexRun?_eq_some_iff]
    constructor
    · exact .inl
    · rintro (h | ⟨more, -, rfl, -⟩)
      · exact h
      · exact absurd rfl (hplus more)

theorem codePoint?_eq_some_iff {digits : List Char} {c : Char} :
    codePoint? digits = some c ↔ IsSignedHex digits c.toNat := by
  rw [← codeValue?_eq_some_iff, codePoint?]
  have hvalid : ∀ n : Nat, (decide (n < 0xD800) || decide (0xDFFF < n) && decide (n < 0x110000)) =
      true ↔ n.isValidChar := by
    intro n
    simp [Nat.isValidChar]
  cases codeValue? digits with
  | none => simp
  | some n =>
    simp only [Option.ite_none_right_eq_some, Option.some.injEq, hvalid]
    constructor
    · rintro ⟨hn, rfl⟩
      rw [Char.ofNat, dif_pos hn]
      rfl
    · rintro rfl
      exact ⟨c.valid, Char.ofNat_toNat c⟩

theorem shortEscape?_eq_some_iff {letter c : Char} :
    shortEscape? letter = some c ↔ (letter, c) ∈ shortEscapes := by
  constructor
  · intro h
    unfold shortEscape? at h
    split at h
    case h_8 => cases h
    all_goals
      obtain rfl := Option.some.inj h
      decide
  · intro h
    have hall : ∀ e ∈ shortEscapes, shortEscape? e.1 = some e.2 := by decide
    exact hall (letter, c) h

theorem join?_eq_some_iff {a : Option Char} {b : Option (List Char)} {text : List Char} :
    unescape?.join? a b = some text ↔ ∃ c cs, a = some c ∧ b = some cs ∧ text = c :: cs := by
  cases a <;> cases b <;> simp [unescape?.join?, eq_comm]

theorem unescape?_code {letter : Char} {digits : List Char}
    (h : (letter, digits.length) ∈ escapeWidths) (rest : List Char) :
    unescape? ('\\' :: letter :: (digits ++ rest)) =
      unescape?.join? (codePoint? digits) (unescape? rest) := by
  simp only [escapeWidths, List.mem_cons, Prod.mk.injEq, List.not_mem_nil, or_false] at h
  rcases h with ⟨rfl, hlength⟩ | ⟨rfl, hlength⟩ | ⟨rfl, hlength⟩
  · match digits, hlength with
    | [_, _], _ => rfl
  · match digits, hlength with
    | [_, _, _, _], _ => rfl
  · match digits, hlength with
    | [_, _, _, _, _, _, _, _], _ => rfl

variable {body text : List Char}

theorem denotes_of_unescape? (h : unescape? body = some text) : Denotes IsSignedHex body text := by
  fun_induction unescape? body generalizing text with
  | case1 =>
    obtain rfl := Option.some.inj h
    exact .nil
  | case2 a b rest ih =>
    obtain ⟨c, cs, hc, hcs, rfl⟩ := join?_eq_some_iff.mp h
    have hwidth : ('x', [a, b].length) ∈ escapeWidths := by simp [escapeWidths]
    exact .code hwidth (codePoint?_eq_some_iff.mp hc) (ih hcs)
  | case3 a b c d rest ih =>
    obtain ⟨e, cs, he, hcs, rfl⟩ := join?_eq_some_iff.mp h
    have hwidth : ('u', [a, b, c, d].length) ∈ escapeWidths := by simp [escapeWidths]
    exact .code hwidth (codePoint?_eq_some_iff.mp he) (ih hcs)
  | case4 a b c d e f g i rest ih =>
    obtain ⟨k, cs, hk, hcs, rfl⟩ := join?_eq_some_iff.mp h
    have hwidth : ('U', [a, b, c, d, e, f, g, i].length) ∈ escapeWidths := by simp [escapeWidths]
    exact .code hwidth (codePoint?_eq_some_iff.mp hk) (ih hcs)
  | case5 letter rest _ _ _ ih =>
    obtain ⟨c, cs, hc, hcs, rfl⟩ := join?_eq_some_iff.mp h
    exact .short (shortEscape?_eq_some_iff.mp hc) (ih hcs)
  | case6 => cases h
  | case7 c rest _ _ _ _ hc ih =>
    obtain ⟨d, cs, hd, hcs, rfl⟩ := join?_eq_some_iff.mp h
    obtain rfl := Option.some.inj hd
    exact .plain hc (ih hcs)

theorem unescape?_of_denotes (h : Denotes IsSignedHex body text) : unescape? body = some text := by
  induction h with
  | nil => rfl
  | plain h _ ih =>
    rw [unescape?_plain h, ih]
    rfl
  | short h _ ih =>
    rw [unescape?_short (shortEscape?_eq_some_iff.mpr h), ih]
    rfl
  | code h hc _ ih =>
    rw [unescape?_code h, codePoint?_eq_some_iff.mpr hc, ih]
    rfl

theorem unescape?_eq_some_iff : unescape? body = some text ↔ Denotes IsSignedHex body text :=
  ⟨denotes_of_unescape?, unescape?_of_denotes⟩

theorem unquote?_eq_some_iff {cs : List Char} :
    unquote? cs = some text ↔
      ∃ q body, (q = '\'' ∨ q = '"') ∧ cs = q :: (body ++ [q]) ∧ Denotes IsSignedHex body text := by
  cases cs with
  | nil => simp [unquote?]
  | cons q inner =>
    simp only [unquote?, Option.ite_none_right_eq_some, Bool.and_eq_true, Bool.or_eq_true,
      beq_iff_eq, unescape?_eq_some_iff]
    constructor
    · rintro ⟨⟨hq, hlast⟩, hbody⟩
      exact ⟨q, inner.dropLast, hq, by rw [List.dropLast_append_getLast? q hlast], hbody⟩
    · rintro ⟨_, body, hq, heq, hbody⟩
      obtain ⟨rfl, rfl⟩ := List.cons.inj heq
      exact ⟨⟨hq, by simp⟩, by simpa using hbody⟩

/-- A quoted text is read as the text it stands for, and nothing else is read. The number of an
escape may have a plus sign in place of its first digit. -/
theorem unquote_exact {s t : String} :
    unquoteString? s = some t ↔ Quotes IsSignedHex s t := by
  rw [unquoteString?, Option.map_eq_some_iff, Quotes]
  constructor
  · rintro ⟨text, htext, rfl⟩
    rw [String.toList_ofList]
    exact unquote?_eq_some_iff.mp htext
  · intro h
    exact ⟨t.toList, unquote?_eq_some_iff.mpr h, String.ofList_toList⟩

theorem Denotes.digits_of_x {Code : List Char → Nat → Prop}
    (h : Denotes Code ('\\' :: 'x' :: body) text) :
    ∃ digits rest n, digits.length = 2 ∧ body = digits ++ rest ∧ Code digits n := by
  cases h with
  | plain h _ => exact absurd rfl h
  | short h _ => exact absurd h (by simp [shortEscapes])
  | @code _ c digits rest _ h hc _ =>
    exact ⟨digits, rest, c.toNat, by simpa [escapeWidths] using h, rfl, hc⟩

/-- A plus sign and one digit are read where two digits should stand. -/
theorem unquote_plus_sign :
    unquoteString? "'\\x+1'" = some "\x01" ∧ ¬ Quotes IsHex "'\\x+1'" "\x01" := by
  refine ⟨by decide, ?_⟩
  rintro ⟨q, body, -, hs, hbody⟩
  obtain ⟨rfl, hs⟩ := List.cons.inj hs
  obtain rfl : ['\\', 'x', '+', '1'] = body := List.append_cancel_right hs
  obtain ⟨digits, rest, n, hlength, hdigits, hn⟩ := hbody.digits_of_x
  obtain ⟨a, b, rfl⟩ := List.length_eq_two.mp hlength
  obtain ⟨rfl, -⟩ := List.cons.inj hdigits
  exact not_isHex_plus hn

end Offside.Reference
