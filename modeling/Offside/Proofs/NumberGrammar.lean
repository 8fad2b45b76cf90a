import Offside.Proofs.Longest
import Offside.Proofs.Precedence

/-!
# How numbers are written

`IsNumber` says how numbers are written: in one of four radices, with a fraction, an exponent and
the letter of imaginary numbers behind decimal ones. `isNumber_iff_spells` says that this is what
the two patterns of numbers stand for.
-/

namespace Offside

set_option autoImplicit false

inductive Radix
  | hexadecimal
  | octal
  | binary
deriving DecidableEq

namespace Radix

def letters : Radix → List Char
  | hexadecimal => ['x', 'X']
  | octal => ['o', 'O']
  | binary => ['b', 'B']

/-- The digits of a radix and the line that may stand among them. -/
def digits : Radix → List Char
  | hexadecimal => "0123456789abcdefABCDEF_".toList
  | octal => "01234567_".toList
  | binary => "01_".toList

end Radix

def IsRun (u : List Char) : Prop := ∀ c ∈ u, c ∈ "0123456789_".toList

def IsFraction (u : List Char) : Prop := u = [] ∨ ∃ digits, IsRun digits ∧ u = '.' :: digits

def IsExponent (u : List Char) : Prop :=
  u = [] ∨ ∃ letter sign digits, (letter = 'e' ∨ letter = 'E') ∧
    (sign = [] ∨ sign = ['+'] ∨ sign = ['-']) ∧ digits ≠ [] ∧ IsRun digits ∧
    u = letter :: (sign ++ digits)

def IsSuffix (u : List Char) : Prop := u = [] ∨ u = ['j'] ∨ u = ['J']

/-- How numbers without a sign are written that do not start with their point. -/
inductive IsUnsigned : List Char → Prop
  | radix (r : Radix) {letter : Char} {digits : List Char} (hl : letter ∈ r.letters)
      (hne : digits ≠ []) (hd : ∀ d ∈ digits, d ∈ r.digits) : IsUnsigned ('0' :: letter :: digits)
  | decimal {d : Char} {digits fraction exponent suffix : List Char} (hd : d.isDigit = true)
      (hr : IsRun digits) (hf : IsFraction fraction) (he : IsExponent exponent)
      (hs : IsSuffix suffix) :
      IsUnsigned (d :: (digits ++ (fraction ++ (exponent ++ suffix))))

/-- How numbers are written. -/
inductive IsNumber : List Char → Prop
  | unsigned {u : List Char} (h : IsUnsigned u) : IsNumber u
  | negative {u : List Char} (h : IsUnsigned u) : IsNumber ('-' :: u)
  | point {d : Char} {digits exponent suffix : List Char} (hd : d.isDigit = true)
      (hr : IsRun digits) (he : IsExponent exponent) (hs : IsSuffix suffix) :
      IsNumber ('.' :: d :: (digits ++ (exponent ++ suffix)))

namespace CharSet

variable {c : Char} {cs : List Char}

theorem ofNat_ascii (h : c.toNat < 128) : ∃ n : Fin 128, Char.ofNat n = c :=
  ⟨⟨c.toNat, h⟩, Char.ofNat_toNat c⟩

/-- What ranges of ASCII characters have in them can be read off the ASCII characters. -/
theorem holds_within_iff {ranges : List (Char × Char)} (hranges : (within ranges).isAscii = true)
    (hcs : cs.all (fun c => c.toNat < 128) = true)
    (h : ∀ n : Fin 128, (within ranges).holds (Char.ofNat n) = cs.contains (Char.ofNat n)) :
    (within ranges).holds c = true ↔ c ∈ cs := by
  have hascii : c.toNat < 128 → ((within ranges).holds c = true ↔ c ∈ cs) := by
    intro hc
    obtain ⟨n, rfl⟩ := ofNat_ascii hc
    rw [h n, List.contains_iff_mem]
  constructor
  · intro hc
    exact (hascii (lt_of_holds hranges hc)).mp hc
  · intro hc
    exact (hascii (of_decide_eq_true (List.all_eq_true.mp hcs c hc))).mpr hc

end CharSet

namespace Table

open Pattern CharSet

variable {u : List Char}

theorem digitOrLine_holds {c : Char} :
    digitOrLine.holds c = true ↔ c ∈ "0123456789_".toList :=
  holds_within_iff (by decide) (by decide) (by decide)

theorem spells_one {s : CharSet} : (one s).Spells u ↔ ∃ c, s.holds c = true ∧ u = [c] := Iff.rfl

theorem spells_just {c : Char} : (one (just c)).Spells u ↔ u = [c] := by
  simp [spells_one, holds]

theorem spells_oneOf {cs : List Char} : (one (oneOf cs)).Spells u ↔ ∃ c ∈ cs, u = [c] := by
  simp [spells_one, holds_oneOf]

theorem spells_manyOf {s : CharSet} : (manyOf s).Spells u ↔ ∀ c ∈ u, s.holds c = true := by
  simp [manyOf, spells_reps_one]

theorem spells_someOf {s : CharSet} :
    (someOf s).Spells u ↔ u ≠ [] ∧ ∀ c ∈ u, s.holds c = true := by
  simp [someOf, spells_reps_one, List.length_pos_iff, Nat.succ_le_iff]

theorem spells_run : (manyOf digitOrLine).Spells u ↔ IsRun u := by
  simp only [spells_manyOf, digitOrLine_holds, IsRun]

def fraction : Pattern := opt (inRow (one (just '.')) [manyOf digitOrLine])

theorem spells_fraction : fraction.Spells u ↔ IsFraction u := by
  simp only [fraction, inRow, Spells, IsFraction, spells_just, spells_run]
  constructor
  · rintro (⟨_, digits, rfl, hr, rfl⟩ | rfl)
    · exact .inr ⟨digits, hr, rfl⟩
    · exact .inl rfl
  · rintro (rfl | ⟨digits, hr, rfl⟩)
    · exact .inr rfl
    · exact .inl ⟨_, digits, rfl, hr, rfl⟩

theorem spells_sign : (opt (one (oneOf ['+', '-']))).Spells u ↔
    u = [] ∨ u = ['+'] ∨ u = ['-'] := by
  simp only [Spells, spells_oneOf, List.mem_cons, List.not_mem_nil, or_false, exists_eq_or_imp,
    exists_eq_left]
  exact or_comm

theorem spells_exponent : exponent.Spells u ↔ IsExponent u := by
  rw [exponent, Spells, IsExponent, or_comm]
  refine or_congr_right ?_
  simp only [inRow, spells_seq, spells_oneOf, spells_sign, spells_someOf, digitOrLine_holds]
  constructor
  · rintro ⟨_, _, ⟨letter, hl, rfl⟩, ⟨sign, digits, hs, ⟨hne, hr⟩, rfl⟩, rfl⟩
    exact ⟨letter, sign, digits, by simpa using hl, hs, hne, hr, rfl⟩
  · rintro ⟨letter, sign, digits, hl, hs, hne, hr, rfl⟩
    exact ⟨[letter], _, ⟨letter, by simpa using hl, rfl⟩, ⟨sign, digits, hs, ⟨hne, hr⟩, rfl⟩, rfl⟩

theorem spells_imaginary : imaginary.Spells u ↔ IsSuffix u := by
  simp only [imaginary, Spells, IsSuffix, spells_oneOf, List.mem_cons, List.not_mem_nil, or_false,
    exists_eq_or_imp, exists_eq_left]
  exact or_comm

def radixPattern : Radix → Pattern
  | .hexadecimal => radixNumber ['x', 'X'] [('0', '9'), ('a', 'f'), ('A', 'F'), ('_', '_')]
  | .octal => radixNumber ['o', 'O'] [('0', '7'), ('_', '_')]
  | .binary => radixNumber ['b', 'B'] [('0', '0'), ('1', '1'), ('_', '_')]

theorem spells_radixNumber {letters cs : List Char} {ranges : List (Char × Char)}
    (h : ∀ c, (within ranges).holds c = true ↔ c ∈ cs) :
    (radixNumber letters ranges).Spells u ↔
      ∃ letter digits, letter ∈ letters ∧ digits ≠ [] ∧ (∀ d ∈ digits, d ∈ cs) ∧
        u = '0' :: letter :: digits := by
  simp only [radixNumber, inRow, spells_seq, spells_just, spells_oneOf, spells_someOf, h]
  constructor
  · rintro ⟨_, _, rfl, ⟨_, digits, ⟨letter, hl, rfl⟩, ⟨hne, hd⟩, rfl⟩, rfl⟩
    exact ⟨letter, digits, hl, hne, hd, rfl⟩
  · rintro ⟨letter, digits, hl, hne, hd, rfl⟩
    exact ⟨['0'], _, rfl, ⟨[letter], digits, ⟨letter, hl, rfl⟩, ⟨hne, hd⟩, rfl⟩, rfl⟩

theorem spells_radix (r : Radix) : (radixPattern r).Spells u ↔
    ∃ letter digits, letter ∈ r.letters ∧ digits ≠ [] ∧ (∀ d ∈ digits, d ∈ r.digits) ∧
      u = '0' :: letter :: digits := by
  cases r <;>
    exact spells_radixNumber fun c => holds_within_iff (by decide) (by decide) (by decide)

theorem spells_digit : (one digit).Spells u ↔ ∃ d : Char, d.isDigit = true ∧ u = [d] := by
  simp only [spells_one, digit_holds]

theorem decimalNumber_eq : decimalNumber =
    seq (one digit) (seq (manyOf digitOrLine) (seq fraction (seq exponent imaginary))) := rfl

theorem spells_decimal : decimalNumber.Spells u ↔
    ∃ d digits fraction exponent suffix, d.isDigit = true ∧ IsRun digits ∧ IsFraction fraction ∧
      IsExponent exponent ∧ IsSuffix suffix ∧
      u = d :: (digits ++ (fraction ++ (exponent ++ suffix))) := by
  simp only [decimalNumber_eq, spells_seq, spells_digit, spells_run, spells_fraction,
    spells_exponent, spells_imaginary]
  constructor
  · rintro ⟨_, _, ⟨d, hd, rfl⟩,
      ⟨digits, _, hr, ⟨fraction, _, hf, ⟨exponent, suffix, he, hs, rfl⟩, rfl⟩, rfl⟩, rfl⟩
    exact ⟨d, digits, fraction, exponent, suffix, hd, hr, hf, he, hs, rfl⟩
  · rintro ⟨d, digits, fraction, exponent, suffix, hd, hr, hf, he, hs, rfl⟩
    exact ⟨[d], _, ⟨d, hd, rfl⟩,
      ⟨digits, _, hr, ⟨fraction, _, hf, ⟨exponent, suffix, he, hs, rfl⟩, rfl⟩, rfl⟩, rfl⟩

def unsigned : Pattern :=
  alt (radixPattern .hexadecimal) (alt (radixPattern .octal)
    (alt (radixPattern .binary) decimalNumber))

theorem number_eq : number = seq (opt (one (just '-'))) unsigned := rfl

theorem spells_unsigned : unsigned.Spells u ↔ IsUnsigned u := by
  simp only [unsigned, spells_alt, spells_radix, spells_decimal]
  constructor
  · rintro (⟨letter, digits, hl, hne, hd, rfl⟩ | ⟨letter, digits, hl, hne, hd, rfl⟩ |
      ⟨letter, digits, hl, hne, hd, rfl⟩ |
      ⟨d, digits, fraction, exponent, suffix, hd, hr, hf, he, hs, rfl⟩)
    · exact .radix .hexadecimal hl hne hd
    · exact .radix .octal hl hne hd
    · exact .radix .binary hl hne hd
    · exact .decimal hd hr hf he hs
  · intro h
    cases h with
    | radix r hl hne hd =>
      cases r with
      | hexadecimal => exact .inl ⟨_, _, hl, hne, hd, rfl⟩
      | octal => exact .inr (.inl ⟨_, _, hl, hne, hd, rfl⟩)
      | binary => exact .inr (.inr (.inl ⟨_, _, hl, hne, hd, rfl⟩))
    | decimal hd hr hf he hs =>
      exact .inr (.inr (.inr ⟨_, _, _, _, _, hd, hr, hf, he, hs, rfl⟩))

theorem spells_number : number.Spells u ↔ IsUnsigned u ∨ ∃ v, IsUnsigned v ∧ u = '-' :: v := by
  simp only [number_eq, spells_seq, spells_opt, spells_just, spells_unsigned]
  constructor
  · rintro ⟨_, v, (rfl | rfl), hv, rfl⟩
    · exact .inr ⟨v, hv, rfl⟩
    · exact .inl hv
  · rintro (hv | ⟨v, hv, rfl⟩)
    · exact ⟨[], u, .inr rfl, hv, rfl⟩
    · exact ⟨['-'], v, .inl rfl, hv, rfl⟩

theorem pointNumber_eq : pointNumber =
    seq (one (just '.')) (seq (one digit) (seq (manyOf digitOrLine) (seq exponent imaginary))) :=
  rfl

theorem spells_pointNumber : pointNumber.Spells u ↔
    ∃ d digits exponent suffix, d.isDigit = true ∧ IsRun digits ∧ IsExponent exponent ∧
      IsSuffix suffix ∧ u = '.' :: d :: (digits ++ (exponent ++ suffix)) := by
  simp only [pointNumber_eq, spells_seq, spells_just, spells_digit, spells_run, spells_exponent,
    spells_imaginary]
  constructor
  · rintro ⟨_, _, rfl, ⟨_, _, ⟨d, hd, rfl⟩,
      ⟨digits, _, hr, ⟨exponent, suffix, he, hs, rfl⟩, rfl⟩, rfl⟩, rfl⟩
    exact ⟨d, digits, exponent, suffix, hd, hr, he, hs, rfl⟩
  · rintro ⟨d, digits, exponent, suffix, hd, hr, he, hs, rfl⟩
    exact ⟨['.'], _, rfl, ⟨[d], _, ⟨d, hd, rfl⟩,
      ⟨digits, _, hr, ⟨exponent, suffix, he, hs, rfl⟩, rfl⟩, rfl⟩, rfl⟩

/-- Numbers are what the two patterns of numbers stand for. -/
theorem isNumber_iff_spells : IsNumber u ↔ number.Spells u ∨ pointNumber.Spells u := by
  rw [spells_number, spells_pointNumber]
  constructor
  · intro h
    cases h with
    | unsigned h => exact .inl (.inl h)
    | negative h => exact .inl (.inr ⟨_, h, rfl⟩)
    | point hd hr he hs => exact .inr ⟨_, _, _, _, hd, hr, he, hs, rfl⟩
  · rintro ((h | ⟨v, h, rfl⟩) | ⟨d, digits, exponent, suffix, hd, hr, he, hs, rfl⟩)
    · exact .unsigned h
    · exact .negative h
    · exact .point hd hr he hs

end Table

end Offside
