/-!
# The bytes of a text

The bytes of a text lie between its characters or within them, and places are numbers of bytes. Who
wants as much of a text as takes no more than some bytes goes back from there to the last place
between two characters. Bytes are found where they stand for the first time, whether or not a
character starts there.
-/

namespace Offside.Text

set_option autoImplicit false

/-- Whether a character or nothing starts behind the first `n` bytes of a text. -/
def isBoundary (s : String) (n : Nat) : Bool := String.Pos.Raw.isValid s ⟨n⟩

/-- The last boundary that is not behind the first `n` bytes of a text, found by going back one byte
after the other; there is none if one comes to the start of the text and that is no boundary. -/
def boundaryBefore? (s : String) (n : Nat) : Option Nat :=
  if isBoundary s n then some n
  else match n with
    | 0 => none
    | n + 1 => boundaryBefore? s n

def firstBytes? (s : String) (n : Nat) : Option String :=
  String.fromUTF8? (s.toUTF8.extract 0 n)

theorem isBoundary_iff {s : String} {n : Nat} :
    isBoundary s n = true ↔ ∃ p rest, s = p ++ rest ∧ n = p.utf8ByteSize := by
  unfold isBoundary
  rw [String.Pos.Raw.isValid_eq_true_iff, String.Pos.Raw.isValid_iff_exists_append]
  simp only [String.Pos.Raw.ext_iff, String.byteIdx_rawEndPos]

theorem isBoundary_append (p rest : String) : isBoundary (p ++ rest) p.utf8ByteSize = true :=
  isBoundary_iff.mpr ⟨p, rest, rfl, rfl⟩

theorem isBoundary_zero (s : String) : isBoundary s 0 = true :=
  isBoundary_iff.mpr ⟨"", s, String.empty_append.symm, rfl⟩

/-- The search comes to a boundary, at the latest to the start of the text. -/
theorem boundaryBefore?_eq_some (s : String) (n : Nat) :
    ∃ m, boundaryBefore? s n = some m ∧ m ≤ n ∧ isBoundary s m = true ∧
      ∀ k, m < k → k ≤ n → isBoundary s k = false := by
  fun_induction boundaryBefore? s n with
  | case1 n h => exact ⟨n, rfl, Nat.le_refl n, h, by omega⟩
  | case2 h => exact absurd (isBoundary_zero s) h
  | case3 n h ih =>
    obtain ⟨m, hm, hle, hboundary, hnone⟩ := ih
    refine ⟨m, hm, Nat.le_succ_of_le hle, hboundary, ?_⟩
    intro k hmk hk
    rcases Nat.eq_or_lt_of_le hk with rfl | hlt
    · exact Bool.eq_false_iff.mpr h
    · exact hnone k hmk (Nat.le_of_lt_succ hlt)

theorem firstBytes?_append (p rest : String) :
    firstBytes? (p ++ rest) p.utf8ByteSize = some p := by
  have hbytes : (p ++ rest).toUTF8.extract 0 p.utf8ByteSize = p.toByteArray := by
    rw [String.toUTF8_eq_toByteArray, String.toByteArray_append]
    exact ByteArray.extract_append_eq_left rfl
  unfold firstBytes? String.fromUTF8?
  rw [hbytes, dif_pos p.isValidUTF8]
  rfl

def utf8 (s : String) : List UInt8 := s.toUTF8.data.toList

def byte? (s : String) (n : Nat) : Option UInt8 :=
  if h : (⟨n⟩ : String.Pos.Raw) < s.rawEndPos then some (s.getUTF8Byte ⟨n⟩ h) else none

/-- Whether a text goes on with the given bytes behind its first `n`. -/
def standsAt (s : String) : List UInt8 → Nat → Bool
  | [], _ => true
  | b :: rest, n => byte? s n == some b && standsAt s rest (n + 1)

/-- The first place at which the given bytes stand, from `n` on. -/
def findFrom? (s : String) (bytes : List UInt8) (n : Nat) : Option Nat :=
  if standsAt s bytes n then some n
  else if n < s.utf8ByteSize then findFrom? s bytes (n + 1)
  else none
termination_by s.utf8ByteSize - n

/-- Where the bytes equal to `b` start that stand directly before a place. -/
def runStart (s : String) (b : UInt8) : Nat → Nat
  | 0 => 0
  | n + 1 => if byte? s n == some b then runStart s b n else n + 1

/-- The number of bytes equal to `b` directly before a place. -/
def runBefore (s : String) (b : UInt8) (n : Nat) : Nat := n - runStart s b n

variable {s : String} {bytes : List UInt8} {b : UInt8} {n place : Nat}

theorem length_utf8 (s : String) : (utf8 s).length = s.utf8ByteSize := by
  rw [utf8, String.toUTF8_eq_toByteArray, Array.length_toList, ByteArray.size_data,
    String.size_toByteArray]

theorem byte?_eq_getElem? (s : String) (n : Nat) : byte? s n = (utf8 s)[n]? := by
  have hsize := length_utf8 s
  unfold byte?
  split
  · rename_i h
    have hn : n < (utf8 s).length := hsize ▸ h
    rw [List.getElem?_eq_getElem hn]
    rfl
  · rename_i h
    have hn : (utf8 s).length ≤ n := hsize ▸ Nat.le_of_not_lt h
    rw [List.getElem?_eq_none hn]

/-- Where the first byte of a character stands, the text can be cut. -/
theorem isBoundary_of_byte? (h : byte? s n = some b) (hb : b.IsUTF8FirstByte) :
    isBoundary s n = true := by
  unfold byte? at h
  split at h
  · rename_i hlt
    obtain rfl := Option.some.inj h
    rw [isBoundary, String.Pos.Raw.isValid_eq_true_iff, String.Pos.Raw.isValid_iff_isUTF8FirstByte]
    exact .inr ⟨hlt, hb⟩
  · cases h

theorem standsAt_iff : standsAt s bytes n = true ↔ bytes <+: (utf8 s).drop n := by
  induction bytes generalizing n with
  | nil => simp [standsAt]
  | cons b rest ih =>
    rw [standsAt, Bool.and_eq_true, beq_iff_eq, ih, byte?_eq_getElem?]
    rcases Nat.lt_or_ge n (utf8 s).length with hlt | hge
    · rw [List.getElem?_eq_getElem hlt, List.drop_eq_getElem_cons hlt, List.cons_prefix_cons,
        Option.some.injEq, eq_comm]
    · simp [List.getElem?_eq_none hge, List.drop_eq_nil_of_le hge]

theorem findFrom?_eq_some (h : findFrom? s bytes n = some place) :
    n ≤ place ∧ standsAt s bytes place = true ∧
      ∀ k, n ≤ k → k < place → standsAt s bytes k = false := by
  fun_induction findFrom? s bytes n with
  | case1 n hn =>
    obtain rfl := Option.some.inj h
    exact ⟨Nat.le_refl n, hn, by omega⟩
  | case2 n hn _ ih =>
    obtain ⟨hle, hplace, hbefore⟩ := ih h
    refine ⟨Nat.le_of_succ_le hle, hplace, ?_⟩
    intro k hk hlt
    rcases Nat.eq_or_lt_of_le hk with rfl | hk
    · exact Bool.eq_false_iff.mpr hn
    · exact hbefore k hk hlt
  | case3 => cases h

theorem findFrom?_eq_none (h : findFrom? s bytes n = none) :
    ∀ k, n ≤ k → k ≤ s.utf8ByteSize → standsAt s bytes k = false := by
  fun_induction findFrom? s bytes n with
  | case1 => cases h
  | case2 n hn _ ih =>
    intro k hk hle
    rcases Nat.eq_or_lt_of_le hk with rfl | hk
    · exact Bool.eq_false_iff.mpr hn
    · exact ih h k hk hle
  | case3 n hn hend =>
    intro k hk hle
    obtain rfl : n = k := by omega
    exact Bool.eq_false_iff.mpr hn

end Offside.Text
