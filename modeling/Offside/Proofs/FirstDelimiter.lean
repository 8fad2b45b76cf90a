import Offside.Proofs.TripleQuote
import Mathlib.Data.List.DropRight
import Mathlib.Order.Bounds.Basic

/-!
# The first unescaped delimiter

The search from one delimiter to the next finds the least number of bytes behind which a delimiter
stands with an even run of backslashes before it. Wherever it starts again a character starts, as
the bytes of a delimiter are found in no other characters. For the same reason it finds the place
at which `seek` cuts a text.
-/

namespace Offside

set_option autoImplicit false

namespace Text

variable {a c : Char} {s : String} {n : Nat}

theorem utf8_ofList (cs : List Char) :
    utf8 (String.ofList cs) = cs.flatMap String.utf8EncodeChar := by
  rw [utf8, String.toUTF8_eq_toByteArray, String.toByteArray_ofList, List.utf8Encode,
    List.data_toByteArray]

theorem utf8_append (s t : String) : utf8 (s ++ t) = utf8 s ++ utf8 t := by
  rw [utf8, String.toUTF8_eq_toByteArray, String.toByteArray_append, ByteArray.data_append,
    Array.toList_append]
  rfl

/-- The byte of a character that takes no other is found in no other character. -/
theorem eq_of_mem_utf8EncodeChar (ha : a.utf8Size = 1)
    (h : a.toUInt8 ∈ String.utf8EncodeChar c) : c = a := by
  have hone : String.utf8EncodeChar a = [a.toUInt8] := String.utf8EncodeChar_eq_singleton ha
  have hfirst : a.toUInt8.IsUTF8FirstByte := by
    have hzero : 0 < (String.utf8EncodeChar a).length := by rw [hone]; exact Nat.one_pos
    have hbyte : (String.utf8EncodeChar a)[0].IsUTF8FirstByte :=
      UInt8.isUTF8FirstByte_getElem_utf8EncodeChar.mpr rfl
    simpa only [hone, List.getElem_cons_zero] using hbyte
  obtain ⟨i, hi, hbyte⟩ := List.getElem_of_mem h
  obtain rfl : i = 0 := UInt8.isUTF8FirstByte_getElem_utf8EncodeChar.mp (hbyte ▸ hfirst)
  -- the byte is the first of both characters, and either can be decoded from there
  have hsplit : String.utf8EncodeChar c =
      String.utf8EncodeChar a ++ (String.utf8EncodeChar c).tail := by
    rw [hone, ← hbyte, List.singleton_append, ← List.drop_one, ← List.drop_eq_getElem_cons]
    rfl
  have hdecode : ((String.utf8EncodeChar c).toByteArray ++ ByteArray.empty).utf8DecodeChar? 0 =
      some c := ByteArray.utf8DecodeChar?_utf8EncodeChar_append
  rw [hsplit, List.toByteArray_append, ByteArray.append_assoc,
    ByteArray.utf8DecodeChar?_utf8EncodeChar_append] at hdecode
  exact (Option.some.inj hdecode).symm

theorem utf8_prefix_iff {s t : String} : utf8 s <+: utf8 t ↔ s.toList <+: t.toList := by
  constructor
  · rintro ⟨more, hmore⟩
    apply List.isPrefix_of_utf8Encode_append_eq_utf8Encode more.toByteArray
    rw [String.utf8Encode_toList, String.utf8Encode_toList]
    apply ByteArray.ext
    rw [← Array.toList_inj, ByteArray.data_append, Array.toList_append, List.data_toByteArray]
    exact hmore
  · rintro ⟨more, hmore⟩
    refine ⟨utf8 (String.ofList more), ?_⟩
    rw [← utf8_append]
    congr 1
    apply String.toList_injective
    rw [String.toList_append, String.toList_ofList, hmore]

theorem length_rtakeWhile_flatMap (ha : a.utf8Size = 1) (cs : List Char) :
    ((cs.flatMap String.utf8EncodeChar).rtakeWhile (· == a.toUInt8)).length =
      (cs.rtakeWhile (· == a)).length := by
  induction cs using List.reverseRecOn with
  | nil => rfl
  | append_singleton cs c ih =>
    rw [List.flatMap_append, List.flatMap_singleton, List.rtakeWhile_concat]
    by_cases hca : c = a
    · subst hca
      have hone : String.utf8EncodeChar c = [c.toUInt8] := String.utf8EncodeChar_eq_singleton ha
      rw [hone, List.rtakeWhile_concat_pos _ _ _ (by simp), if_pos (by simp), List.length_append,
        List.length_append, ih]
      rfl
    · obtain ⟨init, last, hlast⟩ : ∃ init last, String.utf8EncodeChar c = init ++ [last] :=
        ⟨_, _, (List.dropLast_concat_getLast String.utf8EncodeChar_ne_nil).symm⟩
      have hne : last ≠ a.toUInt8 := by
        rintro rfl
        exact hca (eq_of_mem_utf8EncodeChar ha (by rw [hlast]; simp))
      rw [hlast, ← List.append_assoc, List.rtakeWhile_concat_neg _ _ _ (by simpa using hne),
        if_neg (by simpa using hca)]
      rfl

theorem runStart_le (s : String) (b : UInt8) (n : Nat) : runStart s b n ≤ n := by
  induction n with
  | zero => exact Nat.le_refl 0
  | succ n ih =>
    rw [runStart]
    split
    · exact Nat.le_succ_of_le ih
    · exact Nat.le_refl _

theorem runBefore_eq {b : UInt8} (hn : n ≤ s.utf8ByteSize) :
    runBefore s b n = (((utf8 s).take n).rtakeWhile (· == b)).length := by
  induction n with
  | zero => rfl
  | succ n ih =>
    have hlt : n < (utf8 s).length := by
      rw [length_utf8]
      exact hn
    have hle := runStart_le s b n
    rw [List.take_add_one, List.getElem?_eq_getElem hlt, Option.toList_some,
      List.rtakeWhile_concat, runBefore, runStart, byte?_eq_getElem?, List.getElem?_eq_getElem hlt]
    have hrun := ih (Nat.le_of_succ_le hn)
    rw [runBefore] at hrun
    by_cases hb : (utf8 s)[n] = b
    · rw [if_pos (by simpa using hb), if_pos (by simpa using hb), List.length_append, ← hrun,
        List.length_singleton]
      omega
    · rw [if_neg (by simpa using hb), if_neg (by simpa using hb), Nat.sub_self]
      rfl

end Text

namespace TripleQuote

variable {q : TripleQuote} {text : String} {start place : Nat}

/-- Behind the first `place` bytes of a text stands a delimiter, with an even number of backslashes
directly before it. -/
structure IsUnescaped (q : TripleQuote) (text : String) (place : Nat) : Prop where
  stands : q.bytes <+: (Text.utf8 text).drop place
  even : (((Text.utf8 text).take place).rtakeWhile (· == '\\'.toUInt8)).length % 2 = 0

def IsFirst (q : TripleQuote) (text : String) : Option Nat → Prop
  | some place => IsLeast {n | q.IsUnescaped text n} place
  | none => ∀ n, ¬ q.IsUnescaped text n

theorem IsFirst.unique {r r' : Option Nat} (h : q.IsFirst text r) (h' : q.IsFirst text r') :
    r = r' := by
  cases r with
  | none =>
    cases r' with
    | none => rfl
    | some place => exact absurd h'.1 (h place)
  | some place =>
    cases r' with
    | none => exact absurd h.1 (h' place)
    | some place' => rw [IsLeast.unique h h']

/-- The places at which the search starts: the start of the text, and one byte behind each escaped
delimiter it comes to. -/
inductive StartsAt (q : TripleQuote) (text : String) : Nat → Prop
  | first : StartsAt q text 0
  | again {start place : Nat} (h : StartsAt q text start)
      (escaped : q.attempt? text start = some (.escaped place)) : StartsAt q text (place + 1)

theorem isUnescaped_iff (hstands : Text.standsAt text q.bytes place = true) :
    q.IsUnescaped text place ↔ Text.runBefore text '\\'.toUInt8 place % 2 = 0 := by
  have hsize := add_three_le_of_standsAt hstands
  rw [Text.runBefore_eq (by omega)]
  exact ⟨IsUnescaped.even, fun heven => ⟨Text.standsAt_iff.mp hstands, heven⟩⟩

/-- A delimiter that no backslash escapes is not passed over. -/
theorem not_isUnescaped_of_lt (hbefore : ∀ n < start, ¬ q.IsUnescaped text n)
    (hnone : ∀ n, start ≤ n → n < place → Text.standsAt text q.bytes n = false) :
    ∀ n < place, ¬ q.IsUnescaped text n := by
  intro n hn hunescaped
  rcases Nat.lt_or_ge n start with hlt | hge
  · exact hbefore n hlt hunescaped
  · have hstands := Text.standsAt_iff.mpr hunescaped.stands
    rw [hnone n hge hn] at hstands
    cases hstands

theorem closingFrom?_first (hstart : Text.isBoundary text start = true)
    (hbefore : ∀ n < start, ¬ q.IsUnescaped text n) :
    ∃ r, q.closingFrom? text start = some r ∧ q.IsFirst text r := by
  -- from one start to the next, no place that is left behind is that of an unescaped delimiter
  fun_induction closingFrom? q text start with
  | case1 start hnone =>
    have hsome := isSome_attempt? (q := q) hstart
    rw [hnone] at hsome
    cases hsome
  | case2 start hnothing =>
    refine ⟨none, rfl, ?_⟩
    cases tells_of_attempt? hnothing with
    | nothing hnone =>
      intro n hn
      have hsize := add_three_le_of_standsAt (Text.standsAt_iff.mpr hn.stands)
      have hrest : ∀ k, start ≤ k → k < n + 1 → Text.standsAt text q.bytes k = false :=
        fun k hk hle => Text.findFrom?_eq_none hnone k hk (by omega)
      exact not_isUnescaped_of_lt hbefore hrest n (Nat.lt_succ_self n) hn
  | case3 start place hcloses =>
    refine ⟨some place, rfl, ?_⟩
    cases tells_of_attempt? hcloses with
    | closes hfound heven =>
      obtain ⟨-, hstands, hnone⟩ := Text.findFrom?_eq_some hfound
      refine ⟨(isUnescaped_iff hstands).mpr heven, ?_⟩
      intro n hn
      refine Nat.le_of_not_lt fun hlt => ?_
      exact not_isUnescaped_of_lt hbefore hnone n hlt hn
  | case4 start place hescaped ih =>
    cases tells_of_attempt? hescaped with
    | escaped hfound hodd =>
      obtain ⟨-, hstands, hnone⟩ := Text.findFrom?_eq_some hfound
      apply ih (isBoundary_of_standsAt hstands (by omega))
      intro n hn
      rcases Nat.lt_succ_iff_lt_or_eq.mp hn with hlt | rfl
      · exact not_isUnescaped_of_lt hbefore hnone n hlt
      · exact fun hunescaped => hodd ((isUnescaped_iff hstands).mp hunescaped)

theorem closingFrom?_of_escaped (h : q.attempt? text start = some (.escaped place)) :
    q.closingFrom? text start = q.closingFrom? text (place + 1) := by
  fun_cases closingFrom? q text start with
  | case1 hnone =>
    rw [h] at hnone
    cases hnone
  | case2 hnothing =>
    rw [h] at hnothing
    cases hnothing
  | case3 _ hcloses =>
    rw [h] at hcloses
    cases hcloses
  | case4 _ hescaped =>
    rw [h] at hescaped
    cases hescaped
    rfl

theorem closingFrom?_zero (q : TripleQuote) (text : String) :
    q.closingFrom? text 0 = some (q.closing? text) := by
  rw [closing?, Option.some_get]

theorem closing?_first (q : TripleQuote) (text : String) : q.IsFirst text (q.closing? text) := by
  obtain ⟨r, hr, hfirst⟩ := closingFrom?_first (q := q) (Text.isBoundary_zero text) (by omega)
  rw [closingFrom?_zero] at hr
  rw [Option.some.inj hr]
  exact hfirst

/-- What `seek` looks for: a delimiter behind characters that end in an even number of
backslashes. -/
def CutsBetween (q : TripleQuote) (before after : List Char) : Prop :=
  q.delimiter <+: after ∧ backslashes before.reverse % 2 = 0

theorem isUnescaped_ofList (before after : List Char) :
    q.IsUnescaped (String.ofList (before ++ after)) (String.ofList before).utf8ByteSize ↔
      q.CutsBetween before after := by
  have hplace : (String.ofList before).utf8ByteSize = (Text.utf8 (String.ofList before)).length :=
    (Text.length_utf8 _).symm
  have hstands : q.bytes <+: (Text.utf8 (String.ofList (before ++ after))).drop
      (String.ofList before).utf8ByteSize ↔ q.delimiter <+: after := by
    rw [String.ofList_append, Text.utf8_append, hplace, List.drop_left, bytes,
      Text.utf8_prefix_iff, String.toList_ofList, String.toList_ofList]
  have heven : (((Text.utf8 (String.ofList (before ++ after))).take
      (String.ofList before).utf8ByteSize).rtakeWhile (· == '\\'.toUInt8)).length =
        backslashes before.reverse := by
    rw [String.ofList_append, Text.utf8_append, hplace, List.take_left, Text.utf8_ofList,
      Text.length_rtakeWhile_flatMap (by decide), List.rtakeWhile, List.length_reverse]
    rfl
  constructor
  · intro h
    exact ⟨hstands.mp h.stands, heven ▸ h.even⟩
  · rintro ⟨hd, he⟩
    exact ⟨hstands.mpr hd, heven ▸ he⟩

/-- Nothing before the place where `seekFrom` cuts a text would do. -/
theorem seekFrom_eq_some {passed cs before after : List Char}
    (h : q.seekFrom passed cs = some (before, after)) :
    q.CutsBetween before after ∧ ∃ mid, before = passed.reverse ++ mid ∧ cs = mid ++ after ∧
      ∀ l r, mid = l ++ r → r ≠ [] → ¬ q.CutsBetween (passed.reverse ++ l) (r ++ after) := by
  fun_induction seekFrom q passed cs with
  | case1 => cases h
  | case2 passed c rest hfound =>
    obtain ⟨rfl, rfl⟩ := Prod.mk.inj (Option.some.inj h)
    simp only [Bool.and_eq_true, List.isPrefixOf_iff_prefix, beq_iff_eq] at hfound
    refine ⟨⟨hfound.1, by simpa using hfound.2⟩, [], by simp, rfl, ?_⟩
    intro l r hmid hne
    exact absurd (List.append_eq_nil_iff.mp hmid.symm).2 hne
  | case3 passed c rest hother ih =>
    simp only [Bool.and_eq_true, List.isPrefixOf_iff_prefix, beq_iff_eq] at hother
    obtain ⟨hcut, mid, rfl, rfl, hnone⟩ := ih h
    refine ⟨hcut, c :: mid, by simp, rfl, ?_⟩
    intro l r hmid hne
    cases l with
    | nil =>
      obtain rfl : c :: mid = r := hmid
      simpa [CutsBetween] using hother
    | cons d l =>
      obtain ⟨rfl, rfl⟩ := List.cons.inj hmid
      simpa using hnone l r rfl hne

theorem seekFrom_eq_none {passed cs : List Char} (h : q.seekFrom passed cs = none) :
    ∀ l r, cs = l ++ r → ¬ q.CutsBetween (passed.reverse ++ l) r := by
  fun_induction seekFrom q passed cs with
  | case1 =>
    intro l r hnil hr
    obtain ⟨rfl, rfl⟩ := List.append_eq_nil_iff.mp hnil.symm
    exact absurd (List.prefix_nil.mp hr.1) (by cases q <;> decide)
  | case2 => cases h
  | case3 passed c rest hother ih =>
    simp only [Bool.and_eq_true, List.isPrefixOf_iff_prefix, beq_iff_eq] at hother
    intro l r hsplit
    cases l with
    | nil =>
      obtain rfl : c :: rest = r := hsplit
      simpa [CutsBetween] using hother
    | cons d l =>
      obtain ⟨rfl, rfl⟩ := List.cons.inj hsplit
      simpa using ih h l r rfl

/-- An unescaped delimiter stands between two characters. -/
theorem IsUnescaped.split {cs : List Char} (h : q.IsUnescaped (String.ofList cs) place) :
    ∃ l r, cs = l ++ r ∧ place = (String.ofList l).utf8ByteSize ∧ q.CutsBetween l r := by
  have hboundary := isBoundary_of_standsAt (Text.standsAt_iff.mpr h.stands) (by omega : 0 < 3)
  obtain ⟨l, r, hsplit, hplace⟩ := Text.isBoundary_iff.mp hboundary
  obtain rfl : cs = l.toList ++ r.toList := by
    rw [← String.toList_append, ← hsplit, String.toList_ofList]
  obtain rfl : place = (String.ofList l.toList).utf8ByteSize := by
    rw [String.ofList_toList]
    exact hplace
  exact ⟨l.toList, r.toList, rfl, rfl, (isUnescaped_ofList _ _).mp h⟩

/-- The search from delimiter to delimiter and the one from character to character agree. -/
theorem closing?_ofList (q : TripleQuote) (cs : List Char) :
    q.closing? (String.ofList cs) =
      (q.seek cs).map fun cut => (String.ofList cut.1).utf8ByteSize := by
  apply (closing?_first q _).unique
  cases hseek : q.seek cs with
  | none =>
    intro n hn
    obtain ⟨l, r, rfl, -, hcut⟩ := hn.split
    exact seekFrom_eq_none hseek l r rfl (by simpa using hcut)
  | some cut =>
    obtain ⟨before, after⟩ := cut
    obtain ⟨hcut, mid, rfl, rfl, hnone⟩ := seekFrom_eq_some hseek
    simp only [List.reverse_nil, List.nil_append] at hcut hnone ⊢
    refine ⟨(isUnescaped_ofList _ _).mpr hcut, ?_⟩
    intro n hn
    obtain ⟨l, r, hsplit, rfl, hearlier⟩ := hn.split
    rcases List.append_eq_append_iff.mp hsplit with ⟨more, rfl, rfl⟩ | ⟨more, rfl, rfl⟩
    · simp only [String.ofList_append, String.utf8ByteSize_append]
      exact Nat.le_add_right _ _
    · by_cases hmore : more = []
      · subst hmore
        rw [List.append_nil]
      · exact absurd hearlier (hnone l more rfl hmore)

theorem isBoundary_of_startsAt (h : q.StartsAt text start) : Text.isBoundary text start = true := by
  cases h with
  | first => exact Text.isBoundary_zero text
  | again _ hescaped =>
    cases tells_of_attempt? hescaped with
    | escaped hfound =>
      obtain ⟨-, hstands, -⟩ := Text.findFrom?_eq_some hfound
      exact isBoundary_of_standsAt hstands (by omega)

theorem closingFrom?_of_startsAt (h : q.StartsAt text start) :
    q.closingFrom? text start = some (q.closing? text) := by
  induction h with
  | first => exact closingFrom?_zero q text
  | again _ hescaped ih => rw [← ih, closingFrom?_of_escaped hescaped]

/-- The search from one delimiter to the next comes to an end: it does not cut the text within a
character, and wherever it starts again a character starts, behind the place where it started
before. It finds the least place of an unescaped delimiter, and a character starts there, or it
finds nothing as there is no unescaped delimiter. -/
theorem closing_first_unescaped (q : TripleQuote) (text : String) :
    q.closingFrom? text 0 = some (q.closing? text) ∧
    (∀ place, q.closing? text = some place ↔ IsLeast {n | q.IsUnescaped text n} place) ∧
    (q.closing? text = none ↔ ∀ n, ¬ q.IsUnescaped text n) ∧
    (∀ place, q.closing? text = some place → Text.isBoundary text place = true) ∧
    ∀ start, q.StartsAt text start →
      Text.isBoundary text start = true ∧ q.closingFrom? text start = some (q.closing? text) ∧
      ∀ place, q.attempt? text start = some (.escaped place) →
        start < place + 1 ∧ place + 1 < text.utf8ByteSize := by
  have hfirst := closing?_first q text
  refine ⟨closingFrom?_zero q text, ?_, ?_, ?_, ?_⟩
  · intro place
    constructor
    · intro h
      rw [h] at hfirst
      exact hfirst
    · intro h
      exact hfirst.unique (show q.IsFirst text (some place) from h)
  · constructor
    · intro h
      rw [h] at hfirst
      exact hfirst
    · intro h
      exact hfirst.unique (show q.IsFirst text none from h)
  · intro place h
    rw [h] at hfirst
    exact isBoundary_of_standsAt (Text.standsAt_iff.mpr hfirst.1.stands) (by omega : 0 < 3)
  · intro start h
    refine ⟨isBoundary_of_startsAt h, closingFrom?_of_startsAt h, ?_⟩
    intro place hescaped
    cases tells_of_attempt? hescaped with
    | escaped hfound =>
      obtain ⟨hle, hstands, -⟩ := Text.findFrom?_eq_some hfound
      have hsize := add_three_le_of_standsAt hstands
      exact ⟨Nat.lt_succ_of_le hle, by omega⟩

/-- The closing delimiter overlaps the escaped one before it. -/
theorem closing_first_unescaped_overlapping :
    TripleQuote.double.StartsAt "é\\\"\"\"\" or" 4 ∧
      Text.isBoundary "é\\\"\"\"\" or" 4 = true ∧
      TripleQuote.double.closing? "é\\\"\"\"\" or" = some 4 ∧
      IsLeast {n | TripleQuote.double.IsUnescaped "é\\\"\"\"\" or" n} 4 := by
  have hescaped : TripleQuote.double.attempt? "é\\\"\"\"\" or" 0 = some (.escaped 3) := by
    decide +kernel
  have hclosing : TripleQuote.double.closing? "é\\\"\"\"\" or" = some 4 := by decide +kernel
  have hstart : TripleQuote.double.StartsAt "é\\\"\"\"\" or" 4 := .again .first hescaped
  obtain ⟨-, hleast, -, -, hstarts⟩ :=
    closing_first_unescaped .double "é\\\"\"\"\" or"
  exact ⟨hstart, (hstarts 4 hstart).1, hclosing, (hleast 4).mp hclosing⟩

end TripleQuote

end Offside
