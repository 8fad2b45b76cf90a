import Offside.Proofs.NumberGrammar
import Offside.Proofs.Recognition

/-!
# Numbers and names

The patterns of numbers prefer the longest match: in each of them one character tells whether to go
on, and where the letter of a radix follows a zero no decimal number goes on. So a number is the
longest that the text starts with, and a name is all that goes on with the characters of names.
-/

namespace Offside

set_option autoImplicit false

structure IsLongestNumber (text u : List Char) : Prop where
  number : IsNumber u
  starts : u <+: text
  longest : ∀ v, IsNumber v → v <+: text → v.length ≤ u.length

namespace Table

open Pattern CharSet

theorem decided_exponent : exponent.Decided :=
  .opt (.followedBy (.piece _) (.followedBy (.opt (.piece _) rfl) (.run ..) rfl (by decide)) rfl
    (by decide)) rfl

theorem decided_imaginary : imaginary.Decided := .opt (.piece _) rfl

theorem decided_fraction : fraction.Decided :=
  .opt (.followedBy (.piece _) (.run ..) rfl (by decide)) rfl

theorem decided_scale : (seq exponent imaginary).Decided :=
  .followedBy decided_exponent decided_imaginary rfl (by decide)

theorem decided_decimalNumber : decimalNumber.Decided := by
  rw [decimalNumber_eq]
  refine .followedBy (.piece _) ?_ rfl (by decide)
  refine .followedBy (.run ..) ?_ rfl (by decide)
  exact .followedBy decided_fraction decided_scale rfl (by decide)

theorem decided_pointNumber : pointNumber.Decided := by
  rw [pointNumber_eq]
  refine .followedBy (.piece _) ?_ rfl (by decide)
  refine .followedBy (.piece _) ?_ rfl (by decide)
  exact .followedBy (.run ..) decided_scale rfl (by decide)

theorem decided_radixPattern (r : Radix) : (radixPattern r).Decided := by
  cases r <;>
    exact .followedBy (.piece _) (.followedBy (.piece _) (.run ..) rfl (by decide)) rfl (by decide)

variable {ops : OperatorSet} {text : List Char} {x : Lexeme} {e : Entry} {r r' : Radix}
  {v w z : Reach}

theorem radix_of_mem_ways (h : v ∈ (radixPattern r).ways z) :
    ∃ letter ∈ r.letters, ∃ rest, z.rest = '0' :: letter :: rest ∧ z.count + 2 ≤ v.count := by
  have hsingle : (radixPattern r).isSingle = true := by cases r <;> rfl
  obtain ⟨u, hu, hrest, hcount⟩ := (mem_ways_iff hsingle).mp h
  obtain ⟨letter, digits, hl, -, -, rfl⟩ := (spells_radix r).mp hu
  refine ⟨letter, hl, digits ++ v.rest, hrest, ?_⟩
  rw [hcount, List.length_cons, List.length_cons]
  omega

theorem radix_inj (hv : v ∈ (radixPattern r).ways z) (hw : w ∈ (radixPattern r').ways z) :
    r = r' := by
  obtain ⟨letter, hl, rest, hrest, -⟩ := radix_of_mem_ways hv
  obtain ⟨letter', hl', rest', hrest', -⟩ := radix_of_mem_ways hw
  obtain ⟨-, heq⟩ := List.cons.inj (hrest.symm.trans hrest')
  obtain ⟨rfl, -⟩ := List.cons.inj heq
  have hapart : ∀ r r' : Radix, r.letters.any r'.letters.contains = true → r = r' := by
    intro r r'
    cases r <;> cases r' <;> decide
  exact hapart r r' (List.any_eq_true.mpr ⟨letter, hl, List.contains_iff_mem.mpr hl'⟩)

/-- Where a number has the letter of a radix, only its zero can be read as a decimal number. -/
theorem count_le_of_radix (hv : v ∈ (radixPattern r).ways z) (hw : w ∈ decimalNumber.ways z) :
    w.count ≤ v.count := by
  obtain ⟨letter, hl, rest, hrest, hcount⟩ := radix_of_mem_ways hv
  obtain ⟨n, _⟩ := z
  obtain rfl : _ = '0' :: letter :: rest := hrest
  have hletters : (r.letters.all fun l =>
      !(seq (manyOf digitOrLine) (seq fraction (seq exponent imaginary))).starts l) = true := by
    cases r <;> decide
  obtain ⟨y, hy, hw⟩ := List.mem_flatMap.mp (decimalNumber_eq ▸ hw)
  rw [one, ways_one, if_pos (by decide), List.mem_singleton] at hy
  subst hy
  rcases starts_of_mem_ways hw with ⟨rfl, -⟩ | hs
  · exact Nat.le_trans (Nat.le_succ _) hcount
  · have hnot := List.all_eq_true.mp hletters letter hl
    rw [hs] at hnot
    cases hnot

theorem descending_unsigned (z : Reach) : Reach.Descending (unsigned.ways z) := by
  have happart : ∀ {r r' : Radix}, r ≠ r' → ∀ v ∈ (radixPattern r).ways z,
      ∀ w ∈ (radixPattern r').ways z, w.count ≤ v.count := fun hne v hv w hw =>
    absurd (radix_inj hv hw) hne
  have hdecimal : ∀ r : Radix, ∀ v ∈ (radixPattern r).ways z, ∀ w ∈ decimalNumber.ways z,
      w.count ≤ v.count := fun r v hv w hw => count_le_of_radix hv hw
  simp only [unsigned, ways.eq_4, Reach.Descending, List.pairwise_append, List.mem_append]
  refine ⟨(decided_radixPattern _).descending z, ⟨(decided_radixPattern _).descending z,
    ⟨(decided_radixPattern _).descending z, decided_decimalNumber.descending z, hdecimal _⟩,
    ?_⟩, ?_⟩
  · rintro v hv w (hw | hw)
    · exact happart (by decide) v hv w hw
    · exact hdecimal _ v hv w hw
  · rintro v hv w (hw | hw | hw)
    · exact happart (by decide) v hv w hw
    · exact happart (by decide) v hv w hw
    · exact hdecimal _ v hv w hw

/-- Without a minus sign the pattern of numbers is that of numbers without a sign. -/
theorem descending_number (h : text.head? ≠ some '-') :
    Reach.Descending (number.ways ⟨0, text⟩) := by
  have hsign : (one (just '-')).ways ⟨0, text⟩ = [] := by
    cases text with
    | nil => rfl
    | cons c rest =>
      have hc : c ≠ '-' := fun heq => h (by rw [heq]; rfl)
      rw [one, ways_one, if_neg (by simpa [holds] using hc)]
  rw [number_eq, ways, ways, hsign, List.nil_append, List.flatMap_singleton]
  exact descending_unsigned _

def numberEntry : Entry := ⟨.number, .token, number⟩

def pointEntry : Entry := ⟨.number, .token, pointNumber⟩

/-- A lexeme is the longest beginning of the text for which the pattern of its entry stands, if the
ways to match that pattern come longest first. -/
theorem longest_of_lexeme? (hp : e.pattern.isSingle = true)
    (hd : Reach.Descending (e.pattern.ways ⟨0, text⟩)) (hx : lexeme? text e = some x) :
    e.pattern.Spells x.text.toList ∧ x.text.toList <+: text ∧
      ∀ u, e.pattern.Spells u → u <+: text → u.length ≤ x.text.toList.length := by
  obtain ⟨z, hz, -, rfl⟩ := lexeme?_eq_some hx
  obtain ⟨hle, happ⟩ := take_append_of_match? hz
  rw [String.toList_ofList, List.length_take_of_le hle]
  refine ⟨spells_of_match? hp hz, List.take_prefix .., ?_⟩
  intro u hu hbegins
  exact length_le_of_match? hp hd hz hu hbegins

theorem starts_pointNumber {c : Char} : pointNumber.starts c = true ↔ c = '.' := by
  simp [pointNumber, inRow, one, starts, Piece.starts, nullable, holds]

theorem not_both_numbers {u v : List Char} (hu : number.Spells u) (hpu : u <+: text)
    (hv : pointNumber.Spells v) (hpv : v <+: text) : False := by
  obtain ⟨c, rest, rfl, hc⟩ := starts_of_spells rfl rfl hu hpu
  obtain ⟨d, rest', heq, hd⟩ := starts_of_spells rfl rfl hv hpv
  obtain ⟨rfl, -⟩ := List.cons.inj heq
  obtain rfl := starts_pointNumber.mp hd
  exact absurd hc (by decide)

theorem isLongestNumber_of_number (hminus : text.head? ≠ some '-')
    (hx : lexeme? text numberEntry = some x) : IsLongestNumber text x.text.toList := by
  obtain ⟨hspells, hbegins, hlongest⟩ := longest_of_lexeme? rfl (descending_number hminus) hx
  refine ⟨isNumber_iff_spells.mpr (.inl hspells), hbegins, ?_⟩
  intro v hv hpv
  rcases isNumber_iff_spells.mp hv with hv | hv
  · exact hlongest v hv hpv
  · exact (not_both_numbers hspells hbegins hv hpv).elim

theorem isLongestNumber_of_point (hx : lexeme? text pointEntry = some x) :
    IsLongestNumber text x.text.toList := by
  obtain ⟨hspells, hbegins, hlongest⟩ :=
    longest_of_lexeme? rfl (decided_pointNumber.descending _) hx
  refine ⟨isNumber_iff_spells.mpr (.inr hspells), hbegins, ?_⟩
  intro v hv hpv
  rcases isNumber_iff_spells.mp hv with hv | hv
  · exact (not_both_numbers hv hpv hspells hbegins).elim
  · exact hlongest v hv hpv

theorem kind_of_mem_heads (h : e ∈ heads ops) : e.kind = .op ∨ e = pointEntry := by
  simp only [heads, List.mem_append, List.mem_flatMap, List.mem_cons, List.mem_map] at h
  rcases h with ⟨b, -, rfl | rfl | hb⟩ | rfl | ⟨op, -, rfl⟩
  · exact .inl rfl
  · exact .inl rfl
  · cases hb
  · exact .inr rfl
  · exact .inl rfl

theorem classify_number (h : (ofOperators ops).classify text = some x) (hk : x.kind = .number) :
    lexeme? text pointEntry = some x ∨
      (heads ops).findSome? (lexeme? text) = none ∧ lexeme? text numberEntry = some x := by
  rw [classify_eq, Option.or_eq_some_iff] at h
  rcases h with h | ⟨hheads, h⟩
  · obtain ⟨e, he, hx⟩ := List.exists_of_findSome?_eq_some h
    have hkind := (role_of_lexeme? hx).1
    rcases kind_of_mem_heads he with hop | rfl
    · rw [hop, hk] at hkind
      cases hkind
    · exact .inl hx
  · obtain ⟨e, he, hx⟩ := List.exists_of_findSome?_eq_some h
    have honly : ∀ e ∈ classEntries, e.kind = .number → e = numberEntry := by decide
    obtain rfl := honly e he ((role_of_lexeme? hx).1.symm.trans hk)
    exact .inr ⟨hheads, hx⟩

theorem classify_name (h : (ofOperators ops).classify text = some x) (hk : x.kind = .name) :
    lexeme? text numberEntry = none ∧ lexeme? text nameEntry = some x := by
  have hfront : ∀ es : List Entry, (∀ e ∈ es, e.kind ≠ .name) →
      es.findSome? (lexeme? text) ≠ some x := by
    intro es hes hsome
    obtain ⟨e, he, hx⟩ := List.exists_of_findSome?_eq_some hsome
    exact hes e he ((role_of_lexeme? hx).1.symm.trans hk)
  have hclasses : classEntries = tripleEntries .double ++ tripleEntries .single ++ shortEntries ++
      [⟨.comment, .token, comment⟩, numberEntry] ++ [nameEntry] := rfl
  rw [classify_eq, hclasses, List.findSome?_append, Option.or_eq_some_iff,
    Option.or_eq_some_iff] at h
  rcases h with h | ⟨-, h | ⟨hbefore, h⟩⟩
  · refine absurd h (hfront _ fun e he => ?_)
    rcases kind_of_mem_heads he with hop | rfl
    · rw [hop]
      decide
    · decide
  · exact absurd h (hfront _ (by decide))
  · have hnumber := List.findSome?_eq_none_iff.mp hbefore numberEntry (by simp)
    rw [List.findSome?_singleton] at h
    exact ⟨hnumber, h⟩

theorem lexeme?_number_ne_none {d : Char} {rest : List Char} (hd : d.isDigit = true) :
    lexeme? (d :: rest) numberEntry ≠ none := by
  have hspells : number.Spells [d] := by
    have hrun : IsRun [] := by simp [IsRun]
    exact spells_number.mpr (.inl (.decimal hd hrun (.inl rfl) (.inl rfl) (.inl rfl)))
  have hway := (mem_ways_iff (z := ⟨0, d :: rest⟩) (w := ⟨1, rest⟩) rfl).mpr
    ⟨[d], hspells, rfl, rfl⟩
  have hne : number.ways ⟨0, d :: rest⟩ ≠ [] := List.ne_nil_of_mem hway
  obtain ⟨z, hz⟩ := Option.ne_none_iff_exists'.mp (List.head?_eq_none_iff.not.mpr hne)
  have hpos : z.count ≠ 0 := Nat.ne_of_gt (count_lt_of_mem_ways rfl (List.mem_of_head? hz))
  rw [← match?_eq_head?] at hz
  simp [lexeme?, numberEntry, hz, hpos]

theorem longest_of_classify (h : ops.Reachable) (hx : (ofOperators ops).classify text = some x)
    (hk : x.kind = .number) :
    x.text.toList.head? ≠ some '-' ∧ IsLongestNumber text x.text.toList := by
  have hboth : text.head? ≠ some '-' ∧ IsLongestNumber text x.text.toList := by
    rcases classify_number hx hk with hpoint | ⟨hheads, hnumber⟩
    · refine ⟨?_, isLongestNumber_of_point hpoint⟩
      cases text with
      | nil => simp
      | cons c rest =>
        obtain rfl := starts_pointNumber.mp (starts_of_lexeme? hpoint)
        exact fun hh => absurd (Option.some.inj hh) (by decide)
    · -- the minus sign is an operator of every set
      have hminus : "-" ∈ ops.members :=
        h.core_subset "-" (by rw [OperatorSet.members_core]; decide)
      have hstart := ((heads_eq_none h).mp hheads).2 "-" hminus
      have hhead : text.head? ≠ some '-' := by
        intro hh
        obtain ⟨rest, rfl⟩ := List.head?_eq_some_iff.mp hh
        exact hstart ⟨rest, rfl⟩
      exact ⟨hhead, isLongestNumber_of_number hhead hnumber⟩
  refine ⟨?_, hboth.2⟩
  cases hlist : x.text.toList with
  | nil => simp
  | cons c rest =>
    rw [← (append_rest_of_classify hx).2.2, hlist] at hboth
    exact hboth.1

theorem run_of_classify (hx : (ofOperators ops).classify text = some x) (hk : x.kind = .name) :
    x.text.toList = text.takeWhile Text.isWordChar ∧
      ∃ c rest, x.text.toList = c :: rest ∧ c.isDigit = false := by
  obtain ⟨hpos, hwidth, happ⟩ := append_rest_of_classify hx
  obtain ⟨hnumber, hname⟩ := classify_name hx hk
  have hrun : x.text.toList = text.takeWhile Text.isWordChar := by
    obtain ⟨z, hz, -, rfl⟩ := lexeme?_eq_some hname
    rw [nameEntry, match?_name] at hz
    split at hz
    · obtain rfl := Option.some.inj hz
      rw [String.toList_ofList]
      exact (List.prefix_iff_eq_take.mp (List.takeWhile_prefix _)).symm
    · cases hz
  refine ⟨hrun, ?_⟩
  cases hlist : x.text.toList with
  | nil =>
    rw [hlist] at hwidth
    exact absurd hwidth.symm (Nat.ne_of_gt hpos)
  | cons c rest =>
    refine ⟨c, rest, rfl, ?_⟩
    rw [← happ, hlist] at hnumber
    rw [← Bool.not_eq_true]
    exact fun hd => lexeme?_number_ne_none hd hnumber

/-- Numbers and names are taken as far as they go. What is classified as a number has no minus sign
and is the longest number that the text starts with. What is classified as a name is the whole run
of characters of names that the text starts with, and its first character is no digit. -/
theorem numbers_and_names_maximal (h : ops.Reachable)
    (hx : (ofOperators ops).classify text = some x) :
    (x.kind = .number →
      x.text.toList.head? ≠ some '-' ∧ IsLongestNumber text x.text.toList) ∧
    (x.kind = .name →
      x.text.toList = text.takeWhile Text.isWordChar ∧
        ∃ c rest, x.text.toList = c :: rest ∧ c.isDigit = false) :=
  ⟨longest_of_classify h hx, run_of_classify hx⟩

/-- A number with a fraction, an exponent and a letter, behind which a name could go on, and a name
with a digit in it. -/
theorem numbers_and_names_maximal_mixed :
    ((ofOperators .core).classify "1_0.e-5Jx".toList =
        some ⟨.number, .token, 8, "1_0.e-5J", ['x']⟩ ∧
      "1_0.e-5J".toList.head? ≠ some '-' ∧
      IsLongestNumber "1_0.e-5Jx".toList "1_0.e-5J".toList) ∧
    (ofOperators .core).classify "é_9-2".toList = some ⟨.name, .token, 3, "é_9", ['-', '2']⟩ ∧
      "é_9".toList = "é_9-2".toList.takeWhile Text.isWordChar ∧
      ∃ c rest, "é_9".toList = c :: rest ∧ c.isDigit = false := by
  have hnumber : (ofOperators .core).classify "1_0.e-5Jx".toList =
      some ⟨.number, .token, 8, "1_0.e-5J", ['x']⟩ := by
    rw [ofOperators, OperatorSet.matchOrder_core]
    decide +kernel
  have hname : (ofOperators .core).classify "é_9-2".toList =
      some ⟨.name, .token, 3, "é_9", ['-', '2']⟩ := by
    rw [ofOperators, OperatorSet.matchOrder_core]
    decide +kernel
  exact ⟨⟨hnumber, (numbers_and_names_maximal (.ofPreset .core) hnumber).1 rfl⟩, hname,
    (numbers_and_names_maximal (.ofPreset .core) hname).2 rfl⟩

end Table

end Offside
