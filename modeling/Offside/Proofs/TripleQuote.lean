import Offside.Lexer.Closing

/-!
# The end of a triple-quoted string in the whole source

`scan` reads a source from behind an opening delimiter: a backslash takes the character behind it
along, even a line feed, and the first delimiter that is met otherwise ends the string. The search
for an unescaped delimiter in one line finds the same place (`seek_eq_scan`), and a line without
one leaves the scan where the next line starts (`passes_line`).
-/

namespace Offside.TripleQuote

set_option autoImplicit false

/-- Puts passed characters before the two parts of a cut. -/
def behind (passed : List Char) (cut : List Char × List Char) : List Char × List Char :=
  (passed ++ cut.1, cut.2)

@[simp] theorem behind_behind (a b : List Char) (cut : List Char × List Char) :
    behind a (behind b cut) = behind (a ++ b) cut := by
  simp [behind]

theorem map_behind_map (a b : List Char) (cut? : Option (List Char × List Char)) :
    (cut?.map (behind b)).map (behind a) = cut?.map (behind (a ++ b)) := by
  cases cut? <;> simp

/-- Cuts a source before the delimiter that closes the string in which it starts. -/
def scan (q : TripleQuote) : List Char → Option (List Char × List Char)
  | [] => none
  | '\\' :: c :: rest => (q.scan rest).map (behind ['\\', c])
  | c :: rest =>
    if q.delimiter.isPrefixOf (c :: rest) then some ([], c :: rest)
    else (q.scan rest).map (behind [c])

variable {q : TripleQuote}

theorem delimiter_eq (q : TripleQuote) : q.delimiter = [q.mark, q.mark, q.mark] := rfl

theorem lineFeed_not_mem_delimiter (q : TripleQuote) : '\n' ∉ q.delimiter := by
  cases q <;> decide

theorem isPrefixOf_backslash (q : TripleQuote) (rest : List Char) :
    q.delimiter.isPrefixOf ('\\' :: rest) = false := by
  cases q <;> rfl

theorem scan_escape (q : TripleQuote) (c : Char) (rest : List Char) :
    q.scan ('\\' :: c :: rest) = (q.scan rest).map (behind ['\\', c]) := rfl

theorem scan_backslash (q : TripleQuote) : q.scan ['\\'] = none := by
  cases q <;> rfl

theorem scan_cons {c : Char} (h : c ≠ '\\') (rest : List Char) :
    q.scan (c :: rest) =
      if q.delimiter.isPrefixOf (c :: rest) then some ([], c :: rest)
      else (q.scan rest).map (behind [c]) :=
  scan.eq_3 q c rest fun _ _ hc _ => absurd hc h

theorem scan_eq_some {text before after : List Char} (h : q.scan text = some (before, after)) :
    before ++ after = text ∧ q.delimiter <+: after := by
  fun_induction scan q text generalizing before with
  | case1 => cases h
  | case2 c rest ih =>
    obtain ⟨⟨b, a⟩, hs, hb⟩ := Option.map_eq_some_iff.mp h
    obtain ⟨rfl, rfl⟩ := Prod.mk.inj hb
    obtain ⟨rfl, hd⟩ := ih hs
    exact ⟨rfl, hd⟩
  | case3 c rest _ hd =>
    obtain ⟨rfl, rfl⟩ := Prod.mk.inj (Option.some.inj h)
    exact ⟨rfl, List.isPrefixOf_iff_prefix.mp hd⟩
  | case4 c rest _ _ ih =>
    obtain ⟨⟨b, a⟩, hs, hb⟩ := Option.map_eq_some_iff.mp h
    obtain ⟨rfl, rfl⟩ := Prod.mk.inj hb
    obtain ⟨rfl, hd⟩ := ih hs
    exact ⟨rfl, hd⟩

theorem isPrefixOf_append {text : List Char} (h : 3 ≤ text.length) (more : List Char) :
    q.delimiter.isPrefixOf (text ++ more) = q.delimiter.isPrefixOf text := by
  rw [Bool.eq_iff_iff, List.isPrefixOf_iff_prefix, List.isPrefixOf_iff_prefix]
  constructor
  · intro hp
    exact List.prefix_of_prefix_length_le hp (List.prefix_append text more) h
  · intro hp
    exact hp.trans (List.prefix_append text more)

theorem isPrefixOf_lineFeed (text more : List Char) :
    q.delimiter.isPrefixOf (text ++ '\n' :: more) = q.delimiter.isPrefixOf text := by
  rw [Bool.eq_iff_iff, List.isPrefixOf_iff_prefix, List.isPrefixOf_iff_prefix]
  constructor
  · intro hp
    rcases List.prefix_or_prefix_of_prefix hp (List.prefix_append text ('\n' :: more)) with h | h
    · exact h
    · obtain ⟨tail, ht⟩ := h
      cases tail with
      | nil => simp [← ht]
      | cons c tail =>
        rw [← ht, List.prefix_append_right_inj] at hp
        obtain ⟨rfl, -⟩ := List.cons_prefix_cons.mp hp
        exact absurd (ht ▸ by simp) (lineFeed_not_mem_delimiter q)
  · intro hp
    exact hp.trans (List.prefix_append text ('\n' :: more))

theorem length_of_scan {text before after : List Char} (h : q.scan text = some (before, after)) :
    3 ≤ text.length := by
  obtain ⟨rfl, hd⟩ := scan_eq_some h
  have hl : 3 ≤ after.length := hd.length_le
  rw [List.length_append]
  omega

theorem scan_append {text before after : List Char} (h : q.scan text = some (before, after))
    (more : List Char) : q.scan (text ++ more) = some (before, after ++ more) := by
  fun_induction scan q text generalizing before with
  | case1 => cases h
  | case2 c rest ih =>
    obtain ⟨⟨b, a⟩, hs, hb⟩ := Option.map_eq_some_iff.mp h
    obtain ⟨rfl, rfl⟩ := Prod.mk.inj hb
    rw [List.cons_append, List.cons_append, scan_escape, ih hs]
    rfl
  | case3 c rest _ hd =>
    obtain ⟨rfl, rfl⟩ := Prod.mk.inj (Option.some.inj h)
    have hne : c ≠ '\\' := by
      rintro rfl
      rw [isPrefixOf_backslash] at hd
      cases hd
    have hl : 3 ≤ (c :: rest).length := (List.isPrefixOf_iff_prefix.mp hd).length_le
    rw [List.cons_append, scan_cons hne, ← List.cons_append, isPrefixOf_append hl, if_pos hd]
  | case4 c rest hc hd ih =>
    obtain ⟨⟨b, a⟩, hs, hb⟩ := Option.map_eq_some_iff.mp h
    obtain ⟨rfl, rfl⟩ := Prod.mk.inj hb
    have hl := length_of_scan hs
    have hne : c ≠ '\\' := by
      obtain ⟨d, r, rfl⟩ := List.exists_cons_of_length_pos (by omega : 0 < rest.length)
      exact fun h => hc d r h rfl
    have hl' : 3 ≤ (c :: rest).length := Nat.le_succ_of_le hl
    rw [List.cons_append, scan_cons hne, ← List.cons_append, isPrefixOf_append hl', if_neg hd,
      ih hs]
    rfl

theorem mark_ne_backslash (q : TripleQuote) : q.mark ≠ '\\' := by
  cases q <;> decide

theorem scan_exchange {text before more : List Char}
    (h : q.scan text = some (before, q.delimiter ++ more)) (more' : List Char) :
    q.scan (before ++ (q.delimiter ++ more')) = some (before, q.delimiter ++ more') := by
  fun_induction scan q text generalizing before with
  | case1 => cases h
  | case2 c rest ih =>
    obtain ⟨⟨b, a⟩, hs, hb⟩ := Option.map_eq_some_iff.mp h
    obtain ⟨rfl, rfl⟩ := Prod.mk.inj hb
    change q.scan ('\\' :: c :: (b ++ (q.delimiter ++ more'))) = _
    rw [scan_escape, ih hs]
    rfl
  | case3 c rest _ hd =>
    obtain ⟨rfl, -⟩ := Prod.mk.inj (Option.some.inj h)
    change q.scan (q.mark :: q.mark :: q.mark :: more') = _
    rw [scan_cons (mark_ne_backslash q), if_pos (by simp [delimiter_eq])]
    rfl
  | case4 c rest hesc hd ih =>
    obtain ⟨⟨b, a⟩, hs, hb⟩ := Option.map_eq_some_iff.mp h
    obtain ⟨rfl, rfl⟩ := Prod.mk.inj hb
    obtain ⟨rfl, -⟩ := scan_eq_some hs
    have hne : c ≠ '\\' := by
      intro hc
      cases b with
      | nil => exact hesc _ _ hc rfl
      | cons d r => exact hesc _ _ hc rfl
    -- whether a delimiter starts here is decided before the end of the closing one
    have hlen : 3 ≤ (c :: (b ++ q.delimiter)).length := by
      simp [delimiter_eq]
    have hstart : ∀ end', q.delimiter.isPrefixOf (c :: (b ++ (q.delimiter ++ end'))) =
        q.delimiter.isPrefixOf (c :: (b ++ q.delimiter)) := by
      intro end'
      rw [← isPrefixOf_append hlen end', List.cons_append, List.append_assoc]
    change q.scan (c :: (b ++ (q.delimiter ++ more'))) = _
    rw [hstart more] at hd
    rw [scan_cons hne, hstart more', if_neg hd, ih hs]
    rfl

theorem backslashes_cons (c : Char) (passed : List Char) :
    backslashes (c :: passed) = if c = '\\' then backslashes passed + 1 else 0 := by
  by_cases h : c = '\\' <;> simp [backslashes, h]

/-- Whether the scan comes to a place is told by the number of backslashes directly before it: if
it is odd, the character there belongs to the last of them. -/
theorem seekFrom_eq (passed text : List Char) :
    q.seekFrom passed text =
      if backslashes passed % 2 = 0 then (q.scan text).map (behind passed.reverse)
      else (q.scan text.tail).map (behind (passed.reverse ++ text.take 1)) := by
  fun_induction seekFrom q passed text with
  | case1 passed => simp [scan]
  | case2 passed c rest h =>
    simp only [Bool.and_eq_true, beq_iff_eq] at h
    obtain ⟨hd, hp⟩ := h
    have hne : c ≠ '\\' := by
      rintro rfl
      rw [isPrefixOf_backslash] at hd
      cases hd
    rw [if_pos hp, scan_cons hne, if_pos hd]
    simp [behind]
  | case3 passed c rest h ih =>
    simp only [Bool.and_eq_true, beq_iff_eq, not_and] at h
    rw [ih, backslashes_cons]
    by_cases hc : c = '\\'
    · subst hc
      rw [if_pos rfl]
      by_cases hp : backslashes passed % 2 = 0
      · rw [if_neg (by omega), if_pos hp]
        cases rest with
        | nil => rw [scan_backslash]; rfl
        | cons d r => simp [scan_escape, Option.map_map, Function.comp_def]
      · rw [if_pos (by omega), if_neg hp]
        simp
    · rw [if_neg hc, if_pos rfl]
      by_cases hp : backslashes passed % 2 = 0
      · rw [if_pos hp, scan_cons hc, if_neg fun hd => h hd hp]
        simp [Option.map_map, Function.comp_def]
      · rw [if_neg hp]
        simp

/-- The search in one line finds the place where the scan stops. -/
theorem seek_eq_scan (text : List Char) : q.seek text = q.scan text := by
  have h : backslashes [] % 2 = 0 := rfl
  rw [seek, seekFrom_eq, if_pos h]
  cases q.scan text <;> rfl

def Passes (q : TripleQuote) (text : List Char) : Prop :=
  ∀ more, q.scan (text ++ more) = (q.scan more).map (behind text)

theorem Passes.append {a b : List Char} (ha : q.Passes a) (hb : q.Passes b) :
    q.Passes (a ++ b) := by
  intro more
  rw [List.append_assoc, ha, hb, map_behind_map]

/-- The scan goes through a line in which it does not stop, and through the line end: a backslash
at the end of the line takes the line feed along. -/
theorem passes_line {text : List Char} (h : q.scan text = none) : q.Passes (text ++ ['\n']) := by
  intro more
  rw [List.append_assoc, List.singleton_append]
  fun_induction scan q text with
  | case1 =>
    rw [List.nil_append, scan_cons (by decide), if_neg]
    · rfl
    · rw [← List.nil_append ('\n' :: more), isPrefixOf_lineFeed]
      cases q <;> decide
  | case2 c rest ih =>
    rw [List.cons_append, List.cons_append, scan_escape, ih (Option.map_eq_none_iff.mp h),
      map_behind_map]
    rfl
  | case3 => cases h
  | case4 c rest hc hd ih =>
    by_cases hne : c = '\\'
    · subst hne
      cases rest with
      | nil => rfl
      | cons d r => exact absurd rfl (hc d r rfl)
    · rw [List.cons_append, scan_cons hne, ← List.cons_append, isPrefixOf_lineFeed, if_neg hd,
        ih (Option.map_eq_none_iff.mp h), map_behind_map]
      rfl

/-- The line feed behind the last line does not close a string. -/
theorem scan_concat_lineFeed (text : List Char) :
    q.scan (text ++ ['\n']) = (q.scan text).map fun cut => (cut.1, cut.2 ++ ['\n']) := by
  cases h : q.scan text with
  | some cut => exact scan_append h ['\n']
  | none =>
    have hp := passes_line h []
    rw [List.append_nil] at hp
    exact hp

end Offside.TripleQuote
