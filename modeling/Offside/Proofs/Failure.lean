import Offside.Proofs.Reading

/-!
# Where a run fails

A run that fails comes to a place where no step is possible: before a text that no entry of the
table matches, before a bracket that closes none, or at a margin that is refused. `Stuck` lists
these places with the errors they give, and `readLines_stuck` says that there are no others.
-/

namespace Offside

set_option autoImplicit false

/-- The places where a run can go no further, and the error of each. -/
inductive Stuck (t : Table) : Reading → LexError → Prop
  /-- No entry matches what stands behind the white space. -/
  | mismatch {line column s rest ahead} (hr : rest.all isInlineSpace = false)
      (hx : t.classify (rest.dropWhile isInlineSpace) = none) :
      Stuck t (.within line column s rest ahead)
        (.patternMismatch line (column + (rest.takeWhile isInlineSpace).length)
          (String.ofList (rest.dropWhile isInlineSpace)))
  /-- A bracket closes outside brackets. -/
  | underflow {line column s rest x ahead}
      (hx : t.classify (rest.dropWhile isInlineSpace) = some x) (hr : x.role = .token)
      (hk : x.kind = .op) (hc : Bracket.isCloser x.text = true) (hd : s.depth = 0) :
      Stuck t (.within line column s rest ahead)
        (.bracketUnderflow line (column + (rest.takeWhile isInlineSpace).length)
          (x.text.toList.headD ')'))
  /-- A margin is refused. -/
  | misindent {line s text ahead e} (hp : s.pending = none) (hd : s.depth = 0)
      (hb : (text.toList.dropWhile isMargin).all isInlineSpace = false)
      (hc : (text.toList.dropWhile isMargin).head? ≠ some '#')
      (hi : s.countLine.indent line (text.toList.takeWhile isMargin) = .error e) :
      Stuck t (.between line s (text :: ahead)) e

section

variable {t : Table} {line column length : Nat} {s s' : LexState} {rest margin : List Char}
  {e : LexError} {x : Lexeme} {text : String} {lines : List String}

theorem LexState.indent_eq_error (h : s.indent line margin = .error e) :
    e = .indentation line margin.length := by
  simp only [LexState.indent] at h
  split at h
  · cases h
  · split at h
    · split at h
      · cases h
      · exact (Except.error.inj h).symm
    · cases h

theorem LexState.take_eq_error (h : s.take line column x = .error e) :
    x.role = .token ∧ x.kind = .op ∧ Bracket.isCloser x.text = true ∧ s.depth = 0 ∧
      e = .bracketUnderflow line column (x.text.toList.headD ')') := by
  unfold LexState.take at h
  split at h
  · rename_i hr
    cases hb : s.bracket line column x with
    | ok b =>
      rw [hb] at h
      cases h
    | error e' =>
      rw [hb] at h
      obtain rfl : e' = e := Except.error.inj h
      unfold LexState.bracket at hb
      split at hb
      · cases hb
      · split at hb
        · rename_i hc
          simp only [Bool.and_eq_true, decide_eq_true_eq] at hc
          split at hb
          · rename_i hd
            exact ⟨hr, hc.1, hc.2, hd, (Except.error.inj hb).symm⟩
          · cases hb
        · cases hb
  · cases h

theorem Stuck.not_isEndOfInput {a : Reading} (h : Stuck t a e) : e.isEndOfInput = false := by
  cases h with
  | mismatch => rfl
  | underflow => rfl
  | misindent _ _ _ _ hi =>
    rw [LexState.indent_eq_error hi]
    rfl

theorem Stuck.line?_eq {a : Reading} (h : Stuck t a e) :
    e.line? = some a.cursor.line.toNat := by
  cases h with
  | mismatch => rfl
  | underflow => rfl
  | misindent _ _ _ _ hi =>
    rw [LexState.indent_eq_error hi]
    rfl

theorem scan_stuck (ahead : List String) (h : t.scan line s column rest = .error e) :
    ∃ column' s' rest',
      Steps t (.within line column s rest ahead) (.within line column' s' rest' ahead) ∧
      Stuck t (.within line column' s' rest' ahead) e := by
  fun_induction Table.scan t line s column rest with
  | case1 => cases h
  | case2 s column rest text column₁ hne hx =>
    obtain rfl := Except.error.inj h
    refine ⟨column, s, rest, .refl, .mismatch ?_ hx⟩
    rw [Bool.eq_false_iff]
    intro hr
    have hempty : text = [] := List.dropWhile_eq_nil_iff.mpr (List.all_eq_true.mp hr)
    exact hne (List.isEmpty_iff.mpr hempty)
  | case3 s column rest text column₁ _ x hx e' he =>
    obtain rfl : e' = e := Except.error.inj h
    obtain ⟨hr, hk, hc, hd, rfl⟩ := LexState.take_eq_error he
    exact ⟨column, s, rest, .refl, .underflow hx hr hk hc hd⟩
  | case4 s column rest text column₁ _ x hx b hb ih =>
    obtain ⟨column', s', rest', hsteps, hstuck⟩ := ih h
    exact ⟨column', s', rest', .head (.lexeme hx hb) hsteps, hstuck⟩

theorem finishLine_eq_error (h : t.finishLine line length s column rest = .error e) :
    t.scan line s column rest = .error e := by
  unfold Table.finishLine at h
  cases hs : t.scan line s column rest with
  | error e' =>
    rw [hs] at h
    exact congrArg Except.error (Except.error.inj h)
  | ok c =>
    rw [hs] at h
    change (if c.pending.isSome then _ else _) = _ at h
    split at h <;> cases h

theorem readLine_error_cases (ahead : List String)
    (h : t.readLine line s text.toList = .error e) :
    Stuck t (.between line s (text :: ahead)) e ∨ ∃ column b rest,
      Step t (.between line s (text :: ahead)) (.within line column b rest ahead) ∧
      t.scan line b column rest = .error e := by
  cases hp : s.pending with
  | some o =>
    rw [readLine_of_pending hp] at h
    unfold Table.stringLine at h
    split at h
    · cases h
    · rename_i before after hs
      exact .inr ⟨_, _, _, .close hp hs, finishLine_eq_error h⟩
  | none =>
    rcases Nat.eq_zero_or_pos s.depth with hd | hd
    · rw [readLine_of_none hp hd] at h
      simp only [Table.logicalLine] at h
      split at h
      · cases h
      · rename_i hb
        split at h
        · cases h
        · rename_i hc
          rw [Bool.not_eq_true] at hb
          cases hi : s.countLine.indent line (text.toList.takeWhile isMargin) with
          | error e' =>
            rw [hi] at h
            obtain rfl : e' = e := Except.error.inj h
            exact .inl (.misindent hp hd hb hc hi)
          | ok b =>
            rw [hi] at h
            exact .inr ⟨_, b, _, .margin hp hd hb hc hi, finishLine_eq_error h⟩
    · rw [readLine_of_depth hp hd] at h
      exact .inr ⟨0, _, _, .continued hp hd, finishLine_eq_error h⟩

theorem readLine_stuck (ahead : List String) (h : t.readLine line s text.toList = .error e) :
    ∃ a, Steps t (.between line s (text :: ahead)) a ∧ Stuck t a e ∧ a.cursor.line = line := by
  rcases readLine_error_cases ahead h with hstuck | ⟨column, b, rest, hstep, hscan⟩
  · exact ⟨_, .refl, hstuck, rfl⟩
  · obtain ⟨column', s', rest', hsteps, hstuck⟩ := scan_stuck ahead hscan
    exact ⟨_, .head hstep hsteps, hstuck, rfl⟩

/-- A run over lines fails in one of them, behind lines that are read. -/
theorem readLines_eq_error (h : t.readLines line s lines = .error e) :
    ∃ done text ahead b, lines = done ++ text :: ahead ∧ t.readLines line s done = .ok b ∧
      t.readLine (line + done.length) b text.toList = .error e := by
  induction lines generalizing line s with
  | nil => cases h
  | cons text rest ih =>
    simp only [Table.readLines] at h
    split at h
    · rename_i e' he
      obtain rfl : e' = e := Except.error.inj h
      exact ⟨[], text, rest, s, rfl, rfl, he⟩
    · rename_i b hb
      obtain ⟨done, text', ahead, b', rfl, hdone, hline⟩ := ih h
      refine ⟨text :: done, text', ahead, b', rfl, ?_, ?_⟩
      · simp only [Table.readLines, hb]
        exact hdone
      · rw [List.length_cons, Nat.add_comm done.length, ← Nat.add_assoc]
        exact hline

end

end Offside
