import Offside.Proofs.Failure
import Offside.Proofs.Line
import Offside.Lexer.Tokenization

/-!
# What errors point at

An error that is not about the end of a source is decided by the lines up to the one it names: it
stays whatever stands behind them and whatever the policy is, and the lines before are read. What
the error says of its line is what stands there.
-/

namespace Offside

set_option autoImplicit false

/-- An error about a line says what stands there. A text that nothing matches is the rest of the
line and starts with no white space; a bracket that closes none stands where as many brackets have
closed as have opened; and a width is that of the margin. -/
def LexError.Describes (t : Table) (lines : List String) (number : Nat) (text : String) :
    LexError → Prop
  | .patternMismatch line column rest =>
    line = number ∧ rest.toList = text.toList.drop column ∧
      (∃ c, rest.toList.head? = some c ∧ isInlineSpace c = false) ∧ t.classify rest.toList = none
  | .bracketUnderflow line column bracket =>
    line = number ∧ text.toList[column]? = some bracket ∧
      ∃ a, Steps t (.between 1 .start lines) a ∧
        Stuck t a (.bracketUnderflow line column bracket) ∧
        a.state.emitted.toList.countP Token.opens = a.state.emitted.toList.countP Token.closes
  | .indentation line width => line = number ∧ width = (text.toList.takeWhile isMargin).length
  | .unterminatedString .. | .unclosedBracket .. | .invalidPattern .. => False

section

variable {t : Table} {ops : OperatorSet} {policy : EndPolicy} {lines done ahead : List String}
  {line column count : Nat} {s b : LexState} {text : String} {rest : List Char} {e : LexError}

theorem LexState.finish_eq_error (h : s.finish count policy = .error e) :
    e.isEndOfInput = true := by
  cases policy with
  | lenient =>
    rw [LexState.finish_lenient] at h
    cases h
  | strict =>
    rw [LexState.finish_strict] at h
    split at h
    · obtain rfl := Except.error.inj h
      rfl
    · split at h
      · obtain rfl := Except.error.inj h
        rfl
      · cases h

/-- An error that is not about the end comes from one of the lines. -/
theorem readLines_of_tokenize_error (h : t.tokenize policy lines = .error e)
    (he : e.isEndOfInput = false) : t.readLines 1 .start lines = .error e := by
  rw [Table.tokenize] at h
  split at h
  · rename_i e' hr
    rw [hr, Except.error.inj h]
  · rw [LexState.finish_eq_error h] at he
    cases he

theorem rest_of_anchored {n : Nat} (hl : lines[n]? = some text)
    (h : Reading.Anchored lines (.within (n + 1) column s rest ahead)) :
    rest = text.toList.drop column := by
  obtain ⟨done, before, text', rfl, hline, htext, rfl⟩ := h
  obtain rfl := Nat.succ.inj hline
  obtain rfl : text' = text := by simpa using hl
  rw [htext, List.drop_left]

theorem drop_of_rest {cs : List Char} (hrest : rest = text.toList.drop column)
    (h : rest.dropWhile isInlineSpace = cs) :
    text.toList.drop (column + (rest.takeWhile isInlineSpace).length) = cs := by
  rw [← List.drop_drop, ← hrest, Pattern.drop_length_takeWhile, h]

theorem toList_of_isCloser {x : String} (h : Bracket.isCloser x = true) :
    ∃ c, x.toList = [c] := by
  have hall : ∀ y ∈ Bracket.closers, y.toList.length = 1 := by decide
  exact List.length_eq_one_iff.mp (hall x (List.contains_iff_mem.mp h))

theorem Stuck.describes {a : Reading} {n : Nat} (h : Stuck (.ofOperators ops) a e)
    (hsteps : Steps (.ofOperators ops) (.between 1 .start lines) a) (ha : a.Anchored lines)
    (hline : a.cursor.line = (n + 1 : Nat)) (hl : lines[n]? = some text) :
    e.Describes (.ofOperators ops) lines (n + 1) text := by
  cases h with
  | @mismatch line column s rest ahead hr hx =>
    obtain rfl : line = n + 1 := Int.ofNat.inj hline
    have hrest := rest_of_anchored hl ha
    have htext := drop_of_rest hrest rfl
    refine ⟨rfl, ?_, ?_, ?_⟩
    · rw [String.toList_ofList, htext]
    · rw [String.toList_ofList]
      have hne : rest.dropWhile isInlineSpace ≠ [] := by
        intro hnil
        rw [all_of_dropWhile_isEmpty (List.isEmpty_iff.mpr hnil)] at hr
        cases hr
      obtain ⟨c, more, hcons, hc⟩ := dropWhile_eq_cons hne
      rw [hcons]
      exact ⟨c, rfl, hc⟩
    · rw [String.toList_ofList]
      exact hx
  | @underflow line column s rest x ahead hx hr hk hc hd =>
    obtain rfl : line = n + 1 := Int.ofNat.inj hline
    have hrest := rest_of_anchored hl ha
    obtain ⟨-, -, happ⟩ := Table.append_rest_of_classify hx
    obtain ⟨c, htext⟩ := toList_of_isCloser hc
    have hdrop := drop_of_rest hrest happ.symm
    refine ⟨rfl, ?_, _, hsteps, .underflow hx hr hk hc hd, ?_⟩
    · rw [htext, List.singleton_append] at hdrop
      rw [htext, List.headD_cons, ← Nat.add_zero (column + _), ← List.getElem?_drop, hdrop]
      rfl
    · -- outside brackets, the tokens count for no depth
      have hdepth := depth_of_steps hsteps
      change (s.depth : Int) = _ at hdepth
      rw [hd, Token.bracketDepth] at hdepth
      change s.emitted.toList.countP _ = s.emitted.toList.countP _
      change ((0 : Nat) : Int) =
        (s.emitted.toList.countP _ : Int) - s.emitted.toList.countP _ at hdepth
      omega
  | @misindent line s text' ahead e _ _ _ _ hi =>
    obtain rfl : line = n + 1 := Int.ofNat.inj hline
    obtain ⟨done, rfl, hnumber⟩ := ha
    obtain rfl := Nat.succ.inj hnumber
    obtain rfl : text' = text := by simpa using hl
    rw [LexState.indent_eq_error hi]
    exact ⟨rfl, rfl⟩

end

/-- An error that is not about the end of the source names a line. It is the error of all sources
that begin with the lines up to that one, under either policy, and the lines before have tokens. -/
theorem errors_point_at_cause {ops : OperatorSet} {policy : EndPolicy} {lines : List String}
    {e : LexError} (h : (Table.ofOperators ops).tokenize policy lines = .error e)
    (he : e.isEndOfInput = false) :
    ∃ n text, e.line? = some (n + 1) ∧ lines[n]? = some text ∧
      (∀ policy' lines', lines'.take (n + 1) = lines.take (n + 1) →
        (Table.ofOperators ops).tokenize policy' lines' = .error e) ∧
      (∃ r, (Table.ofOperators ops).tokenize .lenient (lines.take n) = .ok r) ∧
      e.Describes (.ofOperators ops) lines (n + 1) text := by
  obtain ⟨done, text, ahead, b, rfl, hdone, hline⟩ :=
    readLines_eq_error (readLines_of_tokenize_error h he)
  rw [Nat.add_comm] at hline
  have hl : (done ++ text :: ahead)[done.length]? = some text := by simp
  obtain ⟨a, hsteps, hstuck, hcursor⟩ := readLine_stuck ahead hline
  -- the run over the lines before goes on into the line that fails
  have hrun := (readLines_steps (text :: ahead) hdone).trans (Nat.add_comm 1 done.length ▸ hsteps)
  have hanchored := Steps.preserve (I := Reading.Anchored (done ++ text :: ahead))
    (fun _ _ hstep ha => ha.step hstep) hrun (Reading.anchored_start _)
  refine ⟨done.length, text, ?_, hl, ?_, ?_, hstuck.describes hrun hanchored hcursor hl⟩
  · rw [hstuck.line?_eq, hcursor]
    rfl
  · intro policy' lines' hsame
    have hlines : lines' = done ++ text :: lines'.drop (done.length + 1) := by
      calc
        lines' = lines'.take (done.length + 1) ++ lines'.drop (done.length + 1) :=
          (List.take_append_drop _ _).symm
        _ = done ++ text :: lines'.drop (done.length + 1) := by
          rw [hsame, List.take_length_add_append]
          simp
    rw [hlines, Table.tokenize, readLines_of_append _ hdone, Nat.add_comm]
    simp only [Table.readLines, hline]
  · refine ⟨b.answer done.length, ?_⟩
    rw [List.take_left, Table.tokenize, hdone]
    exact LexState.finish_lenient b done.length

/-- A bracket that closes none, behind the end of a string that was opened on the line before. -/
theorem errors_point_at_cause_bracket :
    ∃ n text, some 2 = some (n + 1) ∧ ["x = '''a", "''' + (1)]", "  y"][n]? = some text ∧
      (∀ policy' lines', lines'.take (n + 1) = ["x = '''a", "''' + (1)]", "  y"].take (n + 1) →
        (Table.ofOperators .core).tokenize policy' lines' = .error (.bracketUnderflow 2 9 ']')) ∧
      (∃ r, (Table.ofOperators .core).tokenize .lenient
        (["x = '''a", "''' + (1)]", "  y"].take n) = .ok r) ∧
      (LexError.bracketUnderflow 2 9 ']').Describes (.ofOperators .core)
        ["x = '''a", "''' + (1)]", "  y"] (n + 1) text := by
  have hrun : (match (Table.ofOperators .core).tokenize .strict
      ["x = '''a", "''' + (1)]", "  y"] with
      | .error e => some e
      | .ok _ => none) = some (.bracketUnderflow 2 9 ']') := by
    rw [Table.ofOperators, OperatorSet.matchOrder_core]
    decide +kernel
  cases hr : (Table.ofOperators .core).tokenize .strict
      ["x = '''a", "''' + (1)]", "  y"] with
  | ok r =>
    rw [hr] at hrun
    cases hrun
  | error e =>
    rw [hr] at hrun
    obtain rfl : e = _ := Option.some.inj hrun
    exact errors_point_at_cause hr rfl

end Offside
