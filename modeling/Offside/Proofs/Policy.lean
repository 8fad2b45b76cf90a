import Offside.Proofs.Cause
import Offside.Proofs.StringPattern

/-!
# The two policies

A strict run and a lenient run read the lines alike. What is open at the end is an error of the one
and part of the answer of the other, and it is open in the source: the number of open brackets is
what the tokens show, and where a string is open, the source has the opening of one.
-/

namespace Offside

set_option autoImplicit false

/-- Where an open string starts, the source has a prefix of a string and the delimiter. -/
def OpenString.OpensIn (lines : List String) (o : OpenString) : Prop :=
  ∃ n text pre, o.line = n + 1 ∧ lines[n]? = some text ∧ IsStringPrefix pre ∧
    pre ++ o.quote.delimiter <+: text.toList.drop o.column

structure Reading.Faithful (lines : List String) (r : Reading) : Prop where
  anchored : r.Anchored lines
  opens : ∀ o, r.state.pending = some o → o.OpensIn lines

section

variable {ops : OperatorSet} {lines : List String} {line column : Nat} {s s' : LexState}
  {rest : List Char} {ahead : List String} {x : Lexeme} {text : String} {q : TripleQuote}

theorem opens_of_classify
    (hx : (Table.ofOperators ops).classify (rest.dropWhile isInlineSpace) = some x)
    (hr : x.role = .opens q) (ha : Reading.Anchored lines (.within line column s rest ahead)) :
    OpenString.OpensIn lines
      ⟨q, x.text ++ "\n", line, column + (rest.takeWhile isInlineSpace).length⟩ := by
  obtain ⟨done, before, text, rfl, rfl, htext, rfl⟩ := ha
  obtain ⟨-, hopen⟩ := Table.classify_opens hx hr
  obtain ⟨z, hz, -, -⟩ := Table.lexeme?_eq_some hopen
  obtain ⟨pre, more, hp, hrest⟩ := Table.quoted_of_match?_openTriple hz
  refine ⟨done.length, text, pre, rfl, by simp, hp, more, ?_⟩
  rw [htext, ← List.drop_drop, List.drop_left, Pattern.drop_length_takeWhile, hrest]

theorem Reading.Faithful.step {a b : Reading} (h : Step (.ofOperators ops) a b)
    (ha : a.Faithful lines) : b.Faithful lines := by
  refine ⟨ha.anchored.step h, ?_⟩
  have hopens := ha.opens
  intro o ho
  cases h with
  | @pass line s o' text ahead hp hs =>
    obtain rfl := Option.some.inj ho
    exact hopens o' hp
  | close => cases ho
  | continued => exact hopens o ho
  | blank => exact hopens o ho
  | remark => exact hopens o ho
  | margin _ _ _ _ hi => exact hopens o ((LexState.indent_pending hi).symm.trans ho)
  | lexeme hx hs =>
    rcases LexState.take_cases hs with ⟨-, b, hb, rfl⟩ | ⟨q, hr, rfl⟩
    · obtain ⟨depth, metrics, rfl⟩ := LexState.bracket_eq hb
      exact hopens o ho
    · obtain rfl := Option.some.inj ho
      exact opens_of_classify hx hr ha.anchored
  | finish => exact hopens o ho
  | suspend => exact hopens o ho

theorem Reading.faithful_readLines (h : (Table.ofOperators ops).readLines 1 .start lines = .ok s) :
    Reading.Faithful lines (.between (1 + lines.length) s []) := by
  have hsteps := readLines_steps [] h
  rw [List.append_nil] at hsteps
  exact Steps.preserve (I := Reading.Faithful lines) (fun _ _ hstep ha => ha.step hstep) hsteps
    ⟨Reading.anchored_start lines, nofun⟩

theorem depth_answer (h : (Table.ofOperators ops).readLines 1 .start lines = .ok s) (count : Nat) :
    (s.depth : Int) = Token.bracketDepth (s.answer count).tokens.toList := by
  have hdepth := depth_of_steps (readLines_steps [] h)
  have hlast : ∀ t ∈ List.replicate (s.indents.length - 1)
      (⟨.dedent, "", .point (.of (count + 1) 0)⟩ : Token) ++
        [⟨.endMarker, "", .point (.of (count + 1) 0)⟩], t.kind ≠ .op := by
    refine List.forall_mem_append.mpr ⟨?_, by simp⟩
    intro t ht
    rw [List.eq_of_mem_replicate ht]
    simp
  rw [LexState.answer_tokens, List.append_assoc, Token.bracketDepth_append,
    Token.bracketDepth_of_ne_op hlast, Int.add_zero]
  exact hdepth

end

namespace LexState

variable {s : LexState} {count : Nat}

theorem isClean_answer (s : LexState) (count : Nat) :
    (s.answer count).endOfInput.isClean = true ↔ s.pending = none ∧ s.depth = 0 := by
  simp [answer, EndOfInput.isClean]

theorem finish_strict_eq_ok {r : Tokenization} :
    s.finish count .strict = .ok r ↔ s.answer count = r ∧ r.endOfInput.isClean = true := by
  rw [finish_strict]
  constructor
  · intro h
    split at h
    · cases h
    · rename_i hp
      split at h
      · cases h
      · rename_i hd
        obtain rfl := Except.ok.inj h
        exact ⟨rfl, (isClean_answer s count).mpr ⟨hp, Nat.eq_zero_of_not_pos hd⟩⟩
  · rintro ⟨rfl, hclean⟩
    obtain ⟨hp, hd⟩ := (isClean_answer s count).mp hclean
    rw [hp, hd]
    rfl

theorem finish_strict_eq_unterminated {line column : Nat} :
    s.finish count .strict = .error (.unterminatedString line column) ↔
      (s.answer count).endOfInput.unterminated = some (.of line column) := by
  rw [finish_strict, answer]
  cases s.pending with
  | none =>
    constructor
    · intro h
      dsimp only at h
      split at h <;> cases h
    · intro h
      cases h
  | some o =>
    constructor
    · intro h
      cases h
      rfl
    · intro h
      have hplace : Position.of o.line o.column = .of line column := Option.some.inj h
      simp only [Position.of, Position.mk.injEq, Int.natCast_inj] at hplace
      rw [← hplace.1, ← hplace.2]

theorem finish_strict_eq_unclosed {depth line : Nat} :
    s.finish count .strict = .error (.unclosedBracket depth line) ↔
      line = count ∧ 0 < depth ∧ (s.answer count).endOfInput.unterminated = none ∧
        (s.answer count).endOfInput.openBrackets = depth := by
  rw [finish_strict, answer]
  cases s.pending with
  | none =>
    constructor
    · intro h
      dsimp only at h
      split at h
      · rename_i hd
        cases h
        exact ⟨rfl, hd, rfl, rfl⟩
      · cases h
    · rintro ⟨rfl, hd, -, rfl⟩
      exact if_pos hd
  | some o =>
    constructor
    · intro h
      cases h
    · rintro ⟨-, -, h, -⟩
      cases h

end LexState

section

variable {ops : OperatorSet} {lines : List String} {r : Tokenization}

/-- The lines are refused under either policy, or they are read and the end is left to it. -/
theorem tokenize_cases (ops : OperatorSet) (lines : List String) :
    (∃ e : LexError, e.isEndOfInput = false ∧
      ∀ policy, (Table.ofOperators ops).tokenize policy lines = .error e) ∨
    ∃ s, (Table.ofOperators ops).readLines 1 .start lines = .ok s ∧
      (Table.ofOperators ops).tokenize .strict lines = s.finish lines.length .strict ∧
      (Table.ofOperators ops).tokenize .lenient lines = .ok (s.answer lines.length) := by
  cases hs : (Table.ofOperators ops).readLines 1 .start lines with
  | error e =>
    refine .inl ⟨e, ?_, ?_⟩
    · obtain ⟨done, text, ahead, b, -, -, hline⟩ := readLines_eq_error hs
      obtain ⟨a, -, hstuck, -⟩ := readLine_stuck ahead hline
      exact hstuck.not_isEndOfInput
    · intro policy
      rw [Table.tokenize_eq, hs]
      rfl
  | ok s =>
    refine .inr ⟨s, rfl, ?_, ?_⟩
    · rw [Table.tokenize_eq, hs]
      rfl
    · rw [Table.tokenize_eq, hs, ← LexState.finish_lenient]
      rfl

theorem strict_eq_ok_iff :
    (Table.ofOperators ops).tokenize .strict lines = .ok r ↔
      (Table.ofOperators ops).tokenize .lenient lines = .ok r ∧ r.endOfInput.isClean = true := by
  rcases tokenize_cases ops lines with ⟨e, -, hrun⟩ | ⟨s, -, hstrict, hlenient⟩
  · rw [hrun, hrun]
    simp
  · rw [hstrict, hlenient, LexState.finish_strict_eq_ok, Except.ok.injEq]

theorem strict_eq_unterminated_iff {line column : Nat} :
    (Table.ofOperators ops).tokenize .strict lines = .error (.unterminatedString line column) ↔
      ∃ r, (Table.ofOperators ops).tokenize .lenient lines = .ok r ∧
        r.endOfInput.unterminated = some (.of line column) := by
  rcases tokenize_cases ops lines with ⟨e, he, hrun⟩ | ⟨s, -, hstrict, hlenient⟩
  · rw [hrun]
    constructor
    · intro h
      rw [Except.error.inj h] at he
      cases he
    · rintro ⟨r, h, -⟩
      rw [hrun] at h
      cases h
  · rw [hstrict, hlenient, LexState.finish_strict_eq_unterminated]
    simp

theorem strict_eq_unclosed_iff {depth line : Nat} :
    (Table.ofOperators ops).tokenize .strict lines = .error (.unclosedBracket depth line) ↔
      line = lines.length ∧ 0 < depth ∧ ∃ r,
        (Table.ofOperators ops).tokenize .lenient lines = .ok r ∧
        r.endOfInput.unterminated = none ∧ r.endOfInput.openBrackets = depth := by
  rcases tokenize_cases ops lines with ⟨e, he, hrun⟩ | ⟨s, -, hstrict, hlenient⟩
  · rw [hrun]
    constructor
    · intro h
      rw [Except.error.inj h] at he
      cases he
    · rintro ⟨-, -, r, h, -⟩
      rw [hrun] at h
      cases h
  · rw [hstrict, hlenient, LexState.finish_strict_eq_unclosed]
    simp

theorem strict_eq_error_iff {e : LexError} (he : e.isEndOfInput = false) :
    (Table.ofOperators ops).tokenize .strict lines = .error e ↔
      (Table.ofOperators ops).tokenize .lenient lines = .error e := by
  rcases tokenize_cases ops lines with ⟨e', -, hrun⟩ | ⟨s, -, hstrict, hlenient⟩
  · rw [hrun, hrun]
  · rw [hstrict, hlenient]
    constructor
    · intro h
      rw [LexState.finish_eq_error h] at he
      cases he
    · intro h
      cases h

/-- What a lenient run reports as open is open in the source. -/
theorem report_of_lenient (h : (Table.ofOperators ops).tokenize .lenient lines = .ok r) :
    (r.endOfInput.openBrackets : Int) = Token.bracketDepth r.tokens.toList ∧
      ∀ p, r.endOfInput.unterminated = some p → ∃ n column text pre, ∃ q : TripleQuote,
        p = .of (n + 1) column ∧ lines[n]? = some text ∧ IsStringPrefix pre ∧
        pre ++ q.delimiter <+: text.toList.drop column := by
  rcases tokenize_cases ops lines with ⟨e, -, hrun⟩ | ⟨s, hs, -, hlenient⟩
  · rw [hrun] at h
    cases h
  · rw [hlenient] at h
    obtain rfl := Except.ok.inj h
    refine ⟨depth_answer hs lines.length, ?_⟩
    intro p hp
    obtain ⟨o, ho, rfl⟩ := Option.map_eq_some_iff.mp hp
    obtain ⟨n, text, pre, hline, hl, hpre, hopen⟩ := (Reading.faithful_readLines hs).opens o ho
    exact ⟨n, o.column, text, pre, o.quote, by rw [hline], hl, hpre, hopen⟩

end

/-- What a strict run says of a source, a lenient run says too: it has the same answer where nothing
is open at the end and the same error before the end, and else it reports what the error is about.
Its report is about the source and its tokens. -/
theorem strict_lenient_agree (ops : OperatorSet) (lines : List String) :
    (∀ r, (Table.ofOperators ops).tokenize .strict lines = .ok r ↔
      (Table.ofOperators ops).tokenize .lenient lines = .ok r ∧ r.endOfInput.isClean = true) ∧
    (∀ line column, (Table.ofOperators ops).tokenize .strict lines =
        .error (.unterminatedString line column) ↔
      ∃ r, (Table.ofOperators ops).tokenize .lenient lines = .ok r ∧
        r.endOfInput.unterminated = some (.of line column)) ∧
    (∀ depth line, (Table.ofOperators ops).tokenize .strict lines =
        .error (.unclosedBracket depth line) ↔
      line = lines.length ∧ 0 < depth ∧ ∃ r,
        (Table.ofOperators ops).tokenize .lenient lines = .ok r ∧
        r.endOfInput.unterminated = none ∧ r.endOfInput.openBrackets = depth) ∧
    (∀ e : LexError, e.isEndOfInput = false →
      ((Table.ofOperators ops).tokenize .strict lines = .error e ↔
        (Table.ofOperators ops).tokenize .lenient lines = .error e)) ∧
    ∀ r, (Table.ofOperators ops).tokenize .lenient lines = .ok r →
      (r.endOfInput.openBrackets : Int) = Token.bracketDepth r.tokens.toList ∧
      ∀ p, r.endOfInput.unterminated = some p → ∃ n column text pre, ∃ q : TripleQuote,
        p = .of (n + 1) column ∧ lines[n]? = some text ∧ IsStringPrefix pre ∧
        pre ++ q.delimiter <+: text.toList.drop column :=
  ⟨fun _ => strict_eq_ok_iff, fun _ _ => strict_eq_unterminated_iff,
    fun _ _ => strict_eq_unclosed_iff, fun _ => strict_eq_error_iff, fun _ => report_of_lenient⟩

end Offside
