import Offside.Lexer.Tokenization
import Mathlib.Data.List.TakeWhile
import Mathlib.Logic.Relation

/-!
# Reading a source step by step

A run of the tokenizer as a chain of small steps. `Step` lists all that can happen between two
lines and within one, each with its guard; `readLines_steps` says that a run that succeeds goes
through such a chain. What every step preserves therefore holds of every state of a run.
-/

namespace Offside

set_option autoImplicit false

namespace LexState

def countLine (s : LexState) : LexState :=
  { s with metrics := { s.metrics with linesProcessed := s.metrics.linesProcessed + 1 } }

def extend (s : LexState) (o : OpenString) (text : String) : LexState :=
  { s with pending := some { o with text := o.text ++ text ++ "\n" } }

/-- Emits an open string that ends with `inside`, the head of a line. -/
def close (s : LexState) (o : OpenString) (line : Nat) (inside : List Char) : LexState :=
  let s := { s with
    pending := none
    metrics := { s.metrics with multilineStrings := s.metrics.multilineStrings + 1 } }
  s.emit ⟨.string, o.text ++ String.ofList inside, .of o.line o.column, .of line inside.length⟩

/-- Starts the string that a lexeme opens. -/
def openAt (s : LexState) (quote : TripleQuote) (line column : Nat) (x : Lexeme) : LexState :=
  { s with pending := some ⟨quote, x.text ++ "\n", line, column⟩ }

/-- The answer to a source of `count` lines, if nothing is refused at its end. -/
def answer (s : LexState) (count : Nat) : Tokenization :=
  let place := Position.of (count + 1) 0
  let closed := (s.dedent place (s.indents.length - 1)).emit ⟨.endMarker, "", .point place⟩
  ⟨closed.emitted, closed.metrics, ⟨s.pending.map fun o => .of o.line o.column, s.depth⟩⟩

/-- Emits a comment that takes a line from a column on. -/
def remark (s : LexState) (line column length : Nat) (body : List Char) : LexState :=
  s.emit ⟨.comment, String.ofList body, .of line column, .of line length⟩

section

variable {s s' : LexState} {line column : Nat} {x : Lexeme}

@[simp] theorem emit_emitted (s : LexState) (t : Token) :
    (s.emit t).emitted.toList = s.emitted.toList ++ [t] := by
  simp [emit]

theorem close_emitted (s : LexState) (o : OpenString) (line : Nat) (inside : List Char) :
    (s.close o line inside).emitted.toList = s.emitted.toList ++
      [⟨.string, o.text ++ String.ofList inside, .of o.line o.column, .of line inside.length⟩] := by
  simp [close, emit]

@[simp] theorem dedent_pending (s : LexState) (place : Position) (n : Nat) :
    (s.dedent place n).pending = s.pending := by
  fun_induction dedent s place n with
  | case1 => rfl
  | case2 s n ih => exact ih

theorem dedent_emitted (s : LexState) (place : Position) (n : Nat) :
    (s.dedent place n).emitted.toList =
      s.emitted.toList ++ List.replicate n ⟨.dedent, "", .point place⟩ := by
  fun_induction dedent s place n with
  | case1 => simp
  | case2 s n ih => simp [ih, List.replicate_succ]

theorem indent_cases {margin : List Char} (h : s.indent line margin = .ok s') :
    (s.width < margin.length ∧ ∃ metrics,
      s' = ({ s with indents := margin.length :: s.indents, metrics := metrics } : LexState).emit
        ⟨.indent, String.ofList margin, .of line 0, .of line margin.length⟩) ∨
    (margin.length < s.width ∧ s'.width = margin.length ∧
      s' = ({ s with indents := s.indents.dropWhile (margin.length < ·) } : LexState).dedent
        (.of line margin.length)
        (s.indents.length - (s.indents.dropWhile (margin.length < ·)).length)) ∨
    (margin.length = s.width ∧ s' = s) := by
  simp only [indent] at h
  split at h
  · rename_i hw
    exact .inl ⟨hw, _, (Except.ok.inj h).symm⟩
  · rename_i hn
    split at h
    · rename_i hw
      split at h
      · rename_i hk
        obtain rfl := Except.ok.inj h
        exact .inr (.inl ⟨hw, hk, rfl⟩)
      · cases h
    · exact .inr (.inr ⟨by omega, (Except.ok.inj h).symm⟩)

theorem indent_pending {margin : List Char} (h : s.indent line margin = .ok s') :
    s'.pending = s.pending := by
  rcases indent_cases h with ⟨-, metrics, rfl⟩ | ⟨-, -, rfl⟩ | ⟨-, rfl⟩
  · rfl
  · exact dedent_pending ..
  · rfl

theorem bracket_eq (h : s.bracket line column x = .ok s') :
    ∃ depth metrics, s' = { s with depth := depth, metrics := metrics } := by
  unfold bracket at h
  split at h
  · exact ⟨_, _, (Except.ok.inj h).symm⟩
  · split at h
    · split at h
      · cases h
      · exact ⟨_, _, (Except.ok.inj h).symm⟩
    · exact ⟨_, _, (Except.ok.inj h).symm⟩

theorem take_cases (h : s.take line column x = .ok s') :
    (x.role = .token ∧ ∃ b, s.bracket line column x = .ok b ∧
      s' = b.emit ⟨x.kind, x.text, .of line column, .of line (column + x.width)⟩) ∨
    ∃ quote, x.role = .opens quote ∧ s' = s.openAt quote line column x := by
  unfold take at h
  split at h
  · rename_i hr
    cases hb : s.bracket line column x with
    | error e =>
      rw [hb] at h
      cases h
    | ok b =>
      rw [hb] at h
      exact .inl ⟨hr, b, rfl, (Except.ok.inj h).symm⟩
  · rename_i quote hr
    exact .inr ⟨quote, hr, (Except.ok.inj h).symm⟩

theorem finish_lenient (s : LexState) (count : Nat) :
    s.finish count .lenient = .ok (s.answer count) := by
  simp only [finish, answer]
  cases s.pending <;> rfl

/-- What is open at the end of a source is an error if the policy is strict, a string before
brackets. -/
theorem finish_strict (s : LexState) (count : Nat) :
    s.finish count .strict =
      match s.pending with
      | some o => .error (.unterminatedString o.line o.column)
      | none =>
        if 0 < s.depth then .error (.unclosedBracket s.depth count) else .ok (s.answer count) := by
  simp only [finish, answer]
  cases s.pending <;> rfl

theorem answer_tokens (s : LexState) (count : Nat) :
    (s.answer count).tokens.toList = s.emitted.toList ++
      List.replicate (s.indents.length - 1) ⟨.dedent, "", .point (.of (count + 1) 0)⟩ ++
      [⟨.endMarker, "", .point (.of (count + 1) 0)⟩] := by
  simp [answer, dedent_emitted]

theorem finish_eq_ok {count : Nat} {policy : EndPolicy} {r : Tokenization}
    (h : s.finish count policy = .ok r) :
    r.tokens.toList = s.emitted.toList ++
        List.replicate (s.indents.length - 1) ⟨.dedent, "", .point (.of (count + 1) 0)⟩ ++
        [⟨.endMarker, "", .point (.of (count + 1) 0)⟩] ∧
      r.endOfInput = ⟨s.pending.map fun o => .of o.line o.column, s.depth⟩ ∧
      (policy = .strict → s.pending = none ∧ s.depth = 0) := by
  cases policy with
  | lenient =>
    rw [finish_lenient] at h
    obtain rfl := Except.ok.inj h
    exact ⟨answer_tokens s count, rfl, nofun⟩
  | strict =>
    rw [finish_strict] at h
    split at h
    · cases h
    · rename_i hp
      split at h
      · cases h
      · rename_i hd
        obtain rfl := Except.ok.inj h
        exact ⟨answer_tokens s count, rfl, fun _ => ⟨hp, Nat.eq_zero_of_not_pos hd⟩⟩

end

end LexState

theorem Table.tokenize_eq (t : Table) (policy : EndPolicy) (lines : List String) :
    t.tokenize policy lines =
      t.readLines 1 .start lines >>= fun s => s.finish lines.length policy := by
  unfold tokenize
  cases t.readLines 1 .start lines <;> rfl

theorem Table.tokenize_eq_ok {t : Table} {policy : EndPolicy} {lines : List String}
    {r : Tokenization} (h : t.tokenize policy lines = .ok r) :
    ∃ s, t.readLines 1 .start lines = .ok s ∧ s.finish lines.length policy = .ok r := by
  rw [tokenize] at h
  split at h
  · cases h
  · rename_i s hs
    exact ⟨s, hs, h⟩

inductive Reading
  /-- Before the line with the number `line`; `ahead` are the lines from there on. -/
  | between (line : Nat) (s : LexState) (ahead : List String)
  /-- In that line at a column; `rest` is what is left of it and `ahead` are the lines behind it. -/
  | within (line column : Nat) (s : LexState) (rest : List Char) (ahead : List String)

namespace Reading

def state : Reading → LexState
  | between _ s _ => s
  | within _ _ s _ _ => s

end Reading

inductive Step (t : Table) : Reading → Reading → Prop
  /-- A line on which an open string does not close. -/
  | pass {line s o text ahead} (hp : s.pending = some o) (hs : o.quote.seek text.toList = none) :
      Step t (.between line s (text :: ahead))
        (.between (line + 1) (s.countLine.extend o text) ahead)
  /-- The head of a line, up to the end of an open string. -/
  | close {line s o text before rest ahead} (hp : s.pending = some o)
      (hs : o.quote.seek text.toList = some (before, rest)) :
      Step t (.between line s (text :: ahead))
        (.within line (before ++ rest.take 3).length
          (s.countLine.close o line (before ++ rest.take 3)) (rest.drop 3) ahead)
  /-- The start of a line between brackets. -/
  | continued {line s text ahead} (hp : s.pending = none) (hd : 0 < s.depth) :
      Step t (.between line s (text :: ahead)) (.within line 0 s.countLine text.toList ahead)
  /-- A blank line outside brackets. -/
  | blank {line s text ahead} (hp : s.pending = none) (hd : s.depth = 0)
      (hb : (text.toList.dropWhile isMargin).all isInlineSpace = true) :
      Step t (.between line s (text :: ahead))
        (.between (line + 1) (s.countLine.terminate .nl line text.length) ahead)
  /-- A line outside brackets that holds a comment only. -/
  | remark {line s text ahead} (hp : s.pending = none) (hd : s.depth = 0)
      (hc : (text.toList.dropWhile isMargin).head? = some '#') :
      Step t (.between line s (text :: ahead))
        (.between (line + 1)
          ((s.countLine.remark line (text.toList.takeWhile isMargin).length text.length
            (text.toList.dropWhile isMargin)).terminate .nl line text.length) ahead)
  /-- The margin of any other line outside brackets. -/
  | margin {line s s' text ahead} (hp : s.pending = none) (hd : s.depth = 0)
      (hb : (text.toList.dropWhile isMargin).all isInlineSpace = false)
      (hc : (text.toList.dropWhile isMargin).head? ≠ some '#')
      (hi : s.countLine.indent line (text.toList.takeWhile isMargin) = .ok s') :
      Step t (.between line s (text :: ahead))
        (.within line (text.toList.takeWhile isMargin).length s'
          (text.toList.dropWhile isMargin) ahead)
  /-- A lexeme with the white space before it. -/
  | lexeme {line column s s' rest x ahead} (hx : t.classify (rest.dropWhile isInlineSpace) = some x)
      (hs : s.take line (column + (rest.takeWhile isInlineSpace).length) x = .ok s') :
      Step t (.within line column s rest ahead)
        (.within line (column + (rest.takeWhile isInlineSpace).length + x.width) s' x.rest ahead)
  /-- The end of a line that leaves no string open. -/
  | finish {line column s rest ahead} (hr : rest.all isInlineSpace = true) (hp : s.pending = none) :
      Step t (.within line column s rest ahead)
        (.between (line + 1)
          (s.terminate (if 0 < s.depth then .nl else .newline) line (column + rest.length)) ahead)
  /-- The end of a line that leaves a string open. -/
  | suspend {line column s o rest ahead} (hr : rest.all isInlineSpace = true)
      (hp : s.pending = some o) :
      Step t (.within line column s rest ahead) (.between (line + 1) s ahead)

/-- The step that takes a lexeme. -/
inductive TakesLexeme (t : Table) : Reading → Reading → Prop
  | mk {line column s s' rest x ahead} (hx : t.classify (rest.dropWhile isInlineSpace) = some x)
      (hs : s.take line (column + (rest.takeWhile isInlineSpace).length) x = .ok s') :
      TakesLexeme t (.within line column s rest ahead)
        (.within line (column + (rest.takeWhile isInlineSpace).length + x.width) s' x.rest ahead)

abbrev TakesLexemes (t : Table) : Reading → Reading → Prop := Relation.ReflTransGen (TakesLexeme t)

abbrev Steps (t : Table) : Reading → Reading → Prop := Relation.ReflTransGen (Step t)

section Runs

variable {t : Table}

theorem Steps.preserve {I : Reading → Prop} (hstep : ∀ a b, Step t a b → I a → I b)
    {a b : Reading} (h : Steps t a b) (ha : I a) : I b := by
  induction h with
  | refl => exact ha
  | tail _ hbc ih => exact hstep _ _ hbc ih

variable {line column length : Nat} {s s' : LexState} {rest : List Char}

theorem length_takeWhile_add_dropWhile {α : Type} (p : α → Bool) (cs : List α) :
    (cs.takeWhile p).length + (cs.dropWhile p).length = cs.length := by
  rw [← List.length_append, List.takeWhile_append_dropWhile]

theorem dropWhile_eq_cons {α : Type} {p : α → Bool} {cs : List α} (h : cs.dropWhile p ≠ []) :
    ∃ c more, cs.dropWhile p = c :: more ∧ p c = false := by
  obtain ⟨c, more, hcons⟩ := List.exists_cons_of_ne_nil h
  refine ⟨c, more, hcons, ?_⟩
  have hhead := List.head?_dropWhile_not p cs
  rw [hcons] at hhead
  simpa using hhead

theorem isInlineSpace_of_isMargin {c : Char} (h : isMargin c = true) : isInlineSpace c = true := by
  simp only [isMargin, isInlineSpace, Bool.or_eq_true] at *
  exact .inl h

/-- A line is blank if what follows its margin is. -/
theorem all_dropWhile_isMargin (cs : List Char) :
    (cs.dropWhile isMargin).all isInlineSpace = cs.all isInlineSpace := by
  have hmargin : (cs.takeWhile isMargin).all isInlineSpace = true := by
    rw [List.all_eq_true]
    intro c hc
    exact isInlineSpace_of_isMargin (List.mem_takeWhile_imp hc)
  calc
    (cs.dropWhile isMargin).all isInlineSpace =
        (cs.takeWhile isMargin ++ cs.dropWhile isMargin).all isInlineSpace := by
      rw [List.all_append, hmargin, Bool.true_and]
    _ = cs.all isInlineSpace := by rw [List.takeWhile_append_dropWhile]

theorem all_of_dropWhile_isEmpty {p : Char → Bool} {cs : List Char}
    (h : (cs.dropWhile p).isEmpty = true) : cs.all p = true := by
  rw [List.isEmpty_iff, List.dropWhile_eq_nil_iff] at h
  exact List.all_eq_true.mpr h

/-- Cutting the rest of a line into lexemes is over, or it takes a lexeme and goes on. -/
theorem scan_cases (h : t.scan line s column rest = .ok s') :
    (rest.all isInlineSpace = true ∧ s' = s) ∨
      ∃ x b, t.classify (rest.dropWhile isInlineSpace) = some x ∧
        s.take line (column + (rest.takeWhile isInlineSpace).length) x = .ok b ∧
        t.scan line b (column + (rest.takeWhile isInlineSpace).length + x.width) x.rest =
          .ok s' := by
  rw [Table.scan] at h
  split at h
  · rename_i hempty
    exact .inl ⟨all_of_dropWhile_isEmpty hempty, (Except.ok.inj h).symm⟩
  · split at h
    · cases h
    · rename_i x hx
      split at h
      · cases h
      · rename_i b hb
        exact .inr ⟨x, b, hx, hb, h⟩

theorem TakesLexemes.steps {a b : Reading} (h : TakesLexemes t a b) : Steps t a b := by
  refine Relation.ReflTransGen.mono ?_ _ _ h
  rintro _ _ ⟨hx, hs⟩
  exact .lexeme hx hs

/-- Cutting the rest of a line into lexemes stops before white space only. -/
theorem scan_lexemes (ahead : List String) (h : t.scan line s column rest = .ok s') :
    ∃ column' rest', rest'.all isInlineSpace = true ∧
      column' + rest'.length = column + rest.length ∧
      TakesLexemes t (.within line column s rest ahead) (.within line column' s' rest' ahead) := by
  fun_induction Table.scan t line s column rest with
  | case1 s column rest text hempty =>
    obtain rfl := Except.ok.inj h
    exact ⟨column, rest, all_of_dropWhile_isEmpty hempty, rfl, .refl⟩
  | case2 => cases h
  | case3 => cases h
  | case4 s column rest text column₁ _ x hx s₁ hs ih =>
    obtain ⟨column', rest', hr, hl, hlexemes⟩ := ih h
    obtain ⟨-, hw, happ⟩ := Table.append_rest_of_classify hx
    have hlen := length_takeWhile_add_dropWhile isInlineSpace rest
    have hx' := congrArg List.length happ
    rw [List.length_append, hw] at hx'
    refine ⟨column', rest', hr, ?_, .head (.mk hx hs) hlexemes⟩
    simp only [text, column₁] at *
    omega

theorem scan_steps (ahead : List String) (h : t.scan line s column rest = .ok s') :
    ∃ column' rest', rest'.all isInlineSpace = true ∧
      column' + rest'.length = column + rest.length ∧
      Steps t (.within line column s rest ahead) (.within line column' s' rest' ahead) := by
  obtain ⟨column', rest', hr, hl, hlexemes⟩ := scan_lexemes ahead h
  exact ⟨column', rest', hr, hl, hlexemes.steps⟩

/-- The state behind the last lexeme of a line, from the state behind the line. -/
theorem finishLine_cases (h : t.finishLine line length s column rest = .ok s') :
    ∃ c, t.scan line s column rest = .ok c ∧
      (c.pending.isSome = true ∧ s' = c ∨
        c.pending = none ∧
          s' = c.terminate (if 0 < c.depth then .nl else .newline) line length) := by
  unfold Table.finishLine at h
  cases hs : t.scan line s column rest with
  | error e =>
    rw [hs] at h
    cases h
  | ok c =>
    rw [hs] at h
    refine ⟨c, rfl, ?_⟩
    change (if c.pending.isSome then _ else _) = _ at h
    split at h
    · rename_i hp
      exact .inl ⟨hp, (Except.ok.inj h).symm⟩
    · rename_i hp
      exact .inr ⟨by simpa using hp, (Except.ok.inj h).symm⟩

theorem seek_append {q : TripleQuote} {passed text before after : List Char}
    (h : q.seekFrom passed text = some (before, after)) :
    before ++ after = passed.reverse ++ text := by
  fun_induction TripleQuote.seekFrom q passed text with
  | case1 => cases h
  | case2 passed c rest _ =>
    obtain ⟨rfl, rfl⟩ := Prod.mk.inj (Option.some.inj h)
    rfl
  | case3 passed c rest _ ih => simpa using ih h

theorem readLine_of_pending {o : OpenString} (h : s.pending = some o) (text : List Char) :
    t.readLine line s text = t.stringLine line s.countLine o text := by
  simp [Table.readLine, LexState.countLine, h]

theorem readLine_of_depth (h : s.pending = none) (hd : 0 < s.depth) (text : List Char) :
    t.readLine line s text = t.finishLine line text.length s.countLine 0 text := by
  simp [Table.readLine, LexState.countLine, h, hd]

theorem readLine_of_none (h : s.pending = none) (hd : s.depth = 0) (text : List Char) :
    t.readLine line s text = t.logicalLine line s.countLine text := by
  simp [Table.readLine, LexState.countLine, h, hd]

/-- The head of a line up to the end of a string and what is left of the line are all of it. -/
theorem length_seek {q : TripleQuote} {text before after : List Char}
    (h : q.seek text = some (before, after)) :
    (before ++ after.take 3).length + (after.drop 3).length = text.length := by
  have happ := congrArg List.length (seek_append h)
  simp only [List.length_append, List.reverse_nil, List.nil_append] at happ
  simp only [List.length_append, List.length_take, List.length_drop]
  omega

/-- A line is read at once, or it is entered, cut into lexemes and ended. -/
theorem readLine_cases (ahead : List String) {text : String}
    (h : t.readLine line s text.toList = .ok s') :
    Step t (.between line s (text :: ahead)) (.between (line + 1) s' ahead) ∨
      ∃ column b rest c,
        Step t (.between line s (text :: ahead)) (.within line column b rest ahead) ∧
        column + rest.length = text.length ∧ t.scan line b column rest = .ok c ∧
        (c.pending.isSome = true ∧ s' = c ∨
          c.pending = none ∧
            s' = c.terminate (if 0 < c.depth then .nl else .newline) line text.length) := by
  cases hp : s.pending with
  | some o =>
    rw [readLine_of_pending hp] at h
    unfold Table.stringLine at h
    split at h
    · rename_i hs
      obtain rfl := Except.ok.inj h
      have hstep : Step t (.between line s (text :: ahead)) _ := .pass hp hs
      simpa [LexState.extend] using Or.inl hstep
    · rename_i before after hs
      obtain ⟨c, hscan, hend⟩ := finishLine_cases h
      have hlen := length_seek hs
      rw [String.length_toList] at hend hlen
      exact .inr ⟨_, _, _, c, .close hp hs, hlen, hscan, hend⟩
  | none =>
    rcases Nat.eq_zero_or_pos s.depth with hd | hd
    · rw [readLine_of_none hp hd] at h
      simp only [Table.logicalLine, String.length_toList] at h
      split at h
      · rename_i hb
        obtain rfl := Except.ok.inj h
        exact .inl (.blank hp hd hb)
      · rename_i hb
        split at h
        · rename_i hc
          obtain rfl := Except.ok.inj h
          exact .inl (.remark hp hd hc)
        · rename_i hc
          cases hi : s.countLine.indent line (text.toList.takeWhile isMargin) with
          | error e =>
            rw [hi] at h
            cases h
          | ok b =>
            rw [hi] at h
            obtain ⟨c, hscan, hend⟩ := finishLine_cases h
            have hlen := length_takeWhile_add_dropWhile isMargin text.toList
            rw [String.length_toList] at hlen
            exact .inr ⟨_, b, _, c, .margin hp hd (by simpa using hb) hc hi, hlen, hscan, hend⟩
    · rw [readLine_of_depth hp hd, String.length_toList] at h
      obtain ⟨c, hscan, hend⟩ := finishLine_cases h
      exact .inr ⟨0, _, _, c, .continued hp hd, by simp [String.length_toList], hscan, hend⟩

theorem readLine_steps (ahead : List String) {text : String}
    (h : t.readLine line s text.toList = .ok s') :
    Steps t (.between line s (text :: ahead)) (.between (line + 1) s' ahead) := by
  rcases readLine_cases ahead h with hstep | ⟨column, b, rest, c, hstep, hlen, hscan, hend⟩
  · exact .single hstep
  · obtain ⟨column', rest', hr, hlen', hsteps⟩ := scan_steps ahead hscan
    refine .head hstep (hsteps.tail ?_)
    rcases hend with ⟨hp, rfl⟩ | ⟨hp, rfl⟩
    · obtain ⟨o, ho⟩ := Option.isSome_iff_exists.mp hp
      exact .suspend hr ho
    · rw [← hlen, ← hlen']
      exact .finish hr hp

/-- Lines are read in steps, whatever lines there are behind them. -/
theorem readLines_steps {lines : List String} (ahead : List String)
    (h : t.readLines line s lines = .ok s') :
    Steps t (.between line s (lines ++ ahead)) (.between (line + lines.length) s' ahead) := by
  induction lines generalizing line s with
  | nil =>
    obtain rfl := Except.ok.inj h
    exact .refl
  | cons text rest ih =>
    simp only [Table.readLines] at h
    split at h
    · cases h
    · rename_i s₁ hs
      rw [List.length_cons, Nat.add_comm rest.length, ← Nat.add_assoc]
      exact (readLine_steps (rest ++ ahead) hs).trans (ih h)

theorem readLines_cons (text : String) (ahead : List String) :
    t.readLines line s (text :: ahead) =
      t.readLine line s text.toList >>= fun b => t.readLines (line + 1) b ahead := by
  simp only [Table.readLines]
  cases t.readLine line s text.toList <;> rfl

/-- What becomes of a run. -/
def Table.resume (t : Table) : Reading → Except LexError LexState
  | .between line s ahead => t.readLines line s ahead
  | .within line column s rest ahead =>
    match t.finishLine line (column + rest.length) s column rest with
    | .error e => .error e
    | .ok s => t.readLines (line + 1) s ahead

theorem resume_between (line : Nat) (s : LexState) (text : String) (ahead : List String) :
    t.resume (.between line s (text :: ahead)) =
      match t.readLine line s text.toList with
      | .error e => .error e
      | .ok s => t.readLines (line + 1) s ahead := rfl

theorem resume_within (line column : Nat) (s : LexState) (rest : List Char)
    (ahead : List String) :
    t.resume (.within line column s rest ahead) =
      match t.finishLine line (column + rest.length) s column rest with
      | .error e => .error e
      | .ok s => t.readLines (line + 1) s ahead := rfl

theorem resume_within_eq (line column : Nat) (s : LexState) (rest : List Char)
    (ahead : List String) :
    t.resume (.within line column s rest ahead) =
      t.finishLine line (column + rest.length) s column rest >>= fun b =>
        t.readLines (line + 1) b ahead := by
  rw [resume_within]
  cases t.finishLine line (column + rest.length) s column rest <;> rfl

theorem scan_of_none (hne : ¬ (rest.dropWhile isInlineSpace).isEmpty = true)
    (hx : t.classify (rest.dropWhile isInlineSpace) = none) :
    t.scan line s column rest = .error (.patternMismatch line
      (column + (rest.takeWhile isInlineSpace).length)
      (String.ofList (rest.dropWhile isInlineSpace))) := by
  rw [Table.scan, if_neg hne]
  split
  · rfl
  · rename_i y hy
    cases hx.symm.trans hy

theorem ne_nil_of_classify {x : Lexeme} (h : t.classify rest = some x) : rest ≠ [] := by
  rintro rfl
  exact absurd (Table.rest_length_lt_of_classify h) (Nat.not_lt_zero _)

theorem scan_of_lexeme {x : Lexeme} (hx : t.classify (rest.dropWhile isInlineSpace) = some x) :
    t.scan line s column rest =
      s.take line (column + (rest.takeWhile isInlineSpace).length) x >>= fun b =>
        t.scan line b (column + (rest.takeWhile isInlineSpace).length + x.width) x.rest := by
  have hne : ¬ (rest.dropWhile isInlineSpace).isEmpty = true := by
    rw [List.isEmpty_iff]
    exact ne_nil_of_classify hx
  rw [Table.scan, if_neg hne]
  split
  · rename_i hy
    cases hx.symm.trans hy
  · rename_i y hy
    obtain rfl := Option.some.inj (hx.symm.trans hy)
    split
    · rename_i e he
      rw [he]
      rfl
    · rename_i b hb
      rw [hb]
      rfl

theorem scan_of_classify {x : Lexeme} (hx : t.classify (rest.dropWhile isInlineSpace) = some x)
    (hs : s.take line (column + (rest.takeWhile isInlineSpace).length) x = .ok s') :
    t.scan line s column rest =
      t.scan line s' (column + (rest.takeWhile isInlineSpace).length + x.width) x.rest := by
  rw [scan_of_lexeme hx, hs]
  rfl

theorem scan_of_space (hr : rest.all isInlineSpace = true) :
    t.scan line s column rest = .ok s := by
  have hd : rest.dropWhile isInlineSpace = [] :=
    List.dropWhile_eq_nil_iff.mpr (List.all_eq_true.mp hr)
  rw [Table.scan, if_pos (by simp [hd])]

theorem finishLine_of_space (hr : rest.all isInlineSpace = true) :
    t.finishLine line length s column rest =
      if s.pending.isSome then .ok s
      else .ok (s.terminate (if 0 < s.depth then .nl else .newline) line length) := by
  rw [Table.finishLine, scan_of_space hr]
  rfl

theorem resume_of_step {a b : Reading} (h : Step t a b) : t.resume a = t.resume b := by
  cases h with
  | pass hp hs =>
    rw [resume_between, readLine_of_pending hp, Table.stringLine, hs]
    simp [Table.resume, LexState.extend]
  | close hp hs =>
    rename_i line s o text before rest ahead
    rw [resume_between, readLine_of_pending hp, Table.stringLine, hs, resume_within,
      length_seek hs]
    rfl
  | continued hp hd =>
    rw [resume_between, readLine_of_depth hp hd, resume_within, Nat.zero_add]
  | blank hp hd hb =>
    rw [resume_between, readLine_of_none hp hd]
    simp only [Table.logicalLine, if_pos hb, String.length_toList]
    rfl
  | remark hp hd hc =>
    rename_i line s text ahead
    have hb : ¬ (text.toList.dropWhile isMargin).all isInlineSpace = true := by
      obtain ⟨r, hr⟩ := List.head?_eq_some_iff.mp hc
      rw [hr, List.all_cons]
      exact Bool.false_ne_true
    rw [resume_between, readLine_of_none hp hd]
    simp only [Table.logicalLine, if_neg hb, if_pos hc, String.length_toList]
    rfl
  | margin hp hd hb hc hi =>
    rename_i line s s' text ahead
    rw [resume_between, readLine_of_none hp hd, resume_within, length_takeWhile_add_dropWhile]
    simp only [Table.logicalLine, hb, Bool.false_eq_true, if_false, if_neg hc, hi]
    rfl
  | lexeme hx hs =>
    rename_i line column s s' rest x ahead
    obtain ⟨-, hw, happ⟩ := Table.append_rest_of_classify hx
    have hx' := congrArg List.length happ
    rw [List.length_append, hw] at hx'
    have hlen := length_takeWhile_add_dropWhile isInlineSpace rest
    have hend : column + (rest.takeWhile isInlineSpace).length + x.width + x.rest.length =
        column + rest.length := by omega
    rw [resume_within, resume_within, hend, Table.finishLine, Table.finishLine,
      scan_of_classify hx hs]
  | finish hr hp =>
    rw [resume_within, finishLine_of_space hr, hp]
    rfl
  | suspend hr hp =>
    rw [resume_within, finishLine_of_space hr, hp]
    rfl

/-- Wherever a run comes to, it is still the run over all the lines. -/
theorem resume_of_steps {a b : Reading} (h : Steps t a b) : t.resume a = t.resume b := by
  induction h with
  | refl => rfl
  | tail _ hbc ih => exact ih.trans (resume_of_step hbc)

/-- Behind lines that are read, the run goes on with those ahead. -/
theorem readLines_of_append {done : List String} (ahead : List String)
    (h : t.readLines line s done = .ok s') :
    t.readLines line s (done ++ ahead) = t.readLines (line + done.length) s' ahead :=
  resume_of_steps (readLines_steps ahead h)

end Runs

namespace Reading

/-- Where the next character to read stands. -/
def cursor : Reading → Position
  | between line _ _ => .of line 0
  | within line column _ _ _ => .of line column

/-- A run stands between what it has read of the lines and what is left of them. -/
def Anchored (lines : List String) : Reading → Prop
  | between line _ ahead => ∃ done, lines = done ++ ahead ∧ line = done.length + 1
  | within line column _ rest ahead => ∃ done before text,
      lines = done ++ text :: ahead ∧ line = done.length + 1 ∧
        text.toList = before ++ rest ∧ column = before.length

variable {lines : List String} {line column : Nat} {s s' : LexState} {rest : List Char}
  {text : String} {ahead : List String}

theorem Anchored.nextLine (s' : LexState) (h : Anchored lines (between line s (text :: ahead))) :
    Anchored lines (between (line + 1) s' ahead) := by
  obtain ⟨done, rfl, rfl⟩ := h
  exact ⟨done ++ [text], by simp, by simp⟩

theorem Anchored.lineEnd (s' : LexState) (h : Anchored lines (within line column s rest ahead)) :
    Anchored lines (between (line + 1) s' ahead) := by
  obtain ⟨done, before, text, rfl, rfl, -, -⟩ := h
  exact ⟨done ++ [text], by simp, by simp⟩

theorem Anchored.enter (s' : LexState) (before : List Char) (ht : text.toList = before ++ rest)
    (h : Anchored lines (between line s (text :: ahead))) :
    Anchored lines (within line before.length s' rest ahead) := by
  obtain ⟨done, rfl, rfl⟩ := h
  exact ⟨done, before, text, rfl, rfl, ht, rfl⟩

theorem Anchored.forward (s' : LexState) {passed rest' : List Char} (hr : rest = passed ++ rest')
    (h : Anchored lines (within line column s rest ahead)) :
    Anchored lines (within line (column + passed.length) s' rest' ahead) := by
  obtain ⟨done, before, text, rfl, rfl, ht, rfl⟩ := h
  exact ⟨done, before ++ passed, text, rfl, rfl, by simp [ht, hr], by simp⟩

theorem passed_append {t : Table} {x : Lexeme}
    (hx : t.classify (rest.dropWhile isInlineSpace) = some x) :
    rest = (rest.takeWhile isInlineSpace ++ x.text.toList) ++ x.rest := by
  obtain ⟨-, -, happ⟩ := Table.append_rest_of_classify hx
  rw [List.append_assoc, happ, List.takeWhile_append_dropWhile]

theorem Anchored.step {t : Table} {a b : Reading} (h : Step t a b) (ha : Anchored lines a) :
    Anchored lines b := by
  cases h with
  | pass => exact ha.nextLine _
  | close hp hs =>
    refine ha.enter _ _ ?_
    have happ := seek_append hs
    rw [List.append_assoc, List.take_append_drop, happ]
    rfl
  | continued => exact ha.enter _ [] rfl
  | blank => exact ha.nextLine _
  | remark => exact ha.nextLine _
  | margin => exact ha.enter _ _ (List.takeWhile_append_dropWhile).symm
  | lexeme hx _ =>
    rename_i s' _ _ _ _
    obtain ⟨-, hw, -⟩ := Table.append_rest_of_classify hx
    have hf := ha.forward s' (passed_append hx)
    rw [List.length_append, hw, ← Nat.add_assoc] at hf
    exact hf
  | finish => exact ha.lineEnd _
  | suspend => exact ha.lineEnd _

theorem anchored_start (lines : List String) : Anchored lines (between 1 .start lines) :=
  ⟨[], rfl, rfl⟩

end Reading

end Offside
