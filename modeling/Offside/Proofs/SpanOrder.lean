import Offside.Proofs.Coverage
import Offside.Token.Stream

/-!
# The order of spans

Tokens come in the order of their places: each starts where the one before it ends, or behind that.
`Token.Spaced` says so for the tokens before a front, and it holds of every state of a run, with the
front of `Reading.front`, whether the run succeeds or not.
-/

namespace Offside

set_option autoImplicit false

def Kind.isWide : Kind → Bool
  | .name | .number | .string | .comment | .op | .indent | .newline | .nl => true
  | .encoding | .dedent | .endMarker | .unknown => false

namespace Token

/-- The tokens stand one behind the other and before a front. -/
structure Spaced (ts : List Token) (front : Position) : Prop where
  spans : ∀ t ∈ ts, t.span.start ≤ t.span.stop
  wide : ∀ t ∈ ts, t.kind.isWide = true → t.span.start < t.span.stop
  before : ∀ t ∈ ts, t.span.stop ≤ front
  ordered : ts.Pairwise fun t u => t.span.stop ≤ u.span.start

variable {ts : List Token} {t : Token} {p q : Position}

theorem Spaced.advance (h : Spaced ts p) (hle : p ≤ q) : Spaced ts q where
  spans := h.spans
  wide := h.wide
  before u hu := Position.le_trans (h.before u hu) hle
  ordered := h.ordered

theorem Spaced.add (h : Spaced ts t.span.start) (hle : t.span.start ≤ t.span.stop)
    (hw : t.kind.isWide = true → t.span.start < t.span.stop) :
    Spaced (ts ++ [t]) t.span.stop where
  spans := List.forall_mem_append.mpr ⟨h.spans, by simpa using hle⟩
  wide := List.forall_mem_append.mpr ⟨h.wide, by simpa using hw⟩
  before := by
    refine List.forall_mem_append.mpr ⟨?_, ?_⟩
    · intro u hu
      exact Position.le_trans (h.before u hu) hle
    · intro u hu
      rw [List.mem_singleton.mp hu]
      exact Position.le_refl _
  ordered := by
    rw [List.pairwise_append]
    refine ⟨h.ordered, List.pairwise_singleton _ _, ?_⟩
    intro u hu v hv
    rw [List.mem_singleton.mp hv]
    exact h.before u hu

theorem Spaced.addWide (h : Spaced ts t.span.start) (hlt : t.span.start < t.span.stop) :
    Spaced (ts ++ [t]) t.span.stop :=
  h.add (Position.le_of_lt hlt) fun _ => hlt

theorem Spaced.dedents (h : Spaced ts p) (n : Nat) :
    Spaced (ts ++ List.replicate n ⟨.dedent, "", .point p⟩) p := by
  induction n with
  | zero => simpa using h
  | succ n ih =>
    rw [List.replicate_succ', ← List.append_assoc]
    exact ih.add (t := ⟨.dedent, "", .point p⟩) (Position.le_refl p) nofun

theorem Spaced.terminator {line length : Nat} (kind : Kind)
    (h : Spaced ts (.of line length)) :
    Spaced (ts ++ [⟨kind, "\n", .of line length, .of line (length + 1)⟩]) (.of (line + 1) 0) := by
  have hwide : Position.of line length < .of line (length + 1) :=
    Position.of_lt_of.mpr (.inr ⟨rfl, Nat.lt_succ_self _⟩)
  have hend := h.addWide (t := ⟨kind, "\n", .of line length, .of line (length + 1)⟩) hwide
  exact hend.advance (Position.of_le_of.mpr (.inl (Nat.lt_succ_self _)))

theorem checkSpans_of_spans (h : ∀ t ∈ ts, t.span.start ≤ t.span.stop) :
    checkSpans ts = .ok () := by
  have hnone : firstReversed? ts = none := by
    unfold firstReversed?
    rw [List.find?_eq_none]
    intro p hp
    have hle := h p.1 (List.fst_mem_of_mem_zipIdx hp)
    simpa [Span.isOrdered] using hle
  rw [checkSpans, hnone]

/-- Neighbours in order do not start before each other. -/
theorem le_of_mem_zip_tail (hs : ∀ t ∈ ts, t.span.start ≤ t.span.stop)
    (hc : ts.IsChain fun t u => t.span.stop ≤ u.span.start) {pair : Token × Token}
    (hp : pair ∈ ts.zip ts.tail) : pair.1.span.start ≤ pair.2.span.start := by
  induction ts with
  | nil => cases hp
  | cons t rest ih =>
    cases rest with
    | nil => cases hp
    | cons u rest =>
      rw [List.isChain_cons_cons] at hc
      rcases List.mem_cons.mp hp with rfl | hp
      · exact Position.le_trans (hs t List.mem_cons_self) hc.1
      · exact ih (fun v hv => hs v (List.mem_cons_of_mem t hv)) hc.2 hp

theorem checkOrder_of_isChain (hs : ∀ t ∈ ts, t.span.start ≤ t.span.stop)
    (hc : ts.IsChain fun t u => t.span.stop ≤ u.span.start) : checkOrder ts = .ok () := by
  have hnone : firstBackwards? ts = none := by
    unfold firstBackwards?
    rw [List.find?_eq_none]
    intro p hp
    have hle := le_of_mem_zip_tail hs hc (List.fst_mem_of_mem_zipIdx hp)
    intro hlt
    exact Position.not_le.mpr (of_decide_eq_true hlt) hle
  rw [checkOrder, hnone]

end Token

namespace Reading

open Token

variable {lines : List String} {line column : Nat} {s s' : LexState} {o : OpenString}
  {text : String} {rest : List Char} {ahead : List String}

def InOrder (r : Reading) : Prop := Spaced r.state.emitted.toList r.front

theorem inOrder_of_none {r : Reading} (hp : r.state.pending = none)
    (h : Spaced r.state.emitted.toList r.cursor) : r.InOrder := by
  unfold InOrder
  rw [front_of_none hp]
  exact h

theorem InOrder.of_none {r : Reading} (h : r.InOrder) (hp : r.state.pending = none) :
    Spaced r.state.emitted.toList r.cursor := by
  unfold InOrder at h
  rwa [front_of_none hp] at h

theorem InOrder.of_pending {r : Reading} (h : r.InOrder) (hp : r.state.pending = some o) :
    Spaced r.state.emitted.toList (.of o.line o.column) := by
  unfold InOrder at h
  rwa [front_of_pending hp] at h

theorem InOrder.close {before rest : List Char} (h : InOrder (between line s (text :: ahead)))
    (hsound : Sound lines (between line s (text :: ahead))) (hp : s.pending = some o)
    (hs : o.quote.seek text.toList = some (before, rest)) :
    InOrder (within line (before ++ rest.take 3).length
      (s.countLine.close o line (before ++ rest.take 3)) (rest.drop 3) ahead) := by
  apply inOrder_of_none rfl
  rw [state, LexState.close_emitted]
  refine (h.of_pending hp).addWide (Position.lt_of_le_of_lt (hsound.held o hp).ordered ?_)
  -- the delimiter makes the part of the string on its last line wide
  obtain ⟨-, hd⟩ := TripleQuote.scan_eq_some ((o.quote.seek_eq_scan _).symm.trans hs)
  have hlen := hd.length_le
  rw [TripleQuote.delimiter, List.length_replicate] at hlen
  have hpos : 0 < (before ++ rest.take 3).length := by
    rw [List.length_append, List.length_take]
    omega
  exact Position.of_lt_of.mpr (.inr ⟨rfl, hpos⟩)

theorem InOrder.blank (h : InOrder (between line s (text :: ahead))) (hp : s.pending = none) :
    InOrder (between (line + 1) (s.countLine.terminate .nl line text.length) ahead) := by
  refine inOrder_of_none (by exact hp) ?_
  rw [state, LexState.terminate, LexState.emit_emitted]
  apply Spaced.terminator
  exact (h.of_none hp).advance (Position.of_le_of.mpr (.inr ⟨rfl, Nat.zero_le _⟩))

theorem InOrder.remark (h : InOrder (between line s (text :: ahead))) (hp : s.pending = none)
    (hc : (text.toList.dropWhile isMargin).head? = some '#') :
    InOrder (between (line + 1)
      ((s.countLine.remark line (text.toList.takeWhile isMargin).length text.length
        (text.toList.dropWhile isMargin)).terminate .nl line text.length) ahead) := by
  refine inOrder_of_none (by exact hp) ?_
  rw [state, LexState.terminate, LexState.remark, LexState.emit_emitted, LexState.emit_emitted]
  apply Spaced.terminator
  have hm : Spaced s.emitted.toList (.of line (text.toList.takeWhile isMargin).length) :=
    (h.of_none hp).advance (Position.of_le_of.mpr (.inr ⟨rfl, Nat.zero_le _⟩))
  have hlen := length_takeWhile_add_dropWhile isMargin text.toList
  rw [String.length_toList] at hlen
  obtain ⟨body, hbody⟩ := List.head?_eq_some_iff.mp hc
  rw [hbody, List.length_cons] at hlen
  refine hm.addWide (t := ⟨.comment, _, .of line _, .of line text.length⟩) ?_
  exact Position.of_lt_of.mpr (.inr ⟨rfl, by omega⟩)

theorem InOrder.margin (h : InOrder (between line s (text :: ahead))) (hp : s.pending = none)
    (hi : s.countLine.indent line (text.toList.takeWhile isMargin) = .ok s') :
    InOrder (within line (text.toList.takeWhile isMargin).length s'
      (text.toList.dropWhile isMargin) ahead) := by
  refine inOrder_of_none (by exact (LexState.indent_pending hi).trans hp) ?_
  have hstart : Spaced s.emitted.toList (.of line 0) := h.of_none hp
  have hm : Spaced s.emitted.toList (.of line (text.toList.takeWhile isMargin).length) :=
    hstart.advance (Position.of_le_of.mpr (.inr ⟨rfl, Nat.zero_le _⟩))
  rcases LexState.indent_cases hi with ⟨hlt, metrics, rfl⟩ | ⟨-, -, rfl⟩ | ⟨-, rfl⟩
  · rw [state, LexState.emit_emitted]
    refine hstart.addWide (t := ⟨.indent, _, .of line 0, .of line _⟩) ?_
    exact Position.of_lt_of.mpr (.inr ⟨rfl, by omega⟩)
  · rw [state, LexState.dedent_emitted]
    exact hm.dedents _
  · exact hm

theorem InOrder.lexeme {ops : OperatorSet} {x : Lexeme} (hops : ops.Reachable)
    (h : InOrder (within line column s rest ahead))
    (hsound : Sound lines (within line column s rest ahead))
    (hx : (Table.ofOperators ops).classify (rest.dropWhile isInlineSpace) = some x)
    (hs : s.take line (column + (rest.takeWhile isInlineSpace).length) x = .ok s') :
    InOrder (within line (column + (rest.takeWhile isInlineSpace).length + x.width) s' x.rest
      ahead) := by
  have hp := hsound.pending_of_lexeme hops hx
  obtain ⟨hpos, -, -⟩ := Table.append_rest_of_classify hx
  have hm : Spaced s.emitted.toList (.of line (column + (rest.takeWhile isInlineSpace).length)) :=
    (h.of_none hp).advance (Position.of_le_of.mpr (.inr ⟨rfl, Nat.le_add_right ..⟩))
  rcases LexState.take_cases hs with ⟨-, b, hb, rfl⟩ | ⟨quote, -, rfl⟩
  · obtain ⟨depth, metrics, rfl⟩ := LexState.bracket_eq hb
    refine inOrder_of_none (by exact hp) ?_
    rw [state, LexState.emit_emitted]
    refine hm.addWide (t := ⟨x.kind, x.text, .of line _, .of line _⟩) ?_
    exact Position.of_lt_of.mpr (.inr ⟨rfl, by omega⟩)
  · exact hm

theorem InOrder.finish (kind : Kind) (h : InOrder (within line column s rest ahead))
    (hp : s.pending = none) :
    InOrder (between (line + 1) (s.terminate kind line (column + rest.length)) ahead) := by
  refine inOrder_of_none (by exact hp) ?_
  rw [state, LexState.terminate, LexState.emit_emitted]
  apply Spaced.terminator
  exact (h.of_none hp).advance (Position.of_le_of.mpr (.inr ⟨rfl, Nat.le_add_right ..⟩))

theorem InOrder.step {ops : OperatorSet} {a b : Reading} (hops : ops.Reachable)
    (hstep : Step (.ofOperators ops) a b) (hsound : Sound lines a) (h : a.InOrder) :
    b.InOrder := by
  cases hstep with
  | pass hp =>
    have hheld := h.of_pending hp
    exact hheld
  | close hp hs => exact h.close hsound hp hs
  | continued hp => exact inOrder_of_none hp (h.of_none hp)
  | blank hp => exact h.blank hp
  | remark hp _ hc => exact h.remark hp hc
  | margin hp _ _ _ hi => exact h.margin hp hi
  | lexeme hx hs => exact h.lexeme hops hsound hx hs
  | finish _ hp => exact h.finish _ hp
  | @suspend line column s o rest ahead _ hp =>
    unfold InOrder
    rw [front_of_pending (r := between (line + 1) s ahead) hp]
    exact h.of_pending hp

theorem inOrder_start (lines : List String) : InOrder (between 1 .start lines) := by
  have hempty : Spaced [] .origin := ⟨by simp, by simp, by simp, .nil⟩
  have hmark := hempty.add (t := ⟨.encoding, "utf-8", .point .origin⟩) (Position.le_refl _) nofun
  exact hmark.advance (q := .of 1 0) (by decide)

theorem inOrder_of_steps {ops : OperatorSet} {r : Reading} (hops : ops.Reachable)
    (h : Steps (.ofOperators ops) (between 1 .start lines) r) : Sound lines r ∧ r.InOrder :=
  h.preserve (I := fun r => Sound lines r ∧ r.InOrder)
    (fun _ _ hstep ha => ⟨ha.1.step hops hstep, ha.2.step hops hstep ha.1⟩)
    ⟨sound_start lines, inOrder_start lines⟩

end Reading

/-- Every token starts where the one before it ends or behind that, and no span is reversed, not
even in a run that fails or in the blocks that a line closes before it is refused. -/
theorem spans_in_order {ops : OperatorSet} (hops : ops.Reachable) (lines : List String) :
    (∀ a, Steps (.ofOperators ops) (.between 1 .start lines) a → ∀ place n,
      ∀ t ∈ (a.state.dedent place n).emitted.toList, t.span.isOrdered = true) ∧
    ∀ policy r, (Table.ofOperators ops).tokenize policy lines = .ok r →
      (∀ t ∈ r.tokens.toList, t.span.start ≤ t.span.stop) ∧
      r.tokens.toList.IsChain (fun t u => t.span.stop ≤ u.span.start) ∧
      (∀ t ∈ r.tokens.toList, t.kind.isWide = true → t.span.start < t.span.stop) ∧
      Token.checkSpans r.tokens.toList = .ok () ∧ Token.checkOrder r.tokens.toList = .ok () := by
  constructor
  · intro a ha place n t ht
    obtain ⟨-, hordered⟩ := Reading.inOrder_of_steps hops ha
    rw [LexState.dedent_emitted] at ht
    apply decide_eq_true
    rcases List.mem_append.mp ht with ht | ht
    · exact hordered.spans t ht
    · rw [List.eq_of_mem_replicate ht]
      exact Position.le_refl place
  · intro policy r h
    obtain ⟨s, hs, hf⟩ := Table.tokenize_eq_ok h
    obtain ⟨htokens, -, -⟩ := LexState.finish_eq_ok hf
    have hsteps := readLines_steps [] hs
    rw [List.append_nil] at hsteps
    obtain ⟨hsound, hordered⟩ := Reading.inOrder_of_steps hops hsteps
    have hfront : Reading.front (.between (1 + lines.length) s []) ≤ .of (lines.length + 1) 0 := by
      rw [Nat.add_comm]
      cases hp : s.pending with
      | none =>
        rw [Reading.front_of_none (by exact hp)]
        exact Position.le_refl _
      | some o =>
        rw [Reading.front_of_pending (by exact hp), Nat.add_comm]
        exact (hsound.held o hp).ordered
    have hall : Token.Spaced r.tokens.toList (.of (lines.length + 1) 0) := by
      rw [htokens]
      exact ((hordered.advance hfront).dedents _).add
        (t := ⟨.endMarker, "", .point (.of (lines.length + 1) 0)⟩) (Position.le_refl _) nofun
    have hchain := hall.ordered.isChain
    exact ⟨hall.spans, hchain, hall.wide, Token.checkSpans_of_spans hall.spans,
      Token.checkOrder_of_isChain hall.spans hchain⟩

/-- A block, a string over two lines and a bracket that stays open. -/
theorem spans_in_order_open_bracket :
    OperatorSet.Reachable .core ∧ ∃ r,
      (Table.ofOperators .core).tokenize .lenient ["a:", "  b = '''", "''' ("] = .ok r ∧
      r.tokens.toList.IsChain (fun t u => t.span.stop ≤ u.span.start) ∧
      Token.checkSpans r.tokens.toList = .ok () ∧ Token.checkOrder r.tokens.toList = .ok () := by
  have hrun : ((Table.ofOperators .core).tokenize .lenient
      ["a:", "  b = '''", "''' ("]).isOk = true := by
    rw [Table.ofOperators, OperatorSet.matchOrder_core]
    decide +kernel
  have hcore : OperatorSet.Reachable .core := .ofPreset .core
  refine ⟨hcore, ?_⟩
  cases hr : (Table.ofOperators .core).tokenize .lenient ["a:", "  b = '''", "''' ("] with
  | error e =>
    rw [hr] at hrun
    cases hrun
  | ok r =>
    obtain ⟨-, hwhole⟩ := spans_in_order hcore ["a:", "  b = '''", "''' ("]
    obtain ⟨-, hchain, -, hspans, horder⟩ := hwhole .lenient r hr
    exact ⟨r, rfl, hchain, hspans, horder⟩

end Offside
