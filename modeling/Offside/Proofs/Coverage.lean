import Offside.Proofs.Classification
import Offside.Proofs.Reading
import Offside.Proofs.Source

/-!
# The tokens cover the source

The tokens with text of their own tile the source: the text of each is the part of the source at
its span, even where a string goes over several lines, and every character belongs to exactly one
of them or is white space between them. `Covered` says so for the part before a front that moves
with the run, and `Held` ties the text of an open string to what has been read since it opened.
-/

namespace Offside

set_option autoImplicit false

def Kind.holdsText : Kind → Bool
  | .name | .number | .string | .comment | .op | .indent => true
  | .encoding | .dedent | .newline | .nl | .endMarker | .unknown => false

def Token.holds (t : Token) (p : Position) : Bool :=
  t.kind.holdsText && decide (t.span.start ≤ p ∧ p < t.span.stop)

namespace Source

variable {lines : List String} {ts : List Token} {t : Token} {p q : Position}

/-- The text of a token is what stands between its ends. -/
structure Exact (lines : List String) (t : Token) : Prop where
  start : IsPlace lines t.span.start
  stop : IsPlace lines t.span.stop
  ordered : t.span.start ≤ t.span.stop
  text : after lines t.span.start = t.text.toList ++ after lines t.span.stop

theorem Exact.eq_slice (h : Exact lines t) : t.text = slice lines t.span := by
  have hs := slice_eq h.start h.stop h.text
  rw [String.ofList_toList] at hs
  exact hs.symm

/-- The tokens hold what stands before a front, and nothing behind it. -/
structure Covered (lines : List String) (ts : List Token) (front : Position) : Prop where
  exact : ∀ t ∈ ts, t.kind.holdsText = true → Exact lines t
  before : ∀ t ∈ ts, t.kind.holdsText = true → t.span.stop ≤ front
  ordered : (ts.filter fun t => t.kind.holdsText).Pairwise fun t u => t.span.stop ≤ u.span.start
  once : ∀ p c, HasChar lines p c → p < front →
    ts.countP (Token.holds · p) = 1 ∨
      ts.countP (Token.holds · p) = 0 ∧ isInlineSpace c = true

theorem covered_nil (h : ∀ p c, HasChar lines p c → ¬ p < q) : Covered lines [] q where
  exact := by simp
  before := by simp
  ordered := .nil
  once p c hc hlt := absurd hlt (h p c hc)

theorem Covered.countP_eq_zero (h : Covered lines ts q) (hle : q ≤ p) :
    ts.countP (Token.holds · p) = 0 := by
  rw [List.countP_eq_zero]
  intro t ht hh
  simp only [Token.holds, Bool.and_eq_true, decide_eq_true_eq] at hh
  obtain ⟨hk, -, hlt⟩ := hh
  have hstop := Position.le_trans (h.before t ht hk) hle
  exact Position.not_le.mpr hlt hstop

theorem Covered.skip (h : Covered lines ts p) (hle : p ≤ q)
    (hs : ∀ r c, HasChar lines r c → p ≤ r → r < q → isInlineSpace c = true) :
    Covered lines ts q where
  exact := h.exact
  before t ht hk := Position.le_trans (h.before t ht hk) hle
  ordered := h.ordered
  once := by
    intro r c hc hlt
    by_cases hr : p ≤ r
    · exact .inr ⟨h.countP_eq_zero hr, hs r c hc hr hlt⟩
    · exact h.once r c hc (Position.not_le.mp hr)

theorem Covered.synthetic (h : Covered lines ts p) (hk : t.kind.holdsText = false) :
    Covered lines (ts ++ [t]) p where
  exact u hu hku := by
    rcases List.mem_append.mp hu with hu | hu
    · exact h.exact u hu hku
    · rw [List.mem_singleton.mp hu, hk] at hku
      cases hku
  before u hu hku := by
    rcases List.mem_append.mp hu with hu | hu
    · exact h.before u hu hku
    · rw [List.mem_singleton.mp hu, hk] at hku
      cases hku
  ordered := by simpa [hk] using h.ordered
  once r c hc hlt := by
    have hz : [t].countP (Token.holds · r) = 0 := by simp [Token.holds, hk]
    rw [List.countP_append, hz, Nat.add_zero]
    exact h.once r c hc hlt

theorem Covered.synthetics (h : Covered lines ts p) (us : List Token)
    (hk : ∀ u ∈ us, u.kind.holdsText = false) : Covered lines (ts ++ us) p := by
  induction us generalizing ts with
  | nil => simpa using h
  | cons u us ih =>
    rw [List.append_cons]
    apply ih (h.synthetic (hk u List.mem_cons_self))
    intro v hv
    exact hk v (List.mem_cons_of_mem u hv)

theorem Covered.token (h : Covered lines ts t.span.start) (hk : t.kind.holdsText = true)
    (he : Exact lines t) : Covered lines (ts ++ [t]) t.span.stop where
  exact u hu hku := by
    rcases List.mem_append.mp hu with hu | hu
    · exact h.exact u hu hku
    · rw [List.mem_singleton.mp hu]
      exact he
  before u hu hku := by
    rcases List.mem_append.mp hu with hu | hu
    · exact Position.le_trans (h.before u hu hku) he.ordered
    · rw [List.mem_singleton.mp hu]
      exact Position.le_refl _
  ordered := by
    rw [List.filter_append, List.pairwise_append]
    refine ⟨h.ordered, by simp [hk], ?_⟩
    intro u hu v hv
    obtain ⟨hu, hku⟩ := List.mem_filter.mp hu
    obtain rfl : v = t := List.mem_singleton.mp (List.mem_filter.mp hv).1
    exact h.before u hu hku
  once r c hc hlt := by
    rw [List.countP_append]
    by_cases hr : t.span.start ≤ r
    · have ho : [t].countP (Token.holds · r) = 1 := by simp [Token.holds, hk, hr, hlt]
      rw [h.countP_eq_zero hr, ho]
      exact .inl rfl
    · have hz : [t].countP (Token.holds · r) = 0 := by simp [Token.holds, hr]
      rw [hz, Nat.add_zero]
      exact h.once r c hc (Position.not_le.mp hr)

section Line

variable {line column : Nat} {s : LexState} {rest passed rest' : List Char} {ahead : List String}

theorem isPlace_of_anchored (ha : Reading.Anchored lines (.within line column s rest ahead)) :
    IsPlace lines (.of line column) := by
  obtain ⟨done, before, text, rfl, rfl, ht, rfl⟩ := ha
  exact isPlace_of ht

theorem after_of_anchored (ha : Reading.Anchored lines (.within line column s rest ahead)) :
    after lines (.of line column) = rest ++ '\n' :: terminated ahead := by
  obtain ⟨done, before, text, rfl, rfl, ht, rfl⟩ := ha
  exact after_of ht

theorem exact_within (kind : Kind) (text : String)
    (ha : Reading.Anchored lines (.within line column s rest ahead))
    (hr : rest = text.toList ++ rest') :
    Exact lines ⟨kind, text, .of line column, .of line (column + text.toList.length)⟩ where
  start := isPlace_of_anchored ha
  stop := isPlace_of_anchored (ha.forward s hr)
  ordered := Position.of_le_of.mpr (.inr ⟨rfl, Nat.le_add_right ..⟩)
  text := by rw [after_of_anchored ha, after_of_anchored (ha.forward s hr), hr, List.append_assoc]

theorem Covered.space (h : Covered lines ts (.of line column))
    (ha : Reading.Anchored lines (.within line column s rest ahead)) (hr : rest = passed ++ rest')
    (hs : ∀ c ∈ passed, isInlineSpace c = true) :
    Covered lines ts (.of line (column + passed.length)) := by
  obtain ⟨done, before, text, rfl, rfl, ht, rfl⟩ := ha
  apply h.skip (Position.of_le_of.mpr (.inr ⟨rfl, Nat.le_add_right ..⟩))
  intro r c hc hle hlt
  have hend : r < .of (done.length + 2) 0 :=
    Position.lt_of_lt_of_le hlt (Position.of_le_of.mpr (.inl (Nat.lt_succ_self _)))
  obtain ⟨i, rfl, hi⟩ := hasChar_between ht hc hle hend
  rw [Position.of_lt_of] at hlt
  have hlen : i < passed.length := by omega
  rw [hr, List.getElem?_append_left hlen] at hi
  exact hs c (List.mem_of_getElem? hi)

theorem Covered.lineEnd (h : Covered lines ts (.of line column))
    (ha : Reading.Anchored lines (.within line column s rest ahead))
    (hs : ∀ c ∈ rest, isInlineSpace c = true) : Covered lines ts (.of (line + 1) 0) := by
  obtain ⟨done, before, text, rfl, rfl, ht, rfl⟩ := ha
  apply h.skip (Position.of_le_of.mpr (.inl (Nat.lt_succ_self _)))
  intro r c hc hle hlt
  obtain ⟨i, -, hi⟩ := hasChar_between ht hc hle hlt
  exact hs c (List.mem_of_getElem? hi)

end Line

end Source

namespace Reading

open Source

def rest : Reading → List Char
  | between .. => []
  | within _ _ _ rest _ => rest

def ahead : Reading → List String
  | between _ _ ahead => ahead
  | within _ _ _ _ ahead => ahead

/-- Up to where the tokens hold what has been read. -/
def front (r : Reading) : Position :=
  match r.state.pending with
  | some o => .of o.line o.column
  | none => r.cursor

/-- An open string has the text from its start up to the lines that are left. Where the rest of its
line starts with a line feed, there is no step. -/
structure Held (lines : List String) (o : OpenString) (r : Reading) : Prop where
  place : IsPlace lines (.of o.line o.column)
  ordered : .of o.line o.column ≤ r.cursor
  text : r.rest.head? = some '\n' ∨
    r.rest = [] ∧ after lines (.of o.line o.column) = o.text.toList ++ terminated r.ahead

structure Sound (lines : List String) (r : Reading) : Prop where
  anchored : r.Anchored lines
  covered : Covered lines r.state.emitted.toList r.front
  held : ∀ o, r.state.pending = some o → Held lines o r

variable {lines : List String} {line column : Nat} {s s' : LexState} {o : OpenString}
  {text : String} {rest : List Char} {ahead : List String} {r : Reading}

theorem front_of_pending (h : r.state.pending = some o) : r.front = .of o.line o.column := by
  simp [front, h]

theorem front_of_none (h : r.state.pending = none) : r.front = r.cursor := by
  simp [front, h]

theorem sound_of_none (hp : r.state.pending = none) (ha : r.Anchored lines)
    (h : Covered lines r.state.emitted.toList r.cursor) : Sound lines r where
  anchored := ha
  covered := by
    rw [front_of_none hp]
    exact h
  held o ho := by
    rw [hp] at ho
    cases ho

theorem Sound.covered_of_none (h : Sound lines r) (hp : r.state.pending = none) :
    Covered lines r.state.emitted.toList r.cursor := by
  have hc := h.covered
  rw [front_of_none hp] at hc
  exact hc

theorem Sound.covered_of_pending (h : Sound lines r) (hp : r.state.pending = some o) :
    Covered lines r.state.emitted.toList (.of o.line o.column) := by
  have hc := h.covered
  rw [front_of_pending hp] at hc
  exact hc

theorem Sound.pass (h : Sound lines (between line s (text :: ahead))) (hp : s.pending = some o) :
    Sound lines (between (line + 1) (s.countLine.extend o text) ahead) where
  anchored := h.anchored.nextLine _
  covered := h.covered_of_pending (o := o) hp
  held o' ho := by
    obtain rfl := Option.some.inj ho
    obtain ⟨hplace, hle, hnl | ⟨-, htext⟩⟩ := h.held o hp
    · cases hnl
    · refine ⟨hplace, Position.le_trans hle ?_, .inr ⟨rfl, ?_⟩⟩
      · exact Position.of_le_of.mpr (.inl (Nat.lt_succ_self _))
      · rw [htext]
        simp [Reading.ahead, terminated_cons]

theorem Sound.close {inside : List Char} (h : Sound lines (between line s (text :: ahead)))
    (hp : s.pending = some o) (ht : text.toList = inside ++ rest) :
    Sound lines (within line inside.length (s.countLine.close o line inside) rest ahead) := by
  have ha := h.anchored.enter (s.countLine.close o line inside) inside ht
  apply sound_of_none rfl ha
  have hc := h.covered_of_pending hp
  obtain ⟨hplace, hle, hnl | ⟨-, htext⟩⟩ := h.held o hp
  · cases hnl
  · rw [state, LexState.close_emitted]
    refine hc.token rfl ⟨hplace, isPlace_of_anchored ha, Position.le_trans hle ?_, ?_⟩
    · exact Position.of_le_of.mpr (.inr ⟨rfl, Nat.zero_le _⟩)
    · rw [htext, after_of_anchored ha]
      simp [Reading.ahead, terminated_cons, ht]

theorem Sound.continued (h : Sound lines (between line s (text :: ahead)))
    (hp : s.pending = none) : Sound lines (within line 0 s.countLine text.toList ahead) :=
  sound_of_none hp (h.anchored.enter _ [] rfl) (h.covered_of_none hp)

theorem Sound.blank (h : Sound lines (between line s (text :: ahead))) (hp : s.pending = none)
    (hb : (text.toList.dropWhile isMargin).all isInlineSpace = true) :
    Sound lines (between (line + 1) (s.countLine.terminate .nl line text.length) ahead) := by
  refine sound_of_none ?_ (h.anchored.nextLine _) ?_
  · exact hp
  · have hspace : ∀ c ∈ text.toList, isInlineSpace c = true := by
      rw [all_dropWhile_isMargin] at hb
      exact List.all_eq_true.mp hb
    have hc := (h.covered_of_none hp).lineEnd (h.anchored.enter s [] rfl) hspace
    simp only [state, LexState.terminate, LexState.emit_emitted]
    exact hc.synthetic rfl

theorem Sound.margin_space (h : Sound lines (between line s (text :: ahead)))
    (hp : s.pending = none) :
    Covered lines s.emitted.toList (.of line (text.toList.takeWhile isMargin).length) := by
  have hc := (h.covered_of_none hp).space (h.anchored.enter s [] rfl)
    (List.takeWhile_append_dropWhile (p := isMargin)).symm
    fun c hc => isInlineSpace_of_isMargin (List.mem_takeWhile_imp hc)
  rw [Nat.zero_add] at hc
  exact hc

theorem Sound.remark (h : Sound lines (between line s (text :: ahead))) (hp : s.pending = none) :
    Sound lines (between (line + 1)
      ((s.countLine.remark line (text.toList.takeWhile isMargin).length text.length
        (text.toList.dropWhile isMargin)).terminate .nl line text.length) ahead) := by
  refine sound_of_none ?_ (h.anchored.nextLine _) ?_
  · exact hp
  · have hm := h.anchored.enter s (text.toList.takeWhile isMargin)
      List.takeWhile_append_dropWhile.symm
    have happ : text.toList.dropWhile isMargin =
        (String.ofList (text.toList.dropWhile isMargin)).toList ++ [] := by
      rw [String.toList_ofList, List.append_nil]
    have hexact := exact_within .comment _ hm happ
    have hlen : (text.toList.takeWhile isMargin).length +
        (String.ofList (text.toList.dropWhile isMargin)).toList.length = text.length := by
      rw [String.toList_ofList, length_takeWhile_add_dropWhile, String.length_toList]
    rw [hlen] at hexact
    have hc := (h.margin_space hp).token rfl hexact
    have hend := h.anchored.enter s text.toList (List.append_nil _).symm
    rw [String.length_toList] at hend
    simp only [state, LexState.terminate, LexState.remark, LexState.emit_emitted]
    exact (hc.lineEnd hend (by simp)).synthetic rfl

theorem Sound.finish (kind : Kind) (hk : kind.holdsText = false)
    (h : Sound lines (within line column s rest ahead)) (hp : s.pending = none)
    (hr : rest.all isInlineSpace = true) :
    Sound lines
      (between (line + 1) (s.terminate kind line (column + rest.length)) ahead) := by
  refine sound_of_none ?_ (h.anchored.lineEnd _) ?_
  · exact hp
  · have hc := (h.covered_of_none hp).lineEnd h.anchored (List.all_eq_true.mp hr)
    simp only [state, LexState.terminate, LexState.emit_emitted]
    exact hc.synthetic hk

/-- A string that is still open has taken all of its line. -/
theorem Sound.suspend (h : Sound lines (within line column s rest ahead)) (hp : s.pending = some o)
    (hr : rest.all isInlineSpace = true) : Sound lines (between (line + 1) s ahead) where
  anchored := h.anchored.lineEnd _
  covered := by
    rw [front_of_pending (r := between (line + 1) s ahead) hp]
    exact h.covered_of_pending hp
  held o' ho := by
    obtain ⟨hplace, hle, hnl | ⟨-, htext⟩⟩ := h.held o' ho
    · have hin := List.all_eq_true.mp hr '\n' (List.mem_of_head? hnl)
      exact absurd hin (by decide)
    · refine ⟨hplace, Position.le_trans hle ?_, .inr ⟨rfl, htext⟩⟩
      exact Position.of_le_of.mpr (.inl (Nat.lt_succ_self _))

theorem Sound.margin (h : Sound lines (between line s (text :: ahead))) (hp : s.pending = none)
    (hi : s.countLine.indent line (text.toList.takeWhile isMargin) = .ok s') :
    Sound lines (within line (text.toList.takeWhile isMargin).length s'
      (text.toList.dropWhile isMargin) ahead) := by
  have ha := h.anchored.enter s' (text.toList.takeWhile isMargin)
    List.takeWhile_append_dropWhile.symm
  rcases LexState.indent_cases hi with ⟨-, metrics, rfl⟩ | ⟨-, -, rfl⟩ | ⟨-, rfl⟩
  · refine sound_of_none hp ha ?_
    have happ : text.toList = (String.ofList (text.toList.takeWhile isMargin)).toList ++
        text.toList.dropWhile isMargin := by
      rw [String.toList_ofList, List.takeWhile_append_dropWhile]
    have hexact := exact_within .indent _ (h.anchored.enter s [] rfl) happ
    rw [String.toList_ofList, List.length_nil, Nat.zero_add] at hexact
    simp only [state, LexState.emit_emitted]
    exact (h.covered_of_none hp).token rfl hexact
  · refine sound_of_none ((LexState.dedent_pending ..).trans hp) ha ?_
    simp only [state, LexState.dedent_emitted]
    exact (h.margin_space hp).synthetics _ fun u hu => by rw [List.eq_of_mem_replicate hu]; rfl
  · exact sound_of_none hp ha (h.margin_space hp)

/-- Where a string is open, there is no lexeme left. -/
theorem Sound.pending_of_lexeme {ops : OperatorSet} {x : Lexeme} (hops : ops.Reachable)
    (h : Sound lines (within line column s rest ahead))
    (hx : (Table.ofOperators ops).classify (rest.dropWhile isInlineSpace) = some x) :
    s.pending = none := by
  cases hp : s.pending with
  | none => rfl
  | some o =>
    obtain ⟨-, -, hnl | ⟨rfl, -⟩⟩ := h.held o hp
    · obtain ⟨r, rfl⟩ := List.head?_eq_some_iff.mp hnl
      rw [List.dropWhile_cons_of_neg (by decide), Table.classify_lineFeed hops] at hx
      cases hx
    · exact absurd rfl (ne_nil_of_classify hx)

theorem holdsText_of_classify {ops : OperatorSet} {cs : List Char} {x : Lexeme}
    (hx : (Table.ofOperators ops).classify cs = some x) : x.kind.holdsText = true := by
  cases Table.classify_cases hx with
  | head hk => rcases hk with hk | hk <;> rw [hk] <;> rfl
  | closed q hc =>
    rw [(Table.role_of_lexeme? hc).1]
    rfl
  | opens q _ ho =>
    rw [(Table.role_of_lexeme? ho).1]
    rfl
  | short mark _ hs =>
    rw [(Table.role_of_lexeme? hs).1]
    rfl
  | plain hk => rcases hk with hk | hk | hk <;> rw [hk] <;> rfl

theorem Sound.lexeme {ops : OperatorSet} {x : Lexeme} (hops : ops.Reachable)
    (h : Sound lines (within line column s rest ahead))
    (hx : (Table.ofOperators ops).classify (rest.dropWhile isInlineSpace) = some x)
    (hs : s.take line (column + (rest.takeWhile isInlineSpace).length) x = .ok s')
    (ha : Anchored lines
      (within line (column + (rest.takeWhile isInlineSpace).length + x.width) s' x.rest ahead)) :
    Sound lines
      (within line (column + (rest.takeWhile isInlineSpace).length + x.width) s' x.rest ahead) := by
  have hp := h.pending_of_lexeme hops hx
  obtain ⟨-, hw, happ⟩ := Table.append_rest_of_classify hx
  -- the place behind the white space
  have hm := h.anchored.forward s (List.takeWhile_append_dropWhile (p := isInlineSpace)).symm
  have hc := (h.covered_of_none hp).space h.anchored
    (List.takeWhile_append_dropWhile (p := isInlineSpace)).symm
    fun c hc => List.mem_takeWhile_imp hc
  rcases LexState.take_cases hs with ⟨-, b, hb, rfl⟩ | ⟨q, hr, rfl⟩
  · obtain ⟨depth, metrics, rfl⟩ := LexState.bracket_eq hb
    refine sound_of_none hp ha ?_
    have hexact := exact_within x.kind x.text hm happ.symm
    rw [hw] at hexact
    simp only [state, LexState.emit_emitted]
    exact hc.token (holdsText_of_classify hx) hexact
  · refine ⟨ha, hc, ?_⟩
    intro o ho
    obtain rfl := Option.some.inj ho
    refine ⟨isPlace_of_anchored hm, Position.of_le_of.mpr (.inr ⟨rfl, Nat.le_add_right ..⟩), ?_⟩
    rcases Table.rest_of_opens hx hr with hnil | hnl
    · refine .inr ⟨hnil, ?_⟩
      rw [hnil, List.append_nil] at happ
      rw [after_of_anchored hm, ← happ]
      simp [Reading.ahead]
    · exact .inl hnl

theorem Sound.step {ops : OperatorSet} {a b : Reading} (hops : ops.Reachable)
    (h : Step (.ofOperators ops) a b) (ha : Sound lines a) : Sound lines b := by
  have hb := ha.anchored.step h
  cases h with
  | pass hp => exact ha.pass hp
  | close hp hs =>
    refine ha.close hp ?_
    rw [List.append_assoc, List.take_append_drop, seek_append hs]
    rfl
  | continued hp => exact ha.continued hp
  | blank hp _ hspace => exact ha.blank hp hspace
  | remark hp => exact ha.remark hp
  | margin hp _ _ _ hi => exact ha.margin hp hi
  | lexeme hx hs => exact ha.lexeme hops hx hs hb
  | finish hr hp =>
    refine ha.finish _ ?_ hp hr
    split <;> rfl
  | suspend hr hp => exact ha.suspend hp hr

theorem sound_start (lines : List String) : Sound lines (between 1 .start lines) := by
  refine sound_of_none rfl (anchored_start lines) ?_
  have hnone : Covered lines [] (.of 1 0) := by
    apply covered_nil
    rintro p c ⟨line, column, text, rfl, -, -⟩ hlt
    rw [Position.of_lt_of] at hlt
    omega
  exact hnone.synthetic rfl

theorem sound_readLines {ops : OperatorSet} (hops : ops.Reachable) {done : List String}
    (ahead : List String)
    (h : (Table.ofOperators ops).readLines 1 .start done = .ok s) :
    Sound (done ++ ahead) (between (1 + done.length) s ahead) :=
  Steps.preserve (fun _ _ hstep ha => ha.step hops hstep) (readLines_steps ahead h)
    (sound_start (done ++ ahead))

end Reading

open Source

/-- The tokens with text of their own hold what stands at their spans, one behind the other, and
leave out white space only, up to where a string is open when the source ends. -/
structure Tokenization.Covers (r : Tokenization) (lines : List String) : Prop where
  places : ∀ t ∈ r.tokens.toList, t.kind.holdsText = true →
    IsPlace lines t.span.start ∧ IsPlace lines t.span.stop ∧ t.span.start ≤ t.span.stop
  text : ∀ t ∈ r.tokens.toList, t.kind.holdsText = true → t.text = slice lines t.span
  ordered : (r.tokens.toList.filter fun t => t.kind.holdsText).Pairwise
    fun t u => t.span.stop ≤ u.span.start
  once : ∀ p c, HasChar lines p c → (∀ q, r.endOfInput.unterminated = some q → p < q) →
    r.tokens.toList.countP (Token.holds · p) = 1 ∨
      r.tokens.toList.countP (Token.holds · p) = 0 ∧ isInlineSpace c = true

theorem Source.HasChar.lt_end {lines : List String} {p : Position} {c : Char}
    (h : HasChar lines p c) : p < .of (1 + lines.length) 0 := by
  obtain ⟨line, column, text, rfl, hl, -⟩ := h
  have hlt : line < lines.length := (List.getElem?_eq_some_iff.mp hl).1
  rw [Position.of_lt_of]
  omega

/-- No character of a source is lost, read twice or moved. -/
theorem tokenize_covers {ops : OperatorSet} (hops : ops.Reachable) {policy : EndPolicy}
    {lines : List String} {r : Tokenization}
    (h : (Table.ofOperators ops).tokenize policy lines = .ok r) : r.Covers lines := by
  obtain ⟨s, hs, hf⟩ := Table.tokenize_eq_ok h
  obtain ⟨htokens, hend, -⟩ := LexState.finish_eq_ok hf
  have hsound := Reading.sound_readLines hops [] hs
  rw [List.append_nil] at hsound
  -- what the end of the source adds holds no text
  have hc := hsound.covered.synthetics
    (List.replicate (s.indents.length - 1) ⟨.dedent, "", .point (.of (lines.length + 1) 0)⟩)
    fun u hu => by rw [List.eq_of_mem_replicate hu]; rfl
  have hall := hc.synthetic
    (t := ⟨.endMarker, "", .point (.of (lines.length + 1) 0)⟩) rfl
  rw [Reading.state, ← htokens] at hall
  refine ⟨?_, ?_, hall.ordered, ?_⟩
  · intro t ht hk
    have he := hall.exact t ht hk
    exact ⟨he.start, he.stop, he.ordered⟩
  · intro t ht hk
    exact (hall.exact t ht hk).eq_slice
  · intro p c hpc hlt
    apply hall.once p c hpc
    rw [hend] at hlt
    cases hp : s.pending with
    | some o =>
      simp only [Reading.front, Reading.state, hp]
      exact hlt _ (by simp [hp])
    | none =>
      simp only [Reading.front, Reading.state, hp]
      exact hpc.lt_end

/-- A string over two lines, with a backslash at the first line end. -/
theorem tokenize_covers_two_lines :
    ∃ r, (Table.ofOperators .core).tokenize .strict ["x = r'''a\\", "  b''' # c"] = .ok r ∧
      r.Covers ["x = r'''a\\", "  b''' # c"] := by
  have hrun : ((Table.ofOperators .core).tokenize .strict
      ["x = r'''a\\", "  b''' # c"]).isOk = true := by
    rw [Table.ofOperators, OperatorSet.matchOrder_core]
    decide +kernel
  cases hr : (Table.ofOperators .core).tokenize .strict ["x = r'''a\\", "  b''' # c"] with
  | error e =>
    rw [hr] at hrun
    cases hrun
  | ok r => exact ⟨r, rfl, tokenize_covers (.ofPreset .core) hr⟩

end Offside
