import Offside.Proofs.Blocks
import Offside.Proofs.Terminators
import Mathlib.Order.Bounds.Basic

/-!
# What a run counts

The metrics of a run are those of its tokens: how many there are of each kind, how many strings
reach over a line end, and how deep blocks and brackets were nested at most. `Metrics.Describes`
says so of any state of a run, with the greatest depth as the maximum over all starts of the tokens;
every step keeps it, since each token that is emitted is recorded and only an opening one can reach
a new depth.
-/

namespace Offside

set_option autoImplicit false

namespace Kind

theorem getElem?_rank (k : Kind) : (emitted ++ [unknown])[k.rank]? = some k := by
  cases k <;> rfl

theorem rank_inj {k l : Kind} (h : k.rank = l.rank) : k = l := by
  have hk := getElem?_rank k
  rw [h, getElem?_rank l] at hk
  exact (Option.some.inj hk).symm

end Kind

namespace Tally

def Listed (t : Tally) : Prop := t.Pairwise fun p q => p.1.rank < q.1.rank

variable {t : Tally} {k l : Kind}

theorem count_cons (m : Kind) (n : Nat) (t : Tally) (l : Kind) :
    count ((m, n) :: t) l = if l = m then n else count t l := by
  unfold count
  rw [List.lookup_cons]
  by_cases h : l = m
  · rw [if_pos h, beq_iff_eq.mpr h]
    rfl
  · rw [if_neg h, beq_eq_false_iff_ne.mpr h]

theorem count_eq_zero (h : ∀ p ∈ t, p.1 ≠ k) : count t k = 0 := by
  induction t with
  | nil => rfl
  | cons p rest ih =>
    obtain ⟨m, n⟩ := p
    have hm : k ≠ m := (h (m, n) List.mem_cons_self).symm
    rw [count_cons, if_neg hm]
    exact ih fun q hq => h q (List.mem_cons_of_mem _ hq)

theorem Listed.count_bump (h : t.Listed) (k l : Kind) :
    count (bump k t) l = count t l + if l = k then 1 else 0 := by
  induction t with
  | nil =>
    rw [bump, count_cons]
    split <;> rfl
  | cons p rest ih =>
    obtain ⟨m, n⟩ := p
    obtain ⟨hm, hrest⟩ := List.pairwise_cons.mp h
    rw [bump]
    split
    · rename_i hk
      subst hk
      rw [count_cons, count_cons]
      split <;> rfl
    · rename_i hk
      split
      · rename_i hlt
        -- all kinds of the list come behind the new one
        have hnone : count ((m, n) :: rest) k = 0 := by
          apply count_eq_zero
          intro q hq he
          rcases List.mem_cons.mp hq with rfl | hq
          · exact hk he.symm
          · have hgt := hm q hq
            rw [he] at hgt
            exact absurd hlt (Nat.lt_asymm hgt)
        rw [count_cons]
        split
        · rename_i hl
          rw [hl, hnone]
        · rfl
      · rw [count_cons, count_cons, ih hrest]
        split
        · rename_i hl
          rw [if_neg fun he => hk (he.symm.trans hl), Nat.add_zero]
        · rfl

theorem mem_bump {p : Kind × Nat} (h : p ∈ bump k t) : p.1 = k ∨ ∃ q ∈ t, q.1 = p.1 := by
  induction t with
  | nil =>
    rw [List.mem_singleton.mp h]
    exact .inl rfl
  | cons q rest ih =>
    rw [bump] at h
    split at h
    · rcases List.mem_cons.mp h with rfl | h
      · exact .inr ⟨q, List.mem_cons_self, rfl⟩
      · exact .inr ⟨p, List.mem_cons_of_mem _ h, rfl⟩
    · split at h
      · rcases List.mem_cons.mp h with rfl | h
        · exact .inl rfl
        · exact .inr ⟨p, h, rfl⟩
      · rcases List.mem_cons.mp h with rfl | h
        · exact .inr ⟨q, List.mem_cons_self, rfl⟩
        · rcases ih h with hk | ⟨r, hr, hk⟩
          · exact .inl hk
          · exact .inr ⟨r, List.mem_cons_of_mem _ hr, hk⟩

theorem Listed.bump (h : t.Listed) (k : Kind) : (bump k t).Listed := by
  induction t with
  | nil => exact List.pairwise_singleton _ _
  | cons q rest ih =>
    obtain ⟨hq, hrest⟩ := List.pairwise_cons.mp h
    rw [Tally.bump]
    split
    · exact List.pairwise_cons.mpr ⟨hq, hrest⟩
    · rename_i hk
      split
      · rename_i hlt
        refine List.pairwise_cons.mpr ⟨?_, h⟩
        intro r hr
        rcases List.mem_cons.mp hr with rfl | hr
        · exact hlt
        · exact Nat.lt_trans hlt (hq r hr)
      · rename_i hge
        have hne : q.1.rank ≠ k.rank := fun he => hk (Kind.rank_inj he).symm
        refine List.pairwise_cons.mpr ⟨?_, ih hrest⟩
        intro r hr
        rcases mem_bump hr with he | ⟨r', hr', he⟩
        · rw [he]
          dsimp only
          omega
        · rw [← he]
          exact hq r' hr'

end Tally

namespace Token

def isMultiline (t : Token) : Bool :=
  t.kind == .string && t.span.start.line < t.span.stop.line

def blockDepth (ts : List Token) : Int :=
  ts.countP (·.kind == .indent) - ts.countP (·.kind == .dedent)

/-- The greatest value that a depth takes on the starts of a list of tokens. -/
def Peak (depth : List Token → Int) (ts : List Token) (n : Int) : Prop :=
  IsGreatest {d | ∃ before, before <+: ts ∧ depth before = d} n

variable {depth : List Token → Int} {ts : List Token} {t : Token} {n : Int}

theorem Peak.le (h : Peak depth ts n) : depth ts ≤ n :=
  h.2 ⟨ts, List.prefix_refl ts, rfl⟩

theorem Peak.concat (h : Peak depth ts n) (t : Token) :
    Peak depth (ts ++ [t]) (max n (depth (ts ++ [t]))) := by
  obtain ⟨⟨before, hbefore, hdepth⟩, hmax⟩ := h
  constructor
  · rcases Int.le_total (depth (ts ++ [t])) n with hle | hle
    · rw [max_eq_left hle]
      exact ⟨before, hbefore.trans (List.prefix_append _ _), hdepth⟩
    · rw [max_eq_right hle]
      exact ⟨ts ++ [t], List.prefix_refl _, rfl⟩
  · rintro d ⟨other, hother, rfl⟩
    rcases List.prefix_concat_iff.mp hother with rfl | hother
    · exact le_max_right _ _
    · exact (hmax ⟨other, hother, rfl⟩).trans (le_max_left _ _)

theorem peak_nil (h : depth [] = n) : Peak depth [] n := by
  constructor
  · exact ⟨[], List.prefix_refl _, h⟩
  · rintro d ⟨before, hbefore, rfl⟩
    rw [List.prefix_nil.mp hbefore, h]

theorem blockDepth_concat (ts : List Token) (t : Token) :
    blockDepth (ts ++ [t]) = blockDepth ts +
      if t.kind = .indent then 1 else if t.kind = .dedent then -1 else 0 := by
  unfold blockDepth
  rw [List.countP_append, List.countP_append, List.countP_singleton, List.countP_singleton]
  by_cases hi : t.kind = .indent
  · simp [hi]
    omega
  · by_cases hd : t.kind = .dedent
    · simp [hd]
      omega
    · simp [hi, hd]

theorem bracketDepth_concat (h : t.kind ≠ .op) (ts : List Token) :
    bracketDepth (ts ++ [t]) = bracketDepth ts := by
  have hzero : bracketDepth [t] = 0 := bracketDepth_of_ne_op (by simpa using h)
  rw [bracketDepth_append, hzero, Int.add_zero]

theorem blockDepth_of_openBlocks? {widths : List Nat} (h : openBlocks? ts = some widths) :
    blockDepth ts = widths.length := by
  have hcount := countP_of_foldlM h
  rw [List.length_nil] at hcount
  unfold blockDepth
  omega

end Token

open Token

structure Metrics.Describes (m : Metrics) (ts : List Token) : Prop where
  total : m.totalTokens = ts.length
  listed : m.kinds.Listed
  count : ∀ k, m.count k = ts.countP (·.kind == k)
  multiline : m.multilineStrings = ts.countP isMultiline
  blocks : Peak blockDepth ts m.maxIndentDepth
  brackets : Peak bracketDepth ts m.maxBracketDepth

namespace Metrics

variable {m n : Metrics} {ts us : List Token} {t : Token}

/-- What has to be noted of a token, beside that it is recorded. -/
structure Notes (m n : Metrics) (ts : List Token) (t : Token) : Prop where
  total : n.totalTokens = m.totalTokens
  kinds : n.kinds = m.kinds
  multiline : n.multilineStrings = m.multilineStrings + if t.isMultiline then 1 else 0
  blocks : (n.maxIndentDepth : Int) = max (m.maxIndentDepth : Int) (blockDepth (ts ++ [t]))
  brackets : (n.maxBracketDepth : Int) = max (m.maxBracketDepth : Int) (bracketDepth (ts ++ [t]))

theorem Describes.record (h : m.Describes ts) (hn : Notes m n ts t) :
    (n.record t).Describes (ts ++ [t]) where
  total := by
    rw [List.length_append, ← h.total, ← hn.total]
    rfl
  listed := by
    have hlisted := hn.kinds ▸ h.listed
    exact hlisted.bump t.kind
  count k := by
    have hlisted := hn.kinds ▸ h.listed
    have hcount : m.count k = Tally.count n.kinds k := by
      rw [hn.kinds]
      rfl
    calc
      (n.record t).count k = Tally.count n.kinds k + if k = t.kind then 1 else 0 :=
        hlisted.count_bump t.kind k
      _ = (ts ++ [t]).countP (·.kind == k) := by
        rw [← hcount, h.count k, List.countP_append, List.countP_singleton]
        simp only [beq_iff_eq, eq_comm (a := k)]
  multiline := by
    rw [List.countP_append, List.countP_singleton, ← h.multiline, ← hn.multiline]
    rfl
  blocks := by
    have hpeak := h.blocks.concat t
    rw [← hn.blocks] at hpeak
    exact hpeak
  brackets := by
    have hpeak := h.brackets.concat t
    rw [← hn.brackets] at hpeak
    exact hpeak

/-- A token that opens nothing and is no string over several lines is only recorded. -/
theorem Describes.notes (h : m.Describes ts) (hm : t.isMultiline = false) (hi : t.kind ≠ .indent)
    (ho : bracketDepth [t] ≤ 0) : Notes m m ts t where
  total := rfl
  kinds := rfl
  multiline := by
    rw [hm]
    rfl
  blocks := by
    have hle := h.blocks.le
    rw [blockDepth_concat, if_neg hi]
    split <;> omega
  brackets := by
    have hle := h.brackets.le
    rw [bracketDepth_append]
    omega

theorem Describes.plain (h : m.Describes ts) (hm : t.isMultiline = false) (hi : t.kind ≠ .indent)
    (ho : bracketDepth [t] ≤ 0) : (m.record t).Describes (ts ++ [t]) :=
  h.record (h.notes hm hi ho)

theorem Describes.mark (h : m.Describes ts) (hs : t.kind ≠ .string) (hi : t.kind ≠ .indent)
    (ho : t.kind ≠ .op) : (m.record t).Describes (ts ++ [t]) := by
  refine h.plain ?_ hi ?_
  · simp [isMultiline, hs]
  · rw [bracketDepth_of_ne_op (by simpa using ho)]

theorem describes_nil : ({} : Metrics).Describes [] where
  total := rfl
  listed := .nil
  count _ := rfl
  multiline := rfl
  blocks := peak_nil rfl
  brackets := peak_nil rfl

theorem Describes.countLines (h : m.Describes ts) (lines : Nat) :
    ({ m with linesProcessed := lines } : Metrics).Describes ts :=
  ⟨h.total, h.listed, h.count, h.multiline, h.blocks, h.brackets⟩

end Metrics

namespace LexState

variable {s s' : LexState} {line column : Nat} {t : Token} {x : Lexeme} {margin : List Char}

/-- The metrics of a state are those of its tokens. -/
def Counted (s : LexState) : Prop := s.metrics.Describes s.emitted.toList

theorem Counted.mark (h : s.Counted) (hs : t.kind ≠ .string) (hi : t.kind ≠ .indent)
    (ho : t.kind ≠ .op) : (s.emit t).Counted := by
  unfold Counted
  rw [emit_emitted]
  exact Metrics.Describes.mark h hs hi ho

theorem Counted.terminate (h : s.Counted) {kind : Kind} (hk : kind.isTerminator = true)
    (line length : Nat) : (s.terminate kind line length).Counted := by
  refine Counted.mark h ?_ ?_ ?_
  all_goals
    rintro rfl
    cases hk

theorem Counted.countLine (h : s.Counted) : s.countLine.Counted :=
  Metrics.Describes.countLines h _

theorem Counted.dedent (h : s.Counted) (place : Position) (n : Nat) :
    (s.dedent place n).Counted := by
  fun_induction LexState.dedent s place n with
  | case1 => exact h
  | case2 s n ih => exact ih (h.mark (by simp) (by simp) (by simp))

theorem Counted.remark (h : s.Counted) (line column length : Nat) (body : List Char) :
    (s.remark line column length body).Counted :=
  h.mark (by simp) (by simp) (by simp)

theorem Counted.indent (h : s.Counted) (hn : s.Nested) (hi : s.indent line margin = .ok s') :
    s'.Counted := by
  obtain ⟨widths, hw, hs⟩ := hn.blocks
  have hdepth := blockDepth_of_openBlocks? hw
  simp only [LexState.indent] at hi
  split at hi
  · obtain rfl := Except.ok.inj hi
    unfold Counted
    rw [emit_emitted]
    refine Metrics.Describes.record h ⟨rfl, rfl, ?_, ?_, ?_⟩
    · rfl
    · rw [blockDepth_concat, hdepth, if_pos rfl]
      simp only [hs, List.length_append, List.length_singleton]
      omega
    · have hle := h.brackets.le
      rw [bracketDepth_concat (by simp)]
      exact (max_eq_left hle).symm
  · split at hi
    · split at hi
      · obtain rfl := Except.ok.inj hi
        have hkept : ({ s with
            indents := s.indents.dropWhile (margin.length < ·) } : LexState).Counted := h
        exact hkept.dedent _ _
      · cases hi
    · obtain rfl := Except.ok.inj hi
      exact h

theorem Counted.lexeme (h : s.Counted) (hd : (s.depth : Int) = bracketDepth s.emitted.toList)
    (hk : x.kind.isLexeme = true) (hx : s.take line column x = .ok s') : s'.Counted := by
  rcases take_cases hx with ⟨-, b, hb, rfl⟩ | ⟨quote, -, rfl⟩
  · have hflat : ∀ t : Token, t.span = ⟨.of line column, .of line (column + x.width)⟩ →
        t.isMultiline = false := by
      intro t ht
      simp [isMultiline, ht]
    have hindent : x.kind ≠ .indent := by
      rintro he
      rw [he] at hk
      cases hk
    have hdepth := bracket_depth ⟨.of line column, .of line (column + x.width)⟩ hb
    have hsum : (b.depth : Int) = bracketDepth (s.emitted.toList ++
        [⟨x.kind, x.text, .of line column, .of line (column + x.width)⟩]) := by
      rw [bracketDepth_append, ← hd, hdepth]
    have hle := h.brackets.le
    unfold Counted
    rw [emit_emitted]
    unfold bracket at hb
    split at hb
    · obtain rfl := Except.ok.inj hb
      refine Metrics.Describes.record h ⟨rfl, rfl, ?_, ?_, ?_⟩
      · rw [hflat _ rfl]
        rfl
      · have hle := h.blocks.le
        rw [blockDepth_concat, if_neg hindent]
        dsimp only
        split <;> omega
      · rw [← hsum]
        dsimp only
        omega
    · split at hb
      · split at hb
        · cases hb
        · obtain rfl := Except.ok.inj hb
          refine Metrics.Describes.plain h (hflat _ rfl) hindent ?_
          dsimp only at hdepth
          omega
      · obtain rfl := Except.ok.inj hb
        refine Metrics.Describes.plain h (hflat _ rfl) hindent ?_
        omega
  · exact h

theorem Counted.close (h : s.Counted) {o : OpenString} (ho : o.line < line) (inside : List Char) :
    (s.close o line inside).Counted := by
  unfold Counted
  rw [close_emitted]
  refine Metrics.Describes.record h ⟨rfl, rfl, ?_, ?_, ?_⟩
  · have hmulti : isMultiline ⟨.string, o.text ++ String.ofList inside, .of o.line o.column,
        .of line inside.length⟩ = true := by
      simp [isMultiline, ho]
    rw [hmulti]
    rfl
  · have hle := h.blocks.le
    rw [blockDepth_concat]
    dsimp only
    rw [if_neg (by decide), if_neg (by decide)]
    omega
  · have hle := h.brackets.le
    rw [bracketDepth_concat (by simp)]
    exact (max_eq_left hle).symm

abbrev lineCount (s : LexState) : Nat := s.metrics.linesProcessed

theorem dedent_lineCount (s : LexState) (place : Position) (n : Nat) :
    (s.dedent place n).lineCount = s.lineCount := by
  fun_induction LexState.dedent s place n with
  | case1 => rfl
  | case2 s n ih => exact ih

theorem indent_lineCount (h : s.indent line margin = .ok s') : s'.lineCount = s.lineCount := by
  simp only [LexState.indent] at h
  split at h
  · obtain rfl := Except.ok.inj h
    rfl
  · split at h
    · split at h
      · obtain rfl := Except.ok.inj h
        exact dedent_lineCount _ _ _
      · cases h
    · obtain rfl := Except.ok.inj h
      rfl

theorem take_lineCount (h : s.take line column x = .ok s') : s'.lineCount = s.lineCount := by
  rcases take_cases h with ⟨-, b, hb, rfl⟩ | ⟨quote, -, rfl⟩
  · unfold bracket at hb
    split at hb
    · obtain rfl := Except.ok.inj hb
      rfl
    · split at hb
      · split at hb
        · cases hb
        · obtain rfl := Except.ok.inj hb
          rfl
      · obtain rfl := Except.ok.inj hb
        rfl
  · rfl

end LexState

namespace Reading

def nextLine : Reading → Nat
  | between line _ _ => line
  | within line .. => line + 1

/-- The metrics are right, and with them what they are taken from. -/
structure Counted (r : Reading) : Prop where
  tokens : r.state.Counted
  lines : r.state.metrics.linesProcessed + 1 = r.nextLine
  nested : r.state.Nested
  depth : (r.state.depth : Int) = bracketDepth r.state.emitted.toList
  opened : ∀ o, r.state.pending = some o → o.line < r.nextLine

variable {ops : OperatorSet} {a b : Reading} {lines : List String}

theorem lines_of_step {t : Table} (hstep : Step t a b)
    (h : a.state.lineCount + 1 = a.nextLine) : b.state.lineCount + 1 = b.nextLine := by
  cases hstep with
  | pass => exact congrArg (· + 1) h
  | close => exact congrArg (· + 1) h
  | continued => exact congrArg (· + 1) h
  | blank => exact congrArg (· + 1) h
  | remark => exact congrArg (· + 1) h
  | margin _ _ _ _ hi =>
    have hcount := LexState.indent_lineCount hi
    exact congrArg (· + 1) (hcount.trans h)
  | lexeme _ hs =>
    have hcount := LexState.take_lineCount hs
    exact (congrArg (· + 1) hcount).trans h
  | finish => exact h
  | suspend => exact h

/-- A string that is open was opened on a line that has been entered. -/
theorem opened_of_step {t : Table} (hstep : Step t a b)
    (h : ∀ o, a.state.pending = some o → o.line < a.nextLine) :
    ∀ o, b.state.pending = some o → o.line < b.nextLine := by
  intro o ho
  cases hstep with
  | @pass line s o' text ahead hp _ =>
    obtain rfl := Option.some.inj ho
    exact Nat.lt_succ_of_lt (h o' hp)
  | close => cases ho
  | continued => exact Nat.lt_succ_of_lt (h o ho)
  | blank => exact Nat.lt_succ_of_lt (h o ho)
  | remark => exact Nat.lt_succ_of_lt (h o ho)
  | margin _ _ _ _ hi =>
    have hp := (LexState.indent_pending hi).symm.trans ho
    exact Nat.lt_succ_of_lt (h o hp)
  | lexeme _ hs =>
    rcases LexState.take_cases hs with ⟨-, s, hb, rfl⟩ | ⟨quote, -, rfl⟩
    · obtain ⟨depth, metrics, rfl⟩ := LexState.bracket_eq hb
      exact h o ho
    · obtain rfl := Option.some.inj ho
      exact Nat.lt_succ_self _
  | finish => exact h o ho
  | suspend => exact h o ho

theorem Counted.step (hstep : Step (.ofOperators ops) a b) (h : a.Counted) : b.Counted := by
  obtain ⟨htokens, hlines, hnested, hdepth, hopened⟩ := h
  refine ⟨?_, lines_of_step hstep hlines, hnested.step hstep, depth_of_step hstep hdepth,
    opened_of_step hstep hopened⟩
  cases hstep with
  | pass => exact htokens.countLine
  | close hp => exact htokens.countLine.close (hopened _ hp) _
  | continued => exact htokens.countLine
  | blank => exact htokens.countLine.terminate rfl _ _
  | remark => exact (htokens.countLine.remark _ _ _ _).terminate rfl _ _
  | margin _ _ _ _ hi => exact htokens.countLine.indent ⟨hnested.blocks, hnested.decreasing⟩ hi
  | lexeme hx hs => exact htokens.lexeme hdepth (Table.isLexeme_of_classify hx) hs
  | finish => exact htokens.terminate (LexState.isTerminator_ite _) _ _
  | suspend => exact htokens

theorem counted_start (lines : List String) : (between 1 .start lines).Counted where
  tokens := Metrics.describes_nil.mark (t := ⟨.encoding, "utf-8", .point .origin⟩)
    (by simp) (by simp) (by simp)
  lines := rfl
  nested := LexState.nested_start
  depth := rfl
  opened := nofun

theorem counted_readLines {s : LexState}
    (h : (Table.ofOperators ops).readLines 1 .start lines = .ok s) :
    (between (1 + lines.length) s []).Counted := by
  have hsteps := readLines_steps [] h
  exact hsteps.preserve (I := Counted) (fun _ _ hstep ha => ha.step hstep) (counted_start _)

end Reading

theorem LexState.eq_answer_of_finish {s : LexState} {count : Nat} {policy : EndPolicy}
    {r : Tokenization} (h : s.finish count policy = .ok r) : r = s.answer count := by
  cases policy with
  | lenient =>
    rw [finish_lenient] at h
    exact (Except.ok.inj h).symm
  | strict =>
    rw [finish_strict] at h
    split at h
    · cases h
    · split at h
      · cases h
      · exact (Except.ok.inj h).symm

/-- The metrics of a run are what its tokens show: their number, that of each kind and that of the
strings over several lines, and the greatest depths of blocks and brackets on the way. -/
theorem metrics_describe {ops : OperatorSet} {policy : EndPolicy} {lines : List String}
    {r : Tokenization} (h : (Table.ofOperators ops).tokenize policy lines = .ok r) :
    r.metrics.Describes r.tokens.toList ∧ r.metrics.linesProcessed = lines.length := by
  obtain ⟨s, hs, hf⟩ := Table.tokenize_eq_ok h
  obtain rfl := LexState.eq_answer_of_finish hf
  have hcounted := Reading.counted_readLines hs
  have hclosed := hcounted.tokens.dedent (.of (lines.length + 1) 0) (s.indents.length - 1)
  constructor
  · exact hclosed.mark (t := ⟨.endMarker, "", .point (.of (lines.length + 1) 0)⟩)
      (by simp) (by simp) (by simp)
  · have hlines : s.lineCount + 1 = 1 + lines.length := hcounted.lines
    have hcount : (s.answer lines.length).metrics.linesProcessed = s.lineCount :=
      LexState.dedent_lineCount _ _ _
    omega

/-- A block with a string over three lines within two brackets, and a string that never closes. -/
theorem metrics_describe_string :
    ∃ r, (Table.ofOperators .core).tokenize .lenient
        ["if x:", "  f(('''a", "b", "c'''), d)", "g('''"] = .ok r ∧
      r.metrics.Describes r.tokens.toList ∧
      r.metrics.linesProcessed = 5 ∧ r.metrics.multilineStrings = 1 ∧
      r.metrics.maxIndentDepth = 1 ∧ r.metrics.maxBracketDepth = 2 := by
  have hrun : ((Table.ofOperators .core).tokenize .lenient
      ["if x:", "  f(('''a", "b", "c'''), d)", "g('''"]).toOption.map
        (fun r => (r.metrics.multilineStrings, r.metrics.maxIndentDepth,
          r.metrics.maxBracketDepth)) = some (1, 1, 2) := by
    rw [Table.ofOperators, OperatorSet.matchOrder_core]
    decide +kernel
  cases hr : (Table.ofOperators .core).tokenize .lenient
      ["if x:", "  f(('''a", "b", "c'''), d)", "g('''"] with
  | error e =>
    rw [hr] at hrun
    cases hrun
  | ok r =>
    rw [hr] at hrun
    simp only [Except.toOption, Option.map_some, Option.some.injEq, Prod.mk.injEq] at hrun
    obtain ⟨hstrings, hblocks, hbrackets⟩ := hrun
    obtain ⟨hdescribes, hlines⟩ := metrics_describe hr
    exact ⟨r, rfl, hdescribes, hlines, hstrings, hblocks, hbrackets⟩

end Offside
