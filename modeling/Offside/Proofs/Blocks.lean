import Offside.Proofs.Failure
import Offside.Proofs.Line

/-!
# Blocks

The stack of widths that a run keeps is what its tokens say: zero for the outermost block and, on
top of it, the widths of the blocks that were opened and not closed. `Token.openBlocks?` reads them
off the tokens alone and fails where a block is closed that is not open. Every step keeps
`LexState.Nested`; from it follow the balance of the tokens and when a margin is an error.
-/

namespace Offside

set_option autoImplicit false

namespace Token

/-- What a token does to the widths of the open blocks, the innermost first. -/
def nest? (widths : List Nat) (t : Token) : Option (List Nat) :=
  match t.kind with
  | .indent => some (t.span.stop.column.toNat :: widths)
  | .dedent =>
    match widths with
    | [] => none
    | _ :: outer => some outer
  | _ => some widths

/-- The widths of the blocks that tokens open and do not close, the innermost first. -/
def openBlocks? (ts : List Token) : Option (List Nat) := ts.foldlM nest? []

/-- Never are more blocks closed than were opened before. -/
def Balanced (ts : List Token) : Prop :=
  ∀ before, before <+: ts →
    before.countP (·.kind == .dedent) ≤ before.countP (·.kind == .indent)

variable {ts us : List Token} {widths widths' : List Nat}

theorem openBlocks?_append (h : openBlocks? ts = some widths) (us : List Token) :
    openBlocks? (ts ++ us) = us.foldlM nest? widths := by
  unfold openBlocks? at *
  rw [List.foldlM_append, h]
  rfl

theorem foldlM_nest?_of_others (h : ∀ t ∈ ts, t.kind ≠ .indent ∧ t.kind ≠ .dedent) :
    ts.foldlM nest? widths = some widths := by
  induction ts with
  | nil => rfl
  | cons t rest ih =>
    obtain ⟨hi, hd⟩ := h t List.mem_cons_self
    have ht : nest? widths t = some widths := by
      unfold nest?
      split
      · exact absurd ‹_› hi
      · exact absurd ‹_› hd
      · rfl
    rw [List.foldlM_cons, ht]
    exact ih fun u hu => h u (List.mem_cons_of_mem t hu)

theorem foldlM_nest?_dedents (h : us.length ≤ widths.length)
    (hd : ∀ u ∈ us, u.kind = .dedent) :
    us.foldlM nest? widths = some (widths.drop us.length) := by
  induction us generalizing widths with
  | nil => rfl
  | cons u rest ih =>
    cases widths with
    | nil => exact absurd h (Nat.not_succ_le_zero _)
    | cons w outer =>
      have hu : nest? (w :: outer) u = some outer := by
        unfold nest?
        rw [hd u List.mem_cons_self]
      rw [List.foldlM_cons, hu]
      exact ih (Nat.le_of_succ_le_succ h) fun v hv => hd v (List.mem_cons_of_mem u hv)

theorem countP_of_foldlM (h : ts.foldlM nest? widths = some widths') :
    widths.length + ts.countP (·.kind == .indent) =
      ts.countP (·.kind == .dedent) + widths'.length := by
  induction ts generalizing widths with
  | nil =>
    obtain rfl := Option.some.inj h
    simp
  | cons t rest ih =>
    rw [List.foldlM_cons] at h
    obtain ⟨mid, hmid, hrest⟩ := Option.bind_eq_some_iff.mp h
    have hcount := ih hrest
    rw [List.countP_cons, List.countP_cons]
    unfold nest? at hmid
    split at hmid
    · rename_i hk
      obtain rfl := Option.some.inj hmid
      simp only [List.length_cons] at hcount
      simp [hk]
      omega
    · rename_i hk
      cases widths with
      | nil => cases hmid
      | cons w outer =>
        obtain rfl := Option.some.inj hmid
        simp [hk]
        omega
    · rename_i hi hd
      obtain rfl := Option.some.inj hmid
      have hi' : t.kind ≠ .indent := hi
      have hd' : t.kind ≠ .dedent := hd
      simp [hi', hd']
      omega

theorem balanced_of_openBlocks? (h : openBlocks? ts = some widths) : Balanced ts := by
  rintro before ⟨rest, rfl⟩
  unfold openBlocks? at h
  rw [List.foldlM_append] at h
  obtain ⟨mid, hmid, -⟩ := Option.bind_eq_some_iff.mp h
  have hcount := countP_of_foldlM hmid
  rw [List.length_nil] at hcount
  omega

end Token

namespace LexState

structure Nested (s : LexState) : Prop where
  blocks : ∃ widths, Token.openBlocks? s.emitted.toList = some widths ∧ s.indents = widths ++ [0]
  decreasing : s.indents.Pairwise (· > ·)

/-- Outside strings and brackets, a line that is neither blank nor a comment is indented less than
the innermost block, but not as any open block is. -/
structure Misindents (s : LexState) (text : List Char) : Prop where
  outside : s.pending = none ∧ s.depth = 0
  content : text.all isInlineSpace = false
  noComment : (text.dropWhile isMargin).head? ≠ some '#'
  less : (text.takeWhile isMargin).length < s.width
  noBlock : (text.takeWhile isMargin).length ∉ s.indents

variable {s s' : LexState} {line : Nat} {ts : List Token} {margin : List Char}

theorem Nested.add (h : s.Nested) (he : s'.emitted.toList = s.emitted.toList ++ ts)
    (hi : s'.indents = s.indents) (hk : ∀ t ∈ ts, t.kind ≠ .indent ∧ t.kind ≠ .dedent) :
    s'.Nested := by
  obtain ⟨widths, hw, hs⟩ := h.blocks
  constructor
  · refine ⟨widths, ?_, hi.trans hs⟩
    rw [he, Token.openBlocks?_append hw, Token.foldlM_nest?_of_others hk]
  · rw [hi]
    exact h.decreasing

theorem dropWhile_blocks (widths : List Nat) (w : Nat) :
    (widths ++ [0]).dropWhile (w < ·) = widths.dropWhile (w < ·) ++ [0] := by
  induction widths with
  | nil => rfl
  | cons v outer ih =>
    by_cases hv : w < v
    · rw [List.cons_append, List.dropWhile_cons_of_pos (by simpa using hv), ih,
        List.dropWhile_cons_of_pos (by simpa using hv)]
    · rw [List.cons_append, List.dropWhile_cons_of_neg (by simpa using hv),
        List.dropWhile_cons_of_neg (by simpa using hv), List.cons_append]

/-- A margin is that of the innermost block that is left if it is that of an open block at all. -/
theorem headD_dropWhile_iff {widths : List Nat} {w : Nat}
    (h : (widths ++ [0]).Pairwise (· > ·)) :
    ((widths ++ [0]).dropWhile (w < ·)).headD 0 = w ↔ w ∈ widths ++ [0] := by
  induction widths with
  | nil => simp [eq_comm]
  | cons v outer ih =>
    obtain ⟨hv, hrest⟩ := List.pairwise_cons.mp h
    by_cases hw : w < v
    · rw [List.cons_append, List.dropWhile_cons_of_pos (by simpa using hw), ih hrest,
        List.mem_cons]
      constructor
      · exact .inr
      · rintro (rfl | hm)
        · exact absurd hw (Nat.lt_irrefl _)
        · exact hm
    · rw [List.cons_append, List.dropWhile_cons_of_neg (by simpa using hw), List.headD_cons,
        List.mem_cons]
      constructor
      · intro he
        exact .inl he.symm
      · rintro (rfl | hm)
        · rfl
        · have hlt := hv w hm
          omega

theorem Nested.indent (h : s.Nested) (hi : s.indent line margin = .ok s') : s'.Nested := by
  obtain ⟨widths, hw, hs⟩ := h.blocks
  rcases indent_cases hi with ⟨hlt, metrics, rfl⟩ | ⟨-, -, rfl⟩ | ⟨-, rfl⟩
  · constructor
    · refine ⟨margin.length :: widths, ?_, ?_⟩
      · rw [emit_emitted, Token.openBlocks?_append hw]
        rfl
      · rw [emit_indents, hs]
        rfl
    · rw [emit_indents, List.pairwise_cons]
      refine ⟨?_, h.decreasing⟩
      -- the top of the stack is its greatest width
      intro v hv
      have hd := h.decreasing
      unfold width at hlt
      cases hst : s.indents with
      | nil =>
        rw [hst] at hv
        cases hv
      | cons top outer =>
        rw [hst] at hv hd hlt
        rcases List.mem_cons.mp hv with rfl | hm
        · exact hlt
        · exact Nat.lt_trans ((List.pairwise_cons.mp hd).1 v hm) hlt
  · have hkept : s.indents.dropWhile (margin.length < ·) =
        widths.dropWhile (margin.length < ·) ++ [0] := by
      rw [hs, dropWhile_blocks]
    -- the zero at the bottom is never among the blocks that are closed
    have hclosed : s.indents.length - (s.indents.dropWhile (margin.length < ·)).length =
        (widths.takeWhile (margin.length < ·)).length := by
      have hlen := length_takeWhile_add_dropWhile (margin.length < ·) widths
      rw [hkept, hs, List.length_append, List.length_append]
      omega
    constructor
    · refine ⟨widths.dropWhile (margin.length < ·), ?_, ?_⟩
      · rw [dedent_emitted, Token.openBlocks?_append hw, hclosed, Token.foldlM_nest?_dedents]
        · rw [List.length_replicate, Pattern.drop_length_takeWhile]
        · rw [List.length_replicate]
          exact (List.takeWhile_sublist _).length_le
        · intro u hu
          rw [List.eq_of_mem_replicate hu]
      · rw [dedent_indents, hkept]
    · rw [dedent_indents]
      exact h.decreasing.sublist (List.dropWhile_sublist _)
  · exact h

/-- A margin is refused if it is less than that of the innermost block and that of no open one. -/
theorem Nested.indent_eq_error_iff (h : s.Nested) {e : LexError} :
    s.indent line margin = .error e ↔
      margin.length < s.width ∧ margin.length ∉ s.indents ∧
        e = .indentation line margin.length := by
  obtain ⟨widths, -, hs⟩ := h.blocks
  have hmem := headD_dropWhile_iff (w := margin.length) (hs ▸ h.decreasing)
  rw [← hs] at hmem
  simp only [LexState.indent]
  split
  · rename_i hlt
    constructor
    · intro he
      cases he
    · rintro ⟨hgt, -⟩
      omega
  · rename_i hge
    split
    · rename_i hlt
      rw [width, dedent_indents]
      split
      · rename_i hk
        constructor
        · intro he
          cases he
        · rintro ⟨-, hno, -⟩
          exact absurd (hmem.mp hk) hno
      · rename_i hk
        constructor
        · intro he
          exact ⟨hlt, fun hm => hk (hmem.mpr hm), (Except.error.inj he).symm⟩
        · rintro ⟨-, -, rfl⟩
          rfl
    · rename_i hle
      constructor
      · intro he
        cases he
      · rintro ⟨hlt, -⟩
        exact absurd hlt hle

theorem nested_start : start.Nested where
  blocks := ⟨[], rfl, rfl⟩
  decreasing := by decide

theorem Nested.step {ops : OperatorSet} {a b : Reading} (hstep : Step (.ofOperators ops) a b)
    (h : a.state.Nested) : b.state.Nested := by
  cases hstep with
  | pass => exact h.add (List.append_nil _).symm rfl (by simp)
  | close => exact h.add (close_emitted ..) rfl (by simp)
  | continued => exact h.add (List.append_nil _).symm rfl (by simp)
  | blank => exact h.add (emit_emitted _ _) rfl (by simp)
  | @remark line s text ahead =>
    have hremark : (s.countLine.remark line (text.toList.takeWhile isMargin).length text.length
        (text.toList.dropWhile isMargin)).Nested :=
      h.add (emit_emitted _ _) rfl (by simp)
    exact hremark.add (emit_emitted _ _) rfl (by simp)
  | @margin line s s' text ahead _ _ _ _ hi =>
    have hcount : s.countLine.Nested := ⟨h.blocks, h.decreasing⟩
    exact hcount.indent hi
  | lexeme hx hs =>
    have hcut := cut_of_take (Table.isLexeme_of_classify hx) hs
    refine h.add hcut.emitted hcut.indents ?_
    intro u hu
    have hk := (hcut.lexemes u hu).1
    constructor
    · rintro he
      rw [he] at hk
      cases hk
    · rintro he
      rw [he] at hk
      cases hk
  | finish =>
    refine h.add (emit_emitted _ _) rfl ?_
    intro u hu
    rw [List.mem_singleton.mp hu]
    dsimp only
    split <;> simp
  | suspend => exact h

theorem nested_readLines {ops : OperatorSet} {lines : List String}
    (h : (Table.ofOperators ops).readLines 1 .start lines = .ok s) : s.Nested := by
  have hsteps := readLines_steps [] h
  exact hsteps.preserve (I := fun r => r.state.Nested) (fun _ _ hstep ha => ha.step hstep)
    nested_start

/-- Reading a line fails at its margin exactly if the line is misindented. -/
theorem Nested.readLine_eq_indentation_iff {t : Table} (h : s.Nested) {text : List Char}
    {line' width : Nat} :
    t.readLine line s text = .error (.indentation line' width) ↔
      s.Misindents text ∧ line' = line ∧ width = (text.takeWhile isMargin).length := by
  have hcount : s.countLine.Nested := ⟨h.blocks, h.decreasing⟩
  constructor
  · intro he
    rw [← String.toList_ofList (l := text)] at he
    rcases readLine_error_cases [] he with hstuck | ⟨column, b, rest, -, hscan⟩
    · cases hstuck with
      | misindent hp hd hb hc hi =>
        simp only [String.toList_ofList] at hb hc hi
        obtain ⟨hlt, hno, heq⟩ := hcount.indent_eq_error_iff.mp hi
        obtain ⟨rfl, rfl⟩ := LexError.indentation.inj heq
        rw [all_dropWhile_isMargin] at hb
        exact ⟨⟨⟨hp, hd⟩, hb, hc, hlt, hno⟩, rfl, rfl⟩
    · obtain ⟨_, _, _, -, hstuck⟩ := scan_stuck [] hscan
      cases hstuck
  · rintro ⟨⟨⟨hp, hd⟩, hb, hc, hlt, hno⟩, rfl, rfl⟩
    have hi : s.countLine.indent line' (text.takeWhile isMargin) = .error _ :=
      hcount.indent_eq_error_iff.mpr ⟨hlt, hno, rfl⟩
    rw [← all_dropWhile_isMargin] at hb
    rw [readLine_of_none hp hd]
    simp only [Table.logicalLine, hb, Bool.false_eq_true, if_false, if_neg hc, hi]
    rfl

end LexState

theorem stop_line_of_readLines {ops : OperatorSet} {lines : List String} {s : LexState}
    (h : (Table.ofOperators ops).readLines 1 .start lines = .ok s) :
    ∀ t ∈ s.emitted.toList, t.span.stop.line < lines.length + 1 := by
  have hrun := readLines_preserve
    (I := fun line s => ∀ t ∈ s.emitted.toList, t.span.stop.line < line) h ?_ ?_
  · intro t ht
    have hlt := hrun t ht
    omega
  · intro t ht
    rw [List.mem_singleton.mp ht]
    decide
  · intro text _ line s s' hs hline t ht
    obtain ⟨ts, hts, hadds⟩ := readLine_adds hline
    rw [hts] at ht
    rcases List.mem_append.mp ht with ht | ht
    · have hlt := hs t ht
      omega
    · rw [hadds.stop_line t ht]
      omega

def Token.isFinalDedent (count : Nat) (t : Token) : Bool :=
  t.kind == .dedent && t.span == .point (.of (count + 1) 0)

/-- The stack of open blocks is sound behind every line and every block that is opened is closed;
a line is refused for its margin exactly if that closes blocks and is that of no open one. -/
theorem blocks_balanced (ops : OperatorSet) (lines : List String) :
    (∀ s, (Table.ofOperators ops).readLines 1 .start lines = .ok s →
      s.Nested ∧ Token.Balanced s.emitted.toList ∧
        ∀ text line width,
          (Table.ofOperators ops).readLine (lines.length + 1) s text =
              .error (.indentation line width) ↔
            s.Misindents text ∧ line = lines.length + 1 ∧
              width = (text.takeWhile isMargin).length) ∧
    ∀ policy r, (Table.ofOperators ops).tokenize policy lines = .ok r →
      Token.Balanced r.tokens.toList ∧
        r.tokens.toList.countP (·.kind == .indent) = r.tokens.toList.countP (·.kind == .dedent) ∧
        ∃ s, (Table.ofOperators ops).readLines 1 .start lines = .ok s ∧
          r.tokens.toList.countP (Token.isFinalDedent lines.length) = s.indents.length - 1 := by
  constructor
  · intro s hs
    have hnested := LexState.nested_readLines hs
    obtain ⟨widths, hw, -⟩ := hnested.blocks
    refine ⟨hnested, Token.balanced_of_openBlocks? hw, ?_⟩
    intro text line width
    exact hnested.readLine_eq_indentation_iff
  · intro policy r h
    obtain ⟨s, hs, hf⟩ := Table.tokenize_eq_ok h
    obtain ⟨htokens, -, -⟩ := LexState.finish_eq_ok hf
    obtain ⟨widths, hw, hst⟩ := (LexState.nested_readLines hs).blocks
    have hheight : s.indents.length - 1 = widths.length := by
      rw [hst, List.length_append]
      rfl
    have hclosed : Token.openBlocks? r.tokens.toList = some [] := by
      rw [htokens, List.append_assoc, Token.openBlocks?_append hw, hheight, List.foldlM_append,
        Token.foldlM_nest?_dedents]
      · rw [List.length_replicate, List.drop_length]
        rfl
      · rw [List.length_replicate]
      · intro u hu
        rw [List.eq_of_mem_replicate hu]
    refine ⟨Token.balanced_of_openBlocks? hclosed, ?_, s, hs, ?_⟩
    · simpa using Token.countP_of_foldlM hclosed
    · have hbefore : s.emitted.toList.countP (Token.isFinalDedent lines.length) = 0 := by
        rw [List.countP_eq_zero]
        intro u hu hfinal
        have hlt := stop_line_of_readLines hs u hu
        simp only [Token.isFinalDedent, Bool.and_eq_true, beq_iff_eq] at hfinal
        rw [hfinal.2] at hlt
        simp [Span.point] at hlt
      rw [htokens, List.countP_append, List.countP_append, hbefore, List.countP_replicate]
      simp [Token.isFinalDedent]

/-- A block of four columns, and behind it a line that is indented by two. -/
theorem blocks_balanced_two_lines :
    ∃ s r, (Table.ofOperators .core).readLines 1 .start ["a:", "    b"] = .ok s ∧
      (Table.ofOperators .core).tokenize .strict ["a:", "    b"] = .ok r ∧
      s.indents = [4, 0] ∧ s.Nested ∧ Token.Balanced r.tokens.toList ∧
      (Table.ofOperators .core).readLine 3 s "  c".toList = .error (.indentation 3 2) := by
  have hstate : ((Table.ofOperators .core).readLines 1 .start ["a:", "    b"]).toOption.map
      (fun s => (s.indents, s.depth, s.pending)) = some ([4, 0], 0, none) := by
    rw [Table.ofOperators, OperatorSet.matchOrder_core]
    decide +kernel
  have hrun : ((Table.ofOperators .core).tokenize .strict ["a:", "    b"]).isOk = true := by
    rw [Table.ofOperators, OperatorSet.matchOrder_core]
    decide +kernel
  obtain ⟨hlines, hwhole⟩ := blocks_balanced .core ["a:", "    b"]
  cases hs : (Table.ofOperators .core).readLines 1 .start ["a:", "    b"] with
  | error e =>
    rw [hs] at hstate
    cases hstate
  | ok s =>
    rw [hs] at hstate
    simp only [Except.toOption, Option.map_some, Option.some.injEq, Prod.mk.injEq] at hstate
    obtain ⟨hindents, hd, hp⟩ := hstate
    obtain ⟨hnested, -, hrefused⟩ := hlines s hs
    cases hr : (Table.ofOperators .core).tokenize .strict ["a:", "    b"] with
    | error e =>
      rw [hr] at hrun
      cases hrun
    | ok r =>
      refine ⟨s, r, rfl, rfl, hindents, hnested, (hwhole .strict r hr).1, ?_⟩
      apply (hrefused "  c".toList 3 2).mpr
      refine ⟨⟨⟨hp, hd⟩, by decide, by decide, ?_, ?_⟩, rfl, rfl⟩
      · rw [LexState.width, hindents]
        decide
      · rw [hindents]
        decide

end Offside
