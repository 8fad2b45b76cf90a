import Offside.Proofs.Classification
import Offside.Proofs.Reading
import Mathlib.Data.List.Induction

/-!
# What a line adds

A line that is read keeps the tokens before it and adds some of its own: first a string that ends on
it or the blocks that its margin opens and closes, then what the table cuts out of it, and last its
terminator, unless a string is left open. `cut_of_scan` is the specification of `Table.scan` for all
that is not about places within the line, `readLine_cases` that of `Table.readLine`.
-/

namespace Offside

set_option autoImplicit false

def Kind.isLexeme : Kind → Bool
  | .name | .number | .string | .comment | .op => true
  | .encoding | .indent | .dedent | .newline | .nl | .endMarker | .unknown => false

namespace Token

def opens (t : Token) : Bool := t.kind == .op && Bracket.isOpener t.text

def closes (t : Token) : Bool := t.kind == .op && Bracket.isCloser t.text

def bracketDepth (ts : List Token) : Int := ts.countP opens - ts.countP closes

theorem bracketDepth_append (ts us : List Token) :
    bracketDepth (ts ++ us) = bracketDepth ts + bracketDepth us := by
  simp only [bracketDepth, List.countP_append]
  omega

theorem bracketDepth_of_ne_op {ts : List Token} (h : ∀ t ∈ ts, t.kind ≠ .op) :
    bracketDepth ts = 0 := by
  have ho : ts.countP opens = 0 := by
    rw [List.countP_eq_zero]
    intro t ht
    simp [opens, h t ht]
  have hc : ts.countP closes = 0 := by
    rw [List.countP_eq_zero]
    intro t ht
    simp [closes, h t ht]
  simp [bracketDepth, ho, hc]

def Lexemes (line : Nat) (ts : List Token) : Prop :=
  ∀ t ∈ ts, t.kind.isLexeme = true ∧ t.span.start.line = line ∧ t.span.stop.line = line

end Token

theorem Bracket.not_isCloser_of_isOpener {x : String} (h : isOpener x = true) :
    isCloser x = false := by
  have hall : ∀ y ∈ openers, isCloser y = false := by decide
  exact hall x (List.contains_iff_mem.mp h)

theorem Table.isLexeme_of_classify {ops : OperatorSet} {cs : List Char} {x : Lexeme}
    (h : (ofOperators ops).classify cs = some x) : x.kind.isLexeme = true := by
  obtain ⟨e, he, hx⟩ := List.exists_of_findSome?_eq_some h
  rw [(role_of_lexeme? hx).1]
  rcases mem_entries he with he | ⟨op, -, rfl⟩
  · have hfixed : ∀ e ∈ fixedEntries, e.kind.isLexeme = true := by decide
    exact hfixed e he
  · rfl

namespace LexState

variable {s s' s'' : LexState} {line column : Nat} {x : Lexeme} {ts us : List Token}

@[simp] theorem emit_indents (s : LexState) (t : Token) : (s.emit t).indents = s.indents := rfl

@[simp] theorem dedent_depth (s : LexState) (place : Position) (n : Nat) :
    (s.dedent place n).depth = s.depth := by
  fun_induction dedent s place n with
  | case1 => rfl
  | case2 s n ih => exact ih

@[simp] theorem dedent_indents (s : LexState) (place : Position) (n : Nat) :
    (s.dedent place n).indents = s.indents := by
  fun_induction dedent s place n with
  | case1 => rfl
  | case2 s n ih => exact ih

theorem indent_depth {margin : List Char} (h : s.indent line margin = .ok s') :
    s'.depth = s.depth := by
  rcases indent_cases h with ⟨-, metrics, rfl⟩ | ⟨-, -, rfl⟩ | ⟨-, rfl⟩
  · rfl
  · exact dedent_depth ..
  · rfl

theorem indent_emitted {margin : List Char} (h : s.indent line margin = .ok s') :
    ∃ ts, s'.emitted.toList = s.emitted.toList ++ ts ∧
      ∀ t ∈ ts, (t.kind = .indent ∨ t.kind = .dedent) ∧ t.span.stop.line = line := by
  rcases indent_cases h with ⟨-, metrics, rfl⟩ | ⟨-, -, rfl⟩ | ⟨-, rfl⟩
  · refine ⟨_, emit_emitted _ _, ?_⟩
    intro t ht
    rw [List.mem_singleton.mp ht]
    exact ⟨.inl rfl, rfl⟩
  · refine ⟨_, dedent_emitted _ _ _, ?_⟩
    intro t ht
    rw [List.eq_of_mem_replicate ht]
    exact ⟨.inr rfl, rfl⟩
  · exact ⟨[], (List.append_nil _).symm, by simp⟩

/-- What cutting a line into lexemes changes: it adds tokens that stand on the line, and it may
leave a string open there. -/
structure Cut (line : Nat) (s s' : LexState) (ts : List Token) : Prop where
  emitted : s'.emitted.toList = s.emitted.toList ++ ts
  indents : s'.indents = s.indents
  depth : (s'.depth : Int) = s.depth + Token.bracketDepth ts
  pending : s'.pending = s.pending ∨ ∃ o, s'.pending = some o ∧ o.line = line
  lexemes : Token.Lexemes line ts

theorem Cut.refl (line : Nat) (s : LexState) : Cut line s s [] where
  emitted := (List.append_nil _).symm
  indents := rfl
  depth := (Int.add_zero _).symm
  pending := .inl rfl
  lexemes := List.forall_mem_nil _

theorem Cut.trans (h : Cut line s s' ts) (k : Cut line s' s'' us) :
    Cut line s s'' (ts ++ us) where
  emitted := by rw [k.emitted, h.emitted, List.append_assoc]
  indents := k.indents.trans h.indents
  depth := by rw [k.depth, h.depth, Token.bracketDepth_append, Int.add_assoc]
  pending := by
    rcases k.pending with hp | hp
    · rw [hp]
      exact h.pending
    · exact .inr hp
  lexemes := List.forall_mem_append.mpr ⟨h.lexemes, k.lexemes⟩

theorem bracket_depth (span : Span) (h : s.bracket line column x = .ok s') :
    (s'.depth : Int) = s.depth + Token.bracketDepth [⟨x.kind, x.text, span⟩] := by
  unfold bracket at h
  split at h
  · rename_i ho
    obtain rfl := Except.ok.inj h
    simp only [Bool.and_eq_true, decide_eq_true_eq] at ho
    have hc := Bracket.not_isCloser_of_isOpener ho.2
    simp [Token.bracketDepth, Token.opens, Token.closes, ho.1, ho.2, hc]
  · rename_i ho
    split at h
    · rename_i hc
      split at h
      · cases h
      · obtain rfl := Except.ok.inj h
        simp only [Bool.and_eq_true, decide_eq_true_eq, not_and] at ho hc
        simp [Token.bracketDepth, Token.opens, Token.closes, hc.1, hc.2, ho hc.1]
        omega
    · rename_i hc
      obtain rfl := Except.ok.inj h
      have ho' : Token.opens ⟨x.kind, x.text, span⟩ = false := by
        simpa [Token.opens] using ho
      have hc' : Token.closes ⟨x.kind, x.text, span⟩ = false := by
        simpa [Token.closes] using hc
      simp [Token.bracketDepth, ho', hc']

theorem cut_of_take (hk : x.kind.isLexeme = true) (h : s.take line column x = .ok s') :
    Cut line s s' (if x.role = .token then
      [⟨x.kind, x.text, .of line column, .of line (column + x.width)⟩] else []) := by
  rcases take_cases h with ⟨hr, b, hb, rfl⟩ | ⟨quote, hr, rfl⟩
  · rw [if_pos hr]
    have hdepth := bracket_depth ⟨.of line column, .of line (column + x.width)⟩ hb
    obtain ⟨depth, metrics, rfl⟩ := bracket_eq hb
    exact ⟨emit_emitted _ _, rfl, hdepth, .inl rfl, by simp [Token.Lexemes, hk]⟩
  · rw [if_neg (by simp [hr])]
    exact ⟨(List.append_nil _).symm, rfl, (Int.add_zero _).symm, .inr ⟨_, rfl, rfl⟩,
      List.forall_mem_nil _⟩

end LexState

section Scan

variable {t : Table} {ops : OperatorSet} {line column : Nat} {s s' : LexState} {rest : List Char}

theorem cut_of_scan (h : (Table.ofOperators ops).scan line s column rest = .ok s') :
    ∃ ts, s.Cut line s' ts := by
  fun_induction Table.scan (Table.ofOperators ops) line s column rest with
  | case1 s =>
    obtain rfl := Except.ok.inj h
    exact ⟨[], .refl line s⟩
  | case2 => cases h
  | case3 => cases h
  | case4 s column rest text column₁ _ x hx b hb ih =>
    obtain ⟨ts, hts⟩ := ih h
    exact ⟨_, (LexState.cut_of_take (Table.isLexeme_of_classify hx) hb).trans hts⟩

end Scan

def Token.terminator (kind : Kind) (line length : Nat) : Token :=
  ⟨kind, "\n", .of line length, .of line (length + 1)⟩

namespace LexState

theorem terminate_emitted (s : LexState) (kind : Kind) (line length : Nat) :
    (s.terminate kind line length).emitted.toList =
      s.emitted.toList ++ [Token.terminator kind line length] :=
  emit_emitted _ _

theorem remark_emitted (s : LexState) (line column length : Nat) (body : List Char) :
    ((s.countLine.remark line column length body).terminate .nl line length).emitted.toList =
      s.emitted.toList ++ [⟨.comment, String.ofList body, .of line column, .of line length⟩,
        Token.terminator .nl line length] := by
  rw [terminate_emitted, remark, emit_emitted, List.append_assoc]
  rfl

theorem finish_adds {s : LexState} {count : Nat} {policy : EndPolicy} {r : Tokenization}
    (h : s.finish count policy = .ok r) :
    ∃ ts, r.tokens.toList = s.emitted.toList ++ ts ∧
      ∀ t ∈ ts, t.kind = .dedent ∨ t.kind = .endMarker := by
  obtain ⟨htokens, -, -⟩ := finish_eq_ok h
  rw [List.append_assoc] at htokens
  refine ⟨_, htokens, List.forall_mem_append.mpr ⟨?_, ?_⟩⟩
  · intro t ht
    rw [List.eq_of_mem_replicate ht]
    exact .inl rfl
  · intro t ht
    rw [List.mem_singleton.mp ht]
    exact .inr rfl

/-- What a line adds before its first lexeme. -/
inductive Heading (line : Nat) (s : LexState) : List Token → Prop
  /-- The end of a string that an earlier line left open. -/
  | string {o : OpenString} (text : String) (column : Nat) (hp : s.pending = some o) :
      Heading line s [⟨.string, text, .of o.line o.column, .of line column⟩]
  /-- Between brackets, nothing. -/
  | bare (hp : s.pending = none) (hd : 0 < s.depth) : Heading line s []
  /-- The blocks that the margin opens or closes. -/
  | blocks {ts : List Token} (hp : s.pending = none) (hd : s.depth = 0)
      (hk : ∀ t ∈ ts, (t.kind = .indent ∨ t.kind = .dedent) ∧ t.span.stop.line = line) :
      Heading line s ts

theorem Heading.kinds {line : Nat} {s : LexState} {head : List Token} (h : s.Heading line head) :
    ∀ t ∈ head, (t.kind = .string ∨ t.kind = .indent ∨ t.kind = .dedent) ∧
      t.span.stop.line = line := by
  intro t ht
  cases h with
  | string =>
    rw [List.mem_singleton.mp ht]
    exact ⟨.inl rfl, rfl⟩
  | bare => cases ht
  | blocks _ _ hk =>
    obtain ⟨hkind, hline⟩ := hk t ht
    exact ⟨.inr hkind, hline⟩

/-- What a line of `length` characters adds to the tokens. -/
inductive Adds (line length : Nat) (s s' : LexState) : List Token → Prop
  /-- A line that is part of a string. -/
  | inside {o o' : OpenString} (hp : s.pending = some o) (hp' : s'.pending = some o')
      (ho : o'.line = o.line) (hd : s'.depth = s.depth) : Adds line length s s' []
  /-- A blank line. -/
  | blank (hp : s.pending = none) (hd : s.depth = 0) (hp' : s'.pending = none)
      (hd' : s'.depth = 0) : Adds line length s s' [Token.terminator .nl line length]
  /-- A line that holds a comment only. -/
  | remark {text : String} {column : Nat} (hp : s.pending = none) (hd : s.depth = 0)
      (hp' : s'.pending = none) (hd' : s'.depth = 0) :
      Adds line length s s'
        [⟨.comment, text, .of line column, .of line length⟩, Token.terminator .nl line length]
  /-- A line that leaves a string open. -/
  | suspended {head ts : List Token} {o : OpenString} (hh : Heading line s head)
      (hts : Token.Lexemes line ts)
      (hd : (s'.depth : Int) = s.depth + Token.bracketDepth ts) (hp' : s'.pending = some o)
      (ho : o.line = line) : Adds line length s s' (head ++ ts)
  /-- Any other line. -/
  | ended {head ts : List Token} (hh : Heading line s head)
      (hts : Token.Lexemes line ts)
      (hd : (s'.depth : Int) = s.depth + Token.bracketDepth ts) (hp' : s'.pending = none) :
      Adds line length s s'
        (head ++ ts ++ [Token.terminator (if 0 < s'.depth then .nl else .newline) line length])

end LexState

section Lines

variable {t : Table} {ops : OperatorSet} {line line' column : Nat} {s s' b : LexState}
  {rest : List Char} {text : String} {ahead : List String}

/-- A step changes the depth by what the tokens it adds count for. -/
theorem depth_of_step {a b : Reading} (h : Step (.ofOperators ops) a b)
    (ha : (a.state.depth : Int) = Token.bracketDepth a.state.emitted.toList) :
    (b.state.depth : Int) = Token.bracketDepth b.state.emitted.toList := by
  suffices hadds : ∃ ts, b.state.emitted.toList = a.state.emitted.toList ++ ts ∧
      (b.state.depth : Int) = a.state.depth + Token.bracketDepth ts by
    obtain ⟨ts, hts, hdepth⟩ := hadds
    rw [hts, Token.bracketDepth_append, ← ha, hdepth]
  -- only a lexeme can be a bracket
  have hflat : ∀ ts : List Token, (∀ t ∈ ts, t.kind ≠ .op) →
      b.state.emitted.toList = a.state.emitted.toList ++ ts → b.state.depth = a.state.depth →
      ∃ ts, b.state.emitted.toList = a.state.emitted.toList ++ ts ∧
        (b.state.depth : Int) = a.state.depth + Token.bracketDepth ts := by
    intro ts hk hts hd
    exact ⟨ts, hts, by rw [hd, Token.bracketDepth_of_ne_op hk, Int.add_zero]⟩
  cases h with
  | pass => exact hflat [] (by simp) (List.append_nil _).symm rfl
  | close => exact hflat _ (by simp) (LexState.close_emitted ..) rfl
  | continued => exact hflat [] (by simp) (List.append_nil _).symm rfl
  | blank => exact hflat _ (by simp) (LexState.emit_emitted _ _) rfl
  | remark =>
    exact hflat _ (by simp [Token.terminator]) (LexState.remark_emitted ..) rfl
  | margin _ _ _ _ hi =>
    obtain ⟨ts, hts, hk⟩ := LexState.indent_emitted hi
    have hdepth := LexState.indent_depth hi
    refine hflat ts ?_ hts hdepth
    intro u hu hop
    rcases (hk u hu).1 with h | h
    · rw [hop] at h
      cases h
    · rw [hop] at h
      cases h
  | lexeme hx hs =>
    have hcut := LexState.cut_of_take (Table.isLexeme_of_classify hx) hs
    exact ⟨_, hcut.emitted, hcut.depth⟩
  | @finish line column s =>
    refine hflat _ ?_ (LexState.emit_emitted _ _) rfl
    intro u hu
    rw [List.mem_singleton.mp hu]
    dsimp only
    split <;> simp
  | suspend => exact hflat [] (by simp) (List.append_nil _).symm rfl

theorem depth_of_steps {lines : List String} {r : Reading}
    (h : Steps (.ofOperators ops) (.between 1 .start lines) r) :
    (r.state.depth : Int) = Token.bracketDepth r.state.emitted.toList :=
  h.preserve (I := fun r => (r.state.depth : Int) = Token.bracketDepth r.state.emitted.toList)
    (fun _ _ hstep ha => depth_of_step hstep ha) rfl

theorem enter_adds
    (h : Step t (.between line s (text :: ahead)) (.within line' column b rest ahead)) :
    b.pending = none ∧ b.depth = s.depth ∧
      ∃ head, b.emitted.toList = s.emitted.toList ++ head ∧ s.Heading line head := by
  cases h with
  | close hp hs => exact ⟨rfl, rfl, _, LexState.close_emitted .., .string _ _ hp⟩
  | continued hp hd => exact ⟨hp, rfl, [], (List.append_nil _).symm, .bare hp hd⟩
  | margin hp hd _ _ hi =>
    obtain ⟨head, hhead, hk⟩ := LexState.indent_emitted hi
    have hdepth : b.depth = s.countLine.depth := LexState.indent_depth hi
    exact ⟨(LexState.indent_pending hi).trans hp, hdepth, head, hhead, .blocks hp hd hk⟩

theorem readLine_adds (h : (Table.ofOperators ops).readLine line s text.toList = .ok s') :
    ∃ ts, s'.emitted.toList = s.emitted.toList ++ ts ∧ s.Adds line text.length s' ts := by
  rcases readLine_cases [] h with hstep | ⟨column, b, rest, c, hstep, -, hscan, hend⟩
  · cases hstep with
    | pass hp => exact ⟨[], (List.append_nil _).symm, .inside hp rfl rfl rfl⟩
    | blank hp hd => exact ⟨_, LexState.terminate_emitted .., .blank hp hd hp hd⟩
    | remark hp hd =>
      exact ⟨_, LexState.remark_emitted .., .remark hp hd hp hd⟩
  · obtain ⟨hp, hd, head, hhead, hh⟩ := enter_adds hstep
    obtain ⟨ts, hcut⟩ := cut_of_scan hscan
    have hemitted : c.emitted.toList = s.emitted.toList ++ (head ++ ts) := by
      rw [hcut.emitted, hhead, List.append_assoc]
    have hdepth : (c.depth : Int) = s.depth + Token.bracketDepth ts := by
      rw [hcut.depth, hd]
    rcases hend with ⟨hpend, rfl⟩ | ⟨hpend, rfl⟩
    · rcases hcut.pending with hsame | ⟨o, ho, hline⟩
      · rw [hsame, hp] at hpend
        cases hpend
      · exact ⟨_, hemitted, .suspended hh hcut.lexemes hdepth ho hline⟩
    · refine ⟨_, ?_, .ended hh hcut.lexemes hdepth hpend⟩
      rw [LexState.terminate_emitted, hemitted, List.append_assoc]
      rfl

theorem LexState.Adds.stop_line {length : Nat} {ts : List Token} (h : s.Adds line length s' ts) :
    ∀ t ∈ ts, t.span.stop.line = line := by
  intro t ht
  cases h with
  | inside => cases ht
  | blank => rw [List.mem_singleton.mp ht]; rfl
  | remark =>
    rcases List.mem_cons.mp ht with rfl | ht
    · rfl
    · rw [List.mem_singleton.mp ht]; rfl
  | suspended hh hts =>
    rcases List.mem_append.mp ht with ht | ht
    · exact (hh.kinds t ht).2
    · exact (hts t ht).2.2
  | ended hh hts =>
    rcases List.mem_append.mp ht with ht | ht
    · rcases List.mem_append.mp ht with ht | ht
      · exact (hh.kinds t ht).2
      · exact (hts t ht).2.2
    · rw [List.mem_singleton.mp ht]; rfl

theorem readLines_preserve {I : Nat → LexState → Prop} {lines : List String}
    (h : t.readLines line s lines = .ok s') (hs : I line s)
    (hline : ∀ text ∈ lines, ∀ line s s', I line s → t.readLine line s text.toList = .ok s' →
      I (line + 1) s') : I (line + lines.length) s' := by
  induction lines generalizing line s with
  | nil =>
    obtain rfl := Except.ok.inj h
    exact hs
  | cons text rest ih =>
    simp only [Table.readLines] at h
    split at h
    · cases h
    · rename_i b hb
      have hrest := ih h (hline text List.mem_cons_self _ _ _ hs hb)
        fun u hu => hline u (List.mem_cons_of_mem text hu)
      rw [List.length_cons, Nat.add_comm rest.length, ← Nat.add_assoc]
      exact hrest

theorem readLines_append {done : List String} (ahead : List String)
    (h : t.readLines line s (done ++ ahead) = .ok s') :
    ∃ b, t.readLines line s done = .ok b ∧ t.readLines (line + done.length) b ahead = .ok s' := by
  induction done generalizing line s with
  | nil => exact ⟨s, rfl, h⟩
  | cons text rest ih =>
    rw [List.cons_append] at h
    simp only [Table.readLines] at h ⊢
    split at h
    · cases h
    · obtain ⟨b, hb, hahead⟩ := ih h
      refine ⟨b, hb, ?_⟩
      rw [List.length_cons, Nat.add_comm rest.length, ← Nat.add_assoc]
      exact hahead

/-- What every line preserves, given the lines before it, holds behind all lines. -/
theorem readLines_induction {I : List String → LexState → Prop} {lines : List String}
    (h : t.readLines 1 .start lines = .ok s') (hs : I [] .start)
    (hline : ∀ done text ahead s s', lines = done ++ text :: ahead →
      t.readLines 1 .start done = .ok s → I done s →
      t.readLine (done.length + 1) s text.toList = .ok s' → I (done ++ [text]) s') :
    I lines s' := by
  induction lines using List.reverseRecOn generalizing s' with
  | nil =>
    obtain rfl := Except.ok.inj h
    exact hs
  | append_singleton done text ih =>
    -- the run over the lines before the last one succeeds as well, and it gives `I done`
    obtain ⟨b, hb, hlast⟩ := readLines_append [text] h
    have hdone : I done b := by
      apply ih hb
      rintro before text' ahead s s' rfl
      exact hline before text' (ahead ++ [text]) s s' (by simp)
    simp only [Table.readLines] at hlast
    split at hlast
    · cases hlast
    · rename_i b' hb'
      obtain rfl := Except.ok.inj hlast
      rw [Nat.add_comm] at hb'
      exact hline done text [] b _ rfl hb hdone hb'

theorem readLines_prefix {lines : List String}
    (h : (Table.ofOperators ops).readLines line s lines = .ok s') :
    s.emitted.toList <+: s'.emitted.toList := by
  refine readLines_preserve (I := fun _ b => s.emitted.toList <+: b.emitted.toList) h
    (List.prefix_refl _) ?_
  intro text _ line b b' hb hline
  obtain ⟨ts, hts, -⟩ := readLine_adds hline
  rw [hts]
  exact hb.trans (List.prefix_append _ _)

/-- Each line of a run that succeeds is read in turn, and its tokens are kept. -/
theorem readLines_split {done : List String}
    (h : (Table.ofOperators ops).readLines 1 .start (done ++ text :: ahead) = .ok s') :
    ∃ s b ts, (Table.ofOperators ops).readLines 1 .start done = .ok s ∧
      (Table.ofOperators ops).readLine (done.length + 1) s text.toList = .ok b ∧
      b.emitted.toList = s.emitted.toList ++ ts ∧ s.Adds (done.length + 1) text.length b ts ∧
      b.emitted.toList <+: s'.emitted.toList := by
  obtain ⟨s, hs, hrest⟩ := readLines_append (text :: ahead) h
  simp only [Table.readLines] at hrest
  split at hrest
  · cases hrest
  · rename_i b hb
    rw [Nat.add_comm] at hb
    obtain ⟨ts, hts, hadds⟩ := readLine_adds hb
    exact ⟨s, b, ts, hs, hb, hts, hadds, readLines_prefix hrest⟩

end Lines

end Offside
