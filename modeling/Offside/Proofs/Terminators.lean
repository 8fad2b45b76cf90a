import Offside.Proofs.Line
import Mathlib.Data.List.DropRight

/-!
# Terminators

Every line ends with one token for its end, or leaves a string open. What a run has counted is a
balance of lines: each line read is a terminator, one of the line ends in a string, or one of those
in a string that is still open. `LexState.Accounted` keeps it from line to line, with the depth of
brackets that the tokens show and the kinds of the terminators.
-/

namespace Offside

set_option autoImplicit false

namespace Token

/-- The tokens behind the last one of some kinds. -/
def since (marks : Kind → Bool) (ts : List Token) : List Token :=
  ts.rtakeWhile fun t => !marks t.kind

def sinceLineEnd (ts : List Token) : List Token :=
  since (fun k => k.isTerminator || k == .encoding) ts

/-- How many line ends there are in the strings among some tokens. -/
def stringHeight : List Token → Int
  | [] => 0
  | t :: ts =>
    (if t.kind = .string then t.span.stop.line - t.span.start.line else 0) + stringHeight ts

def Follows (R : List Token → Token → Prop) (ts : List Token) : Prop :=
  ∀ before t, before ++ [t] <+: ts → R before t

/-- The terminator of a logical line stands outside brackets; any other stands within brackets, or
there is nothing or a comment between it and the line end before it. -/
def Terminates (before : List Token) (t : Token) : Prop :=
  (t.kind = .newline → bracketDepth before = 0) ∧
    (t.kind = .nl → 0 < bracketDepth before ∨ sinceLineEnd before = [] ∨
      ∃ c, c.kind = .comment ∧ sinceLineEnd before = [c])

variable {marks : Kind → Bool} {ts us : List Token} {t : Token} {R : List Token → Token → Prop}

theorem since_append (h : ∀ u ∈ us, marks u.kind = false) (ts : List Token) :
    since marks (ts ++ us) = since marks ts ++ us := by
  induction us generalizing ts with
  | nil => simp
  | cons u rest ih =>
    have hu : since marks (ts ++ [u]) = since marks ts ++ [u] := by
      unfold since
      rw [List.rtakeWhile_concat_pos]
      simp [h u List.mem_cons_self]
    rw [List.append_cons, ih (fun v hv => h v (List.mem_cons_of_mem u hv)), hu, List.append_assoc]
    rfl

theorem since_concat (h : marks t.kind = true) (ts : List Token) :
    since marks (ts ++ [t]) = [] := by
  unfold since
  rw [List.rtakeWhile_concat_neg]
  simp [h]

theorem stringHeight_append (ts us : List Token) :
    stringHeight (ts ++ us) = stringHeight ts + stringHeight us := by
  induction ts with
  | nil => simp [stringHeight]
  | cons t rest ih => rw [List.cons_append, stringHeight, stringHeight, ih, Int.add_assoc]

theorem stringHeight_of_flat
    (h : ∀ t ∈ ts, t.kind = .string → t.span.start.line = t.span.stop.line) :
    stringHeight ts = 0 := by
  induction ts with
  | nil => rfl
  | cons t rest ih =>
    rw [stringHeight, ih fun u hu => h u (List.mem_cons_of_mem t hu)]
    split
    · rename_i hk
      have hflat := h t List.mem_cons_self hk
      omega
    · rfl

theorem follows_concat : Follows R (ts ++ [t]) ↔ Follows R ts ∧ R ts t := by
  constructor
  · intro h
    refine ⟨?_, h ts t (List.prefix_refl _)⟩
    intro before u hu
    exact h before u (hu.trans (List.prefix_append _ _))
  · rintro ⟨h, hlast⟩ before u hu
    rcases List.prefix_concat_iff.mp hu with he | hu
    · obtain ⟨rfl, hut⟩ := List.append_inj' he rfl
      obtain rfl : u = t := by simpa using hut
      exact hlast
    · exact h before u hu

theorem Follows.append (h : Follows R ts) (hus : ∀ u ∈ us, ∀ before, R before u) :
    Follows R (ts ++ us) := by
  induction us generalizing ts with
  | nil => simpa using h
  | cons u rest ih =>
    rw [List.append_cons]
    apply ih
    · exact follows_concat.mpr ⟨h, hus u List.mem_cons_self ts⟩
    · intro v hv
      exact hus v (List.mem_cons_of_mem u hv)

theorem terminates_of_others (h : t.kind.isTerminator = false) (before : List Token) :
    Terminates before t := by
  constructor
  · intro hk
    rw [hk] at h
    cases h
  · intro hk
    rw [hk] at h
    cases h

theorem follows_start (h : R [] ⟨.encoding, "utf-8", .point .origin⟩) :
    Follows R LexState.start.emitted.toList := by
  have hempty : Follows R [] := by
    intro before t hprefix
    simp at hprefix
  exact follows_concat.mpr ⟨hempty, h⟩

end Token

namespace LexState

open Token

/-- How many lines have been read since an open string started. -/
def openHeight (s : LexState) (line : Nat) : Int :=
  match s.pending with
  | some o => line - o.line
  | none => 0

/-- What the tokens show before the line with a given number. -/
structure Accounted (s : LexState) (line : Nat) : Prop where
  count : (s.emitted.toList.countP (·.kind.isTerminator) : Int) +
    stringHeight s.emitted.toList + s.openHeight line + 1 = line
  depth : (s.depth : Int) = bracketDepth s.emitted.toList
  rested : s.pending = none → sinceLineEnd s.emitted.toList = []
  terminators : Follows Terminates s.emitted.toList

variable {s s' : LexState} {line length : Nat} {ts head : List Token} {o : OpenString}

theorem openHeight_of_none (h : s.pending = none) (line : Nat) : s.openHeight line = 0 := by
  unfold openHeight
  rw [h]

theorem openHeight_of_pending (h : s.pending = some o) (line : Nat) :
    s.openHeight line = line - o.line := by
  unfold openHeight
  rw [h]

/-- What stands before the first lexeme of a line changes no depth, and it has the height of the
string that was open. -/
theorem Heading.accounts (h : s.Heading line head) :
    stringHeight head = s.openHeight line ∧ bracketDepth head = 0 := by
  cases h with
  | string text column hp =>
    rw [openHeight_of_pending hp]
    exact ⟨by simp [stringHeight], bracketDepth_of_ne_op (by simp)⟩
  | bare hp =>
    rw [openHeight_of_none hp]
    exact ⟨rfl, rfl⟩
  | blocks hp _ hk =>
    rw [openHeight_of_none hp]
    have hkind : ∀ t ∈ head, t.kind ≠ .string ∧ t.kind ≠ .op := by
      intro t ht
      rcases (hk t ht).1 with h | h
      · rw [h]; decide
      · rw [h]; decide
    refine ⟨stringHeight_of_flat ?_, bracketDepth_of_ne_op fun t ht => (hkind t ht).2⟩
    intro t ht hs
    exact absurd hs (hkind t ht).1

theorem isTerminator_of_isLexeme {k : Kind} (h : k.isLexeme = true) : k.isTerminator = false := by
  cases k <;> first | rfl | cases h

theorem isTerminator_ite (depth : Nat) :
    (if 0 < depth then Kind.nl else Kind.newline).isTerminator = true := by
  split <;> rfl

theorem Heading.others (hh : s.Heading line head)
    (hts : Lexemes line ts) : ∀ t ∈ head ++ ts, t.kind.isTerminator = false := by
  refine List.forall_mem_append.mpr ⟨?_, fun t ht => isTerminator_of_isLexeme (hts t ht).1⟩
  intro t ht
  rcases (hh.kinds t ht).1 with hk | hk | hk
  all_goals
    rw [hk]
    rfl

theorem Adds.ends (h : s.Adds line length s' ts) :
    (s'.pending = none ∧ ∃ body kind, kind.isTerminator = true ∧
        ts = body ++ [Token.terminator kind line length] ∧
        ∀ t ∈ body, t.kind.isTerminator = false) ∨
      (s'.pending.isSome = true ∧ ∀ t ∈ ts, t.kind.isTerminator = false) := by
  cases h with
  | inside hp hp' => exact .inr ⟨by rw [hp']; rfl, by simp⟩
  | blank hp hd hp' => exact .inl ⟨hp', [], .nl, rfl, rfl, by simp⟩
  | remark hp hd hp' => exact .inl ⟨hp', [_], .nl, rfl, rfl, by simp [Kind.isTerminator]⟩
  | suspended hh hts hd hp' => exact .inr ⟨by rw [hp']; rfl, hh.others hts⟩
  | ended hh hts hd hp' =>
    exact .inl ⟨hp', _, _, isTerminator_ite s'.depth, rfl, hh.others hts⟩

theorem countP_isTerminator_of_others (h : ∀ t ∈ ts, t.kind.isTerminator = false) :
    ts.countP (·.kind.isTerminator) = 0 := by
  rw [List.countP_eq_zero]
  intro t ht
  rw [h t ht]
  exact Bool.false_ne_true

theorem stringHeight_lexemes (h : Lexemes line ts) : stringHeight ts = 0 := by
  apply stringHeight_of_flat
  intro t ht _
  obtain ⟨-, hstart, hstop⟩ := h t ht
  rw [hstart, hstop]

theorem terminator_accounts (kind : Kind) (hk : kind.isTerminator = true) (line length : Nat) :
    [Token.terminator kind line length].countP (·.kind.isTerminator) = 1 ∧
      stringHeight [Token.terminator kind line length] = 0 ∧
      bracketDepth [Token.terminator kind line length] = 0 := by
  have hstring : kind ≠ .string := by
    rintro rfl
    cases hk
  have hop : kind ≠ .op := by
    rintro rfl
    cases hk
  refine ⟨?_, stringHeight_of_flat ?_, bracketDepth_of_ne_op ?_⟩
  · rw [List.countP_singleton]
    exact if_pos hk
  · intro t ht hs
    rw [List.mem_singleton.mp ht] at hs
    exact absurd hs hstring
  · intro t ht
    rw [List.mem_singleton.mp ht]
    exact hop

theorem Adds.depth (h : s.Adds line length s' ts) :
    (s'.depth : Int) = s.depth + bracketDepth ts := by
  cases h with
  | inside _ _ _ hd =>
    rw [hd]
    exact (Int.add_zero _).symm
  | blank _ hd _ hd' =>
    rw [hd, hd', (terminator_accounts .nl rfl line length).2.2]
    rfl
  | remark _ hd _ hd' =>
    rw [hd, hd', bracketDepth_of_ne_op (by simp [Token.terminator])]
    rfl
  | suspended hh hts hd =>
    rw [hd, bracketDepth_append, hh.accounts.2, Int.zero_add]
  | ended hh hts hd =>
    rw [hd, bracketDepth_append, bracketDepth_append, hh.accounts.2,
      (terminator_accounts _ (isTerminator_ite _) line length).2.2, Int.zero_add, Int.add_zero]

/-- A line counts as one: it ends in a terminator or in a string, which counts with its height when
it closes. -/
theorem Adds.count (h : s.Adds line length s' ts) :
    (ts.countP (·.kind.isTerminator) : Int) + stringHeight ts + s'.openHeight (line + 1) =
      s.openHeight line + 1 := by
  cases h with
  | inside hp hp' ho =>
    rw [openHeight_of_pending hp, openHeight_of_pending hp', ho]
    simp only [List.countP_nil, stringHeight]
    omega
  | blank hp _ hp' =>
    obtain ⟨hcount, hheight, -⟩ := terminator_accounts .nl rfl line length
    rw [openHeight_of_none hp, openHeight_of_none hp', hcount, hheight]
    rfl
  | @remark text column hp _ hp' =>
    obtain ⟨hcount, hheight, -⟩ := terminator_accounts .nl rfl line length
    rw [openHeight_of_none hp, openHeight_of_none hp', List.countP_cons, hcount,
      stringHeight_of_flat (by simp [Token.terminator])]
    rfl
  | suspended hh hts _ hp' ho =>
    rw [countP_isTerminator_of_others (hh.others hts), stringHeight_append, hh.accounts.1,
      stringHeight_lexemes hts, openHeight_of_pending hp', ho]
    omega
  | ended hh hts _ hp' =>
    obtain ⟨hcount, hheight, -⟩ := terminator_accounts _ (isTerminator_ite s'.depth) line length
    rw [List.countP_append, countP_isTerminator_of_others (hh.others hts), hcount,
      stringHeight_append, stringHeight_append, hh.accounts.1, stringHeight_lexemes hts, hheight,
      openHeight_of_none hp']
    omega

/-- The terminator of a line is the one for what stands before it. -/
theorem Adds.terminates {before : List Token} (h : s.Adds line length s' ts)
    (hrest : s.pending = none → sinceLineEnd before = [])
    (hd : (s'.depth : Int) = bracketDepth (before ++ ts)) (hb : Follows Terminates before) :
    Follows Terminates (before ++ ts) := by
  cases h with
  | inside => simpa using hb
  | blank hp =>
    exact follows_concat.mpr ⟨hb, nofun, fun _ => .inr (.inl (hrest hp))⟩
  | @remark text column hp =>
    have hbody : Follows Terminates
        (before ++ [⟨.comment, text, .of line column, .of line length⟩]) :=
      follows_concat.mpr ⟨hb, terminates_of_others rfl before⟩
    have hsince : sinceLineEnd (before ++ [⟨.comment, text, .of line column, .of line length⟩]) =
        [⟨.comment, text, .of line column, .of line length⟩] := by
      unfold sinceLineEnd
      rw [since_append (by simp [Kind.isTerminator])]
      exact congrArg (· ++ _) (hrest hp)
    rw [List.append_cons]
    exact follows_concat.mpr ⟨hbody, nofun, fun _ => .inr (.inr ⟨_, rfl, hsince⟩)⟩
  | suspended hh hts =>
    exact hb.append fun t ht => terminates_of_others (hh.others hts t ht)
  | @ended head ts hh hts =>
    have hbody : Follows Terminates (before ++ (head ++ ts)) :=
      hb.append fun t ht => terminates_of_others (hh.others hts t ht)
    have hdepth : (s'.depth : Int) = bracketDepth (before ++ (head ++ ts)) := by
      rw [← List.append_assoc, bracketDepth_append,
        (terminator_accounts _ (isTerminator_ite s'.depth) line length).2.2, Int.add_zero] at hd
      exact hd
    rw [← List.append_assoc]
    refine follows_concat.mpr ⟨hbody, ?_, ?_⟩
    · intro hk
      have hzero : ¬ 0 < s'.depth := by
        intro hpos
        have hnl : (Token.terminator (if 0 < s'.depth then .nl else .newline) line length).kind =
            .nl := if_pos hpos
        rw [hnl] at hk
        cases hk
      omega
    · intro hk
      have hpos : 0 < s'.depth := by
        by_contra hzero
        have hnewline : (Token.terminator (if 0 < s'.depth then .nl else .newline) line
            length).kind = .newline := if_neg hzero
        rw [hnewline] at hk
        cases hk
      exact .inl (by omega)

theorem Adds.rested {before : List Token} (h : s.Adds line length s' ts)
    (hp : s'.pending = none) : sinceLineEnd (before ++ ts) = [] := by
  rcases h.ends with ⟨-, body, kind, hk, rfl, -⟩ | ⟨hopen, -⟩
  · rw [← List.append_assoc]
    apply since_concat
    exact Bool.or_eq_true_iff.mpr (.inl hk)
  · rw [hp] at hopen
    cases hopen

theorem accounted_start : start.Accounted 1 where
  count := by decide
  depth := by decide
  rested _ := by decide
  terminators := follows_start (terminates_of_others rfl [])

theorem Accounted.readLine {ops : OperatorSet} {text : String} (h : s.Accounted line)
    (hline : (Table.ofOperators ops).readLine line s text.toList = .ok s') :
    s'.Accounted (line + 1) := by
  obtain ⟨ts, hts, hadds⟩ := readLine_adds hline
  have hdepth : (s'.depth : Int) = bracketDepth s'.emitted.toList := by
    rw [hadds.depth, h.depth, hts, bracketDepth_append]
  constructor
  · have hcount := h.count
    have hline := hadds.count
    rw [hts, List.countP_append, stringHeight_append]
    omega
  · exact hdepth
  · intro hp
    rw [hts]
    exact hadds.rested hp
  · rw [hts]
    exact hadds.terminates h.rested (hts ▸ hdepth) h.terminators

theorem accounted_readLines {ops : OperatorSet} {lines : List String}
    (h : (Table.ofOperators ops).readLines 1 .start lines = .ok s) :
    s.Accounted (lines.length + 1) := by
  rw [Nat.add_comm]
  exact readLines_preserve (I := fun line s => s.Accounted line) h accounted_start
    fun _ _ _ _ _ ha hline => ha.readLine hline

end LexState

/-- How many lines of `count` there are from the start of a string that never closes. -/
def EndOfInput.openHeight (e : EndOfInput) (count : Nat) : Int :=
  match e.unterminated with
  | some p => count - p.line + 1
  | none => 0

/-- Every line ends with one terminator or leaves a string open, the terminators and the line ends
in strings are as many as the lines, and each terminator is of the kind that its place asks for. -/
theorem one_terminator_per_line {ops : OperatorSet} {policy : EndPolicy} {lines : List String}
    {r : Tokenization} (h : (Table.ofOperators ops).tokenize policy lines = .ok r) :
    (∀ done text ahead, lines = done ++ text :: ahead → ∃ s s' ts,
      (Table.ofOperators ops).readLines 1 .start done = .ok s ∧
      (Table.ofOperators ops).readLine (done.length + 1) s text.toList = .ok s' ∧
      s'.emitted.toList = s.emitted.toList ++ ts ∧ s'.emitted.toList <+: r.tokens.toList ∧
      ((s'.pending = none ∧ ∃ body kind, kind.isTerminator = true ∧
          ts = body ++ [Token.terminator kind (done.length + 1) text.length] ∧
          ∀ t ∈ body, t.kind.isTerminator = false) ∨
        (s'.pending.isSome = true ∧ ∀ t ∈ ts, t.kind.isTerminator = false))) ∧
    (r.tokens.toList.countP (·.kind.isTerminator) : Int) + Token.stringHeight r.tokens.toList +
      r.endOfInput.openHeight lines.length = lines.length ∧
    Token.Follows Token.Terminates r.tokens.toList := by
  obtain ⟨s, hs, hf⟩ := Table.tokenize_eq_ok h
  obtain ⟨-, hend, -⟩ := LexState.finish_eq_ok hf
  obtain ⟨us, htokens, hus⟩ := LexState.finish_adds hf
  have haccount := LexState.accounted_readLines hs
  -- what the end of the source adds is neither a terminator nor a string
  have hclosing : ∀ t ∈ us, t.kind.isTerminator = false ∧ t.kind ≠ .string := by
    intro t ht
    rcases hus t ht with hk | hk
    · rw [hk]
      exact ⟨rfl, nofun⟩
    · rw [hk]
      exact ⟨rfl, nofun⟩
  refine ⟨?_, ?_, ?_⟩
  · rintro done text ahead rfl
    obtain ⟨b, b', ts, hb, hline, hts, hadds, hprefix⟩ := readLines_split hs
    refine ⟨b, b', ts, hb, hline, hts, ?_, hadds.ends⟩
    rw [htokens]
    exact hprefix.trans (List.prefix_append _ _)
  · have hcount := haccount.count
    have hopen : s.openHeight (lines.length + 1) = r.endOfInput.openHeight lines.length := by
      rw [hend]
      unfold LexState.openHeight EndOfInput.openHeight
      cases s.pending with
      | none => rfl
      | some o =>
        simp only [Option.map_some, Position.of_line]
        omega
    rw [htokens, List.countP_append,
      LexState.countP_isTerminator_of_others fun t ht => (hclosing t ht).1,
      Token.stringHeight_append,
      Token.stringHeight_of_flat fun t ht hk => absurd hk (hclosing t ht).2]
    omega
  · rw [htokens]
    exact haccount.terminators.append fun t ht => Token.terminates_of_others (hclosing t ht).1

/-- Two strings over several lines within a bracket, a comment and a blank line. -/
theorem one_terminator_per_line_strings :
    ∃ r, (Table.ofOperators .core).tokenize .strict
        ["x = ('''a", "b''' + '''c", "d", "''')", "# e", ""] = .ok r ∧
      (r.tokens.toList.countP (·.kind.isTerminator) : Int) + Token.stringHeight r.tokens.toList +
        r.endOfInput.openHeight 6 = 6 ∧
      Token.Follows Token.Terminates r.tokens.toList := by
  have hrun : ((Table.ofOperators .core).tokenize .strict
      ["x = ('''a", "b''' + '''c", "d", "''')", "# e", ""]).isOk = true := by
    rw [Table.ofOperators, OperatorSet.matchOrder_core]
    decide +kernel
  cases hr : (Table.ofOperators .core).tokenize .strict
      ["x = ('''a", "b''' + '''c", "d", "''')", "# e", ""] with
  | error e =>
    rw [hr] at hrun
    cases hrun
  | ok r =>
    obtain ⟨-, hcount, hfollows⟩ := one_terminator_per_line hr
    exact ⟨r, rfl, hcount, hfollows⟩

end Offside
