import Offside.Proofs.Coverage
import Offside.Proofs.TripleQuote

/-!
# Where triple-quoted strings close

A string may close on its line, by a pattern, or lines later, by a search that starts anew on each
line. Both ways it closes where one scan of the whole source behind the opening delimiter stops,
and a string whose scan never stops is open when the source ends.
-/

namespace Offside

set_option autoImplicit false

open Source

namespace Table

variable {q : TripleQuote} {cs : List Char} {x : Lexeme}

theorem closed_lexeme (hn : '\n' ∉ cs) (h : lexeme? cs (closedEntry q) = some x) :
    ∃ pre body, IsStringPrefix pre ∧ x.text.toList = pre ++ q.delimiter ++ (body ++ q.delimiter) ∧
      q.scan (body ++ q.delimiter ++ x.rest) = some (body, q.delimiter ++ x.rest) := by
  obtain ⟨z, hz, -, -⟩ := lexeme?_eq_some h
  obtain ⟨pre, rest, hp, rfl⟩ := quoted_of_match?_closedTriple hz
  have hnr : '\n' ∉ rest := fun hm => hn (List.mem_append_right _ hm)
  cases hs : q.scan rest with
  | none =>
    rw [lexeme?_closed_eq_none hp hnr hs] at h
    cases h
  | some cut =>
    obtain ⟨body, after⟩ := cut
    obtain ⟨happ, more, rfl⟩ := TripleQuote.scan_eq_some hs
    rw [lexeme?_closed hp hnr hs] at h
    obtain rfl := Option.some.inj h
    refine ⟨pre, body, hp, String.toList_ofList, ?_⟩
    rw [List.append_assoc, happ]
    exact hs

/-- A string that does not close on its line takes all of it, and the scan does not stop there. -/
theorem open_lexeme (hn : '\n' ∉ cs) (hc : lexeme? cs (closedEntry q) = none)
    (h : lexeme? cs (openEntry q) = some x) :
    ∃ pre body, IsStringPrefix pre ∧ x.text.toList = pre ++ q.delimiter ++ body ∧
      q.scan body = none := by
  obtain ⟨z, hz, -, -⟩ := lexeme?_eq_some h
  obtain ⟨pre, rest, hp, rfl⟩ := quoted_of_match?_openTriple hz
  have hnr : '\n' ∉ rest := fun hm => hn (List.mem_append_right _ hm)
  rw [lexeme?_open hp hnr] at h
  obtain rfl := Option.some.inj h
  refine ⟨pre, rest, hp, String.toList_ofList, ?_⟩
  cases hs : q.scan rest with
  | none => rfl
  | some cut =>
    obtain ⟨body, after⟩ := cut
    obtain ⟨-, more, rfl⟩ := TripleQuote.scan_eq_some hs
    rw [lexeme?_closed hp hnr hs] at hc
    cases hc

end Table

namespace Source

def behindOpening (lines : List String) (p : Position) (pre : List Char) : List Char :=
  (joined lines).drop (offset lines p + pre.length + 3)

variable {lines : List String} {p : Position} {t : Token} {q : TripleQuote}
  {pre body rest : List Char}

theorem behindOpening_concat (hp : IsPlace lines p)
    (h : after lines p = pre ++ q.delimiter ++ rest) (hr : rest ≠ []) :
    behindOpening lines p pre ++ ['\n'] = rest := by
  rw [after_eq hp] at h
  have hlen := congrArg List.length h
  have hpos := List.length_pos_iff.mpr hr
  have hq : (pre ++ q.delimiter).length = pre.length + 3 := List.length_append
  simp only [List.length_append, List.length_singleton] at hlen hq
  have hle : pre.length + 3 ≤ ((joined lines).drop (offset lines p)).length := by omega
  have hd := congrArg (List.drop (pre.length + 3)) h
  rw [List.drop_append_of_le_length hle, List.drop_drop, List.drop_left' (by simpa using hq)] at hd
  rw [behindOpening, Nat.add_assoc]
  exact hd

theorem after_ne_nil (hp : IsPlace lines p) : after lines p ≠ [] := by
  rw [after_eq hp]
  simp

/-- A string between triple quotes ends with the delimiter at which the scan stops that starts
behind its opening delimiter. -/
def ClosesAtScan (lines : List String) (t : Token) : Prop :=
  ∀ pre q rest, IsStringPrefix pre → t.text.toList = pre ++ TripleQuote.delimiter q ++ rest →
    ∃ body after, q.scan (behindOpening lines t.span.start pre) = some (body, after) ∧
      rest = body ++ q.delimiter

theorem closesAtScan_of (body : List Char) (he : Exact lines t) (hp : IsStringPrefix pre)
    (ht : t.text.toList = pre ++ q.delimiter ++ (body ++ q.delimiter))
    (hs : q.scan (body ++ q.delimiter ++ after lines t.span.stop) =
      some (body, q.delimiter ++ after lines t.span.stop)) : ClosesAtScan lines t := by
  intro pre' q' rest' hp' ht'
  obtain ⟨rfl, rfl, rfl⟩ := opening_inj hp hp' (ht.symm.trans ht')
  have htext := he.text
  rw [ht, List.append_assoc] at htext
  rw [← behindOpening_concat he.start htext (by simp [after_ne_nil he.stop]),
    TripleQuote.scan_concat_lineFeed] at hs
  obtain ⟨⟨b, a⟩, hscan, hcut⟩ := Option.map_eq_some_iff.mp hs
  obtain ⟨rfl, -⟩ := Prod.mk.inj hcut
  exact ⟨_, a, hscan, rfl⟩

end Source

/-- The text of an open string begins with the delimiter, and the scan goes through the rest. -/
def OpenString.Unclosed (o : OpenString) : Prop :=
  ∃ pre body, IsStringPrefix pre ∧ o.text.toList = pre ++ o.quote.delimiter ++ body ∧
    body ≠ [] ∧ o.quote.Passes body

namespace Reading

/-- The strings of a run end where the scan stops, and one that is open has not come there. -/
structure Quoted (lines : List String) (r : Reading) : Prop where
  strings : ∀ t ∈ r.state.emitted.toList, t.kind = .string → ClosesAtScan lines t
  pending : ∀ o, r.state.pending = some o → o.Unclosed

variable {lines : List String} {line column : Nat} {s s' : LexState} {o : OpenString}
  {text : String} {rest : List Char} {ahead : List String} {a b : Reading}

theorem Quoted.emit (h : Quoted lines a) (ts : List Token)
    (he : b.state.emitted.toList = a.state.emitted.toList ++ ts)
    (ht : ∀ t ∈ ts, t.kind = .string → ClosesAtScan lines t)
    (hp : ∀ o, b.state.pending = some o → o.Unclosed) : Quoted lines b where
  strings := by
    rw [he]
    exact List.forall_mem_append.mpr ⟨h.strings, ht⟩
  pending := hp

theorem lineFeed_not_mem_rest (hn : ∀ l ∈ lines, '\n' ∉ l.toList)
    (ha : Anchored lines (within line column s rest ahead)) : '\n' ∉ rest := by
  obtain ⟨done, before, text, rfl, -, ht, -⟩ := ha
  intro hm
  apply hn text (by simp)
  rw [ht]
  exact List.mem_append_right _ hm

theorem Quoted.pass (h : Quoted lines (between line s (text :: ahead))) (hp : s.pending = some o)
    (hs : o.quote.seek text.toList = none) :
    Quoted lines (between (line + 1) (s.countLine.extend o text) ahead) := by
  refine h.emit [] (List.append_nil _).symm (by simp) ?_
  intro o' ho
  obtain rfl := Option.some.inj ho
  obtain ⟨pre, body, hpre, htext, -, hpass⟩ := h.pending o hp
  rw [TripleQuote.seek_eq_scan] at hs
  refine ⟨pre, body ++ (text.toList ++ ['\n']), hpre, by simp [htext], by simp, ?_⟩
  exact hpass.append (TripleQuote.passes_line hs)

theorem Sound.exact_last {ts : List Token} {t : Token} (h : Sound lines b)
    (he : b.state.emitted.toList = ts ++ [t]) (hk : t.kind.holdsText = true) : Exact lines t := by
  apply h.covered.exact t _ hk
  rw [he]
  exact List.mem_append_right _ List.mem_cons_self

theorem Quoted.close {before more : List Char} (h : Quoted lines (between line s (text :: ahead)))
    (hp : s.pending = some o)
    (hs : o.quote.scan text.toList = some (before, o.quote.delimiter ++ more))
    (hb : Sound lines (within line (before ++ o.quote.delimiter).length
      (s.countLine.close o line (before ++ o.quote.delimiter)) more ahead)) :
    Quoted lines (within line (before ++ o.quote.delimiter).length
      (s.countLine.close o line (before ++ o.quote.delimiter)) more ahead) := by
  have hemit := s.countLine.close_emitted o line (before ++ o.quote.delimiter)
  refine h.emit _ hemit ?_ nofun
  intro t ht _
  obtain rfl := List.mem_singleton.mp ht
  obtain ⟨pre, body, hpre, htext, -, hpass⟩ := h.pending o hp
  have happ := (TripleQuote.scan_eq_some hs).1
  have hscan := TripleQuote.scan_append hs ('\n' :: terminated ahead)
  -- the scan that started on an earlier line goes on where this line starts
  have hlong := hpass (text.toList ++ '\n' :: terminated ahead)
  rw [hscan, ← happ] at hlong
  refine closesAtScan_of (q := o.quote) (body ++ before) (hb.exact_last hemit rfl) hpre ?_ ?_
  · simp [htext]
  · rw [after_of_anchored hb.anchored]
    simpa [TripleQuote.behind] using hlong

theorem Quoted.margin (h : Quoted lines (between line s (text :: ahead))) (hp : s.pending = none)
    (hi : s.countLine.indent line (text.toList.takeWhile isMargin) = .ok s') :
    Quoted lines (within line (text.toList.takeWhile isMargin).length s'
      (text.toList.dropWhile isMargin) ahead) := by
  have hpending : ∀ o, s'.pending = some o → o.Unclosed := by
    intro o ho
    rw [LexState.indent_pending hi, LexState.countLine, hp] at ho
    cases ho
  rcases LexState.indent_cases hi with ⟨-, metrics, rfl⟩ | ⟨-, -, rfl⟩ | ⟨-, rfl⟩
  · exact h.emit _ (LexState.emit_emitted _ _) (by simp) hpending
  · refine h.emit _ (LexState.dedent_emitted _ _ _) ?_ hpending
    intro t ht hk
    rw [List.eq_of_mem_replicate ht] at hk
    cases hk
  · exact h.emit [] (List.append_nil _).symm (by simp) hpending

theorem Quoted.lexeme {ops : OperatorSet} {x : Lexeme} (hn : ∀ l ∈ lines, '\n' ∉ l.toList)
    (h : Quoted lines (within line column s rest ahead))
    (ha : Anchored lines (within line column s rest ahead))
    (hx : (Table.ofOperators ops).classify (rest.dropWhile isInlineSpace) = some x)
    (hs : s.take line (column + (rest.takeWhile isInlineSpace).length) x = .ok s')
    (hb : Sound lines
      (within line (column + (rest.takeWhile isInlineSpace).length + x.width) s' x.rest ahead)) :
    Quoted lines
      (within line (column + (rest.takeWhile isInlineSpace).length + x.width) s' x.rest ahead) := by
  have hnl : '\n' ∉ rest.dropWhile isInlineSpace := fun hm =>
    lineFeed_not_mem_rest hn ha ((List.dropWhile_sublist _).subset hm)
  rcases LexState.take_cases hs with ⟨hrole, b, hbr, rfl⟩ | ⟨q, hr, rfl⟩
  · obtain ⟨depth, metrics, rfl⟩ := LexState.bracket_eq hbr
    have hemit := LexState.emit_emitted { s with depth := depth, metrics := metrics }
      ⟨x.kind, x.text, .of line (column + (rest.takeWhile isInlineSpace).length),
        .of line (column + (rest.takeWhile isInlineSpace).length + x.width)⟩
    refine h.emit _ hemit ?_ h.pending
    intro t ht hk
    obtain rfl := List.mem_singleton.mp ht
    change x.kind = .string at hk
    cases Table.classify_cases hx with
    | head hkind =>
      rw [hk] at hkind
      rcases hkind with hkind | hkind <;> cases hkind
    | closed q hc =>
      obtain ⟨pre, body, hpre, htext, hscan⟩ := Table.closed_lexeme hnl hc
      have hlong := TripleQuote.scan_append hscan ('\n' :: terminated ahead)
      refine closesAtScan_of body (hb.exact_last hemit ?_) hpre htext ?_
      · exact holdsText_of_classify hx
      · rw [after_of_anchored hb.anchored]
        simpa using hlong
    | opens q _ ho =>
      have hrole' := (Table.role_of_lexeme? ho).2
      rw [hrole] at hrole'
      cases hrole'
    | short mark ho hsh =>
      -- the entries for triple-quoted strings did not match, so no delimiter starts here
      intro pre q more hpre htext
      obtain ⟨-, -, happ⟩ := Table.append_rest_of_classify hx
      change x.text.toList = _ at htext
      rw [htext, List.append_assoc] at happ
      exact absurd happ.symm (Table.ne_opening (ho q) hpre _)
    | plain hkind =>
      rw [hk] at hkind
      rcases hkind with hkind | hkind | hkind <;> cases hkind
  · obtain ⟨hc, ho⟩ := Table.classify_opens hx hr
    obtain ⟨pre, body, hpre, htext, hscan⟩ := Table.open_lexeme hnl hc ho
    refine h.emit [] (List.append_nil _).symm (by simp) ?_
    intro o hopen
    obtain rfl := Option.some.inj hopen
    exact ⟨pre, body ++ ['\n'], hpre, by simp [htext], by simp, TripleQuote.passes_line hscan⟩

theorem Quoted.step {ops : OperatorSet} (hn : ∀ l ∈ lines, '\n' ∉ l.toList)
    (h : Step (.ofOperators ops) a b) (ha : Anchored lines a) (hb : Sound lines b)
    (hq : Quoted lines a) : Quoted lines b := by
  cases h with
  | pass hp hs => exact hq.pass hp hs
  | close hp hs =>
    rw [TripleQuote.seek_eq_scan] at hs
    obtain ⟨more, rfl⟩ := (TripleQuote.scan_eq_some hs).2
    exact hq.close hp hs hb
  | continued hp => exact hq.emit [] (List.append_nil _).symm (by simp) hq.pending
  | blank hp => exact hq.emit _ (LexState.emit_emitted _ _) (by simp) hq.pending
  | remark hp =>
    rename_i line s text ahead _ _
    refine hq.emit [⟨.comment, String.ofList (text.toList.dropWhile isMargin),
      .of line (text.toList.takeWhile isMargin).length, .of line text.length⟩,
      ⟨.nl, "\n", .of line text.length, .of line (text.length + 1)⟩] ?_ (by simp) hq.pending
    simp [state, LexState.terminate, LexState.remark, LexState.countLine]
  | margin hp _ _ _ hi => exact hq.margin hp hi
  | lexeme hx hs => exact hq.lexeme hn ha hx hs hb
  | finish hr hp =>
    rename_i line column s rest ahead
    refine hq.emit _ (LexState.emit_emitted _ _) ?_ hq.pending
    intro t ht hk
    obtain rfl := List.mem_singleton.mp ht
    rcases Nat.eq_zero_or_pos s.depth with hd | hd
    · simp [hd] at hk
    · simp [hd] at hk
  | suspend hr hp => exact hq.emit [] (List.append_nil _).symm (by simp) hq.pending

theorem quoted_of_steps {ops : OperatorSet} (hops : ops.Reachable)
    (hn : ∀ l ∈ lines, '\n' ∉ l.toList) {r : Reading}
    (h : Steps (.ofOperators ops) (between 1 .start lines) r) : Sound lines r ∧ Quoted lines r := by
  have hstart : Quoted lines (between 1 .start lines) :=
    ⟨by simp [state, LexState.start], nofun⟩
  apply h.preserve (I := fun r => Sound lines r ∧ Quoted lines r)
  · rintro a b hstep ⟨ha, hq⟩
    have hb := ha.step hops hstep
    exact ⟨hb, hq.step hn hstep ha.anchored hb⟩
  · exact ⟨sound_start lines, hstart⟩

/-- An open string starts with its delimiter, and what the scan has before it is the lines ahead. -/
theorem Quoted.opening {r : Reading} (h : Quoted lines r) (hs : Sound lines r)
    (hn : ∀ l ∈ lines, '\n' ∉ l.toList) (hp : r.state.pending = some o) :
    r.rest = [] ∧ ∃ pre, IsStringPrefix pre ∧
      pre ++ o.quote.delimiter <+: (joined lines).drop (offset lines (.of o.line o.column)) ∧
      (o.quote.scan (behindOpening lines (.of o.line o.column) pre) = none →
        o.quote.scan (terminated r.ahead) = none) := by
  obtain ⟨hplace, -, hnl | ⟨hrest, hafter⟩⟩ := hs.held o hp
  · cases r with
    | between => cases hnl
    | within line column s rest ahead =>
      exact absurd (List.mem_of_head? hnl) (lineFeed_not_mem_rest hn hs.anchored)
  · obtain ⟨pre, body, hpre, htext, hne, hpass⟩ := h.pending o hp
    rw [htext, List.append_assoc] at hafter
    have hb := behindOpening_concat hplace hafter (by simp [hne])
    refine ⟨hrest, pre, hpre, ⟨behindOpening lines (.of o.line o.column) pre, ?_⟩, ?_⟩
    · have hsame : (pre ++ o.quote.delimiter ++
          behindOpening lines (.of o.line o.column) pre) ++ ['\n'] =
          (joined lines).drop (offset lines (.of o.line o.column)) ++ ['\n'] := by
        rw [← after_eq hplace, hafter, List.append_assoc, hb]
      exact List.append_cancel_right hsame
    · intro hnone
      have hscan := TripleQuote.scan_concat_lineFeed (q := o.quote)
        (behindOpening lines (.of o.line o.column) pre)
      rw [hb, hpass, hnone] at hscan
      exact Option.map_eq_none_iff.mp hscan

end Reading

/-- Lines in which the scan does not stop leave a string open. -/
theorem readLines_of_scan_none {t : Table} {line : Nat} {s : LexState} {o : OpenString}
    {ahead : List String} (hp : s.pending = some o)
    (hs : o.quote.scan (terminated ahead) = none) :
    ∃ s' o', t.readLines line s ahead = .ok s' ∧ s'.pending = some o' ∧
      o'.line = o.line ∧ o'.column = o.column := by
  -- the open string takes one more line with each step, and keeps the place where it started
  induction ahead generalizing line s o with
  | nil => exact ⟨s, o, rfl, hp, rfl, rfl⟩
  | cons text rest ih =>
    rw [terminated_cons] at hs
    have hline : o.quote.scan text.toList = none := by
      cases hl : o.quote.scan text.toList with
      | none => rfl
      | some cut =>
        rw [TripleQuote.scan_append hl] at hs
        cases hs
    have hrest : o.quote.scan (terminated rest) = none := by
      rw [List.append_cons, TripleQuote.passes_line hline] at hs
      exact Option.map_eq_none_iff.mp hs
    have hread : t.readLines line s (text :: rest) =
        t.readLines (line + 1) (s.countLine.extend o text) rest :=
      resume_of_step (.pass hp ((TripleQuote.seek_eq_scan _).trans hline))
    rw [hread]
    exact ih (o := { o with text := o.text ++ text ++ "\n" }) rfl hrest

theorem resume_of_rest_nil {t : Table} {r : Reading} {o : OpenString}
    (hp : r.state.pending = some o) (hr : r.rest = []) :
    ∃ line, t.resume r = t.readLines line r.state r.ahead := by
  cases r with
  | between line s ahead => exact ⟨line, rfl⟩
  | within line column s rest ahead =>
    obtain rfl : rest = [] := hr
    have hs : s.pending = some o := hp
    refine ⟨line + 1, ?_⟩
    rw [resume_within, finishLine_of_space rfl, hs]
    rfl

theorem tokenize_of_unterminated {t : Table} {lines : List String} {s : LexState} {o : OpenString}
    (h : t.readLines 1 .start lines = .ok s) (hp : s.pending = some o) :
    t.tokenize .strict lines = .error (.unterminatedString o.line o.column) ∧
      ∃ r, t.tokenize .lenient lines = .ok r ∧
        r.endOfInput.unterminated = some (.of o.line o.column) := by
  simp [Table.tokenize, h, LexState.finish, hp]

/-- The strings between triple quotes of a source, whether they close on their line or not, end
where the scan behind their opening delimiter stops. A string whose scan does not stop is what is
reported when the source ends. -/
theorem triple_quotes_close_at_scan {ops : OperatorSet} (hops : ops.Reachable)
    {lines : List String} (hn : ∀ l ∈ lines, '\n' ∉ l.toList) :
    (∀ policy r, (Table.ofOperators ops).tokenize policy lines = .ok r →
      ∀ t ∈ r.tokens.toList, t.kind = .string → ClosesAtScan lines t) ∧
    ∀ r, Steps (.ofOperators ops) (.between 1 .start lines) r →
      (∀ t ∈ r.state.emitted.toList, t.kind = .string → ClosesAtScan lines t) ∧
      ∀ o, r.state.pending = some o → ∃ pre, IsStringPrefix pre ∧
        pre ++ o.quote.delimiter <+: (joined lines).drop (offset lines (.of o.line o.column)) ∧
        (o.quote.scan (behindOpening lines (.of o.line o.column) pre) = none →
          (Table.ofOperators ops).tokenize .strict lines =
            .error (.unterminatedString o.line o.column) ∧
          ∃ r', (Table.ofOperators ops).tokenize .lenient lines = .ok r' ∧
            r'.endOfInput.unterminated = some (.of o.line o.column)) := by
  constructor
  · intro policy r h t ht hk
    obtain ⟨s, hs, hf⟩ := Table.tokenize_eq_ok h
    obtain ⟨htokens, -, -⟩ := LexState.finish_eq_ok hf
    have hsteps := readLines_steps [] hs
    rw [List.append_nil] at hsteps
    obtain ⟨-, hq⟩ := Reading.quoted_of_steps hops hn hsteps
    -- what the end of the source adds is no string
    rw [htokens] at ht
    rcases List.mem_append.mp ht with ht | ht
    · rcases List.mem_append.mp ht with ht | ht
      · exact hq.strings t ht hk
      · rw [List.eq_of_mem_replicate ht] at hk
        cases hk
    · rw [List.mem_singleton.mp ht] at hk
      cases hk
  · intro r hr
    obtain ⟨hsound, hq⟩ := Reading.quoted_of_steps hops hn hr
    refine ⟨hq.strings, ?_⟩
    intro o hp
    obtain ⟨hrest, pre, hpre, hhead, hscan⟩ := hq.opening hsound hn hp
    refine ⟨pre, hpre, hhead, ?_⟩
    intro hnone
    obtain ⟨line, hresume⟩ := resume_of_rest_nil (t := .ofOperators ops) hp hrest
    obtain ⟨s', o', hok, hp', hl, hc⟩ := readLines_of_scan_none hp (hscan hnone)
    have hrun := (resume_of_steps hr).trans (hresume.trans hok)
    rw [← hl, ← hc]
    exact tokenize_of_unterminated hrun hp'

/-- A string that goes over a line end and past an escaped delimiter, and one that stays open. -/
theorem triple_quotes_close_at_scan_escaped :
    (∃ r, (Table.ofOperators .core).tokenize .lenient
        ["x = r'''a\\", " \\''' b''' ''", "b\"\"\"c"] = .ok r ∧
      r.endOfInput.unterminated = some (.of 3 0) ∧
      ∀ t ∈ r.tokens.toList, t.kind = .string →
        ClosesAtScan ["x = r'''a\\", " \\''' b''' ''", "b\"\"\"c"] t) ∧
    (Table.ofOperators .core).tokenize .strict ["x = r'''a\\", " \\''' b''' ''", "b\"\"\"c"] =
      .error (.unterminatedString 3 0) := by
  have hn : ∀ l ∈ ["x = r'''a\\", " \\''' b''' ''", "b\"\"\"c"], '\n' ∉ l.toList := by decide
  have hrun : ((Table.ofOperators .core).readLines 1 .start
      ["x = r'''a\\", " \\''' b''' ''", "b\"\"\"c"]).toOption.bind LexState.pending =
        some ⟨.double, "b\"\"\"c\n", 3, 0⟩ := by
    rw [Table.ofOperators, OperatorSet.matchOrder_core]
    decide +kernel
  obtain ⟨hstrings, hopen⟩ := triple_quotes_close_at_scan (.ofPreset .core) hn
  cases hs : (Table.ofOperators .core).readLines 1 .start
      ["x = r'''a\\", " \\''' b''' ''", "b\"\"\"c"] with
  | error e =>
    rw [hs] at hrun
    cases hrun
  | ok s =>
    rw [hs] at hrun
    have hsteps := readLines_steps [] hs
    obtain ⟨-, hpending⟩ := hopen _ hsteps
    obtain ⟨pre, hpre, ⟨rest, hhead⟩, hend⟩ := hpending _ hrun
    have hb : IsStringPrefix ['b'] := ⟨by decide, List.forall_mem_singleton.mpr rfl⟩
    have happ : ['b'] ++ TripleQuote.double.delimiter ++ ['c'] =
        pre ++ TripleQuote.double.delimiter ++ rest := (hhead.trans (by decide)).symm
    obtain ⟨rfl, -, -⟩ := opening_inj hb hpre happ
    obtain ⟨hstrict, r, hr, hu⟩ := hend (by decide)
    exact ⟨⟨r, hr, hu, hstrings _ r hr⟩, hstrict⟩

end Offside
