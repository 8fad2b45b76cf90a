import Offside.Proofs.Terminators

/-!
# Logical lines

A logical line consists of names, numbers, strings and operators, and its last terminator is of a
kind of its own. Blank lines and lines that hold a comment only are no logical lines. But a form
feed is white space between lexemes and no part of a margin, so a comment behind one is not seen
before the line is cut into lexemes, and its line ends like a logical one. `Table.hidesComment` is
true of these lines and of no others.
-/

namespace Offside

set_option autoImplicit false

namespace Kind

def isContent : Kind → Bool
  | name | number | string | op => true
  | encoding | comment | indent | dedent | newline | nl | endMarker | unknown => false

def isBoundary (k : Kind) : Bool := k == newline || k == encoding

theorem isContent_of_isLexeme {k : Kind} (h : k.isLexeme = true) (hk : k ≠ comment) :
    k.isContent = true := by
  cases k <;> first | rfl | exact absurd rfl hk | cases h

theorem isBoundary_of_isLexeme {k : Kind} (h : k.isLexeme = true) : k.isBoundary = false := by
  cases k <;> first | rfl | cases h

end Kind

namespace Token

def hasContent (ts : List Token) : Bool := ts.any (·.kind.isContent)

/-- The tokens behind the end of the last logical line, or behind the encoding marker. -/
def sinceNewline (ts : List Token) : List Token := since Kind.isBoundary ts

variable {ts us : List Token}

@[simp] theorem hasContent_append (ts us : List Token) :
    hasContent (ts ++ us) = (hasContent ts || hasContent us) :=
  List.any_append

theorem hasContent_of_bracketDepth (h : bracketDepth ts ≠ 0) : hasContent ts = true := by
  by_contra hcontent
  refine h (bracketDepth_of_ne_op ?_)
  intro t ht hop
  refine hcontent (List.any_eq_true.mpr ⟨t, ht, ?_⟩)
  rw [hop]
  rfl

theorem hasContent_of_blocks (h : ∀ t ∈ ts, t.kind = .indent ∨ t.kind = .dedent) :
    hasContent ts = false := by
  rw [hasContent, List.any_eq_false]
  intro t ht
  rcases h t ht with hk | hk
  · simp [hk, Kind.isContent]
  · simp [hk, Kind.isContent]

theorem hasContent_sinceNewline_append (h : ∀ u ∈ us, u.kind.isBoundary = false)
    (ts : List Token) :
    hasContent (sinceNewline (ts ++ us)) = (hasContent (sinceNewline ts) || hasContent us) := by
  rw [sinceNewline, since_append h, hasContent_append, sinceNewline]

theorem hasContent_sinceNewline_newline (ts : List Token) (line length : Nat) :
    hasContent (sinceNewline (ts ++ [terminator .newline line length])) = false := by
  rw [sinceNewline, since_concat (by rfl)]
  rfl

theorem Follows.mono {R R' : List Token → Token → Prop} (h : Follows R ts)
    (hR : ∀ before t, R before t → R' before t) : Follows R' ts :=
  fun before t hprefix => hR before t (h before t hprefix)

end Token

theorem dropWhile_isInlineSpace_margin (text : List Char) :
    (text.dropWhile isMargin).dropWhile isInlineSpace = text.dropWhile isInlineSpace := by
  have hmargin : ∀ c ∈ text.takeWhile isMargin, isInlineSpace c = true := fun c hc =>
    isInlineSpace_of_isMargin (List.mem_takeWhile_imp hc)
  calc
    (text.dropWhile isMargin).dropWhile isInlineSpace =
        (text.takeWhile isMargin ++ text.dropWhile isMargin).dropWhile isInlineSpace :=
      (List.dropWhile_append_of_pos hmargin).symm
    _ = text.dropWhile isInlineSpace := by rw [List.takeWhile_append_dropWhile]

namespace Table

variable {ops : OperatorSet} {text : List Char}

/-- Whether a line holds a comment only, behind a form feed. -/
def hidesComment (t : Table) (text : List Char) : Bool :=
  (text.dropWhile isMargin).head? == some '\x0c' &&
    (t.classify (text.dropWhile isInlineSpace)).any (·.kind == .comment)

/-- White space that stands behind a margin starts with a form feed. -/
theorem head?_of_space
    (h : (text.dropWhile isMargin).head? ≠ (text.dropWhile isInlineSpace).head?) :
    (text.dropWhile isMargin).head? = some '\x0c' := by
  rw [← dropWhile_isInlineSpace_margin] at h
  cases hbody : text.dropWhile isMargin with
  | nil => simp [hbody] at h
  | cons c rest =>
    have hc : isMargin c = false := by
      simpa [hbody] using List.head_dropWhile_not isMargin
        (show text.dropWhile isMargin ≠ [] by simp [hbody])
    have hspace : isInlineSpace c = true := by
      by_contra hno
      simp [hbody, List.dropWhile_cons_of_neg hno] at h
    simp only [isInlineSpace, Bool.or_eq_true, beq_iff_eq] at hspace
    simp only [isMargin, Bool.or_eq_false_iff, beq_eq_false_iff_ne, ne_eq] at hc
    rcases hspace with (h | h) | h
    · exact absurd h hc.1
    · exact absurd h hc.2
    · rw [h]
      rfl

/-- A line whose first lexeme is a comment hides it, unless the comment stands behind a margin
only. -/
theorem hidesComment_iff (hc : (text.dropWhile isMargin).head? ≠ some '#') :
    (ofOperators ops).hidesComment text = true ↔
      ∃ x, (ofOperators ops).classify (text.dropWhile isInlineSpace) = some x ∧
        x.kind = .comment := by
  simp only [hidesComment, Bool.and_eq_true, beq_iff_eq, Option.any_eq_true]
  constructor
  · rintro ⟨-, h⟩
    exact h
  · rintro ⟨x, hx, hk⟩
    refine ⟨head?_of_space ?_, x, hx, hk⟩
    rw [(classify_comment hx hk).1]
    exact hc

/-- Without an operator that starts like a comment, what is hidden starts with the mark of
comments. -/
theorem hidesComment_eq (hops : ∀ op ∈ ops.members, op.toList.head? ≠ some '#') :
    (ofOperators ops).hidesComment text =
      ((text.dropWhile isMargin).head? == some '\x0c' &&
        (text.dropWhile isInlineSpace).head? == some '#') := by
  unfold hidesComment
  congr 1
  rw [Bool.eq_iff_iff, beq_iff_eq, Option.any_eq_true]
  constructor
  · rintro ⟨x, hx, hk⟩
    exact (classify_comment hx (beq_iff_eq.mp hk)).1
  · intro h
    obtain ⟨rest, hrest⟩ := List.head?_eq_some_iff.mp h
    obtain ⟨x, hx, hk⟩ := classify_hash hops rest
    rw [hrest]
    exact ⟨x, hx, beq_iff_eq.mpr hk⟩

end Table

section Scan

variable {ops : OperatorSet} {line column : Nat} {s c : LexState} {rest : List Char}

theorem scan_first (hn : '\n' ∉ rest) (hp : s.pending = none)
    (hr : rest.all isInlineSpace = false)
    (h : (Table.ofOperators ops).scan line s column rest = .ok c) :
    ∃ x ts, (Table.ofOperators ops).classify (rest.dropWhile isInlineSpace) = some x ∧
      s.Cut line c ts ∧
      (x.kind = .comment → c.pending = none ∧ ∃ span, ts = [⟨.comment, x.text, span⟩]) ∧
      (x.kind ≠ .comment → c.pending.isSome = true ∨ Token.hasContent ts = true) := by
  rcases scan_cases h with ⟨hblank, -⟩ | ⟨x, b, hx, hb, hrest⟩
  · rw [hblank] at hr
    cases hr
  have hlexeme := Table.isLexeme_of_classify hx
  have hcut := LexState.cut_of_take hlexeme hb
  by_cases hk : x.kind = .comment
  · obtain ⟨-, hrole, hend⟩ := Table.classify_comment hx hk
    have hempty : x.rest = [] := by
      rcases hend with hend | hend
      · exact hend
      · obtain ⟨-, -, happ⟩ := Table.append_rest_of_classify hx
        have hmem : '\n' ∈ rest.dropWhile isInlineSpace := by
          rw [← happ]
          exact List.mem_append_right _ (List.mem_of_head? hend)
        exact absurd ((List.dropWhile_sublist _).mem hmem) hn
    -- nothing is left of the line, so the comment is its last lexeme as well
    rw [hempty, scan_of_space rfl] at hrest
    obtain rfl := Except.ok.inj hrest
    rw [if_pos hrole, hk] at hcut
    refine ⟨x, _, hx, hcut, fun _ => ⟨?_, _, rfl⟩, fun hne => absurd hk hne⟩
    rcases LexState.take_cases hb with ⟨-, d, hd, rfl⟩ | ⟨quote, hopens, -⟩
    · obtain ⟨depth, metrics, rfl⟩ := LexState.bracket_eq hd
      exact hp
    · rw [hrole] at hopens
      cases hopens
  · obtain ⟨ts, hts⟩ := cut_of_scan hrest
    refine ⟨x, _, hx, hcut.trans hts, fun h => absurd h hk, fun _ => ?_⟩
    rcases LexState.take_cases hb with ⟨hrole, -⟩ | ⟨quote, -, rfl⟩
    · have hcontent := Kind.isContent_of_isLexeme hlexeme hk
      rw [if_pos hrole, Token.hasContent_append]
      exact .inr (by simp [Token.hasContent, hcontent])
    · -- once a string is open, the rest of the line leaves it or another one open
      rcases hts.pending with hsame | ⟨o, ho, -⟩
      · exact .inl (by rw [hsame]; rfl)
      · exact .inl (by rw [ho]; rfl)

end Scan

namespace LexState

open Token

/-- What a line outside strings and brackets adds to the tokens; `isOpen` tells whether it leaves a
string open. -/
inductive AddsLogical (t : Table) (line : Nat) (text : String) (isOpen : Bool) :
    List Token → Prop
  /-- A blank line. -/
  | blank (hb : text.toList.all isInlineSpace = true) :
      AddsLogical t line text isOpen [terminator .nl line text.length]
  /-- A line that holds a comment only, behind a margin. -/
  | remark {c : Token} (hc : (text.toList.dropWhile isMargin).head? = some '#')
      (hk : c.kind = .comment) :
      AddsLogical t line text isOpen [c, terminator .nl line text.length]
  /-- A line that holds a comment only, behind a form feed. -/
  | hidden {head : List Token} {c : Token} (hc : t.hidesComment text.toList = true)
      (hh : ∀ t ∈ head, t.kind = .indent ∨ t.kind = .dedent) (hk : c.kind = .comment) :
      AddsLogical t line text isOpen (head ++ [c, terminator .newline line text.length])
  /-- A line with content. -/
  | content {ts : List Token} (hb : text.toList.all isInlineSpace = false)
      (hc : (text.toList.dropWhile isMargin).head? ≠ some '#')
      (hh : t.hidesComment text.toList = false) (h : isOpen = true ∨ hasContent ts = true) :
      AddsLogical t line text isOpen ts

variable {ops : OperatorSet} {line column : Nat} {s s' b c : LexState} {text : String}
  {ts head : List Token}

/-- A line that hides a comment is no blank line and none that starts with its comment. -/
theorem AddsLogical.of_hidesComment {t : Table} {isOpen : Bool}
    (h : AddsLogical t line text isOpen ts) (hc : t.hidesComment text.toList = true) :
    ∃ head c, ts = head ++ [c, terminator .newline line text.length] ∧
      (∀ t ∈ head, t.kind = .indent ∨ t.kind = .dedent) ∧ c.kind = .comment := by
  have hhides := hc
  simp only [Table.hidesComment, Bool.and_eq_true, beq_iff_eq, Option.any_eq_true] at hhides
  obtain ⟨hfeed, x, hx, -⟩ := hhides
  cases h with
  | blank hb =>
    have hempty : text.toList.dropWhile isInlineSpace = [] :=
      List.dropWhile_eq_nil_iff.mpr (List.all_eq_true.mp hb)
    exact absurd hempty (ne_nil_of_classify hx)
  | remark hmark =>
    rw [hfeed] at hmark
    exact absurd hmark (by decide)
  | hidden _ hh hk => exact ⟨_, _, rfl, hh, hk⟩
  | content _ _ hh =>
    rw [hc] at hh
    cases hh

/-- What is cut out of a line behind its margin, with the blocks and the terminator around it. -/
theorem scan_addsLogical (hn : '\n' ∉ text.toList) (hb : text.toList.all isInlineSpace = false)
    (hc : (text.toList.dropWhile isMargin).head? ≠ some '#') (hp : b.pending = none)
    (hd : b.depth = 0) (hh : ∀ t ∈ head, t.kind = .indent ∨ t.kind = .dedent)
    (h : (Table.ofOperators ops).scan line b column (text.toList.dropWhile isMargin) = .ok c) :
    ∃ ts, b.Cut line c ts ∧
      (c.pending.isSome = true →
        AddsLogical (.ofOperators ops) line text c.pending.isSome (head ++ ts)) ∧
      (c.pending = none → AddsLogical (.ofOperators ops) line text c.pending.isSome
        (head ++ ts ++ [terminator (if 0 < c.depth then .nl else .newline) line text.length])) := by
  have hbody : '\n' ∉ text.toList.dropWhile isMargin := fun hmem =>
    hn ((List.dropWhile_sublist _).mem hmem)
  obtain ⟨x, ts, hx, hcut, hcomment, hother⟩ :=
    scan_first hbody hp ((all_dropWhile_isMargin _).trans hb) h
  rw [dropWhile_isInlineSpace_margin] at hx
  refine ⟨ts, hcut, ?_⟩
  by_cases hkind : x.kind = .comment
  · obtain ⟨hpend, span, rfl⟩ := hcomment hkind
    have hdepth : c.depth = 0 := by
      have hflat := hcut.depth
      rw [bracketDepth_of_ne_op (by simp)] at hflat
      omega
    constructor
    · intro hopen
      rw [hpend] at hopen
      cases hopen
    · intro _
      rw [if_neg (by omega), List.append_assoc]
      exact .hidden ((Table.hidesComment_iff hc).mpr ⟨x, hx, hkind⟩) hh rfl
  · have hshown : (Table.ofOperators ops).hidesComment text.toList = false := by
      rw [Bool.eq_false_iff, ne_eq, Table.hidesComment_iff hc]
      rintro ⟨y, hy, hky⟩
      obtain rfl := Option.some.inj (hx.symm.trans hy)
      exact hkind hky
    constructor
    · intro hopen
      exact .content hb hc hshown (.inl hopen)
    · intro hpend
      have hcontent : hasContent ts = true := (hother hkind).resolve_left (by simp [hpend])
      exact .content hb hc hshown (.inr (by simp [hcontent]))

theorem readLine_addsLogical (hn : '\n' ∉ text.toList) (hp : s.pending = none) (hd : s.depth = 0)
    (h : (Table.ofOperators ops).readLine line s text.toList = .ok s') :
    ∃ ts, s'.emitted.toList = s.emitted.toList ++ ts ∧
      AddsLogical (.ofOperators ops) line text s'.pending.isSome ts := by
  rcases readLine_cases [] h with hstep | ⟨column, b, rest, c, hstep, -, hscan, hend⟩
  · cases hstep with
    | pass hp' =>
      rw [hp] at hp'
      cases hp'
    | blank _ _ hb =>
      rw [all_dropWhile_isMargin] at hb
      exact ⟨_, terminate_emitted .., .blank hb⟩
    | remark _ _ hc => exact ⟨_, remark_emitted .., .remark hc rfl⟩
  · cases hstep with
    | close hp' =>
      rw [hp] at hp'
      cases hp'
    | continued _ hd' => omega
    | margin _ _ hb hc hi =>
      obtain ⟨head, hhead, hk⟩ := indent_emitted hi
      rw [all_dropWhile_isMargin] at hb
      obtain ⟨ts, hcut, hopen, hclosed⟩ := scan_addsLogical hn hb hc ((indent_pending hi).trans hp)
        ((indent_depth hi).trans hd) (fun t ht => (hk t ht).1) hscan
      have hemitted : c.emitted.toList = s.emitted.toList ++ (head ++ ts) := by
        rw [hcut.emitted, hhead, List.append_assoc]
        rfl
      rcases hend with ⟨hpend, rfl⟩ | ⟨hpend, rfl⟩
      · exact ⟨_, hemitted, hopen hpend⟩
      · refine ⟨_, ?_, hclosed hpend⟩
        rw [terminate_emitted, hemitted, List.append_assoc]

/-- Between lines, a logical line has begun within brackets and has not outside of brackets and
strings. -/
structure Logical (s : LexState) : Prop where
  begun : 0 < s.depth → hasContent (sinceNewline s.emitted.toList) = true
  ended : s.pending = none → s.depth = 0 → hasContent (sinceNewline s.emitted.toList) = false

theorem Heading.inside (hh : s.Heading line head) (hts : Lexemes line ts) :
    ∀ t ∈ head ++ ts, t.kind.isBoundary = false := by
  refine List.forall_mem_append.mpr ⟨?_, fun t ht => Kind.isBoundary_of_isLexeme (hts t ht).1⟩
  intro t ht
  rcases (hh.kinds t ht).1 with hk | hk | hk
  all_goals
    rw [hk]
    rfl

theorem Logical.begun_of_depth (h : s.Logical) (hh : s.Heading line head)
    (hts : Lexemes line ts) (hd : (s'.depth : Int) = s.depth + bracketDepth ts)
    (hpos : 0 < s'.depth) :
    hasContent (sinceNewline (s.emitted.toList ++ (head ++ ts))) = true := by
  rw [hasContent_sinceNewline_append (hh.inside hts), hasContent_append, Bool.or_eq_true,
    Bool.or_eq_true]
  rcases Nat.eq_zero_or_pos s.depth with hzero | hpos'
  · exact .inr (.inr (hasContent_of_bracketDepth (by omega)))
  · exact .inl (h.begun hpos')

/-- The line of a terminator of logical lines has begun no logical line exactly if it hides a
comment. -/
theorem Logical.newline (h : s.Logical) (hn : '\n' ∉ text.toList)
    (hline : (Table.ofOperators ops).readLine line s text.toList = .ok s')
    (hh : s.Heading line head) (hts : Lexemes line ts) (hp' : s'.pending = none)
    (hemitted : s'.emitted.toList =
      s.emitted.toList ++ (head ++ ts ++ [terminator .newline line text.length])) :
    hasContent (sinceNewline (s.emitted.toList ++ (head ++ ts))) = false ↔
      s.pending = none ∧ s.depth = 0 ∧
        (Table.ofOperators ops).hidesComment text.toList = true := by
  have hbegun := hasContent_sinceNewline_append (hh.inside hts) s.emitted.toList
  cases hh with
  | string value column hp =>
    rw [hbegun]
    simp [hasContent, Kind.isContent, hp]
  | bare hp hd =>
    rw [hbegun, h.begun hd]
    simp [Nat.ne_of_gt hd]
  | blocks hp hd hk =>
    obtain ⟨us, hus, hadds⟩ := readLine_addsLogical hn hp hd hline
    obtain rfl := List.append_cancel_left (hus.symm.trans hemitted)
    rw [hbegun, h.ended hp hd, Bool.false_or]
    -- what the line holds tells which of its tokens the terminator follows
    generalize hall : head ++ ts ++ [terminator .newline line text.length] = all at hadds
    cases hadds with
    | blank => simpa [terminator] using congrArg List.getLast? hall
    | remark => simpa [terminator] using congrArg List.getLast? hall
    | @hidden blocks c hc hblocks hcomment =>
      rw [List.append_cons blocks] at hall
      have hsame := List.append_cancel_right hall
      rw [hsame, hasContent_append, hasContent_of_blocks hblocks]
      simp [hasContent, hcomment, Kind.isContent, hp, hd, hc]
    | content _ _ hshown hcontent =>
      rw [← hall, hp', hasContent_append] at hcontent
      simp only [Option.isSome_none, Bool.false_eq_true, false_or] at hcontent
      have hbody : hasContent (head ++ ts) = true := by
        simpa [hasContent, terminator, Kind.isContent] using hcontent
      simp [hbody, hshown]

theorem Logical.adds (h : s.Logical) (hs' : s'.emitted.toList = s.emitted.toList ++ ts)
    (hadds : s.Adds line text.length s' ts) : s'.Logical := by
  cases hadds with
  | inside hp hp' ho hd =>
    constructor
    · intro hpos
      rw [hs', List.append_nil]
      exact h.begun (hd ▸ hpos)
    · intro hnone
      rw [hp'] at hnone
      cases hnone
  | blank hp hd hp' hd' =>
    constructor
    · omega
    · intro _ _
      rw [hs', hasContent_sinceNewline_append (by simp [terminator, Kind.isBoundary]),
        h.ended hp hd]
      rfl
  | remark hp hd hp' hd' =>
    constructor
    · omega
    · intro _ _
      rw [hs', hasContent_sinceNewline_append (by simp [terminator, Kind.isBoundary]),
        h.ended hp hd]
      rfl
  | suspended hh hts hd hp' =>
    constructor
    · intro hpos
      rw [hs']
      exact h.begun_of_depth hh hts hd hpos
    · intro hnone
      rw [hp'] at hnone
      cases hnone
  | ended hh hts hd hp' =>
    rw [← List.append_assoc] at hs'
    constructor
    · intro hpos
      rw [if_pos hpos] at hs'
      rw [hs', hasContent_sinceNewline_append (by simp [terminator, Kind.isBoundary]),
        h.begun_of_depth hh hts hd hpos, Bool.true_or]
    · intro _ hzero
      rw [if_neg (by omega)] at hs'
      rw [hs', hasContent_sinceNewline_newline]

/-- Each terminator of logical lines ends a line of the source, and no logical line has begun before
it exactly if that line hides a comment. -/
def EndsLogical (t : Table) (lines : List String) (before : List Token) (u : Token) : Prop :=
  u.kind = .newline → ∃ done text ahead s, lines = done ++ text :: ahead ∧
    t.readLines 1 .start done = .ok s ∧
    u = terminator .newline (done.length + 1) text.length ∧
    (hasContent (sinceNewline before) = false ↔
      s.pending = none ∧ s.depth = 0 ∧ t.hidesComment text.toList = true)

theorem endsLogical_of_others {t : Table} {u : Token} (h : u.kind.isTerminator = false)
    (lines : List String) (before : List Token) : EndsLogical t lines before u := by
  intro hk
  rw [hk] at h
  cases h

theorem EndsLogical.extend {t : Table} {done : List String} {before : List Token} {u : Token}
    (h : EndsLogical t done before u) (ahead : List String) :
    EndsLogical t (done ++ ahead) before u := by
  intro hk
  obtain ⟨first, text, rest, s, rfl, hs, hu, hiff⟩ := h hk
  exact ⟨first, text, rest ++ ahead, s, by simp, hs, hu, hiff⟩

theorem Logical.endsLogical {done : List String} (h : s.Logical) (hn : '\n' ∉ text.toList)
    (hs : (Table.ofOperators ops).readLines 1 .start done = .ok s)
    (hline : (Table.ofOperators ops).readLine (done.length + 1) s text.toList = .ok s')
    (hs' : s'.emitted.toList = s.emitted.toList ++ ts)
    (hadds : s.Adds (done.length + 1) text.length s' ts)
    (hbefore : Follows (EndsLogical (.ofOperators ops) (done ++ [text])) s.emitted.toList) :
    Follows (EndsLogical (.ofOperators ops) (done ++ [text])) s'.emitted.toList := by
  rw [hs']
  cases hadds with
  | inside => simpa using hbefore
  | blank => exact hbefore.append (by simp [EndsLogical, terminator])
  | remark => exact hbefore.append (by simp [EndsLogical, terminator])
  | suspended hh hts =>
    exact hbefore.append fun t ht => endsLogical_of_others (hh.others hts t ht) _
  | @ended head ts hh hts hd hp' =>
    rw [← List.append_assoc]
    refine follows_concat.mpr ⟨hbefore.append fun t ht =>
      endsLogical_of_others (hh.others hts t ht) _, ?_⟩
    intro hk
    have hzero : ¬ 0 < s'.depth := by
      intro hpos
      rw [if_pos hpos] at hk
      cases hk
    rw [if_neg hzero] at hs' ⊢
    exact ⟨done, text, [], s, rfl, hs, rfl, h.newline hn hline hh hts hp' hs'⟩

theorem logical_start : start.Logical where
  begun h := absurd h (by decide)
  ended _ _ := by decide

theorem logical_readLines {lines : List String} (hlines : ∀ text ∈ lines, '\n' ∉ text.toList)
    (h : (Table.ofOperators ops).readLines 1 .start lines = .ok s) :
    s.Logical ∧ Follows (EndsLogical (.ofOperators ops) lines) s.emitted.toList := by
  refine readLines_induction (I := fun done s => s.Logical ∧
    Follows (EndsLogical (.ofOperators ops) done) s.emitted.toList) h ⟨logical_start, ?_⟩ ?_
  · exact follows_start (endsLogical_of_others rfl [] [])
  · rintro done text ahead s s' rfl hs ⟨hlogical, hends⟩ hline
    obtain ⟨ts, hs', hadds⟩ := readLine_adds hline
    have hn : '\n' ∉ text.toList := hlines text (by simp)
    refine ⟨hlogical.adds hs' hadds, hlogical.endsLogical hn hs hline hs' hadds ?_⟩
    exact hends.mono fun before t h => h.extend [text]

end LexState

/-- The terminator of logical lines stands behind content, except on the lines that hide a comment;
what else a line outside strings and brackets adds depends on what it holds. -/
theorem newlines_end_content {ops : OperatorSet} {policy : EndPolicy} {lines : List String}
    {r : Tokenization} (hlines : ∀ text ∈ lines, '\n' ∉ text.toList)
    (h : (Table.ofOperators ops).tokenize policy lines = .ok r) :
    (∀ before u, before ++ [u] <+: r.tokens.toList → u.kind = .newline →
      ∃ done text ahead s, lines = done ++ text :: ahead ∧
        (Table.ofOperators ops).readLines 1 .start done = .ok s ∧
        u = Token.terminator .newline (done.length + 1) text.length ∧
        (Token.hasContent (Token.sinceNewline before) = false ↔
          s.pending = none ∧ s.depth = 0 ∧
            (Table.ofOperators ops).hidesComment text.toList = true)) ∧
    ∀ done text ahead, lines = done ++ text :: ahead → ∃ s s' ts,
      (Table.ofOperators ops).readLines 1 .start done = .ok s ∧
      (Table.ofOperators ops).readLine (done.length + 1) s text.toList = .ok s' ∧
      s'.emitted.toList = s.emitted.toList ++ ts ∧ s'.emitted.toList <+: r.tokens.toList ∧
      (s.pending = none → s.depth = 0 →
        LexState.AddsLogical (.ofOperators ops) (done.length + 1) text s'.pending.isSome ts) := by
  obtain ⟨s, hs, hf⟩ := Table.tokenize_eq_ok h
  obtain ⟨us, htokens, hus⟩ := LexState.finish_adds hf
  rw [htokens]
  constructor
  · refine (LexState.logical_readLines hlines hs).2.append ?_
    intro t ht before
    refine LexState.endsLogical_of_others ?_ lines before
    rcases hus t ht with hk | hk
    · rw [hk]
      rfl
    · rw [hk]
      rfl
  · rintro done text ahead rfl
    obtain ⟨b, b', ts, hb, hline, hts, -, hprefix⟩ := readLines_split hs
    refine ⟨b, b', ts, hb, hline, hts, hprefix.trans (List.prefix_append _ _), ?_⟩
    intro hp hd
    obtain ⟨vs, hvs, hadds⟩ := LexState.readLine_addsLogical (hlines text (by simp)) hp hd hline
    obtain rfl := List.append_cancel_left (hvs.symm.trans hts)
    exact hadds

/-- A logical line, a comment, a blank line and a comment behind a form feed. -/
theorem newlines_end_content_comments :
    (∀ text ∈ ["x = 1", "# c", "", "\x0c# d"], '\n' ∉ text.toList) ∧
      ∃ (r : Tokenization) (s s' : LexState) (head : List Token) (c : Token),
        (Table.ofOperators .core).tokenize .strict ["x = 1", "# c", "", "\x0c# d"] = .ok r ∧
        (Table.ofOperators .core).readLines 1 .start ["x = 1", "# c", ""] = .ok s ∧
        s'.emitted.toList =
          s.emitted.toList ++ (head ++ [c, Token.terminator .newline 4 "\x0c# d".length]) ∧
        s'.emitted.toList <+: r.tokens.toList ∧ c.kind = .comment := by
  have hlines : ∀ text ∈ ["x = 1", "# c", "", "\x0c# d"], '\n' ∉ text.toList := by decide
  have hrun : ((Table.ofOperators .core).tokenize .strict
      ["x = 1", "# c", "", "\x0c# d"]).isOk = true := by
    rw [Table.ofOperators, OperatorSet.matchOrder_core]
    decide +kernel
  have hstate : ((Table.ofOperators .core).readLines 1 .start ["x = 1", "# c", ""]).toOption.map
      (fun s => (s.pending, s.depth)) = some (none, 0) := by
    rw [Table.ofOperators, OperatorSet.matchOrder_core]
    decide +kernel
  have hhides : (Table.ofOperators .core).hidesComment "\x0c# d".toList = true := by
    rw [Table.hidesComment_eq (by rw [OperatorSet.members_core]; decide)]
    decide
  refine ⟨hlines, ?_⟩
  cases hr : (Table.ofOperators .core).tokenize .strict ["x = 1", "# c", "", "\x0c# d"] with
  | error e =>
    rw [hr] at hrun
    cases hrun
  | ok r =>
    obtain ⟨-, hadds⟩ := newlines_end_content hlines hr
    obtain ⟨s, s', ts, hs, -, hts, hprefix, hlogical⟩ :=
      hadds ["x = 1", "# c", ""] "\x0c# d" [] rfl
    rw [hs] at hstate
    obtain ⟨hp, hd⟩ := Prod.mk.inj (Option.some.inj hstate)
    obtain ⟨head, c, rfl, -, hk⟩ := (hlogical hp hd).of_hidesComment hhides
    exact ⟨r, s, s', head, c, rfl, hs, hts, hprefix, hk⟩

/-- A comment behind a form feed ends like a logical line, though there is no other token. -/
theorem newline_without_content :
    ∃ r, (Table.ofOperators .core).tokenize .strict ["\x0c# c"] = .ok r ∧
      ∃ before u, before ++ [u] <+: r.tokens.toList ∧ u.kind = .newline ∧
        Token.hasContent (Token.sinceNewline before) = false := by
  have hrun : ((Table.ofOperators .core).tokenize .strict ["\x0c# c"]).toOption.map
      (·.tokens.toList) = some
        [⟨.encoding, "utf-8", .point .origin⟩, ⟨.comment, "# c", .of 1 1, .of 1 4⟩,
          Token.terminator .newline 1 4, ⟨.endMarker, "", .point (.of 2 0)⟩] := by
    rw [Table.ofOperators, OperatorSet.matchOrder_core]
    decide +kernel
  cases hr : (Table.ofOperators .core).tokenize .strict ["\x0c# c"] with
  | error e =>
    rw [hr] at hrun
    cases hrun
  | ok r =>
    rw [hr] at hrun
    have htokens : r.tokens.toList = _ := Option.some.inj hrun
    refine ⟨r, rfl, [⟨.encoding, "utf-8", .point .origin⟩, ⟨.comment, "# c", .of 1 1, .of 1 4⟩],
      Token.terminator .newline 1 4, ?_, rfl, by decide⟩
    rw [htokens]
    exact ⟨_, rfl⟩

end Offside
