import Offside.Proofs.Classification
import Offside.Proofs.Locality
import Offside.Proofs.Reading
import Offside.Proofs.Recognition
import Offside.Proofs.StringClose

/-!
# White space behind a lexeme

What the table makes of a text does not change when white space is put somewhere behind the lexeme
and what follows the lexeme is one, too. Most entries match no white space at all; strings stop at
their end, and a comment or a string that does not close leaves nothing to put white space into.
The one entry that could match only with the white space is that of a short string with a prefix,
and then the text has no lexeme behind its prefix.
-/

namespace Offside

set_option autoImplicit false

def OperatorSet.Symbolic (ops : OperatorSet) : Prop :=
  ∀ op ∈ ops.members, ∀ c ∈ op.toList, isInlineSpace c = false ∧ startsString c = false

theorem OperatorSet.symbolic_ofPreset (p : Preset) : (ofPreset p).Symbolic := by
  have hall : ((ofPreset p).members.all fun op =>
      op.toList.all fun c => !isInlineSpace c && !startsString c) = true := by
    cases p <;> decide +kernel
  intro op hop c hc
  have hchar := List.all_eq_true.mp (List.all_eq_true.mp hall op hop) c hc
  simpa using hchar

theorem of_isInlineSpace {P : Char → Prop} [DecidablePred P] {c : Char}
    (h : [' ', '\t', '\x0c'].all (fun c => decide (P c)) = true)
    (hc : isInlineSpace c = true) : P c := by
  apply of_decide_eq_true
  apply List.all_eq_true.mp h
  simp only [isInlineSpace, Bool.or_eq_true, beq_iff_eq] at hc
  simp only [List.mem_cons, List.not_mem_nil, or_false]
  tauto

theorem isInlineSpace_of_startsString {c : Char} (h : startsString c = true) :
    isInlineSpace c = false :=
  of_startsString (P := fun c => isInlineSpace c = false) (by decide) h

namespace Table

open Pattern CharSet

variable {ops : OperatorSet} {q : TripleQuote} {pre rest head a b more : List Char} {c d : Char}
  {x : Lexeme} {e : Entry}

theorem head_eq_none (hops : ops.Symbolic) (hc : startsString c = true) (rest : List Char) :
    (heads ops).findSome? (lexeme? (c :: rest)) = none := by
  apply heads_of_startsString hc
  intro op hop
  apply lexeme?_eq_none
  simp only [Entry.ofOperator, starts, beq_eq_false_iff_ne]
  intro hs
  have hno := (hops op hop c (List.mem_of_head? hs)).2
  rw [hc] at hno
  cases hno

theorem plain_eq_none (hc : startsString c = true) (rest : List Char) :
    lexeme? (c :: rest) ⟨.comment, .token, comment⟩ = none ∧
      lexeme? (c :: rest) ⟨.number, .token, number⟩ = none := by
  have hstarts := of_startsString
    (P := fun c => comment.starts c = false ∧ number.starts c = false) (by decide) hc
  exact ⟨lexeme?_eq_none hstarts.1, lexeme?_eq_none hstarts.2⟩

theorem classify_of_startsString (hops : ops.Symbolic) (hc : startsString c = true)
    (rest : List Char) :
    (ofOperators ops).classify (c :: rest) = classEntries.findSome? (lexeme? (c :: rest)) := by
  rw [classify_eq, head_eq_none hops hc rest, Option.none_or]

theorem classify_unclosed (hops : ops.Symbolic) (hp : IsStringPrefix pre)
    (hc : lexeme? (pre ++ q.delimiter ++ rest) (closedEntry q) = none) :
    (ofOperators ops).classify (pre ++ q.delimiter ++ rest) =
      lexeme? (pre ++ q.delimiter ++ rest) (openEntry q) := by
  have hclasses := classes_opening hp q rest
  rw [hc, Option.none_or] at hclasses
  obtain ⟨c, more, hstart, hstarts⟩ := starts_quoted hp q (q.mark :: q.mark :: rest)
  have htext : pre ++ q.delimiter ++ rest = c :: more := by
    rw [← hstart, List.append_assoc]
    rfl
  rw [htext] at hclasses ⊢
  exact (classify_of_startsString hops hstarts more).trans hclasses

theorem not_isWordChar_mark (q : TripleQuote) : Text.isWordChar q.mark = false := by
  cases q <;> decide

theorem match?_name_quoted (hp : IsStringPrefix pre) (q : TripleQuote) (rest : List Char) :
    name.match? (pre ++ q.mark :: rest) =
      if 1 ≤ pre.length then some ⟨pre.length, q.mark :: rest⟩ else none := by
  have hword : ∀ c ∈ pre, Text.isWordChar c = true := fun c hc =>
    isWordChar_of_isPrefixLetter (hp.2 c hc)
  rw [match?_name, List.takeWhile_append_of_pos hword, List.dropWhile_append_of_pos hword]
  simp [not_isWordChar_mark]

/-- A text has one prefix of a string and one quotation mark behind it at most. -/
theorem quoted_inj {pre' rest' : List Char} {q' : TripleQuote} (hp : IsStringPrefix pre)
    (hp' : IsStringPrefix pre') (h : pre ++ q.mark :: rest = pre' ++ q'.mark :: rest') :
    q' = q ∧ rest' = rest := by
  have htail := (takeWhile_isPrefixLetter hp (isPrefixLetter_mark q) rest).2
  rw [h, (takeWhile_isPrefixLetter hp' (isPrefixLetter_mark q') rest').2] at htail
  obtain ⟨hmark, rfl⟩ := List.cons.inj htail
  refine ⟨?_, rfl⟩
  cases q <;> cases q' <;> first | rfl | exact absurd hmark (by decide)

section Unclosed

variable (hp : IsStringPrefix pre) (hn : '\n' ∉ rest) (hs : q.shortScan rest = none)

include hp hs in
theorem triple_of_unclosed (q' : TripleQuote) :
    lexeme? (pre ++ q.mark :: rest) (closedEntry q') = none ∧
      lexeme? (pre ++ q.mark :: rest) (openEntry q') = none := by
  apply triple_eq_none
  intro pre' rest' hp' heq
  have hdelim : pre' ++ q'.delimiter ++ rest' =
      pre' ++ q'.mark :: (q'.mark :: q'.mark :: rest') := by
    rw [List.append_assoc]
    rfl
  obtain ⟨rfl, hrest⟩ := quoted_inj hp hp' (heq.trans hdelim)
  -- two marks in a row are a string without text
  rw [← hrest, TripleQuote.shortScan_cons (TripleQuote.mark_ne_backslash q'), if_pos rfl] at hs
  cases hs

include hp hn hs in
theorem short_of_unclosed (q' : TripleQuote) :
    lexeme? (pre ++ q.mark :: rest) (shortEntry q'.mark) = none := by
  cases hx : lexeme? (pre ++ q.mark :: rest) (shortEntry q'.mark) with
  | none => rfl
  | some y =>
    obtain ⟨z, hz, -, -⟩ := lexeme?_eq_some hx
    obtain ⟨pre', rest', hp', heq⟩ := quoted_of_match?_shortString hz
    obtain ⟨rfl, -⟩ := quoted_inj hp hp' heq
    rw [(lexeme?_short_eq_none hp hn).mpr hs] at hx
    cases hx

include hp hn hs in
/-- Where a quotation mark opens a string that does not close, there is a name before it at most. -/
theorem classify_unclosed_short (hops : ops.Symbolic) :
    (ofOperators ops).classify (pre ++ q.mark :: rest) =
      lexeme? (pre ++ q.mark :: rest) nameEntry := by
  have htriple := triple_of_unclosed hp hs
  have hdouble := short_of_unclosed hp hn hs .double
  have hsingle := short_of_unclosed hp hn hs .single
  obtain ⟨c, more, hstart, hstarts⟩ := starts_quoted hp q rest
  rw [hstart] at htriple hdouble hsingle ⊢
  obtain ⟨hcomment, hnumber⟩ := plain_eq_none hstarts more
  rw [classify_of_startsString hops hstarts]
  simp only [TripleQuote.mark] at hdouble hsingle
  simp [classEntries, tripleEntries, shortEntries, plainEntries, (htriple .double).1, (htriple .double).2,
    (htriple .single).1, (htriple .single).2, hdouble, hsingle, hcomment, hnumber, nameEntry]

include hp hn hs in
theorem classify_behind_unclosed (hops : ops.Symbolic)
    (hx : (ofOperators ops).classify (pre ++ q.mark :: rest) = some x) :
    (ofOperators ops).classify (x.rest.dropWhile isInlineSpace) = none := by
  rw [classify_unclosed_short hp hn hs hops] at hx
  obtain ⟨z, hz, -, rfl⟩ := lexeme?_eq_some hx
  rw [nameEntry, match?_name_quoted hp] at hz
  split at hz
  · obtain rfl := Option.some.inj hz
    have hmark := isInlineSpace_of_startsString (startsString_mark q)
    have hname := classify_unclosed_short isStringPrefix_nil hn hs hops
    have hnone := match?_name_quoted isStringPrefix_nil q rest
    rw [List.nil_append] at hname hnone
    rw [List.dropWhile_cons_of_neg (by simp [hmark]), hname, lexeme?, nameEntry, hnone]
    rfl
  · cases hz

end Unclosed

/-- A text without white space that starts a text up to some white space starts it before that. -/
theorem split_before_space {text : List Char} (hc : isInlineSpace c = true)
    (ht : ∀ d ∈ text, isInlineSpace d = false) (h : head ++ c :: b = text ++ rest) :
    ∃ head', head = text ++ head' := by
  have hmem : c ∉ text := by
    intro hm
    have hno := ht c hm
    rw [hc] at hno
    cases hno
  obtain ⟨head', hhead⟩ := (prefix_of_not_mem hmem).mp ⟨rest, h.symm⟩
  exact ⟨head', hhead.symm⟩

theorem isInlineSpace_of_mem_opening (hp : IsStringPrefix pre) (q : TripleQuote) (n : Nat) :
    ∀ d ∈ pre ++ List.replicate n q.mark, isInlineSpace d = false := by
  intro d hd
  apply isInlineSpace_of_startsString
  rcases List.mem_append.mp hd with hd | hd
  · exact startsString_of_isPrefixLetter (hp.2 d hd)
  · rw [List.eq_of_mem_replicate hd]
    exact startsString_mark q

theorem rest_of_open (hn : '\n' ∉ head) (h : lexeme? head (openEntry q) = some x) :
    x.rest = [] := by
  obtain ⟨z, hz, -, -⟩ := lexeme?_eq_some h
  obtain ⟨pre, rest, hp, rfl⟩ := quoted_of_match?_openTriple hz
  rw [lexeme?_open hp fun hm => hn (List.mem_append_right _ hm)] at h
  obtain rfl := Option.some.inj h
  rfl

section Insert

variable (hops : ops.Symbolic) (hc : isInlineSpace c = true) (hn : '\n' ∉ head ++ a)
  (hn' : '\n' ∉ head ++ c :: b) (ha : a ≠ [])
  (hx : (ofOperators ops).classify (head ++ a) = some x) (hr : x.rest = more ++ a)

include hops hc hn hn' ha hx hr in
theorem keeps_closed (q : TripleQuote) : (closedEntry q).Keeps head a (c :: b) where
  none hnone := by
    cases hy : lexeme? (head ++ c :: b) (closedEntry q) with
    | none => rfl
    | some y =>
      obtain ⟨z, hz, -, -⟩ := lexeme?_eq_some hy
      obtain ⟨pre, rest, hp, heq⟩ := quoted_of_match?_closedTriple hz
      obtain ⟨head', rfl⟩ :=
        split_before_space hc (isInlineSpace_of_mem_opening hp q 3) heq
      -- the old text opens a string, too, which would take all of it
      change lexeme? (pre ++ q.delimiter ++ head' ++ a) _ = none at hnone
      change (ofOperators ops).classify (pre ++ q.delimiter ++ head' ++ a) = some x at hx
      change '\n' ∉ pre ++ q.delimiter ++ head' ++ a at hn
      rw [List.append_assoc] at hnone hx hn
      rw [classify_unclosed hops hp hnone] at hx
      have hnil := rest_of_open hn hx
      rw [hr] at hnil
      exact absurd (List.append_eq_nil_iff.mp hnil).2 ha
  some x₀ more₀ hx₀ hr₀ := by
    obtain ⟨pre, body, hp, htext, hscan⟩ := closed_lexeme hn hx₀
    obtain ⟨-, -, happ⟩ := append_rest_of_lexeme? hx₀
    rw [hr₀, ← List.append_assoc] at happ
    obtain rfl := List.append_cancel_right happ
    have hnew : x₀.text.toList ++ more₀ ++ c :: b =
        pre ++ q.delimiter ++ (body ++ (q.delimiter ++ (more₀ ++ c :: b))) := by
      rw [htext]
      simp only [List.append_assoc]
    have hline : '\n' ∉ body ++ (q.delimiter ++ (more₀ ++ c :: b)) := by
      intro hm
      rw [hnew] at hn'
      exact hn' (List.mem_append_right _ hm)
    refine lexeme?_eq_of_rest hx₀ hr₀ (z := reachOfCut (pre.length + 3)
      (body, q.delimiter ++ (more₀ ++ c :: b))) ?_ rfl
    rw [hnew, closedEntry, match?_closedTriple hp q hline, TripleQuote.scan_exchange hscan]
    rfl

include hc hn ha in
theorem keeps_open (q : TripleQuote) : (openEntry q).Keeps head a (c :: b) where
  none hnone := by
    cases hy : lexeme? (head ++ c :: b) (openEntry q) with
    | none => rfl
    | some y =>
      obtain ⟨z, hz, -, -⟩ := lexeme?_eq_some hy
      obtain ⟨pre, rest, hp, heq⟩ := quoted_of_match?_openTriple hz
      obtain ⟨head', rfl⟩ :=
        split_before_space hc (isInlineSpace_of_mem_opening hp q 3) heq
      exact absurd (List.append_assoc ..) (ne_opening hnone hp (head' ++ a))
  some x₀ more₀ hx₀ hr₀ := by
    have hnil := rest_of_open hn hx₀
    rw [hr₀] at hnil
    exact absurd (List.append_eq_nil_iff.mp hnil).2 ha

include hops hc hn hx in
/-- A string that closes behind the white space only would have to start before the lexeme that
follows. -/
theorem short_eq_none (q : TripleQuote)
    (hnext : ∃ y, (ofOperators ops).classify (x.rest.dropWhile isInlineSpace) = some y)
    (hnone : lexeme? (head ++ a) (shortEntry q.mark) = none) :
    lexeme? (head ++ c :: b) (shortEntry q.mark) = none := by
  cases hy : lexeme? (head ++ c :: b) (shortEntry q.mark) with
  | none => rfl
  | some y =>
    obtain ⟨z, hz, -, -⟩ := lexeme?_eq_some hy
    obtain ⟨pre, rest, hp, heq⟩ := quoted_of_match?_shortString hz
    rw [List.append_cons pre] at heq
    obtain ⟨head', rfl⟩ : ∃ head', head = pre ++ [q.mark] ++ head' :=
      split_before_space hc (isInlineSpace_of_mem_opening hp q 1) heq
    have hold : pre ++ [q.mark] ++ head' ++ a = pre ++ q.mark :: (head' ++ a) := by simp
    rw [hold] at hn hx hnone
    have hline : '\n' ∉ head' ++ a := by
      intro hm
      exact hn (List.mem_append_right _ (List.mem_cons_of_mem _ hm))
    have hs : q.shortScan (head' ++ a) = none := (lexeme?_short_eq_none hp hline).mp hnone
    obtain ⟨y, hy⟩ := hnext
    rw [classify_behind_unclosed hp hline hs hops hx] at hy
    cases hy

include hn hn' in
theorem short_eq_some {x₀ : Lexeme} {more₀ : List Char} (q : TripleQuote)
    (hx₀ : lexeme? (head ++ a) (shortEntry q.mark) = some x₀) (hr₀ : x₀.rest = more₀ ++ a) :
    lexeme? (head ++ c :: b) (shortEntry q.mark) = some { x₀ with rest := more₀ ++ c :: b } := by
  obtain ⟨z, hz, -, rfl⟩ := lexeme?_eq_some hx₀
  obtain ⟨pre, rest, hp, htext⟩ := quoted_of_match?_shortString hz
  have hline : '\n' ∉ rest := by
    intro hm
    rw [htext] at hn
    exact hn (List.mem_append_right _ (List.mem_cons_of_mem _ hm))
  rw [htext, shortEntry, match?_shortString hp hline] at hz
  obtain ⟨⟨body, after⟩, hs, rfl⟩ := Option.map_eq_some_iff.mp hz
  obtain rfl : after = more₀ ++ a := hr₀
  rw [TripleQuote.shortScan_eq_some hs] at htext
  have hsplit : head ++ a = pre ++ q.mark :: (body ++ q.mark :: more₀) ++ a := by
    rw [htext]
    simp
  obtain rfl := List.append_cancel_right hsplit
  have hnew : pre ++ q.mark :: (body ++ q.mark :: more₀) ++ c :: b =
      pre ++ q.mark :: (body ++ q.mark :: (more₀ ++ c :: b)) := by
    simp
  have hline' : '\n' ∉ body ++ q.mark :: (more₀ ++ c :: b) := by
    intro hm
    rw [hnew] at hn'
    exact hn' (List.mem_append_right _ (List.mem_cons_of_mem _ hm))
  refine lexeme?_eq_of_rest hx₀ rfl (z := reachBehind (pre.length + 1)
    (body, more₀ ++ c :: b)) ?_ rfl
  rw [hnew, shortEntry, match?_shortString hp hline', TripleQuote.shortScan_exchange hs]
  rfl

include hn ha in
theorem keeps_comment (hhead : head ≠ []) :
    Entry.Keeps head a (c :: b) ⟨.comment, .token, comment⟩ where
  none hnone := by
    obtain ⟨d, head', rfl⟩ := List.exists_cons_of_ne_nil hhead
    cases hy : lexeme? (d :: head' ++ c :: b) ⟨.comment, .token, comment⟩ with
    | none => rfl
    | some y =>
      obtain rfl : d = '#' := starts_comment.mp (starts_of_lexeme? hy)
      rw [List.cons_append, lexeme?, match?_comment] at hnone
      simp at hnone
  some x₀ more₀ hx₀ hr₀ := by
    obtain ⟨z, hz, -, rfl⟩ := lexeme?_eq_some hx₀
    obtain ⟨d, head', rfl⟩ := List.exists_cons_of_ne_nil hhead
    obtain rfl : d = '#' := starts_comment.mp (starts_of_lexeme? hx₀)
    rw [List.cons_append, match?_comment] at hz
    obtain rfl := Option.some.inj hz
    have hnil : (head' ++ a).dropWhile any.holds = [] :=
      dropWhile_any_of_line fun hm => hn (List.mem_cons_of_mem _ hm)
    exact absurd (List.append_eq_nil_iff.mp (hr₀.symm.trans hnil)).2 ha

theorem avoids_of_mem_heads (hops : ops.Symbolic) (hc : isInlineSpace c = true)
    (he : e ∈ heads ops) : e.pattern.avoids c = true := by
  simp only [heads, List.mem_append, List.mem_cons, List.mem_map] at he
  rcases he with he | rfl | ⟨op, hop, rfl⟩
  · exact of_isInlineSpace (P := fun c => ∀ e ∈ bracketEntries, e.pattern.avoids c = true)
      (by decide) hc e he
  · exact of_isInlineSpace (P := fun c => pointNumber.avoids c = true) (by decide) hc
  · simp only [Entry.ofOperator, avoids, Bool.not_eq_true', List.contains_eq_mem,
      decide_eq_false_iff_not]
    intro hm
    have hno := (hops op (OperatorSet.mem_matchOrder.mp hop) c hm).1
    rw [hc] at hno
    cases hno

theorem avoids_plain (hc : isInlineSpace c = true) :
    number.avoids c = true ∧ name.avoids c = true :=
  of_isInlineSpace (P := fun c => number.avoids c = true ∧ name.avoids c = true) (by decide) hc

/-- The end of a line can be exchanged for one that starts with white space, if it is behind the
lexeme that starts the line and if another lexeme follows. -/
theorem classify_space (hops : ops.Symbolic) (hc : isInlineSpace c = true)
    (hn : '\n' ∉ head ++ a) (hn' : '\n' ∉ head ++ c :: b) (ha : a ≠ [])
    (hx : (ofOperators ops).classify (head ++ a) = some x) (hr : x.rest = more ++ a)
    (hnext : ∃ y, (ofOperators ops).classify (x.rest.dropWhile isInlineSpace) = some y) :
    (ofOperators ops).classify (head ++ c :: b) = some { x with rest := more ++ c :: b } := by
  obtain ⟨hpos, hwidth, happ⟩ := append_rest_of_classify hx
  have hhead : head ≠ [] := by
    rw [hr, ← List.append_assoc] at happ
    obtain rfl := List.append_cancel_right happ
    intro hnil
    rw [(List.append_eq_nil_iff.mp hnil).1] at hwidth
    exact absurd hwidth (Nat.ne_of_lt hpos)
  refine classify_exchange ?_ hx hr
  intro e he
  rw [entries_ofOperators] at he
  simp only [tripleEntries, shortEntries, plainEntries, List.mem_append, List.mem_cons,
    List.not_mem_nil, or_false] at he
  rcases he with (((he | rfl | rfl) | rfl | rfl) | rfl | rfl) | rfl | rfl | rfl
  · exact keeps_of_avoids (avoids_of_mem_heads hops hc he)
  · exact keeps_closed hops hc hn hn' ha hx hr .double
  · exact keeps_open hc hn ha .double
  · exact keeps_closed hops hc hn hn' ha hx hr .single
  · exact keeps_open hc hn ha .single
  · exact ⟨short_eq_none hops hc hn hx .double hnext, fun _ _ => short_eq_some hn hn' .double⟩
  · exact ⟨short_eq_none hops hc hn hx .single hnext, fun _ _ => short_eq_some hn hn' .single⟩
  · exact keeps_comment hn ha hhead
  · exact keeps_of_avoids (avoids_plain hc).1
  · exact keeps_of_avoids (avoids_plain hc).2

end Insert

end Table

end Offside
