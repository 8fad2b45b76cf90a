import Offside.Proofs.Insertion
import Offside.Proofs.Likeness
import Offside.Proofs.Origin

/-!
# Spacing between tokens

White space that is put between two tokens of a line, or before the first one of a line between
brackets, changes no token. Up to there, the run takes the same lexemes of the longer line; behind
it, the runs differ in their columns only.
-/

namespace Offside

set_option autoImplicit false

def Source.insertAt (lines : List String) (p : Position) (cs : List Char) : List String :=
  lines.modify (p.line.toNat - 1) fun text =>
    String.ofList (text.toList.take p.column.toNat ++ (cs ++ text.toList.drop p.column.toNat))

namespace Token

/-- A token that is cut out of a line behind another one of that line, or as the first one of a line
that starts between brackets. -/
def HasGap (before : List Token) (u : Token) : Prop :=
  u.kind.isLexeme = true ∧
    ((∃ others v, before = others ++ [v] ∧ v.kind.isLexeme = true ∧
        v.span.stop.line = u.span.start.line) ∨
      0 < bracketDepth before ∧ ∀ v ∈ before, v.span.stop.line ≠ u.span.start.line)

/-- Outside brackets, with no token of a line last. -/
def Rested (before : List Token) : Prop :=
  bracketDepth before = 0 ∧ ∀ others v, before = others ++ [v] → v.kind.isLexeme = false

variable {before ts : List Token} {u : Token}

theorem HasGap.not_rested (h : u.HasGap before) : ¬ Rested before := by
  rintro ⟨hdepth, hlast⟩
  rcases h.2 with ⟨others, v, hv, hk, -⟩ | ⟨hpos, -⟩
  · rw [hlast others v hv] at hk
    cases hk
  · rw [hdepth] at hpos
    exact absurd hpos (Int.lt_irrefl 0)

/-- Behind the end of a line and the blocks that the next one opens or closes, no lexeme is last. -/
theorem rested_of_sinceLineEnd (hdepth : bracketDepth before = 0) (hb : sinceLineEnd before = [])
    (hts : ∀ t ∈ ts, t.kind = .indent ∨ t.kind = .dedent) : Rested (before ++ ts) := by
  have hmarks : ∀ t ∈ ts, (fun k : Kind => k.isTerminator || k == .encoding) t.kind = false := by
    intro t ht
    rcases hts t ht with hk | hk <;> rw [hk] <;> rfl
  have hkinds : ∀ t ∈ ts, t.kind.isLexeme = false ∧ t.kind ≠ .op := by
    intro t ht
    rcases hts t ht with hk | hk <;> rw [hk] <;> decide
  constructor
  · rw [bracketDepth_append, hdepth, bracketDepth_of_ne_op fun t ht => (hkinds t ht).2]
    rfl
  · intro others v heq
    cases hk : v.kind.isLexeme with
    | false => rfl
    | true =>
      have hv : sinceLineEnd (others ++ [v]) = sinceLineEnd others ++ [v] := by
        apply since_append
        intro w hw
        rw [List.mem_singleton.mp hw]
        revert hk
        cases v.kind <;> simp [Kind.isLexeme, Kind.isTerminator]
      have hsince : sinceLineEnd (before ++ ts) = ts := by
        have happ : sinceLineEnd (before ++ ts) = sinceLineEnd before ++ ts :=
          since_append hmarks before
        rw [happ, hb, List.nil_append]
      rw [heq, hv] at hsince
      have hmem : v ∈ ts := hsince ▸ List.mem_append_right _ (List.mem_singleton.mpr rfl)
      rw [(hkinds v hmem).1] at hk
      cases hk

theorem map_kind_text_of_like {R : Position → Position → Prop} {us : List Token}
    (h : List.Forall₂ (Token.Like R) ts us) :
    ts.map (fun t => (t.kind, t.text)) = us.map (fun t => (t.kind, t.text)) := by
  induction h with
  | nil => rfl
  | cons ht _ ih => rw [List.map_cons, List.map_cons, ht.kind, ht.text, ih]

end Token

section

variable {ops : OperatorSet} {t : Table} {lines done ahead : List String} {text : String}
  {line column column' : Nat} {s s' b : LexState} {a d g w space rest : List Char} {c : Char}
  {start r : Reading} {x : Lexeme}

theorem span_append {p : Char → Bool} {passed more : List Char} (hp : ∀ e ∈ passed, p e = true)
    (hm : ∃ e others, more = e :: others ∧ p e = false) :
    (passed ++ more).takeWhile p = passed ∧ (passed ++ more).dropWhile p = more := by
  obtain ⟨e, others, rfl, he⟩ := hm
  rw [List.takeWhile_append_of_pos hp, List.dropWhile_append_of_pos hp]
  simp [he]

/-- Before a lexeme, what is left of a line is white space and something that starts without. -/
theorem space_before_lexeme (hx : t.classify (rest.dropWhile isInlineSpace) = some x) :
    ∃ g a, rest = g ++ a ∧ (∀ e ∈ g, isInlineSpace e = true) ∧
      (∃ e others, a = e :: others ∧ isInlineSpace e = false) ∧
      rest.takeWhile isInlineSpace = g ∧ rest.dropWhile isInlineSpace = a := by
  refine ⟨_, _, List.takeWhile_append_dropWhile.symm, ?_, ?_, rfl, rfl⟩
  · intro e he
    exact List.mem_takeWhile_imp he
  · exact dropWhile_eq_cons (ne_nil_of_classify hx)

theorem TakesLexeme.of_append (hspace : ∀ e ∈ space, isInlineSpace e = true)
    (hm : ∃ e others, rest = e :: others ∧ isInlineSpace e = false)
    (hx : t.classify rest = some x) (hs : s.take line (column + space.length) x = .ok s') :
    TakesLexeme t (.within line column s (space ++ rest) ahead)
      (.within line (column + space.length + x.width) s' x.rest ahead) := by
  obtain ⟨htake, hdrop⟩ := span_append hspace hm
  rw [← hdrop] at hx
  rw [← htake] at hs
  have hstep : TakesLexeme t (.within line column s (space ++ rest) ahead) _ := .mk hx hs
  rw [htake] at hstep
  exact hstep

/-- The end of a line behind a lexeme can be exchanged for one that starts with white space, if
another lexeme follows. -/
theorem TakesLexeme.exchange (hops : ops.Symbolic) (hc : isInlineSpace c = true) (ha : a ≠ [])
    (hd : '\n' ∉ c :: d) (hn : '\n' ∉ rest)
    (h : TakesLexeme (.ofOperators ops) (.within line column s rest ahead)
      (.within line column' s' (g ++ a) ahead))
    (hnext : ∃ y, (Table.ofOperators ops).classify ((g ++ a).dropWhile isInlineSpace) = some y) :
    ∃ g₀, rest = g₀ ++ a ∧ g₀ ≠ [] ∧
      TakesLexeme (.ofOperators ops) (.within line column s (g₀ ++ c :: d) ahead)
        (.within line column' s' (g ++ c :: d) ahead) := by
  obtain ⟨after, hafter⟩ : ∃ after, after = g ++ a := ⟨_, rfl⟩
  rw [← hafter] at h hnext
  cases h with
  | @mk _ _ _ _ _ x _ hx hs =>
    obtain ⟨hpos, hwidth, happ⟩ := Table.append_rest_of_classify hx
    obtain ⟨space, text, rfl, hspace, ⟨e, others, rfl, he⟩, htake, hdrop⟩ := space_before_lexeme hx
    rw [hdrop, hafter, ← List.append_assoc] at happ
    rw [hdrop, ← happ] at hx
    rw [htake] at hs ⊢
    rw [← happ] at hn
    have hline : '\n' ∉ x.text.toList ++ g ++ a := fun hm => hn (List.mem_append_right _ hm)
    have hline' : '\n' ∉ x.text.toList ++ g ++ c :: d := by
      intro hm
      rcases List.mem_append.mp hm with hm | hm
      · exact hline (List.mem_append_left _ hm)
      · exact hd hm
    have hnew := Table.classify_space hops hc hline hline' ha hx hafter hnext
    obtain ⟨e', others', htext⟩ : ∃ e' others', x.text.toList = e' :: others' := by
      apply List.exists_cons_of_ne_nil
      intro hnil
      rw [hnil] at hwidth
      exact absurd hwidth (Nat.ne_of_lt hpos)
    obtain rfl : e' = e := by
      rw [htext] at happ
      exact (List.cons.inj happ).1
    refine ⟨space ++ (x.text.toList ++ g), ?_, ?_, ?_⟩
    · rw [← happ, List.append_assoc space]
    · rw [htext]
      simp
    · rw [List.append_assoc]
      refine .of_append hspace ?_ hnew hs
      exact ⟨e', others' ++ g ++ c :: d, by simp [htext], he⟩

theorem TakesLexemes.exchange (hops : ops.Symbolic) (hc : isInlineSpace c = true) (ha : a ≠ [])
    (hd : '\n' ∉ c :: d) (hn : '\n' ∉ start.rest)
    (h : TakesLexemes (.ofOperators ops) start (.within line column b (g ++ a) ahead))
    (hnext : ∃ y, (Table.ofOperators ops).classify ((g ++ a).dropWhile isInlineSpace) = some y) :
    ∃ column₀ b₀ g₀, start = .within line column₀ b₀ (g₀ ++ a) ahead ∧
      (∃ y, (Table.ofOperators ops).classify ((g₀ ++ a).dropWhile isInlineSpace) = some y) ∧
      (g₀ = [] → b₀ = b) ∧
      TakesLexemes (.ofOperators ops) (.within line column₀ b₀ (g₀ ++ c :: d) ahead)
        (.within line column b (g ++ c :: d) ahead) := by
  induction h using Relation.ReflTransGen.head_induction_on with
  | refl => exact ⟨column, b, g, rfl, hnext, fun _ => rfl, .refl⟩
  | head hfirst _ ih =>
    cases hfirst with
    | @mk line' column' s s' rest x ahead' hx hs =>
      obtain ⟨column₁, b₁, g₁, heq, hnext₁, -, hlexemes⟩ := ih (lineFeed_not_mem_of_classify hn hx)
      have htake : TakesLexeme (.ofOperators ops) (.within line' column' s rest ahead') _ :=
        .mk hx hs
      rw [heq] at htake
      obtain ⟨rfl, -, -, -, rfl⟩ := Reading.within.inj heq
      obtain ⟨g₀, rfl, hne, hnew⟩ := htake.exchange hops hc ha hd hn hnext₁
      exact ⟨column', s, g₀, rfl, ⟨x, hx⟩, fun hnil => absurd hnil hne, .head hnew hlexemes⟩

/-- A line is entered in the same way, whatever its end behind the place of entry is exchanged for,
if that is not white space only. Only the margin of a line may not grow. -/
theorem Step.exchange (hd : d.all isInlineSpace = false)
    (hopen : s.pending = none → s.depth = 0 → g ≠ [])
    (h : Step t (.between line s (text :: ahead)) (.within line column b (g ++ a) ahead)) :
    ∃ inside, text.toList = inside ++ (g ++ a) ∧ ∀ text' : String,
      text'.toList = inside ++ (g ++ d) →
        Step t (.between line s (text' :: ahead)) (.within line column b (g ++ d) ahead) := by
  obtain ⟨rest, hrest⟩ : ∃ rest, rest = g ++ a := ⟨_, rfl⟩
  rw [← hrest] at h
  cases h with
  | @close _ _ o _ before after _ hp hs =>
    rw [TripleQuote.seek_eq_scan] at hs
    obtain ⟨happ, more, rfl⟩ := TripleQuote.scan_eq_some hs
    obtain rfl : more = g ++ a := hrest
    refine ⟨before ++ o.quote.delimiter, ?_, ?_⟩
    · rw [List.append_assoc, happ]
    · intro text' htext
      have hseek : o.quote.seek text'.toList = some (before, o.quote.delimiter ++ (g ++ d)) := by
        rw [TripleQuote.seek_eq_scan, htext, List.append_assoc]
        exact TripleQuote.scan_exchange hs (g ++ d)
      exact .close hp hseek
  | continued hp hdepth =>
    refine ⟨[], hrest, ?_⟩
    intro text' htext
    rw [← show text'.toList = g ++ d from htext]
    exact .continued hp hdepth
  | margin hp hdepth hb hc hi =>
    obtain ⟨e, others, rfl⟩ := List.exists_cons_of_ne_nil (hopen hp hdepth)
    have hne : text.toList.dropWhile isMargin ≠ [] := by
      rw [hrest]
      exact List.cons_ne_nil _ _
    obtain ⟨e', others', he', hmargin⟩ := dropWhile_eq_cons hne
    obtain rfl : e = e' := (List.cons.inj (hrest.symm.trans he')).1
    -- what follows the margin still starts with `e`, so the margin stays as it is
    refine ⟨text.toList.takeWhile isMargin, ?_, ?_⟩
    · rw [← hrest, List.takeWhile_append_dropWhile]
    · intro text' htext
      obtain ⟨htake, hdrop⟩ : text'.toList.takeWhile isMargin = text.toList.takeWhile isMargin ∧
          text'.toList.dropWhile isMargin = e :: others ++ d := by
        rw [htext]
        exact span_append (fun e he => List.mem_takeWhile_imp he) ⟨e, others ++ d, rfl, hmargin⟩
      rw [hrest] at hc
      rw [← htake, ← hdrop]
      refine .margin hp hdepth ?_ ?_ ?_
      · rw [hdrop, List.all_append, hd, Bool.and_false]
      · rw [hdrop]
        exact hc
      · rw [htake]
        exact hi

/-- A line that is entered outside strings and brackets holds no token yet. -/
theorem rested_of_enter (hdone : (Table.ofOperators ops).readLines 1 .start done = .ok s)
    (henter : Step (.ofOperators ops) (.between line s (text :: ahead))
      (.within line column b rest ahead))
    (hp : s.pending = none) (hd : s.depth = 0) : Token.Rested b.emitted.toList := by
  have haccounted := LexState.accounted_readLines hdone
  obtain ⟨-, -, head, hhead, hh⟩ := enter_adds henter
  have hdepth := haccounted.depth
  rw [hd] at hdepth
  rw [hhead]
  apply Token.rested_of_sinceLineEnd hdepth.symm (haccounted.rested hp)
  cases hh with
  | string _ _ ho =>
    rw [hp] at ho
    cases ho
  | bare => simp
  | blocks _ _ hk => exact fun t ht => (hk t ht).1

/-- A line is cut into the same lexemes up to a gap in it, whatever its end behind the gap is
exchanged for. -/
theorem steps_exchange (hops : ops.Symbolic) (hn : '\n' ∉ text.toList)
    (hdone : (Table.ofOperators ops).readLines 1 .start done = .ok s)
    (henter : Step (.ofOperators ops) (.between line s (text :: ahead)) start)
    (hlexemes : TakesLexemes (.ofOperators ops) start (.within line column b (g ++ a) ahead))
    (hx : (Table.ofOperators ops).classify ((g ++ a).dropWhile isInlineSpace) = some x)
    (ha : a ≠ []) (hrested : ¬ Token.Rested b.emitted.toList) (hc : isInlineSpace c = true)
    (hd : '\n' ∉ c :: d) (hend : d.all isInlineSpace = false) :
    ∃ front, text.toList = front ++ a ∧ ∀ text' : String, text'.toList = front ++ c :: d →
      Steps (.ofOperators ops) (.between line s (text' :: ahead))
        (.within line column b (g ++ c :: d) ahead) := by
  obtain ⟨column₀, b₀, g₀, rfl, -, hsame, hlexemes'⟩ := TakesLexemes.exchange hops hc ha hd
    (lineFeed_not_mem_of_enter hn henter) hlexemes ⟨x, hx⟩
  have hopen : s.pending = none → s.depth = 0 → g₀ ≠ [] := by
    intro hp hdepth hnil
    rw [← hsame hnil] at hrested
    exact hrested (rested_of_enter hdone henter hp hdepth)
  have hend' : (c :: d).all isInlineSpace = false := by
    rw [List.all_cons, hend, Bool.and_false]
  obtain ⟨inside, htext, henter'⟩ := henter.exchange hend' hopen
  refine ⟨inside ++ g₀, ?_, ?_⟩
  · rw [htext, List.append_assoc]
  · intro text' htext'
    rw [List.append_assoc] at htext'
    exact .head (henter' text' htext') hlexemes'.steps

theorem Source.insertAt_of (htext : text.toList = a ++ rest) (w : List Char) :
    insertAt (done ++ text :: ahead) (.of (done.length + 1) a.length) w =
      done ++ String.ofList (a ++ (w ++ rest)) :: ahead := by
  have hmodify : ∀ f : String → String,
      (done ++ text :: ahead).modify done.length f = done ++ f text :: ahead :=
    fun f => List.modifyTailIdx_add (List.modifyHead f) 0 done (text :: ahead)
  calc
    insertAt (done ++ text :: ahead) (.of (done.length + 1) a.length) w =
        (done ++ text :: ahead).modify done.length fun text =>
          String.ofList (text.toList.take a.length ++ (w ++ text.toList.drop a.length)) := rfl
    _ = done ++ String.ofList (a ++ (w ++ rest)) :: ahead := by
      rw [hmodify, htext, List.take_left, List.drop_left]

theorem Source.insertAt_nil (lines : List String) (p : Position) :
    insertAt lines p [] = lines := by
  simp only [insertAt, List.nil_append, List.take_append_drop, String.ofList_toList]
  exact List.modify_id _ lines

theorem readLines_eq_resume (hdone : t.readLines 1 .start done = .ok s)
    (h : Steps t (.between (done.length + 1) s (text :: ahead)) r) :
    t.readLines 1 .start (done ++ text :: ahead) = t.resume r := by
  rw [readLines_of_append _ hdone, Nat.add_comm, ← resume_of_steps h]
  rfl

/-- White space where a lexeme begins changes nothing in a run but the places. -/
theorem readLines_insertAt {before : List Token} {p : Position} (hops : ops.Symbolic)
    (hn : ∀ text ∈ lines, '\n' ∉ text.toList) (hbegins : Begins (.ofOperators ops) lines before p)
    (hrested : ¬ Token.Rested before) (hc : isInlineSpace c = true)
    (hw : ∀ e ∈ w, isInlineSpace e = true) :
    Alike (fun _ _ => True) [] [] ((Table.ofOperators ops).readLines 1 .start lines)
      ((Table.ofOperators ops).readLines 1 .start (Source.insertAt lines p (c :: w))) := by
  obtain @⟨done, text, ahead, s, start, column, b, rest, x, rfl, hdone, henter, hlexemes, hx⟩ :=
    hbegins
  have hline := hn text (by simp)
  -- the place stands between `g` and `a`
  obtain ⟨g, a, rfl, hall, hnext, hg, -⟩ := space_before_lexeme hx
  have hne : a ≠ [] := by
    obtain ⟨e, others, rfl, -⟩ := hnext
    exact List.cons_ne_nil e others
  have hsteps : Steps (.ofOperators ops) (.between (done.length + 1) s (text :: ahead))
      (.within (done.length + 1) column b (g ++ a) ahead) := .head henter hlexemes.steps
  obtain ⟨done', inside, text', hlines, hlength, htext, hcolumn⟩ :=
    hsteps.preserve (I := Reading.Anchored (done ++ text :: ahead))
      (fun _ _ hstep hanchored => hanchored.step hstep) ⟨done, rfl, rfl⟩
  obtain ⟨rfl, htail⟩ := List.append_inj hlines (Nat.succ.inj hlength)
  obtain rfl : text = text' := (List.cons.inj htail).1
  have hspace : ∀ e ∈ c :: w, isInlineSpace e = true := List.forall_mem_cons.mpr ⟨hc, hw⟩
  have hd : '\n' ∉ c :: (w ++ a) := by
    rw [← List.cons_append, List.mem_append, not_or]
    refine ⟨fun hm => Bool.false_ne_true (hspace _ hm), fun hm => hline ?_⟩
    rw [htext]
    exact List.mem_append_right _ (List.mem_append_right _ hm)
  have hend : (w ++ a).all isInlineSpace = false := by
    obtain ⟨e, others, rfl, he⟩ := hnext
    simp [he]
  obtain ⟨front, hfront, hsteps'⟩ :=
    steps_exchange hops hline hdone henter hlexemes hx hne hrested hc hd hend
  obtain rfl : inside ++ g = front := by
    rw [htext, ← List.append_assoc] at hfront
    exact List.append_cancel_right hfront
  have hinsert : Source.insertAt (done ++ text :: ahead)
      (.of (done.length + 1) (column + ((g ++ a).takeWhile isInlineSpace).length)) (c :: w) =
        done ++ String.ofList (inside ++ g ++ c :: (w ++ a)) :: ahead := by
    rw [hg, hcolumn, ← List.length_append]
    exact Source.insertAt_of hfront (c :: w)
  have hdrop : (g ++ a).dropWhile isInlineSpace = (g ++ c :: (w ++ a)).dropWhile isInlineSpace := by
    rw [(span_append hall hnext).2, ← List.cons_append, ← List.append_assoc,
      (span_append (List.forall_mem_append.mpr ⟨hall, hspace⟩) hnext).2]
  rw [hinsert, readLines_eq_resume hdone hsteps,
    readLines_eq_resume hdone (hsteps' _ (String.toList_ofList ..))]
  exact resume_like ahead (.refl (fun _ => trivial) b) (fun _ => trivial) hdrop (fun _ => trivial)
    (fun _ _ => trivial)

end

/-- Spacing between tokens does not matter: white space that is put before a token that stands
behind another one of its line, or first in a line between brackets, changes neither the kinds nor
the texts of the tokens. -/
theorem tokenize_insertAt {preset : Preset} {policy : EndPolicy} {lines : List String}
    {r : Tokenization} {before after : List Token} {u : Token} {w : List Char}
    (hn : ∀ text ∈ lines, '\n' ∉ text.toList)
    (h : (Table.ofOperators (.ofPreset preset)).tokenize policy lines = .ok r)
    (htokens : r.tokens.toList = before ++ u :: after) (hgap : u.HasGap before)
    (hw : ∀ c ∈ w, isInlineSpace c = true) :
    ∃ r', (Table.ofOperators (.ofPreset preset)).tokenize policy
        (Source.insertAt lines u.span.start w) = .ok r' ∧
      r'.tokens.toList.map (fun t => (t.kind, t.text)) =
        r.tokens.toList.map (fun t => (t.kind, t.text)) := by
  cases w with
  | nil =>
    rw [Source.insertAt_nil]
    exact ⟨r, h, rfl⟩
  | cons c w =>
    obtain ⟨hc, hw⟩ := List.forall_mem_cons.mp hw
    have horiginates : u.Originates _ lines before :=
      originates_of_tokenize hn h before u (by simp [htokens])
    rcases horiginates hgap.1 with hbegins | ⟨hdepth, hsince⟩
    · have hlike : Agree (LexError.Like fun _ _ => True) (Tokenization.Like (fun _ _ => True) [] [])
          ((Table.ofOperators (.ofPreset preset)).tokenize policy lines)
          ((Table.ofOperators (.ofPreset preset)).tokenize policy
            (Source.insertAt lines u.span.start (c :: w))) := by
        rw [Table.tokenize_eq, Table.tokenize_eq]
        have hlines := readLines_insertAt (OperatorSet.symbolic_ofPreset preset) hn hbegins
          hgap.not_rested hc hw
        exact hlines.bind fun s s' hs => hs.finish trivial policy
      rw [h] at hlike
      obtain ⟨r', hr', hsame⟩ := hlike.of_ok
      obtain ⟨ts, ts', hts, hts', hall⟩ := hsame.tokens
      refine ⟨r', hr', ?_⟩
      rw [hts, hts']
      exact (Token.map_kind_text_of_like hall).symm
    · -- a comment with a line of its own stands in no gap
      have hrested : Token.Rested (before ++ []) :=
        Token.rested_of_sinceLineEnd hdepth hsince (by simp)
      rw [List.append_nil] at hrested
      exact absurd hrested hgap.not_rested

/-- An operator that is first in a line between brackets, before a string with a prefix. -/
theorem tokenize_insertAt_bracket :
    ∃ r r' before u after,
      (Table.ofOperators (.ofPreset .core)).tokenize .strict ["(a", "**b'c')"] = .ok r ∧
      r.tokens.toList = before ++ u :: after ∧ u.HasGap before ∧
      Source.insertAt ["(a", "**b'c')"] u.span.start [' ', '\t', '\x0c'] =
        ["(a", " \t\x0c**b'c')"] ∧
      (Table.ofOperators (.ofPreset .core)).tokenize .strict ["(a", " \t\x0c**b'c')"] = .ok r' ∧
      r'.tokens.toList.map (fun t => (t.kind, t.text)) =
        r.tokens.toList.map (fun t => (t.kind, t.text)) := by
  have hrun : ((Table.ofOperators (.ofPreset .core)).tokenize .strict
      ["(a", "**b'c')"]).toOption.map (fun r => r.tokens.toList) =
      some ([⟨.encoding, "utf-8", .point .origin⟩, ⟨.op, "(", .of 1 0, .of 1 1⟩,
          ⟨.name, "a", .of 1 1, .of 1 2⟩, ⟨.nl, "\n", .of 1 2, .of 1 3⟩] ++
        ⟨.op, "**", .of 2 0, .of 2 2⟩ :: [⟨.string, "b'c'", .of 2 2, .of 2 6⟩,
          ⟨.op, ")", .of 2 6, .of 2 7⟩, ⟨.newline, "\n", .of 2 7, .of 2 8⟩,
          ⟨.endMarker, "", .point (.of 3 0)⟩]) := by
    rw [Table.ofOperators, show OperatorSet.ofPreset .core = .core from rfl,
      OperatorSet.matchOrder_core]
    decide +kernel
  cases hr : (Table.ofOperators (.ofPreset .core)).tokenize .strict ["(a", "**b'c')"] with
  | error e =>
    rw [hr] at hrun
    cases hrun
  | ok r =>
    rw [hr] at hrun
    have htokens := Option.some.inj hrun
    have hgap : Token.HasGap [⟨.encoding, "utf-8", .point .origin⟩, ⟨.op, "(", .of 1 0, .of 1 1⟩,
        ⟨.name, "a", .of 1 1, .of 1 2⟩, ⟨.nl, "\n", .of 1 2, .of 1 3⟩]
        ⟨.op, "**", .of 2 0, .of 2 2⟩ := ⟨rfl, .inr (by decide)⟩
    have hinsert : Source.insertAt ["(a", "**b'c')"] (.of 2 0) [' ', '\t', '\x0c'] =
        ["(a", " \t\x0c**b'c')"] := by decide
    obtain ⟨r', hr', hsame⟩ := tokenize_insertAt (by decide) hr htokens hgap
      (w := [' ', '\t', '\x0c']) (List.all_eq_true.mp (by decide))
    rw [hinsert] at hr'
    exact ⟨r, r', _, _, _, rfl, htokens, hgap, hinsert, hr', hsame⟩

end Offside
