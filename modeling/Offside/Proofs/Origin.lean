import Offside.Proofs.Coverage
import Offside.Proofs.Terminators

/-!
# Where tokens begin

Each token that is cut out of a line goes back to a place in its line at which the table had a
lexeme, behind the tokens before it: the token itself, or the head of a string that ends on a later
line. `Begins` is such a place, and `LexState.Traced` keeps one for every token and for the string
that is open.
-/

namespace Offside

set_option autoImplicit false

/-- Behind some tokens, a lexeme begins at a place of a source. -/
inductive Begins (t : Table) (lines : List String) : List Token → Position → Prop
  | mk {done text ahead s a column b rest x} (hlines : lines = done ++ text :: ahead)
      (hdone : t.readLines 1 .start done = .ok s)
      (henter : Step t (.between (done.length + 1) s (text :: ahead)) a)
      (hlexemes : TakesLexemes t a (.within (done.length + 1) column b rest ahead))
      (hx : t.classify (rest.dropWhile isInlineSpace) = some x) :
      Begins t lines b.emitted.toList
        (.of (done.length + 1) (column + (rest.takeWhile isInlineSpace).length))

/-- A token begins where a lexeme does, or it is a comment with a line of its own. -/
def Token.Originates (t : Table) (lines : List String) (before : List Token) (u : Token) : Prop :=
  u.kind.isLexeme = true → Begins t lines before u.span.start ∨
    bracketDepth before = 0 ∧ sinceLineEnd before = []

theorem Token.originates_of_others {t : Table} {lines : List String} {u : Token}
    (h : u.kind.isLexeme = false) (before : List Token) : u.Originates t lines before := by
  intro hk
  rw [h] at hk
  cases hk

theorem lineFeed_not_mem_of_classify {t : Table} {rest : List Char} {x : Lexeme}
    (hn : '\n' ∉ rest) (hx : t.classify (rest.dropWhile isInlineSpace) = some x) :
    '\n' ∉ x.rest := by
  intro hm
  apply hn
  rw [Reading.passed_append hx]
  exact List.mem_append_right _ hm

theorem lineFeed_not_mem_of_enter {t : Table} {line : Nat} {s : LexState} {text : String}
    {ahead : List String} {a : Reading} (hn : '\n' ∉ text.toList)
    (henter : Step t (.between line s (text :: ahead)) a) : '\n' ∉ a.rest := by
  cases henter with
  | pass => exact List.not_mem_nil
  | close _ hs =>
    intro hm
    have happ := seek_append hs
    rw [List.reverse_nil, List.nil_append] at happ
    rw [← happ] at hn
    exact hn (List.mem_append_right _ (List.mem_of_mem_drop hm))
  | continued => exact hn
  | blank => exact List.not_mem_nil
  | remark => exact List.not_mem_nil
  | margin => exact fun hm => hn ((List.dropWhile_sublist _).subset hm)

namespace LexState

open Token

structure Traced (t : Table) (lines : List String) (s : LexState) : Prop where
  tokens : Follows (fun before u => u.Originates t lines before) s.emitted.toList
  pending : ∀ o, s.pending = some o → Begins t lines s.emitted.toList (.of o.line o.column)

section

variable {ops : OperatorSet} {lines done ahead : List String} {text : String} {s s' b : LexState}
  {column : Nat} {rest : List Char} {a r : Reading}

theorem isLexeme_of_isTerminator {k : Kind} (h : k.isTerminator = true) : k.isLexeme = false := by
  cases k <;> first | rfl | cases h

theorem Traced.terminate (h : s.Traced (.ofOperators ops) lines) (hp : s.pending = none)
    (kind : Kind) (hk : kind.isTerminator = true) (line length : Nat) :
    (s.terminate kind line length).Traced (.ofOperators ops) lines where
  tokens := by
    rw [terminate_emitted]
    exact follows_concat.mpr ⟨h.tokens, originates_of_others (isLexeme_of_isTerminator hk) _⟩
  pending o ho := by
    rw [show (s.terminate kind line length).pending = none from hp] at ho
    cases ho

theorem Traced.enter (h : s.Traced (.ofOperators ops) lines)
    (henter : Step (.ofOperators ops) (.between (done.length + 1) s (text :: ahead))
      (.within (done.length + 1) column b rest ahead)) :
    b.Traced (.ofOperators ops) lines ∧ b.pending = none := by
  obtain ⟨hp, -, -⟩ := enter_adds henter
  refine ⟨⟨?_, fun o ho => by rw [hp] at ho; cases ho⟩, hp⟩
  cases henter with
  | close ho hs =>
    rw [close_emitted]
    exact follows_concat.mpr ⟨h.tokens, fun _ => .inl (h.pending _ ho)⟩
  | continued => exact h.tokens
  | margin _ _ _ _ hi =>
    obtain ⟨ts, hts, hk⟩ := indent_emitted hi
    rw [hts]
    apply h.tokens.append
    intro u hu
    apply originates_of_others
    rcases (hk u hu).1 with hk | hk <;> rw [hk] <;> rfl

/-- In a line, the tokens are traced, and where a string is open, nothing is left of the line. -/
def TracedWithin (t : Table) (lines : List String) (line : Nat) (ahead : List String)
    (r : Reading) : Prop :=
  ∃ column b rest, r = .within line column b rest ahead ∧ b.Traced t lines ∧ '\n' ∉ rest ∧
    (b.pending = none ∨ rest = [])

theorem TracedWithin.lexemes (hlines : lines = done ++ text :: ahead)
    (hdone : (Table.ofOperators ops).readLines 1 .start done = .ok s)
    (henter : Step (.ofOperators ops) (.between (done.length + 1) s (text :: ahead)) a)
    (ha : TracedWithin (.ofOperators ops) lines (done.length + 1) ahead a)
    (h : TakesLexemes (.ofOperators ops) a r) :
    TracedWithin (.ofOperators ops) lines (done.length + 1) ahead r := by
  induction h with
  | refl => exact ha
  | tail hlexemes hlast ih =>
    obtain ⟨column, b, rest, rfl, hb, hn, hopen⟩ := ih
    cases hlast with
    | @mk _ _ _ s' _ x _ hx hs =>
      have hline := lineFeed_not_mem_of_classify hn hx
      have hp : b.pending = none := by
        rcases hopen with hp | rfl
        · exact hp
        · exact absurd rfl (ne_nil_of_classify hx)
      have hbegins := Begins.mk hlines hdone henter hlexemes hx
      -- the lexeme is emitted, or it opens a string and takes the rest of the line
      refine ⟨_, s', x.rest, rfl, ?_⟩
      rcases take_cases hs with ⟨-, b', hb', rfl⟩ | ⟨q, hr, rfl⟩
      · obtain ⟨depth, metrics, rfl⟩ := bracket_eq hb'
        refine ⟨⟨?_, fun o ho => ?_⟩, hline, .inl hp⟩
        · rw [emit_emitted]
          exact follows_concat.mpr ⟨hb.tokens, fun _ => .inl hbegins⟩
        · have hnone : b.pending = some o := ho
          rw [hp] at hnone
          cases hnone
      · refine ⟨⟨hb.tokens, fun o ho => ?_⟩, hline, ?_⟩
        · obtain rfl := Option.some.inj ho
          exact hbegins
        · rcases Table.rest_of_opens hx hr with hnil | hnl
          · exact .inr hnil
          · exact absurd (List.mem_of_head? hnl) hline

theorem Traced.readLine (h : s.Traced (.ofOperators ops) lines)
    (hlines : lines = done ++ text :: ahead) (hn : '\n' ∉ text.toList)
    (hdone : (Table.ofOperators ops).readLines 1 .start done = .ok s)
    (hline : (Table.ofOperators ops).readLine (done.length + 1) s text.toList = .ok s') :
    s'.Traced (.ofOperators ops) lines := by
  rcases readLine_cases ahead hline with hstep | ⟨column, b, rest, c, henter, -, hscan, hend⟩
  · have haccounted := accounted_readLines hdone
    cases hstep with
    | @pass _ _ o _ _ hp =>
      refine ⟨h.tokens, ?_⟩
      intro o' ho'
      obtain rfl := Option.some.inj ho'
      exact h.pending o hp
    | blank hp =>
      have hcount : s.countLine.Traced (.ofOperators ops) lines := ⟨h.tokens, h.pending⟩
      exact hcount.terminate hp .nl rfl _ _
    | remark hp hd =>
      refine Traced.terminate ⟨?_, fun o ho => ?_⟩ ?_ .nl rfl _ _
      · rw [LexState.remark, emit_emitted]
        refine follows_concat.mpr ⟨h.tokens, fun _ => .inr ⟨?_, haccounted.rested hp⟩⟩
        have hdepth := haccounted.depth
        rw [hd] at hdepth
        exact hdepth.symm
      · have hnone : s.pending = some o := ho
        rw [hp] at hnone
        cases hnone
      · exact hp
  · obtain ⟨hb, hp⟩ := h.enter henter
    have hrest := lineFeed_not_mem_of_enter hn henter
    obtain ⟨column', rest', -, -, hlexemes⟩ := scan_lexemes ahead hscan
    obtain ⟨_, c', _, heq, hc, -⟩ :=
      TracedWithin.lexemes hlines hdone henter ⟨_, _, _, rfl, hb, hrest, .inl hp⟩ hlexemes
    obtain ⟨-, -, rfl, -, -⟩ := Reading.within.inj heq
    rcases hend with ⟨-, rfl⟩ | ⟨hnone, rfl⟩
    · exact hc
    · exact hc.terminate hnone _ (isTerminator_ite _) _ _

theorem traced_start (t : Table) (lines : List String) : start.Traced t lines where
  tokens := follows_start (originates_of_others rfl [])
  pending := nofun

theorem traced_readLines (hn : ∀ text ∈ lines, '\n' ∉ text.toList)
    (h : (Table.ofOperators ops).readLines 1 .start lines = .ok s) :
    s.Traced (.ofOperators ops) lines := by
  refine readLines_induction (I := fun _ s => s.Traced (.ofOperators ops) lines) h
    (traced_start _ _) ?_
  rintro done text ahead s s' hlines hdone hs hline
  exact hs.readLine hlines (hn text (by simp [hlines])) hdone hline

end

end LexState

theorem originates_of_tokenize {ops : OperatorSet} {policy : EndPolicy} {lines : List String}
    {r : Tokenization} (hn : ∀ text ∈ lines, '\n' ∉ text.toList)
    (h : (Table.ofOperators ops).tokenize policy lines = .ok r) :
    Token.Follows (fun before u => u.Originates (.ofOperators ops) lines before)
      r.tokens.toList := by
  obtain ⟨s, hs, hr⟩ := Table.tokenize_eq_ok h
  obtain ⟨ts, hts, hk⟩ := LexState.finish_adds hr
  rw [hts]
  apply (LexState.traced_readLines hn hs).tokens.append
  intro u hu
  apply Token.originates_of_others
  rcases hk u hu with hk | hk <;> rw [hk] <;> rfl

end Offside
