import Offside.Proofs.Blocks
import Offside.Proofs.Likeness

/-!
# Sources one behind the other

Behind a source that ends with nothing open, a run is in the state in which it started but for the
tokens it has emitted. What it makes of the lines behind is therefore what it makes of them alone,
with every place lowered by the number of lines before.
-/

namespace Offside

set_option autoImplicit false

/-- The same column `n` lines further down. -/
def Position.lower (n : Nat) (p : Position) : Position := ⟨p.line + n, p.column⟩

def Token.lower (n : Nat) (t : Token) : Token :=
  { t with span := ⟨t.span.start.lower n, t.span.stop.lower n⟩ }

def EndOfInput.lower (n : Nat) (e : EndOfInput) : EndOfInput :=
  { e with unterminated := e.unterminated.map (Position.lower n) }

def LexError.lower (n : Nat) : LexError → LexError
  | .patternMismatch line column text => .patternMismatch (line + n) column text
  | .indentation line width => .indentation (line + n) width
  | .bracketUnderflow line column bracket => .bracketUnderflow (line + n) column bracket
  | .unterminatedString line column => .unterminatedString (line + n) column
  | .unclosedBracket depth line => .unclosedBracket depth (line + n)
  | .invalidPattern pattern message => .invalidPattern pattern message

def Position.Lowers (n : Nat) (p q : Position) : Prop := q = p.lower n

section

variable {n line column line' column' : Nat}

theorem Position.lowers_of :
    Lowers n (.of line column) (.of line' column') ↔ line' = line + n ∧ column' = column := by
  simp only [Lowers, lower, of, Position.mk.injEq]
  omega

theorem aligned_lowers (line n : Nat) : Aligned (Position.Lowers n) line (line + n) := by
  intro i j
  rw [Position.lowers_of]
  omega

theorem Token.Like.eq_lower {t u : Token} (h : t.Like (Position.Lowers n) u) : u = t.lower n := by
  obtain ⟨hk, ht, hstart, hstop⟩ := h
  obtain ⟨kind, text, ⟨start, stop⟩⟩ := u
  obtain rfl : t.kind = kind := hk
  obtain rfl : t.text = text := ht
  obtain rfl : start = _ := hstart
  obtain rfl : stop = _ := hstop
  rfl

theorem Token.eq_map_lower {ts us : List Token}
    (h : List.Forall₂ (Token.Like (Position.Lowers n)) ts us) : us = ts.map (Token.lower n) := by
  induction h with
  | nil => rfl
  | cons ht _ ih => rw [List.map_cons, ht.eq_lower, ih]

theorem LexError.Like.eq_lower {e e' : LexError} (h : e.Like (Position.Lowers n) e') :
    e' = e.lower n := by
  cases h with
  | patternMismatch text h =>
    obtain ⟨rfl, rfl⟩ := Position.lowers_of.mp h
    rfl
  | indentation h =>
    obtain ⟨rfl, -⟩ := Position.lowers_of.mp h
    rfl
  | bracketUnderflow bracket h =>
    obtain ⟨rfl, rfl⟩ := Position.lowers_of.mp h
    rfl
  | unterminatedString h =>
    obtain ⟨rfl, rfl⟩ := Position.lowers_of.mp h
    rfl
  | @unclosedBracket line line' depth h =>
    obtain rfl : line' = line + n := by
      have hline := (Position.lowers_of.mp h).1
      omega
    rfl

theorem Tokenization.Like.endOfInput_eq {base base' : List Token} {r r' : Tokenization}
    (h : r.Like (Position.Lowers n) base base' r') : r'.endOfInput = r.endOfInput.lower n := by
  have hopen := h.openBrackets
  have hplace := h.unterminated
  obtain ⟨tokens, metrics, unterminated, openBrackets⟩ := r
  obtain ⟨tokens', metrics', unterminated', openBrackets'⟩ := r'
  obtain rfl : openBrackets = openBrackets' := hopen
  cases hplace with
  | none => rfl
  | some hp =>
    obtain rfl := hp
    rfl

end

section

variable {t : Table} {policy : EndPolicy} {lines front back : List String} {s : LexState}
  {r : Tokenization}

theorem grounded_of_step {a b : Reading} (h : Step t a b)
    (ha : ∃ widths, a.state.indents = widths ++ [0]) :
    ∃ widths, b.state.indents = widths ++ [0] := by
  cases h with
  | pass => exact ha
  | close => exact ha
  | continued => exact ha
  | blank => exact ha
  | remark => exact ha
  | @margin line s s' text ahead _ _ _ _ hi =>
    obtain ⟨widths, hw⟩ := ha
    rcases LexState.indent_cases hi with ⟨-, metrics, rfl⟩ | ⟨-, -, rfl⟩ | ⟨-, rfl⟩
    · exact ⟨_ :: widths, congrArg (_ :: ·) hw⟩
    · refine ⟨widths.dropWhile ((text.toList.takeWhile isMargin).length < ·), ?_⟩
      rw [Reading.state, LexState.dedent_indents]
      exact (congrArg (List.dropWhile _) hw).trans (LexState.dropWhile_blocks ..)
    · exact ⟨widths, hw⟩
  | lexeme hx hs =>
    rcases LexState.take_cases hs with ⟨-, b, hb, rfl⟩ | ⟨quote, -, rfl⟩
    · obtain ⟨depth, metrics, rfl⟩ := LexState.bracket_eq hb
      exact ha
    · exact ha
  | finish => exact ha
  | suspend => exact ha

theorem grounded_readLines (h : t.readLines 1 .start lines = .ok s) :
    ∃ widths, s.indents = widths ++ [0] := by
  have hsteps := readLines_steps [] h
  exact Steps.preserve (I := fun r => ∃ widths, r.state.indents = widths ++ [0])
    (fun _ _ hstep ha => grounded_of_step hstep ha) hsteps ⟨[], rfl⟩

/-- Behind a source that ends with nothing open and closes no block, a run is where it started. -/
theorem like_start (hs : t.readLines 1 .start lines = .ok s)
    (hr : s.finish lines.length policy = .ok r) (hclean : r.endOfInput.isClean = true)
    (hflat : r.tokens.toList.dropLast.getLast?.map Token.kind ≠ some .dedent) (n : Nat) :
    LexState.start.Like (Position.Lowers n) LexState.start.emitted.toList s.emitted.toList s ∧
      r.tokens.toList =
        s.emitted.toList ++ [⟨.endMarker, "", .point (.of (lines.length + 1) 0)⟩] := by
  obtain ⟨htokens, hend, -⟩ := LexState.finish_eq_ok hr
  obtain ⟨widths, hw⟩ := grounded_readLines hs
  rw [hend] at hclean
  simp only [EndOfInput.isClean, Bool.and_eq_true, Option.isNone_iff_eq_none,
    Option.map_eq_none_iff, beq_iff_eq] at hclean
  have hnone : widths = [] := by
    rw [htokens, List.dropLast_concat, hw, List.length_append, List.length_singleton,
      Nat.add_sub_cancel] at hflat
    cases widths with
    | nil => rfl
    | cons width outer =>
      rw [List.length_cons, List.replicate_succ', ← List.append_assoc, List.getLast?_concat]
        at hflat
      exact absurd rfl hflat
  subst hnone
  constructor
  · exact {
      indents := hw.symm
      depth := hclean.2.symm
      pending := by
        rw [hclean.1]
        exact .none
      emitted := ⟨[], [], (List.append_nil _).symm, (List.append_nil _).symm, .nil⟩ }
  · rw [htokens, hw]
    simp

end

/-- What a source gives behind another one that ends with nothing open and closes no block there is
what it gives alone: either both fail or both succeed, with the same error or the same tokens but
for the lines, which are lowered. -/
theorem tokenize_append {t : Table} {policy : EndPolicy} {front back : List String}
    {r : Tokenization} (h : t.tokenize policy front = .ok r) (hclean : r.endOfInput.isClean = true)
    (hflat : r.tokens.toList.dropLast.getLast?.map Token.kind ≠ some .dedent) :
    (t.tokenize policy (front ++ back)).isOk = (t.tokenize policy back).isOk ∧
      (∀ r', t.tokenize policy back = .ok r' → ∃ r'' before after,
        t.tokenize policy (front ++ back) = .ok r'' ∧
        r.tokens.toList = before ++ [⟨.endMarker, "", .point (.of (front.length + 1) 0)⟩] ∧
        r'.tokens.toList = ⟨.encoding, "utf-8", .point .origin⟩ :: after ∧
        r''.tokens.toList = before ++ after.map (Token.lower front.length) ∧
        r''.endOfInput = r'.endOfInput.lower front.length) ∧
      ∀ e, t.tokenize policy back = .error e →
        t.tokenize policy (front ++ back) = .error (e.lower front.length) := by
  obtain ⟨s, hs, hr⟩ := Table.tokenize_eq_ok h
  obtain ⟨hlike, htokens⟩ := like_start hs hr hclean hflat front.length
  have hrun : Agree (LexError.Like (Position.Lowers front.length))
      (Tokenization.Like (Position.Lowers front.length) LexState.start.emitted.toList
        s.emitted.toList)
      (t.tokenize policy back) (t.tokenize policy (front ++ back)) := by
    rw [Table.tokenize_eq, Table.tokenize_eq, readLines_of_append back hs]
    refine (readLines_like back hlike (aligned_lowers 1 front.length)).bind fun b b' hb => ?_
    refine hb.finish ?_ policy
    rw [Position.lowers_of, List.length_append]
    omega
  cases hback : t.tokenize policy back with
  | error e =>
    rw [hback] at hrun
    obtain ⟨e', he', hlower⟩ := hrun.of_error
    rw [he']
    refine ⟨rfl, nofun, ?_⟩
    intro e₁ he₁
    rw [← Except.error.inj he₁, hlower.eq_lower]
  | ok r' =>
    rw [hback] at hrun
    obtain ⟨r'', hr'', hsame⟩ := hrun.of_ok
    obtain ⟨ts, ts', hts, hts', hall⟩ := hsame.tokens
    rw [hr'']
    refine ⟨rfl, ?_, nofun⟩
    intro r₁ hr₁
    obtain rfl := Except.ok.inj hr₁
    refine ⟨r'', s.emitted.toList, ts, rfl, htokens, hts, ?_, hsame.endOfInput_eq⟩
    rw [hts', Token.eq_map_lower hall]

/-- A block with a bracket over two lines, behind a string over two lines. -/
theorem tokenize_append_string :
    ∃ r r' r'' before after,
      (Table.ofOperators .core).tokenize .strict ["x = '''a", "''' # c"] = .ok r ∧
      r.endOfInput.isClean = true ∧
      r.tokens.toList.dropLast.getLast?.map Token.kind ≠ some .dedent ∧
      (Table.ofOperators .core).tokenize .strict ["if y:", "  z = (1,", "2)"] = .ok r' ∧
      (Table.ofOperators .core).tokenize .strict
        (["x = '''a", "''' # c"] ++ ["if y:", "  z = (1,", "2)"]) = .ok r'' ∧
      r.tokens.toList = before ++ [⟨.endMarker, "", .point (.of 3 0)⟩] ∧
      r'.tokens.toList = ⟨.encoding, "utf-8", .point .origin⟩ :: after ∧
      r''.tokens.toList = before ++ after.map (Token.lower 2) := by
  have hfront : ((Table.ofOperators .core).tokenize .strict
      ["x = '''a", "''' # c"]).toOption.map
        (fun r => (r.endOfInput.isClean, r.tokens.toList.dropLast.getLast?.map Token.kind)) =
      some (true, some .newline) := by
    rw [Table.ofOperators, OperatorSet.matchOrder_core]
    decide +kernel
  have hback : ((Table.ofOperators .core).tokenize .strict
      ["if y:", "  z = (1,", "2)"]).isOk = true := by
    rw [Table.ofOperators, OperatorSet.matchOrder_core]
    decide +kernel
  cases hr : (Table.ofOperators .core).tokenize .strict ["x = '''a", "''' # c"] with
  | error e =>
    rw [hr] at hfront
    cases hfront
  | ok r =>
    rw [hr] at hfront
    obtain ⟨hclean, hlast⟩ := Prod.mk.inj (Option.some.inj hfront)
    have hflat : r.tokens.toList.dropLast.getLast?.map Token.kind ≠ some .dedent := by
      rw [hlast]
      decide
    cases hr' : (Table.ofOperators .core).tokenize .strict ["if y:", "  z = (1,", "2)"] with
    | error e =>
      rw [hr'] at hback
      cases hback
    | ok r' =>
      obtain ⟨r'', before, after, hboth, hbefore, hafter, htokens, -⟩ :=
        (tokenize_append hr hclean hflat).2.1 r' hr'
      exact ⟨r, r', r'', before, after, rfl, hclean, hflat, rfl, hboth, hbefore, hafter, htokens⟩

end Offside
