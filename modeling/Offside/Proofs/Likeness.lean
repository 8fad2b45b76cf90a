import Offside.Proofs.Reading
import Mathlib.Data.List.Forall2
import Mathlib.Data.Option.Basic

/-!
# Runs that differ in their places

A run never looks at the tokens it has emitted or at the number of its line, so two runs over the
same text do the same wherever they started. `LexState.Like` relates the states of two such runs by
a relation of their places, `resume_like` takes it through all that is left of a source, and
`LexState.Like.finish` up to the answers.
-/

namespace Offside

set_option autoImplicit false

structure Token.Like (R : Position → Position → Prop) (t u : Token) : Prop where
  kind : t.kind = u.kind
  text : t.text = u.text
  start : R t.span.start u.span.start
  stop : R t.span.stop u.span.stop

structure OpenString.Like (R : Position → Position → Prop) (o o' : OpenString) : Prop where
  quote : o.quote = o'.quote
  text : o.text = o'.text
  place : R (.of o.line o.column) (.of o'.line o'.column)

inductive LexError.Like (R : Position → Position → Prop) : LexError → LexError → Prop
  | patternMismatch {line column line' column' : Nat} (text : String)
      (h : R (.of line column) (.of line' column')) :
      Like R (.patternMismatch line column text) (.patternMismatch line' column' text)
  | indentation {line line' width : Nat} (h : R (.of line width) (.of line' width)) :
      Like R (.indentation line width) (.indentation line' width)
  | bracketUnderflow {line column line' column' : Nat} (bracket : Char)
      (h : R (.of line column) (.of line' column')) :
      Like R (.bracketUnderflow line column bracket) (.bracketUnderflow line' column' bracket)
  | unterminatedString {line column line' column' : Nat}
      (h : R (.of line column) (.of line' column')) :
      Like R (.unterminatedString line column) (.unterminatedString line' column')
  /-- The source ends before places that correspond. -/
  | unclosedBracket {line line' : Nat} (depth : Nat)
      (h : R (.of (line + 1) 0) (.of (line' + 1) 0)) :
      Like R (.unclosedBracket depth line) (.unclosedBracket depth line')

inductive Agree {α β : Type} (E : LexError → LexError → Prop) (S : α → β → Prop) :
    Except LexError α → Except LexError β → Prop
  | ok {a : α} {b : β} (h : S a b) : Agree E S (.ok a) (.ok b)
  | error {e e' : LexError} (h : E e e') : Agree E S (.error e) (.error e')

namespace Agree

variable {α β γ δ : Type} {E : LexError → LexError → Prop} {S : α → β → Prop} {T : γ → δ → Prop}
  {x : Except LexError α} {y : Except LexError β}

theorem bind {f : α → Except LexError γ} {g : β → Except LexError δ} (h : Agree E S x y)
    (hfg : ∀ a b, S a b → Agree E T (f a) (g b)) : Agree E T (x >>= f) (y >>= g) := by
  cases h with
  | ok h => exact hfg _ _ h
  | error h => exact .error h

theorem of_ok {a : α} (h : Agree E S (.ok a) y) : ∃ b, y = .ok b ∧ S a b := by
  cases h with
  | ok h => exact ⟨_, rfl, h⟩

theorem of_error {e : LexError} (h : Agree E S (.error e) y) : ∃ e', y = .error e' ∧ E e e' := by
  cases h with
  | error h => exact ⟨_, rfl, h⟩

end Agree

/-- The states of two runs that have read the same, the one behind the tokens `base` and the other
behind the tokens `base'`. -/
structure LexState.Like (R : Position → Position → Prop) (base base' : List Token)
    (s s' : LexState) : Prop where
  indents : s.indents = s'.indents
  depth : s.depth = s'.depth
  pending : Option.Rel (OpenString.Like R) s.pending s'.pending
  emitted : ∃ ts ts', s.emitted.toList = base ++ ts ∧ s'.emitted.toList = base' ++ ts' ∧
    List.Forall₂ (Token.Like R) ts ts'

structure Tokenization.Like (R : Position → Position → Prop) (base base' : List Token)
    (r r' : Tokenization) : Prop where
  tokens : ∃ ts ts', r.tokens.toList = base ++ ts ∧ r'.tokens.toList = base' ++ ts' ∧
    List.Forall₂ (Token.Like R) ts ts'
  unterminated : Option.Rel R r.endOfInput.unterminated r'.endOfInput.unterminated
  openBrackets : r.endOfInput.openBrackets = r'.endOfInput.openBrackets

abbrev Alike (R : Position → Position → Prop) (base base' : List Token) :
    Except LexError LexState → Except LexError LexState → Prop :=
  Agree (LexError.Like R) (LexState.Like R base base')

/-- The columns from two places on correspond. -/
def Abreast (R : Position → Position → Prop) (line column line' column' : Nat) : Prop :=
  ∀ i, R (.of line (column + i)) (.of line' (column' + i))

/-- The lines from two numbers on correspond. -/
def Aligned (R : Position → Position → Prop) (line line' : Nat) : Prop :=
  ∀ i, Abreast R (line + i) 0 (line' + i) 0

section

variable {R : Position → Position → Prop} {base base' : List Token} {s s' : LexState}
  {line column line' column' length : Nat}

theorem Abreast.here (h : Abreast R line column line' column') :
    R (.of line column) (.of line' column') := h 0

theorem Abreast.forward (h : Abreast R line column line' column') (n : Nat) :
    Abreast R line (column + n) line' (column' + n) := by
  intro i
  rw [Nat.add_assoc, Nat.add_assoc]
  exact h (n + i)

theorem Abreast.along (h : Abreast R line 0 line' 0) (n : Nat) : Abreast R line n line' n := by
  have hforward := h.forward n
  rw [Nat.zero_add] at hforward
  exact hforward

theorem Aligned.nextLine (h : Aligned R line line') : Aligned R (line + 1) (line' + 1) := by
  intro i
  rw [Nat.add_assoc, Nat.add_assoc]
  exact h (1 + i)

namespace LexState

theorem Like.pending_cases (h : s.Like R base base' s') :
    (s.pending = none ∧ s'.pending = none) ∨
      ∃ o o', s.pending = some o ∧ s'.pending = some o' ∧ o.Like R o' := by
  have hp := h.pending
  cases hs : s.pending with
  | none =>
    rw [hs] at hp
    cases hs' : s'.pending with
    | none => exact .inl ⟨rfl, rfl⟩
    | some o' =>
      rw [hs'] at hp
      cases hp
  | some o =>
    rw [hs] at hp
    cases hs' : s'.pending with
    | none =>
      rw [hs'] at hp
      cases hp
    | some o' =>
      rw [hs'] at hp
      cases hp with
      | some ho => exact .inr ⟨o, o', rfl, rfl, ho⟩

theorem Like.countLine (h : s.Like R base base' s') : s.countLine.Like R base base' s'.countLine :=
  ⟨h.indents, h.depth, h.pending, h.emitted⟩

theorem Like.emit {t u : Token} (h : s.Like R base base' s') (ht : t.Like R u) :
    (s.emit t).Like R base base' (s'.emit u) where
  indents := h.indents
  depth := h.depth
  pending := h.pending
  emitted := by
    obtain ⟨ts, ts', hts, hts', hall⟩ := h.emitted
    refine ⟨ts ++ [t], ts' ++ [u], ?_, ?_, List.rel_append hall (.cons ht .nil)⟩
    · rw [emit_emitted, hts, List.append_assoc]
    · rw [emit_emitted, hts', List.append_assoc]

theorem Like.terminate (h : s.Like R base base' s') (kind : Kind) {length length' : Nat}
    (hend : Abreast R line length line' length') :
    (s.terminate kind line length).Like R base base' (s'.terminate kind line' length') :=
  h.emit ⟨rfl, rfl, hend 0, hend 1⟩

theorem Like.dedent {p p' : Position} (h : s.Like R base base' s') (hp : R p p') (n : Nat) :
    (s.dedent p n).Like R base base' (s'.dedent p' n) := by
  induction n generalizing s s' with
  | zero => exact h
  | succ n ih => exact ih (h.emit ⟨rfl, rfl, hp, hp⟩)

theorem Like.width (h : s.Like R base base' s') : s.width = s'.width := by
  rw [LexState.width, LexState.width, h.indents]

theorem Like.accept {width : Nat} (h : s.Like R base base' s')
    (hplace : R (.of line width) (.of line' width)) :
    Alike R base base' (if s.width = width then .ok s else .error (.indentation line width))
      (if s'.width = width then .ok s' else .error (.indentation line' width)) := by
  by_cases hw : s'.width = width
  · rw [if_pos hw, if_pos (h.width.trans hw)]
    exact .ok h
  · rw [if_neg hw, if_neg (h.width ▸ hw)]
    exact .error (LexError.Like.indentation hplace)

theorem Like.indent (h : s.Like R base base' s') (hline : Abreast R line 0 line' 0)
    (margin : List Char) :
    Alike R base base' (s.indent line margin) (s'.indent line' margin) := by
  have hplace := (hline.along margin.length).here
  simp only [LexState.indent, h.width, h.indents]
  split
  · exact .ok (Like.emit ⟨rfl, h.depth, h.pending, h.emitted⟩ ⟨rfl, rfl, hline.here, hplace⟩)
  · split
    · refine Like.accept (Like.dedent ?_ hplace _) hplace
      exact ⟨rfl, h.depth, h.pending, h.emitted⟩
    · exact .ok h

theorem Like.bracket (h : s.Like R base base' s') (hplace : R (.of line column) (.of line' column'))
    (x : Lexeme) : Alike R base base' (s.bracket line column x) (s'.bracket line' column' x) := by
  simp only [LexState.bracket, h.depth]
  split
  · exact .ok ⟨h.indents, rfl, h.pending, h.emitted⟩
  · split
    · split
      · exact .error (.bracketUnderflow _ hplace)
      · exact .ok ⟨h.indents, rfl, h.pending, h.emitted⟩
    · exact .ok h

theorem Like.take (h : s.Like R base base' s') (hcol : Abreast R line column line' column')
    (x : Lexeme) : Alike R base base' (s.take line column x) (s'.take line' column' x) := by
  unfold LexState.take
  split
  · refine (h.bracket hcol.here x).bind fun b b' hb => .ok (hb.emit ⟨rfl, rfl, hcol.here, ?_⟩)
    exact hcol x.width
  · exact .ok ⟨h.indents, h.depth, .some ⟨rfl, rfl, hcol.here⟩, h.emitted⟩

end LexState

variable {t : Table} {rest : List Char}

theorem scan_like (h : s.Like R base base' s') (hcol : Abreast R line column line' column') :
    Alike R base base' (t.scan line s column rest) (t.scan line' s' column' rest) := by
  fun_induction Table.scan t line s column rest generalizing s' column' with
  | case1 =>
    rename_i hempty
    rw [scan_of_space (all_of_dropWhile_isEmpty hempty)]
    exact .ok h
  | case2 =>
    rename_i hne hx
    rw [scan_of_none hne hx]
    exact .error (.patternMismatch _ (hcol.forward _).here)
  | case3 =>
    rename_i s column rest text column₁ _ x hx e he
    have htake := h.take (hcol.forward (rest.takeWhile isInlineSpace).length) x
    rw [he] at htake
    obtain ⟨e', he', hlike⟩ := htake.of_error
    rw [scan_of_lexeme hx, he']
    exact .error hlike
  | case4 =>
    rename_i s column rest text column₁ _ x hx b hb ih
    have hcol₁ := hcol.forward (rest.takeWhile isInlineSpace).length
    have htake := h.take hcol₁ x
    rw [hb] at htake
    obtain ⟨b', hb', hlike⟩ := htake.of_ok
    -- both runs take the same lexeme
    rw [scan_of_classify hx hb']
    exact ih hlike (hcol₁.forward x.width)

/-- White space before the next lexeme does not matter. -/
theorem scan_like_of_space {rest' : List Char} (h : s.Like R base base' s')
    (hcol : Abreast R line (column + (rest.takeWhile isInlineSpace).length) line'
      (column' + (rest'.takeWhile isInlineSpace).length))
    (hrest : rest.dropWhile isInlineSpace = rest'.dropWhile isInlineSpace) :
    Alike R base base' (t.scan line s column rest) (t.scan line' s' column' rest') := by
  by_cases hempty : (rest.dropWhile isInlineSpace).isEmpty = true
  · rw [scan_of_space (all_of_dropWhile_isEmpty hempty),
      scan_of_space (all_of_dropWhile_isEmpty (hrest ▸ hempty))]
    exact .ok h
  · cases hx : t.classify (rest.dropWhile isInlineSpace) with
    | none =>
      rw [scan_of_none hempty hx, scan_of_none (hrest ▸ hempty) (hrest ▸ hx), hrest]
      exact .error (.patternMismatch _ hcol.here)
    | some x =>
      rw [scan_of_lexeme hx, scan_of_lexeme (hrest ▸ hx)]
      exact (h.take hcol x).bind fun b b' hb => scan_like hb (hcol.forward x.width)

theorem finishLine_like_of_space {length length' : Nat} {rest' : List Char}
    (h : s.Like R base base' s')
    (hcol : Abreast R line (column + (rest.takeWhile isInlineSpace).length) line'
      (column' + (rest'.takeWhile isInlineSpace).length))
    (hrest : rest.dropWhile isInlineSpace = rest'.dropWhile isInlineSpace)
    (hend : Abreast R line length line' length') :
    Alike R base base' (t.finishLine line length s column rest)
      (t.finishLine line' length' s' column' rest') := by
  unfold Table.finishLine
  refine (scan_like_of_space h hcol hrest).bind fun b b' hb => ?_
  rcases hb.pending_cases with ⟨hp, hp'⟩ | ⟨o, o', hp, hp', -⟩
  · simp only [hp, hp', hb.depth]
    exact .ok (hb.terminate _ hend)
  · simp only [hp, hp']
    exact .ok hb

theorem finishLine_like {length length' : Nat} (h : s.Like R base base' s')
    (hcol : Abreast R line column line' column') (hend : Abreast R line length line' length') :
    Alike R base base' (t.finishLine line length s column rest)
      (t.finishLine line' length' s' column' rest) :=
  finishLine_like_of_space h (hcol.forward _) rfl hend

theorem logicalLine_like (h : s.Like R base base' s') (hline : Abreast R line 0 line' 0)
    (text : List Char) :
    Alike R base base' (t.logicalLine line s text) (t.logicalLine line' s' text) := by
  simp only [Table.logicalLine]
  split
  · exact .ok (h.terminate _ (hline.along _))
  · split
    · refine .ok (LexState.Like.terminate (LexState.Like.emit h ?_) _ (hline.along _))
      exact ⟨rfl, rfl, (hline.along _).here, (hline.along _).here⟩
    · exact (h.indent hline _).bind fun b b' hb =>
        finishLine_like hb (hline.along _) (hline.along _)

theorem stringLine_like {o o' : OpenString} (h : s.Like R base base' s') (ho : o.Like R o')
    (hline : Abreast R line 0 line' 0) (text : List Char) :
    Alike R base base' (t.stringLine line s o text) (t.stringLine line' s' o' text) := by
  simp only [Table.stringLine, ho.quote, ho.text]
  split
  · exact .ok ⟨h.indents, h.depth, .some ⟨rfl, rfl, ho.place⟩, h.emitted⟩
  · refine finishLine_like (LexState.Like.emit ?_ ⟨rfl, rfl, ho.place, (hline.along _).here⟩)
      (hline.along _) (hline.along _)
    exact ⟨h.indents, h.depth, .none, h.emitted⟩

theorem readLine_like (h : s.Like R base base' s') (hline : Abreast R line 0 line' 0)
    (text : List Char) :
    Alike R base base' (t.readLine line s text) (t.readLine line' s' text) := by
  rcases h.pending_cases with ⟨hp, hp'⟩ | ⟨o, o', hp, hp', ho⟩
  · rcases Nat.eq_zero_or_pos s.depth with hd | hd
    · rw [readLine_of_none hp hd, readLine_of_none hp' (h.depth ▸ hd)]
      exact logicalLine_like h.countLine hline text
    · rw [readLine_of_depth hp hd, readLine_of_depth hp' (h.depth ▸ hd)]
      exact finishLine_like h.countLine hline (hline.along _)
  · rw [readLine_of_pending hp, readLine_of_pending hp']
    exact stringLine_like h.countLine ho hline text

theorem readLines_like (lines : List String) (h : s.Like R base base' s')
    (hlines : Aligned R line line') :
    Alike R base base' (t.readLines line s lines) (t.readLines line' s' lines) := by
  induction lines generalizing line line' s s' with
  | nil => exact .ok h
  | cons text ahead ih =>
    rw [readLines_cons, readLines_cons]
    exact (readLine_like h (hlines 0) text.toList).bind fun b b' hb => ih hb hlines.nextLine

/-- Two runs that stand in a line before the same lexeme agree. -/
theorem resume_like {rest' : List Char} (ahead : List String) (h : s.Like R base base' s')
    (hcol : Abreast R line (column + (rest.takeWhile isInlineSpace).length) line'
      (column' + (rest'.takeWhile isInlineSpace).length))
    (hrest : rest.dropWhile isInlineSpace = rest'.dropWhile isInlineSpace)
    (hend : Abreast R line (column + rest.length) line' (column' + rest'.length))
    (hlines : Aligned R (line + 1) (line' + 1)) :
    Alike R base base' (t.resume (.within line column s rest ahead))
      (t.resume (.within line' column' s' rest' ahead)) := by
  rw [resume_within_eq, resume_within_eq]
  exact (finishLine_like_of_space h hcol hrest hend).bind fun b b' hb =>
    readLines_like ahead hb hlines

theorem LexState.Like.refl (hR : ∀ p, R p p) (s : LexState) : s.Like R [] [] s where
  indents := rfl
  depth := rfl
  pending := by
    cases s.pending with
    | none => exact .none
    | some o => exact .some ⟨rfl, rfl, hR _⟩
  emitted := by
    refine ⟨s.emitted.toList, s.emitted.toList, rfl, rfl, ?_⟩
    exact List.forall₂_same.mpr fun t _ => ⟨rfl, rfl, hR _, hR _⟩

theorem LexState.Like.finish {count count' : Nat} (h : s.Like R base base' s')
    (hend : R (.of (count + 1) 0) (.of (count' + 1) 0)) (policy : EndPolicy) :
    Agree (LexError.Like R) (Tokenization.Like R base base') (s.finish count policy)
      (s'.finish count' policy) := by
  have hlast := (h.dedent hend (s'.indents.length - 1)).emit
    (t := ⟨.endMarker, "", .point (.of (count + 1) 0)⟩)
    (u := ⟨.endMarker, "", .point (.of (count' + 1) 0)⟩) ⟨rfl, rfl, hend, hend⟩
  simp only [LexState.finish, h.indents, h.depth]
  rcases h.pending_cases with ⟨hp, hp'⟩ | ⟨o, o', hp, hp', ho⟩
  · simp only [hp, hp']
    cases policy with
    | strict =>
      dsimp only
      split
      · exact .error (LexError.Like.unclosedBracket _ hend)
      · exact .ok ⟨hlast.emitted, .none, rfl⟩
    | lenient => exact .ok ⟨hlast.emitted, .none, rfl⟩
  · simp only [hp, hp']
    cases policy with
    | strict => exact .error (LexError.Like.unterminatedString ho.place)
    | lenient => exact .ok ⟨hlast.emitted, .some ho.place, rfl⟩

end

end Offside
