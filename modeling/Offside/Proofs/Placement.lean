import Offside.Proofs.Reading

/-!
# Where tokens can stand

The tokens of a source stand on its lines, before the first or behind the last, and no further to
the right than one place behind the end of the longest line.
-/

namespace Offside

set_option autoImplicit false

/-- A position on a line up to `height` and at a column up to `width`. -/
def Position.Fits (height width : Nat) (p : Position) : Prop :=
  ∃ line column, p = .of line column ∧ line ≤ height ∧ column ≤ width

def Token.Fits (height width : Nat) (t : Token) : Prop :=
  t.span.start.Fits height width ∧ t.span.stop.Fits height width

structure Source.Room (lines : List String) (height width : Nat) : Prop where
  height : lines.length + 1 ≤ height
  width : ∀ l ∈ lines, l.length + 1 ≤ width

theorem Token.fits_of {height width line line' column column' : Nat} {kind : Kind} {text : String}
    (hl : line ≤ height) (hc : column ≤ width) (hl' : line' ≤ height) (hc' : column' ≤ width) :
    Token.Fits height width ⟨kind, text, .of line column, .of line' column'⟩ :=
  ⟨⟨line, column, rfl, hl, hc⟩, ⟨line', column', rfl, hl', hc'⟩⟩

namespace Reading

variable {lines : List String} {height width line column : Nat} {s s' : LexState}
  {o : OpenString} {text : String} {rest : List Char} {ahead : List String} {a b : Reading}

/-- The tokens of a run have room, and so does the start of an open string. -/
structure Placed (height width : Nat) (r : Reading) : Prop where
  tokens : ∀ t ∈ r.state.emitted.toList, t.Fits height width
  pending : ∀ o, r.state.pending = some o → o.line ≤ height ∧ o.column ≤ width

theorem Anchored.line_room (h : Anchored lines (between line s (text :: ahead)))
    (hr : Source.Room lines height width) : line ≤ height ∧ text.length + 1 ≤ width := by
  obtain ⟨done, rfl, rfl⟩ := h
  have hh := hr.height
  rw [List.length_append, List.length_cons] at hh
  exact ⟨by omega, hr.width text (by simp)⟩

theorem Anchored.column_room (h : Anchored lines (within line column s rest ahead))
    (hr : Source.Room lines height width) :
    line ≤ height ∧ column + rest.length + 1 ≤ width := by
  obtain ⟨done, before, text, rfl, rfl, ht, rfl⟩ := h
  have hh := hr.height
  have hw := hr.width text (by simp)
  rw [List.length_append, List.length_cons] at hh
  rw [← String.length_toList, ht, List.length_append] at hw
  exact ⟨by omega, hw⟩

theorem Placed.emit (h : Placed height width a) (ts : List Token)
    (he : b.state.emitted.toList = a.state.emitted.toList ++ ts)
    (ht : ∀ t ∈ ts, t.Fits height width)
    (hp : ∀ o, b.state.pending = some o → o.line ≤ height ∧ o.column ≤ width) :
    Placed height width b where
  tokens := by
    rw [he]
    exact List.forall_mem_append.mpr ⟨h.tokens, ht⟩
  pending := hp

theorem Placed.emitOne {t : Token} (h : Placed height width a)
    (he : b.state.emitted.toList = a.state.emitted.toList ++ [t]) (ht : t.Fits height width)
    (hp : b.state.pending = a.state.pending) : Placed height width b := by
  refine h.emit [t] he ?_ ?_
  · intro u hu
    rw [List.mem_singleton.mp hu]
    exact ht
  · rw [hp]
    exact h.pending

theorem Placed.same (h : Placed height width a) (he : b.state.emitted = a.state.emitted)
    (hp : b.state.pending = a.state.pending) : Placed height width b := by
  refine h.emit [] ?_ (by simp) ?_
  · rw [he, List.append_nil]
  · rw [hp]
    exact h.pending

theorem Placed.margin (h : Placed height width (between line s (text :: ahead)))
    (ha : Anchored lines (between line s (text :: ahead))) (hr : Source.Room lines height width)
    (hi : s.countLine.indent line (text.toList.takeWhile isMargin) = .ok s') :
    Placed height width (within line (text.toList.takeWhile isMargin).length s'
      (text.toList.dropWhile isMargin) ahead) := by
  obtain ⟨hl, hw⟩ := ha.line_room hr
  have hm : (text.toList.takeWhile isMargin).length ≤ width := by
    have hle := (List.takeWhile_sublist (p := isMargin) (l := text.toList)).length_le
    rw [String.length_toList] at hle
    omega
  have hp := LexState.indent_pending hi
  rcases LexState.indent_cases hi with ⟨-, metrics, rfl⟩ | ⟨-, -, rfl⟩ | ⟨-, rfl⟩
  · exact h.emitOne (LexState.emit_emitted _ _) (Token.fits_of hl (Nat.zero_le _) hl hm) hp
  · refine h.emit _ (LexState.dedent_emitted _ _ _) ?_ ?_
    · intro t ht
      rw [List.eq_of_mem_replicate ht]
      exact Token.fits_of hl hm hl hm
    · intro o ho
      exact h.pending o (hp.symm.trans ho)
  · exact h.same rfl rfl

theorem Placed.step {t : Table} (hr : Source.Room lines height width) (h : Step t a b)
    (ha : Anchored lines a) (hb : Anchored lines b) (hp : Placed height width a) :
    Placed height width b := by
  cases h with
  | pass hpend =>
    rename_i line s o text ahead _
    refine hp.emit [] (List.append_nil _).symm (by simp) ?_
    intro o' ho
    obtain rfl := Option.some.inj ho
    exact hp.pending o hpend
  | close hpend =>
    obtain ⟨hl, hw⟩ := hb.column_room hr
    obtain ⟨hol, hoc⟩ := hp.pending _ hpend
    refine hp.emit _ (LexState.close_emitted ..) ?_ nofun
    intro u hu
    rw [List.mem_singleton.mp hu]
    exact Token.fits_of hol hoc hl (by omega)
  | continued => exact hp.same rfl rfl
  | blank =>
    obtain ⟨hl, hw⟩ := ha.line_room hr
    exact hp.emitOne (LexState.emit_emitted _ _) (Token.fits_of hl (by omega) hl hw) rfl
  | remark =>
    rename_i line s text ahead _ _ _
    obtain ⟨hl, hw⟩ := ha.line_room hr
    have hm := (List.takeWhile_sublist (p := isMargin) (l := text.toList)).length_le
    rw [String.length_toList] at hm
    have hcomment : Placed height width (between line (s.countLine.remark line
        (text.toList.takeWhile isMargin).length text.length (text.toList.dropWhile isMargin))
        ahead) :=
      hp.emitOne (LexState.emit_emitted _ _) (Token.fits_of hl (by omega) hl (by omega)) rfl
    exact hcomment.emitOne (LexState.emit_emitted _ _) (Token.fits_of hl (by omega) hl hw) rfl
  | margin _ _ _ _ hi => exact hp.margin ha hr hi
  | lexeme hx hs =>
    obtain ⟨hl, hw⟩ := hb.column_room hr
    rcases LexState.take_cases hs with ⟨-, c, hc, rfl⟩ | ⟨q, -, rfl⟩
    · obtain ⟨depth, metrics, rfl⟩ := LexState.bracket_eq hc
      exact hp.emitOne (LexState.emit_emitted _ _) (Token.fits_of hl (by omega) hl (by omega)) rfl
    · refine hp.emit [] (List.append_nil _).symm (by simp) ?_
      intro o ho
      obtain rfl := Option.some.inj ho
      exact ⟨hl, by simp only; omega⟩
  | finish =>
    obtain ⟨hl, hw⟩ := ha.column_room hr
    exact hp.emitOne (LexState.emit_emitted _ _) (Token.fits_of hl (by omega) hl hw) rfl
  | suspend => exact hp.same rfl rfl

theorem placed_of_steps {t : Table} {r : Reading} (hr : Source.Room lines height width)
    (h : Steps t (between 1 .start lines) r) : Placed height width r := by
  have hstart : Placed height width (between 1 .start lines) := by
    refine ⟨?_, nofun⟩
    intro u hu
    rw [List.mem_singleton.mp hu]
    exact Token.fits_of (Nat.zero_le _) (Nat.zero_le _) (Nat.zero_le _) (Nat.zero_le _)
  have hboth := h.preserve (I := fun r => Anchored lines r ∧ Placed height width r)
    (fun a b hstep ⟨ha, hp⟩ => ⟨ha.step hstep, hp.step hr hstep ha (ha.step hstep)⟩)
    ⟨anchored_start lines, hstart⟩
  exact hboth.2

end Reading

theorem fits_of_tokenize {t : Table} {policy : EndPolicy} {lines : List String} {r : Tokenization}
    {height width : Nat} (hr : Source.Room lines height width)
    (h : t.tokenize policy lines = .ok r) : ∀ u ∈ r.tokens.toList, u.Fits height width := by
  obtain ⟨s, hs, hf⟩ := Table.tokenize_eq_ok h
  obtain ⟨htokens, -, -⟩ := LexState.finish_eq_ok hf
  have hsteps := readLines_steps [] hs
  rw [List.append_nil] at hsteps
  have hend : Token.Fits height width ⟨.endMarker, "", .point (.of (lines.length + 1) 0)⟩ :=
    Token.fits_of hr.height (Nat.zero_le _) hr.height (Nat.zero_le _)
  intro u hu
  rw [htokens] at hu
  rcases List.mem_append.mp hu with hu | hu
  · rcases List.mem_append.mp hu with hu | hu
    · exact (Reading.placed_of_steps hr hsteps).tokens u hu
    · rw [List.eq_of_mem_replicate hu]
      exact hend
  · rw [List.mem_singleton.mp hu]
    exact hend

end Offside
