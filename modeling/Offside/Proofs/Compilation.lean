import Offside.Proofs.Cause

/-!
# Compiling a table

A table is used only if all of its patterns can be compiled. Then a run goes by the table as it is;
else it fails with the first pattern that cannot be compiled, whatever the source holds. No other
error is about a pattern.
-/

namespace Offside

set_option autoImplicit false

variable {compiler : PatternCompiler} {t : Table} {p : LexPrefs} {policy : EndPolicy}
  {lines : List String} {r : Tokenization} {pattern message : String}

namespace Table

def Compiles (compiler : PatternCompiler) (t : Table) : Prop :=
  ∀ e ∈ t.entries, compiler e.spelling = none

def FirstFault (compiler : PatternCompiler) (t : Table) (pattern message : String) : Prop :=
  ∃ before e after, t.entries = before ++ e :: after ∧
    (∀ b ∈ before, compiler b.spelling = none) ∧ e.spelling = pattern ∧
    compiler pattern = some message

theorem FirstFault.not_compiles (h : t.FirstFault compiler pattern message) :
    ¬t.Compiles compiler := by
  obtain ⟨before, e, after, hentries, -, rfl, hfault⟩ := h
  intro hcompiles
  rw [hcompiles e (by simp [hentries])] at hfault
  cases hfault

theorem FirstFault.compile (h : t.FirstFault compiler pattern message) :
    t.compile compiler = .error (.invalidPattern pattern message) := by
  obtain ⟨before, e, after, hentries, hbefore, rfl, hfault⟩ := h
  rw [Table.compile, hentries, List.findSome?_append,
    findSome?_invalidPattern_eq_none hbefore, Option.none_or, List.findSome?_cons, hfault]
  rfl

/-- Either all patterns can be compiled, or there is a first one that cannot. -/
theorem compiles_or_firstFault (compiler : PatternCompiler) (t : Table) :
    t.Compiles compiler ∨ ∃ pattern message, t.FirstFault compiler pattern message := by
  cases hfind : t.entries.findSome? fun e =>
      (compiler e.spelling).map (LexError.invalidPattern e.spelling) with
  | none =>
    left
    intro e he
    exact Option.map_eq_none_iff.mp (List.findSome?_eq_none_iff.mp hfind e he)
  | some x =>
    right
    obtain ⟨before, e, after, hentries, hfault, hbefore⟩ := List.findSome?_eq_some_iff.mp hfind
    obtain ⟨message, hmessage, -⟩ := Option.map_eq_some_iff.mp hfault
    exact ⟨_, message, before, e, after, hentries,
      fun b hb => Option.map_eq_none_iff.mp (hbefore b hb), rfl, hmessage⟩

/-- Reading lines by a table gives no error about a pattern. -/
theorem tokenize_ne_invalidPattern :
    t.tokenize policy lines ≠ .error (.invalidPattern pattern message) := by
  intro h
  obtain ⟨done, text, ahead, b, -, -, hline⟩ :=
    readLines_eq_error (readLines_of_tokenize_error h rfl)
  obtain ⟨a, -, hstuck, -⟩ := readLine_stuck ahead hline
  -- an error of a line names its line, and this one names none
  cases hstuck.line?_eq

end Table

namespace LexPrefs

theorem tokenize_of_compiles (h : p.table.Compiles compiler) :
    p.tokenize compiler lines = p.table.tokenize p.policy lines := by
  rw [tokenize, Table.compile_of_compiles h]
  rfl

theorem tokenize_of_firstFault (h : p.table.FirstFault compiler pattern message) :
    p.tokenize compiler lines = .error (.invalidPattern pattern message) := by
  rw [tokenize, h.compile]
  rfl

/-- What a run with compiled patterns gives, the table gives; and without them it gives nothing. -/
theorem tokenize_eq_ok_iff :
    p.tokenize compiler lines = .ok r ↔
      p.table.Compiles compiler ∧ p.table.tokenize p.policy lines = .ok r := by
  rcases p.table.compiles_or_firstFault compiler with hcompiles | ⟨pattern, message, hfault⟩
  · rw [tokenize_of_compiles hcompiles]
    exact ⟨fun h => ⟨hcompiles, h⟩, And.right⟩
  · rw [tokenize_of_firstFault hfault]
    exact ⟨nofun, fun h => absurd h.1 hfault.not_compiles⟩

/-- A run fails with a pattern exactly if that is the first one that cannot be compiled. -/
theorem tokenize_eq_invalidPattern_iff :
    p.tokenize compiler lines = .error (.invalidPattern pattern message) ↔
      p.table.FirstFault compiler pattern message := by
  refine ⟨fun h => ?_, tokenize_of_firstFault⟩
  rcases p.table.compiles_or_firstFault compiler with hcompiles | ⟨pattern', message', hfault⟩
  · rw [tokenize_of_compiles hcompiles] at h
    exact absurd h Table.tokenize_ne_invalidPattern
  · rw [tokenize_of_firstFault hfault] at h
    obtain ⟨rfl, rfl⟩ := LexError.invalidPattern.inj (Except.error.inj h)
    exact hfault

end LexPrefs

end Offside
