/-!
# Positions and spans

A position is a line, counted from one, and a column, counted from zero in characters. Line zero
belongs to the encoding marker, and `(-1, -1)` marks a place outside every source.
-/

namespace Offside

set_option autoImplicit false

structure Position where
  line : Int
  column : Int
deriving DecidableEq, Inhabited

namespace Position

def origin : Position := ⟨0, 0⟩

/-- The place that lies in no source. -/
def nowhere : Position := ⟨-1, -1⟩

/-- The place at a line and a column that were counted. -/
def of (line column : Nat) : Position := ⟨line, column⟩

/-- The place `n` characters further on the same line, or back if `n` is negative. -/
def advance (p : Position) (n : Int) : Position := ⟨p.line, p.column + n⟩

/-- Lines count before columns. -/
instance : Ord Position where
  compare p q := (compare p.line q.line).then (compare p.column q.column)

instance : LT Position where
  lt p q := p.line < q.line ∨ p.line = q.line ∧ p.column < q.column

instance : LE Position where
  le p q := p.line < q.line ∨ p.line = q.line ∧ p.column ≤ q.column

instance (p q : Position) : Decidable (p < q) :=
  inferInstanceAs (Decidable (p.line < q.line ∨ p.line = q.line ∧ p.column < q.column))

instance (p q : Position) : Decidable (p ≤ q) :=
  inferInstanceAs (Decidable (p.line < q.line ∨ p.line = q.line ∧ p.column ≤ q.column))

theorem le_iff {p q : Position} :
    p ≤ q ↔ p.line < q.line ∨ p.line = q.line ∧ p.column ≤ q.column := Iff.rfl

theorem lt_iff {p q : Position} :
    p < q ↔ p.line < q.line ∨ p.line = q.line ∧ p.column < q.column := Iff.rfl

@[simp] theorem of_line (line column : Nat) : (of line column).line = line := rfl

@[simp] theorem of_column (line column : Nat) : (of line column).column = column := rfl

theorem of_le_of {l c m d : Nat} : of l c ≤ of m d ↔ l < m ∨ l = m ∧ c ≤ d := by
  simp only [le_iff, of_line, of_column]
  omega

theorem of_lt_of {l c m d : Nat} : of l c < of m d ↔ l < m ∨ l = m ∧ c < d := by
  simp only [lt_iff, of_line, of_column]
  omega

theorem not_le {p q : Position} : ¬ p ≤ q ↔ q < p := by
  simp only [le_iff, lt_iff]
  omega

theorem le_refl (p : Position) : p ≤ p :=
  .inr ⟨rfl, Int.le_refl _⟩

theorem le_trans {p q r : Position} (h : p ≤ q) (k : q ≤ r) : p ≤ r := by
  simp only [le_iff] at *
  omega

theorem le_of_lt {p q : Position} (h : p < q) : p ≤ q := by
  simp only [le_iff, lt_iff] at *
  omega

theorem lt_of_lt_of_le {p q r : Position} (h : p < q) (k : q ≤ r) : p < r := by
  simp only [le_iff, lt_iff] at *
  omega

theorem lt_of_le_of_lt {p q r : Position} (h : p ≤ q) (k : q < r) : p < r := by
  simp only [le_iff, lt_iff] at *
  omega

def text (p : Position) : String :=
  toString p.line ++ "," ++ toString p.column

end Position

/-- The part of a source from `start` up to `stop`, the latter not included. -/
structure Span where
  start : Position
  stop : Position
deriving DecidableEq, Inhabited

namespace Span

def point (p : Position) : Span := ⟨p, p⟩

/-- The span of `width` characters from a position on. -/
def columns (p : Position) (width : Int) : Span := ⟨p, p.advance width⟩

/-- The span that lies in no source. -/
def nowhere : Span := point .nowhere

def isOrdered (s : Span) : Bool := s.start ≤ s.stop

def isSingleLine (s : Span) : Bool := s.start.line == s.stop.line

def text (s : Span) : String :=
  s.start.text ++ "-" ++ s.stop.text

end Span

end Offside
