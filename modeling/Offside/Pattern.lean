import Offside.Text.CharClass

/-!
# Patterns

Regular expressions as the table of token classes needs them. A pattern can match the head of a
text in several ways; `Pattern.ways` lists them best first: the left alternative before the right
one, taking before leaving out, and a repetition at its longest before its shorter forms, or the
other way round if it is lazy. The match of a pattern is the first of its ways.
-/

namespace Offside

set_option autoImplicit false

inductive CharSet
  | just (c : Char)
  /-- Every character but the line feed. -/
  | any
  /-- The characters a name is made of. -/
  | word
  /-- The characters of some ranges, ends included. -/
  | within (ranges : List (Char × Char))
  /-- Every character but a few. -/
  | without (excluded : List Char)
deriving DecidableEq

namespace CharSet

def holds : CharSet → Char → Bool
  | just c, d => d == c
  | any, d => d != '\n'
  | word, d => Text.isWordChar d
  | within ranges, d => ranges.any fun r => r.1 ≤ d && d ≤ r.2
  | without excluded, d => !excluded.contains d

/-- Some single characters and nothing else. -/
def oneOf (cs : List Char) : CharSet := within (cs.map fun c => (c, c))

end CharSet

/-- What a repetition repeats: at each place at most one way to go on. -/
inductive Piece
  | one (set : CharSet)
  /-- Two characters in a row. -/
  | two (first second : CharSet)
  /-- The first piece, or the second where the first does not fit. -/
  | either (p q : Piece)
deriving DecidableEq

/-- How far a match has come: the number of characters taken and the text behind them. -/
structure Reach where
  count : Nat
  rest : List Char
deriving DecidableEq

namespace Piece

def step? : Piece → Reach → Option Reach
  | one s, ⟨n, c :: r⟩ => if s.holds c then some ⟨n + 1, r⟩ else none
  | one _, ⟨_, []⟩ => none
  | two s t, ⟨n, c :: d :: r⟩ => if s.holds c && t.holds d then some ⟨n + 2, r⟩ else none
  | two _ _, ⟨_, _⟩ => none
  | either p q, z =>
    match p.step? z with
    | some w => some w
    | none => q.step? z

theorem rest_length_lt {p : Piece} {z w : Reach} (h : p.step? z = some w) :
    w.rest.length < z.rest.length := by
  induction p with
  | one s =>
    obtain ⟨n, rest⟩ := z
    cases rest with
    | nil => simp [step?] at h
    | cons c r =>
      simp only [step?, Option.ite_none_right_eq_some, Option.some.injEq] at h
      simp [← h.2]
  | two s t =>
    obtain ⟨n, rest⟩ := z
    match rest with
    | [] => simp [step?] at h
    | [_] => simp [step?] at h
    | c :: d :: r =>
      simp only [step?, Option.ite_none_right_eq_some, Option.some.injEq] at h
      simp only [← h.2, List.length_cons]
      omega
  | either p q ihp ihq =>
    simp only [step?] at h
    split at h
    · rename_i v hv
      exact ihp (hv.trans h)
    · exact ihq h

/-- The places a repetition passes from `z` on, the farthest first, before those in `passed`. -/
def placesOnto (p : Piece) (passed : List Reach) (z : Reach) : List Reach :=
  match _h : p.step? z with
  | none => z :: passed
  | some w => p.placesOnto (z :: passed) w
termination_by z.rest.length
decreasing_by exact rest_length_lt _h

/-- The places a repetition passes from `z` on, in the order in which it passes them. -/
def places (p : Piece) (z : Reach) : List Reach := (p.placesOnto [] z).reverse

theorem placesOnto_of_none {p : Piece} {z : Reach} (passed : List Reach) (h : p.step? z = none) :
    p.placesOnto passed z = z :: passed := by
  rw [placesOnto]
  split
  · rfl
  · simp_all

theorem placesOnto_of_some {p : Piece} {z w : Reach} (passed : List Reach)
    (h : p.step? z = some w) : p.placesOnto passed z = p.placesOnto (z :: passed) w := by
  rw [placesOnto]
  split
  · simp_all
  · simp_all

theorem placesOnto_append (p : Piece) (passed more : List Reach) (z : Reach) :
    p.placesOnto (passed ++ more) z = p.placesOnto passed z ++ more := by
  fun_induction placesOnto p passed z with
  | case1 passed z h => rw [placesOnto_of_none _ h, List.cons_append]
  | case2 passed z w h ih => rw [placesOnto_of_some _ h, ← List.cons_append, ih]

theorem places_of_none {p : Piece} {z : Reach} (h : p.step? z = none) : p.places z = [z] := by
  rw [places, placesOnto_of_none _ h, List.reverse_singleton]

theorem places_of_some {p : Piece} {z w : Reach} (h : p.step? z = some w) :
    p.places z = z :: p.places w := by
  rw [places, placesOnto_of_some _ h, ← List.nil_append [z], placesOnto_append,
    List.reverse_append, places]
  rfl

/-- The first result that a search has on the places a repetition passes once it has been repeated
`least` times. -/
def findPlace? {α : Type} (p : Piece) (f : Reach → Option α) (least : Nat) (z : Reach) :
    Option α :=
  match if least = 0 then f z else none with
  | some a => some a
  | none =>
    match _h : p.step? z with
    | none => none
    | some w => p.findPlace? f (least - 1) w
termination_by z.rest.length
decreasing_by exact rest_length_lt _h

theorem findPlace?_eq {α : Type} (p : Piece) (f : Reach → Option α) (least : Nat) (z : Reach) :
    p.findPlace? f least z = ((p.places z).drop least).findSome? f := by
  fun_induction findPlace? p f least z with
  | case1 least z a h =>
    cases least with
    | zero =>
      rw [dif_pos rfl] at h
      cases hs : p.step? z with
      | none => simp [places_of_none hs, h]
      | some w => simp [places_of_some hs, h]
    | succ n => simp at h
  | case2 least z h hs =>
    cases least with
    | zero =>
      rw [dif_pos rfl] at h
      simp [places_of_none hs, h]
    | succ n => simp [places_of_none hs]
  | case3 least z h w hs ih =>
    rw [ih, places_of_some hs]
    cases least with
    | zero =>
      rw [dif_pos rfl] at h
      simp [h]
    | succ n => simp

end Piece

/-- Whether a repetition prefers to go on or to stop. -/
inductive Mode
  | greedy
  | lazy
deriving DecidableEq

inductive Pattern
  | piece (p : Piece)
  /-- A text that stands for itself. -/
  | literal (text : List Char)
  | seq (p q : Pattern)
  | alt (p q : Pattern)
  /-- The pattern, or nothing. -/
  | opt (p : Pattern)
  /-- A piece at least `least` times, and at most `most` times if that is given. -/
  | reps (p : Piece) (least : Nat) (most : Option Nat) (mode : Mode)
deriving DecidableEq

namespace Pattern

/-- Every way to match the pattern from a place on, the preferred one first. -/
def ways : Pattern → Reach → List Reach
  | piece p, z => (p.step? z).toList
  | literal text, z =>
    match text.isPrefixOf? z.rest with
    | some rest => [⟨z.count + text.length, rest⟩]
    | none => []
  | seq p q, z => (p.ways z).flatMap q.ways
  | alt p q, z => p.ways z ++ q.ways z
  | opt p, z => p.ways z ++ [z]
  | reps p least most mode, z =>
    let places := match most with
      | none => p.places z
      | some m => (p.places z).take (m + 1)
    match mode with
    | .greedy => (places.drop least).reverse
    | .lazy => places.drop least

/-- The first result that a search has on the ways to match the pattern, which are passed one after
the other and only as far as needed. -/
def findWay? {α : Type} : Pattern → (Reach → Option α) → Reach → Option α
  | piece p, f, z => (p.step? z).bind f
  | literal text, f, z =>
    match text.isPrefixOf? z.rest with
    | some rest => f ⟨z.count + text.length, rest⟩
    | none => none
  | seq p q, f, z => p.findWay? (q.findWay? f) z
  | alt p q, f, z =>
    match p.findWay? f z with
    | some a => some a
    | none => q.findWay? f z
  | opt p, f, z =>
    match p.findWay? f z with
    | some a => some a
    | none => f z
  | reps p least none .lazy, f, z => p.findPlace? f least z
  | reps p least (some m) .lazy, f, z => (((p.places z).take (m + 1)).drop least).findSome? f
  | reps p least most .greedy, f, z => ((reps p least most .greedy).ways z).findSome? f

theorem findSome?_flatMap {α β γ : Type} (f : β → Option γ) (g : α → List β) (l : List α) :
    (l.flatMap g).findSome? f = l.findSome? fun a => (g a).findSome? f := by
  induction l with
  | nil => rfl
  | cons a l ih =>
    rw [List.flatMap_cons, List.findSome?_append, List.findSome?_cons, ih]
    cases (g a).findSome? f <;> rfl

theorem findWay?_eq {α : Type} (p : Pattern) (f : Reach → Option α) (z : Reach) :
    p.findWay? f z = (p.ways z).findSome? f := by
  induction p generalizing f z with
  | piece p => cases h : p.step? z <;> simp [findWay?, ways, h]
  | literal text =>
    simp only [findWay?, ways]
    cases text.isPrefixOf? z.rest <;> simp
  | seq p q ihp ihq =>
    rw [findWay?, ihp, ways, findSome?_flatMap]
    exact congrArg (fun g => (p.ways z).findSome? g) (funext fun w => ihq f w)
  | alt p q ihp ihq =>
    rw [findWay?, ihp, ihq, ways, List.findSome?_append]
    cases (p.ways z).findSome? f <;> rfl
  | opt p ih =>
    rw [findWay?, ih, ways, List.findSome?_append]
    cases (p.ways z).findSome? f <;> simp
  | reps p least most mode =>
    cases mode with
    | greedy => simp [findWay?]
    | lazy =>
      cases most with
      | none => rw [findWay?, Piece.findPlace?_eq, ways]
      | some m => rw [findWay?, ways]

/-- The preferred match of the pattern at the head of a text. -/
def match? (p : Pattern) (text : List Char) : Option Reach :=
  p.findWay? some ⟨0, text⟩

theorem match?_eq_head? (p : Pattern) (text : List Char) :
    p.match? text = (p.ways ⟨0, text⟩).head? := by
  rw [match?, findWay?_eq]
  cases p.ways ⟨0, text⟩ <;> rfl

end Pattern

end Offside
