import Offside.Proofs.OperatorSet
import Offside.Proofs.StringPattern

/-!
# What the table makes of a text

The table around a set of operators has the literal entries in front and then the classes of
strings, comments, numbers and names. `classify_cases` says which entry decided and, for strings,
which entries before it did not match.
-/

namespace Offside.Table

set_option autoImplicit false

open Pattern CharSet

def bracketEntries : List Entry :=
  (Bracket.openers.zip Bracket.closers).flatMap fun b =>
    [Entry.ofOperator b.1, Entry.ofOperator b.2]

/-- The brackets, the numbers that start with their point, and the operators. -/
def heads (ops : OperatorSet) : List Entry :=
  ((Bracket.openers.zip Bracket.closers).flatMap fun b =>
    [Entry.ofOperator b.1, Entry.ofOperator b.2]) ++
    ⟨.number, .token, pointNumber⟩ :: ops.matchOrder.map Entry.ofOperator

def closedEntry (q : TripleQuote) : Entry := ⟨.string, .token, closedTriple q⟩

def openEntry (q : TripleQuote) : Entry := ⟨.string, .opens q, openTriple q⟩

def shortEntry (mark : Char) : Entry := ⟨.string, .token, shortString mark⟩

def tripleEntries (q : TripleQuote) : List Entry := [closedEntry q, openEntry q]

def shortEntries : List Entry := [shortEntry '"', shortEntry '\'']

def nameEntry : Entry := ⟨.name, .token, name⟩

def plainEntries : List Entry :=
  [⟨.comment, .token, comment⟩, ⟨.number, .token, number⟩, ⟨.name, .token, name⟩]

def classEntries : List Entry :=
  tripleEntries .double ++ tripleEntries .single ++ shortEntries ++ plainEntries

theorem entries_ofOperators (ops : OperatorSet) :
    (ofOperators ops).entries =
      heads ops ++ tripleEntries .double ++ tripleEntries .single ++ shortEntries ++
        plainEntries := by
  simp [ofOperators, heads, tripleEntries, shortEntries, closedEntry, openEntry, shortEntry,
    plainEntries]

variable {ops : OperatorSet} {text : List Char} {x : Lexeme} {e : Entry}

/-- The classes decide about a text only where nothing in front of them matches. -/
theorem classify_eq (ops : OperatorSet) (text : List Char) :
    (ofOperators ops).classify text =
      ((heads ops).findSome? (lexeme? text)).or (classEntries.findSome? (lexeme? text)) := by
  rw [classify, entries_ofOperators, classEntries, ← List.findSome?_append]
  simp only [List.append_assoc]

theorem lexeme?_eq_some (h : lexeme? text e = some x) :
    ∃ z, e.pattern.match? text = some z ∧ z.count ≠ 0 ∧
      x = ⟨e.kind, e.role, z.count, String.ofList (text.take z.count), z.rest⟩ := by
  simp only [lexeme?] at h
  split at h
  · rename_i z hz
    split at h
    · cases h
    · rename_i hne
      exact ⟨z, hz, hne, (Option.some.inj h).symm⟩
  · cases h

theorem lexeme?_of_match? {taken more : List Char} (hne : taken ≠ [])
    (htext : text = taken ++ more) (h : e.pattern.match? text = some ⟨taken.length, more⟩) :
    lexeme? text e = some ⟨e.kind, e.role, taken.length, String.ofList taken, more⟩ := by
  have hlength : taken.length ≠ 0 := fun h0 => hne (List.length_eq_zero_iff.mp h0)
  rw [lexeme?, h]
  dsimp only
  rw [if_neg hlength, htext, List.take_left]

inductive Decision (text : List Char) (x : Lexeme) : Prop
  /-- A bracket, an operator or a number that starts with its point. -/
  | head (hk : x.kind = .op ∨ x.kind = .number) (hr : x.role = .token)
  | closed (q : TripleQuote) (h : lexeme? text (closedEntry q) = some x)
  | opens (q : TripleQuote) (hc : lexeme? text (closedEntry q) = none)
      (h : lexeme? text (openEntry q) = some x)
  | short (mark : Char) (ho : ∀ q, lexeme? text (openEntry q) = none)
      (h : lexeme? text (shortEntry mark) = some x)
  | plain (hk : x.kind = .comment ∨ x.kind = .number ∨ x.kind = .name) (hr : x.role = .token)

theorem head_decision (h : (heads ops).findSome? (lexeme? text) = some x) : Decision text x := by
  obtain ⟨e, he, hx⟩ := List.exists_of_findSome?_eq_some h
  obtain ⟨z, -, -, rfl⟩ := lexeme?_eq_some hx
  simp only [heads, List.mem_append, List.mem_flatMap, List.mem_cons, List.mem_map] at he
  rcases he with ⟨b, -, rfl | rfl | hb⟩ | rfl | ⟨op, -, rfl⟩
  · exact .head (.inl rfl) rfl
  · exact .head (.inl rfl) rfl
  · cases hb
  · exact .head (.inr rfl) rfl
  · exact .head (.inl rfl) rfl

theorem triple_decision {q : TripleQuote}
    (h : (tripleEntries q).findSome? (lexeme? text) = some x) : Decision text x := by
  simp only [tripleEntries, List.findSome?_cons, List.findSome?_nil] at h
  split at h
  · rename_i y hc
    exact .closed q (hc.trans h)
  · rename_i hc
    split at h
    · rename_i y ho
      exact .opens q hc (ho.trans h)
    · cases h

theorem plain_decision (h : plainEntries.findSome? (lexeme? text) = some x) :
    Decision text x := by
  obtain ⟨e, he, hx⟩ := List.exists_of_findSome?_eq_some h
  obtain ⟨z, -, -, rfl⟩ := lexeme?_eq_some hx
  simp only [plainEntries, List.mem_cons, List.not_mem_nil, or_false] at he
  rcases he with rfl | rfl | rfl
  · exact .plain (.inl rfl) rfl
  · exact .plain (.inr (.inl rfl)) rfl
  · exact .plain (.inr (.inr rfl)) rfl

theorem openEntry_eq_none {q : TripleQuote}
    (h : (tripleEntries q).findSome? (lexeme? text) = none) : lexeme? text (openEntry q) = none :=
  List.findSome?_eq_none_iff.mp h _ (by simp [tripleEntries])

theorem classify_cases (h : (ofOperators ops).classify text = some x) : Decision text x := by
  simp only [classify, entries_ofOperators, List.findSome?_append, Option.or_eq_some_iff,
    Option.or_eq_none_iff] at h
  rcases h with (((h | ⟨-, h⟩) | ⟨-, h⟩) | ⟨⟨⟨-, hd⟩, hs⟩, h⟩) | ⟨-, h⟩
  · exact head_decision h
  · exact triple_decision h
  · exact triple_decision h
  · obtain ⟨e, he, hx⟩ := List.exists_of_findSome?_eq_some h
    have ho : ∀ q, lexeme? text (openEntry q) = none := by
      intro q
      cases q
      · exact openEntry_eq_none hd
      · exact openEntry_eq_none hs
    simp only [shortEntries, List.mem_cons, List.not_mem_nil, or_false] at he
    rcases he with rfl | rfl
    · exact .short _ ho hx
    · exact .short _ ho hx
  · exact plain_decision h

theorem role_of_lexeme? (h : lexeme? text e = some x) : x.kind = e.kind ∧ x.role = e.role := by
  obtain ⟨z, -, -, rfl⟩ := lexeme?_eq_some h
  exact ⟨rfl, rfl⟩

/-- A string is opened by the entry for it, and only where it does not close. -/
theorem classify_opens {q : TripleQuote} (h : (ofOperators ops).classify text = some x)
    (hr : x.role = .opens q) :
    lexeme? text (closedEntry q) = none ∧ lexeme? text (openEntry q) = some x := by
  have other : x.role ≠ .token := by
    rw [hr]
    exact Role.noConfusion
  cases classify_cases h with
  | head _ ht => exact absurd ht other
  | closed q' hc => exact absurd (role_of_lexeme? hc).2 other
  | opens q' hc ho =>
    have hq := (role_of_lexeme? ho).2
    rw [hr] at hq
    obtain rfl : q = q' := Role.opens.inj hq
    exact ⟨hc, ho⟩
  | short mark _ hs => exact absurd (role_of_lexeme? hs).2 other
  | plain _ ht => exact absurd ht other

theorem dropWhile_any (rest : List Char) :
    rest.dropWhile CharSet.any.holds = [] ∨
      (rest.dropWhile CharSet.any.holds).head? = some '\n' := by
  cases hd : rest.dropWhile CharSet.any.holds with
  | nil => exact .inl rfl
  | cons c r =>
    have hc := List.head_dropWhile_not CharSet.any.holds (show rest.dropWhile _ ≠ [] by simp [hd])
    simp only [hd, List.head_cons, CharSet.holds, bne_eq_false_iff_eq] at hc
    exact .inr (by simp [hc])

theorem dropWhile_any_of_line {rest : List Char} (hn : '\n' ∉ rest) :
    rest.dropWhile CharSet.any.holds = [] := by
  rcases dropWhile_any rest with hd | hd
  · exact hd
  · exact absurd ((List.dropWhile_sublist _).subset (List.mem_of_head? hd)) hn

theorem ne_opening {q : TripleQuote} (h : lexeme? text (openEntry q) = none)
    {pre : List Char} (hp : IsStringPrefix pre) (rest : List Char) :
    text ≠ pre ++ q.delimiter ++ rest := by
  rintro rfl
  rw [lexeme?, openEntry, match?_openTriple hp] at h
  simp at h

theorem triple_eq_none {q : TripleQuote}
    (h : ∀ pre rest, IsStringPrefix pre → text ≠ pre ++ q.delimiter ++ rest) :
    lexeme? text (closedEntry q) = none ∧ lexeme? text (openEntry q) = none := by
  constructor
  · cases hx : lexeme? text (closedEntry q) with
    | none => rfl
    | some x =>
      obtain ⟨z, hz, -, -⟩ := lexeme?_eq_some hx
      obtain ⟨pre, rest, hp, htext⟩ := quoted_of_match?_closedTriple hz
      exact absurd htext (h pre rest hp)
  · cases hx : lexeme? text (openEntry q) with
    | none => rfl
    | some x =>
      obtain ⟨z, hz, -, -⟩ := lexeme?_eq_some hx
      obtain ⟨pre, rest, hp, htext⟩ := quoted_of_match?_openTriple hz
      exact absurd htext (h pre rest hp)

section Triple

variable {q : TripleQuote} {pre rest : List Char} (hp : IsStringPrefix pre) (hn : '\n' ∉ rest)

include hp hn

theorem lexeme?_closed {body more : List Char} (hs : q.scan rest = some (body, q.delimiter ++ more)) :
    lexeme? (pre ++ q.delimiter ++ rest) (closedEntry q) =
      some ⟨.string, .token, (pre ++ q.delimiter ++ (body ++ q.delimiter)).length,
        String.ofList (pre ++ q.delimiter ++ (body ++ q.delimiter)), more⟩ := by
  have htext : pre ++ q.delimiter ++ rest =
      pre ++ q.delimiter ++ (body ++ q.delimiter) ++ more := by
    rw [← (TripleQuote.scan_eq_some hs).1]
    simp only [List.append_assoc]
  have hlength : (pre ++ q.delimiter ++ (body ++ q.delimiter)).length =
      pre.length + 3 + body.length + 3 := by
    rw [length_opening, List.length_append, ← Nat.add_assoc]
    rfl
  have hne : pre ++ q.delimiter ++ (body ++ q.delimiter) ≠ [] := by
    simp [TripleQuote.delimiter_eq]
  refine lexeme?_of_match? hne htext ((match?_closedTriple hp q hn).trans ?_)
  rw [hs, hlength]
  rfl

theorem lexeme?_closed_eq_none (hs : q.scan rest = none) :
    lexeme? (pre ++ q.delimiter ++ rest) (closedEntry q) = none := by
  rw [lexeme?, closedEntry, match?_closedTriple hp q hn, hs]
  rfl

theorem lexeme?_open :
    lexeme? (pre ++ q.delimiter ++ rest) (openEntry q) =
      some ⟨.string, .opens q, (pre ++ q.delimiter ++ rest).length,
        String.ofList (pre ++ q.delimiter ++ rest), []⟩ := by
  have hmatch := match?_openTriple hp q rest
  have hany : rest.takeWhile CharSet.any.holds = rest := by
    have happ : rest.takeWhile CharSet.any.holds ++ rest.dropWhile CharSet.any.holds = rest :=
      List.takeWhile_append_dropWhile
    rwa [dropWhile_any_of_line hn, List.append_nil] at happ
  rw [hany, dropWhile_any_of_line hn, ← length_opening] at hmatch
  have hne : pre ++ q.delimiter ++ rest ≠ [] := by simp [TripleQuote.delimiter_eq]
  exact lexeme?_of_match? hne (List.append_nil _).symm hmatch

end Triple

/-- What opens a string takes the rest of its line, unless a line feed stands in the way. -/
theorem rest_of_opens {q : TripleQuote} (h : (ofOperators ops).classify text = some x)
    (hr : x.role = .opens q) : x.rest = [] ∨ x.rest.head? = some '\n' := by
  obtain ⟨-, ho⟩ := classify_opens h hr
  obtain ⟨z, hz, -, rfl⟩ := lexeme?_eq_some ho
  obtain ⟨pre, rest, hp, rfl⟩ := quoted_of_match?_openTriple hz
  rw [openEntry, match?_openTriple hp] at hz
  obtain rfl := Option.some.inj hz
  exact dropWhile_any rest

theorem starts_of_lexeme? {c : Char} {rest : List Char} (h : lexeme? (c :: rest) e = some x) :
    e.pattern.starts c = true := by
  obtain ⟨z, hz, hne, -⟩ := lexeme?_eq_some h
  rw [match?_eq_head?] at hz
  rcases starts_of_mem_ways (List.mem_of_head? hz) with ⟨rfl, -⟩ | hs
  · exact absurd rfl hne
  · exact hs

theorem lexeme?_eq_none {c : Char} {rest : List Char} (h : e.pattern.starts c = false) :
    lexeme? (c :: rest) e = none := by
  cases hx : lexeme? (c :: rest) e with
  | none => rfl
  | some x =>
    rw [starts_of_lexeme? hx] at h
    cases h

/-- The entries that do not depend on the operators. -/
def fixedEntries : List Entry :=
  ((Bracket.openers.zip Bracket.closers).flatMap fun b =>
    [Entry.ofOperator b.1, Entry.ofOperator b.2]) ++
    ⟨.number, .token, pointNumber⟩ :: (tripleEntries .double ++ tripleEntries .single ++
      shortEntries ++ plainEntries)

theorem mem_entries (h : e ∈ (ofOperators ops).entries) :
    e ∈ fixedEntries ∨ ∃ op ∈ ops.members, e = .ofOperator op := by
  rw [entries_ofOperators] at h
  simp only [heads, fixedEntries, List.mem_append, List.mem_cons, List.mem_map] at h ⊢
  rcases h with (((((h | h | ⟨op, hop, rfl⟩) | h) | h) | h) | h)
  · exact .inl (.inl h)
  · exact .inl (.inr (.inl h))
  · exact .inr ⟨op, OperatorSet.mem_matchOrder.mp hop, rfl⟩
  · exact .inl (.inr (.inr (.inl (.inl (.inl h)))))
  · exact .inl (.inr (.inr (.inl (.inl (.inr h)))))
  · exact .inl (.inr (.inr (.inl (.inr h))))
  · exact .inl (.inr (.inr (.inr h)))

theorem classify_lineFeed (h : ops.Reachable) (rest : List Char) :
    (ofOperators ops).classify ('\n' :: rest) = none := by
  rw [classify, List.findSome?_eq_none_iff]
  intro e he
  apply lexeme?_eq_none
  rcases mem_entries he with he | ⟨op, hop, rfl⟩
  · have hfixed : ∀ e ∈ fixedEntries, e.pattern.starts '\n' = false := by decide
    exact hfixed e he
  · simp only [Entry.ofOperator, starts, beq_eq_false_iff_ne]
    intro hs
    obtain ⟨r, hr⟩ := List.head?_eq_some_iff.mp hs
    have hb := h.isBlank_head hop hr
    exact absurd hb (by decide)

theorem starts_comment {c : Char} : comment.starts c = true ↔ c = '#' := by
  simp [comment, inRow, one, starts, Piece.starts, nullable, holds]

theorem match?_comment (rest : List Char) :
    comment.match? ('#' :: rest) =
      some ⟨1 + (rest.takeWhile any.holds).length, rest.dropWhile any.holds⟩ := by
  rw [match?_eq_head?, ← head?_ways_run]
  have hways : comment.ways ⟨0, '#' :: rest⟩ = [⟨1, rest⟩].flatMap (manyOf any).ways := rfl
  rw [hways, List.flatMap_singleton]
  rfl

theorem match?_name (text : List Char) :
    name.match? text =
      if 1 ≤ (text.takeWhile Text.isWordChar).length then
        some ⟨(text.takeWhile Text.isWordChar).length, text.dropWhile Text.isWordChar⟩
      else none := by
  have hword : CharSet.word.holds = Text.isWordChar := rfl
  rw [match?_eq_head?, name, someOf, head?_ways_greedy, hword, Nat.zero_add]

theorem isWordChar_of_isPrefixLetter {c : Char} (h : isPrefixLetter c = true) :
    Text.isWordChar c = true := by
  have hall : ['r', 'R', 'b', 'B', 'u', 'U', 'f', 'F'].all Text.isWordChar = true := by decide
  exact List.all_eq_true.mp hall c (List.contains_iff_mem.mp h)

theorem classify_comment (h : (ofOperators ops).classify text = some x) (hk : x.kind = .comment) :
    text.head? = some '#' ∧ x.role = .token ∧ (x.rest = [] ∨ x.rest.head? = some '\n') := by
  obtain ⟨e, he, hx⟩ := List.exists_of_findSome?_eq_some h
  obtain ⟨hkind, hrole⟩ := role_of_lexeme? hx
  obtain rfl : e = ⟨.comment, .token, comment⟩ := by
    rcases mem_entries he with he | ⟨op, -, rfl⟩
    · have hfixed : ∀ e ∈ fixedEntries, e.kind = .comment → e = ⟨.comment, .token, comment⟩ := by
        decide
      exact hfixed e he (hkind.symm.trans hk)
    · rw [hkind] at hk
      cases hk
  obtain ⟨z, hz, -, rfl⟩ := lexeme?_eq_some hx
  cases text with
  | nil => cases hz
  | cons c rest =>
    obtain rfl : c = '#' := starts_comment.mp (starts_of_lexeme? hx)
    rw [match?_comment] at hz
    obtain rfl := Option.some.inj hz
    exact ⟨rfl, rfl, dropWhile_any rest⟩

/-- The mark of comments starts one, unless it starts an operator. -/
theorem classify_hash (hops : ∀ op ∈ ops.members, op.toList.head? ≠ some '#') (rest : List Char) :
    ∃ x, (ofOperators ops).classify ('#' :: rest) = some x ∧ x.kind = .comment := by
  have hsome : ((ofOperators ops).classify ('#' :: rest)).isSome = true := by
    rw [classify, List.findSome?_isSome_iff]
    refine ⟨⟨.comment, .token, comment⟩, ?_, ?_⟩
    · rw [entries_ofOperators]
      exact List.mem_append_right _ List.mem_cons_self
    · simp [lexeme?, match?_comment]
  obtain ⟨x, hx⟩ := Option.isSome_iff_exists.mp hsome
  refine ⟨x, hx, ?_⟩
  obtain ⟨e, he, hlexeme⟩ := List.exists_of_findSome?_eq_some hx
  have hstarts := starts_of_lexeme? hlexeme
  rw [(role_of_lexeme? hlexeme).1]
  rcases mem_entries he with he | ⟨op, hop, rfl⟩
  · have hfixed : ∀ e ∈ fixedEntries, e.pattern.starts '#' = true → e.kind = .comment := by
      decide
    exact hfixed e he hstarts
  · exact absurd (beq_iff_eq.mp hstarts) (hops op hop)

end Offside.Table
