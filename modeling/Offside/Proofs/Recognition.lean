import Offside.Proofs.FirstDelimiter
import Offside.Proofs.Precedence
import Offside.Proofs.ShortString

/-!
# What the table recognises

Where a string starts between triple quotes, the pattern of the table and the search for an
unescaped delimiter agree on where it ends. What the table does not recognise at all are the texts
that start with none of its literals and with no character of a name or a comment, and in which
no string closes.
-/

namespace Offside

set_option autoImplicit false

def startsString (c : Char) : Bool := isPrefixLetter c || c == '"' || c == '\''

theorem startsString_mark (q : TripleQuote) : startsString q.mark = true := by
  cases q <;> rfl

theorem startsString_of_isPrefixLetter {c : Char} (h : isPrefixLetter c = true) :
    startsString c = true := by
  simp [startsString, h]

/-- What holds of the prefix letters and the quotation marks holds where a string starts. -/
theorem of_startsString {P : Char → Prop} [DecidablePred P] {c : Char}
    (h : ['r', 'R', 'b', 'B', 'u', 'U', 'f', 'F', '"', '\''].all (fun c => decide (P c)) = true)
    (hc : startsString c = true) : P c := by
  apply of_decide_eq_true
  apply List.all_eq_true.mp h
  simp only [startsString, isPrefixLetter, Bool.or_eq_true, List.contains_iff_mem, beq_iff_eq] at hc
  simp only [List.mem_cons, List.not_mem_nil, or_false] at hc ⊢
  tauto

namespace TripleQuote

variable {q : TripleQuote} {rest body after : List Char}

theorem closing?_eq (q : TripleQuote) (rest : List Char) :
    q.closing? (String.ofList rest) =
      (q.scan rest).map fun cut => (String.ofList cut.1).utf8ByteSize := by
  rw [closing?_ofList, seek_eq_scan]

theorem utf8ByteSize_delimiter (q : TripleQuote) : (String.ofList q.delimiter).utf8ByteSize = 3 := by
  cases q <;> rfl

theorem mark_of_delimiter (q : TripleQuote) {c : Char} (h : q.delimiter <+: c :: rest) :
    c = q.mark :=
  (List.cons_prefix_cons.mp h).1.symm

end TripleQuote

namespace Table

open Pattern CharSet

variable {ops : OperatorSet} {q : TripleQuote} {pre rest body more text : List Char} {c : Char}

theorem starts_quoted (hp : IsStringPrefix pre) (q : TripleQuote) (rest : List Char) :
    ∃ c more, pre ++ q.mark :: rest = c :: more ∧ startsString c = true := by
  cases pre with
  | nil => exact ⟨_, _, rfl, startsString_mark q⟩
  | cons c more =>
    exact ⟨_, _, rfl, startsString_of_isPrefixLetter (hp.2 c List.mem_cons_self)⟩

/-- Neither a bracket nor a number with a leading point starts like a string. -/
theorem heads_of_startsString (hc : startsString c = true)
    (hops : ∀ op ∈ ops.members, lexeme? (c :: rest) (.ofOperator op) = none) :
    (heads ops).findSome? (lexeme? (c :: rest)) = none := by
  rw [List.findSome?_eq_none_iff]
  intro e he
  simp only [heads, List.mem_append, List.mem_cons, List.mem_map] at he
  rcases he with he | rfl | ⟨op, hop, rfl⟩
  · apply lexeme?_eq_none
    exact of_startsString (P := fun c => ∀ e ∈ bracketEntries, e.pattern.starts c = false)
      (by decide) hc e he
  · apply lexeme?_eq_none
    exact of_startsString (P := fun c => pointNumber.starts c = false) (by decide) hc
  · exact hops op (OperatorSet.mem_matchOrder.mp hop)

/-- Where a string starts between triple quotes, the entries for its quote decide. -/
theorem classes_opening (hp : IsStringPrefix pre) (q : TripleQuote) (rest : List Char) :
    classEntries.findSome? (lexeme? (pre ++ q.delimiter ++ rest)) =
      (lexeme? (pre ++ q.delimiter ++ rest) (closedEntry q)).or
        (lexeme? (pre ++ q.delimiter ++ rest) (openEntry q)) := by
  obtain ⟨y, hy⟩ : ∃ y, lexeme? (pre ++ q.delimiter ++ rest) (openEntry q) = some y := by
    cases ho : lexeme? (pre ++ q.delimiter ++ rest) (openEntry q) with
    | none => exact absurd rfl (ne_opening ho hp rest)
    | some y => exact ⟨y, rfl⟩
  have hother : ∀ q' : TripleQuote, q' ≠ q →
      lexeme? (pre ++ q.delimiter ++ rest) (closedEntry q') = none ∧
        lexeme? (pre ++ q.delimiter ++ rest) (openEntry q') = none := by
    intro q' hne
    apply triple_eq_none
    intro pre' rest' hp' heq
    exact hne (opening_inj hp hp' heq).2.1.symm
  generalize pre ++ q.delimiter ++ rest = text at hy hother ⊢
  cases hc : lexeme? text (closedEntry q) with
  | some x =>
    cases q with
    | double => simp [classEntries, tripleEntries, hc]
    | single => simp [classEntries, tripleEntries, hother .double (by decide), hc]
  | none =>
    cases q with
    | double => simp [classEntries, tripleEntries, hc, hy]
    | single => simp [classEntries, tripleEntries, hother .double (by decide), hc, hy]

/-- Between triple quotes, on one line, the pattern of the table and the search for an unescaped
delimiter agree: the string ends with the delimiter that the search finds, and it takes the rest of
the line if the search finds none. -/
theorem triple_quotes_end_at_closing (hp : IsStringPrefix pre) (hn : '\n' ∉ rest)
    (hops : ∀ op ∈ ops.members, ¬ op.toList <+: pre ++ q.delimiter ++ rest) :
    (∀ o, q.closing? (String.ofList rest) = some o →
      ∃ taken more, rest = taken ++ more ∧ (String.ofList taken).utf8ByteSize = o + 3 ∧
        (ofOperators ops).classify (pre ++ q.delimiter ++ rest) =
          some ⟨.string, .token, (pre ++ q.delimiter ++ taken).length,
            String.ofList (pre ++ q.delimiter ++ taken), more⟩) ∧
    (q.closing? (String.ofList rest) = none →
      (ofOperators ops).classify (pre ++ q.delimiter ++ rest) =
        some ⟨.string, .opens q, (pre ++ q.delimiter ++ rest).length,
          String.ofList (pre ++ q.delimiter ++ rest), []⟩) := by
  have hheads : (heads ops).findSome? (lexeme? (pre ++ q.delimiter ++ rest)) = none := by
    obtain ⟨c, more, hstart, hc⟩ := starts_quoted hp q (q.mark :: q.mark :: rest)
    have htext : pre ++ q.delimiter ++ rest = c :: more := by
      rw [← hstart, List.append_assoc]
      rfl
    rw [htext] at hops ⊢
    exact heads_of_startsString hc fun op hop => lexeme?_of_not_starts (hops op hop)
  have hclassify : (ofOperators ops).classify (pre ++ q.delimiter ++ rest) =
      (lexeme? (pre ++ q.delimiter ++ rest) (closedEntry q)).or
        (lexeme? (pre ++ q.delimiter ++ rest) (openEntry q)) := by
    rw [classify_eq, hheads, Option.none_or, classes_opening hp]
  rw [hclassify, TripleQuote.closing?_eq]
  constructor
  · intro o ho
    obtain ⟨⟨body, after⟩, hs, rfl⟩ := Option.map_eq_some_iff.mp ho
    obtain ⟨happ, more, rfl⟩ := TripleQuote.scan_eq_some hs
    refine ⟨body ++ q.delimiter, more, by rw [← happ, List.append_assoc], ?_, ?_⟩
    · rw [String.ofList_append, String.utf8ByteSize_append, TripleQuote.utf8ByteSize_delimiter]
    · rw [lexeme?_closed hp hn hs]
      rfl
  · intro ho
    rw [lexeme?_closed_eq_none hp hn (Option.map_eq_none_iff.mp ho), lexeme?_open hp hn]
    rfl

/-- A string behind a prefix with an escaped delimiter and escaped backslashes in it, and one that
is left open. -/
theorem triple_quotes_end_at_closing_escaped :
    (TripleQuote.double.closing? "é\\\"\"\"\\\\\"\"\" or" = some 8 ∧
      ∃ taken more, "é\\\"\"\"\\\\\"\"\" or".toList = taken ++ more ∧
        (String.ofList taken).utf8ByteSize = 8 + 3 ∧
        (ofOperators .core).classify
            (['R', 'b'] ++ TripleQuote.double.delimiter ++ "é\\\"\"\"\\\\\"\"\" or".toList) =
          some ⟨.string, .token, (['R', 'b'] ++ TripleQuote.double.delimiter ++ taken).length,
            String.ofList (['R', 'b'] ++ TripleQuote.double.delimiter ++ taken), more⟩) ∧
    TripleQuote.single.closing? "é\\''' or" = none ∧
      (ofOperators .core).classify ([] ++ TripleQuote.single.delimiter ++ "é\\''' or".toList) =
        some ⟨.string, .opens .single, 11, "'''é\\''' or", []⟩ := by
  have hclosed : TripleQuote.double.closing? "é\\\"\"\"\\\\\"\"\" or" = some 8 := by decide +kernel
  have hopen : TripleQuote.single.closing? "é\\''' or" = none := by decide +kernel
  have hfirst : ∀ op ∈ OperatorSet.core.members, ¬ op.toList <+:
      ['R', 'b'] ++ TripleQuote.double.delimiter ++ "é\\\"\"\"\\\\\"\"\" or".toList := by
    decide +kernel
  have hsecond : ∀ op ∈ OperatorSet.core.members, ¬ op.toList <+:
      [] ++ TripleQuote.single.delimiter ++ "é\\''' or".toList := by
    decide +kernel
  have hletters : IsStringPrefix ['R', 'b'] := ⟨Nat.le_refl 2, by simp [isPrefixLetter]⟩
  have hdouble := triple_quotes_end_at_closing hletters (by decide) hfirst
  have hsingle := triple_quotes_end_at_closing isStringPrefix_nil (by decide) hsecond
  rw [String.ofList_toList] at hdouble hsingle
  exact ⟨⟨hclosed, hdouble.1 8 hclosed⟩, hopen, hsingle.2 hopen⟩

section Unrecognised

theorem lexeme?_short_eq_none (hp : IsStringPrefix pre) (hn : '\n' ∉ rest) :
    lexeme? (pre ++ q.mark :: rest) (shortEntry q.mark) = none ↔ q.shortScan rest = none := by
  rw [lexeme?, shortEntry, match?_shortString hp hn]
  cases q.shortScan rest with
  | none => simp
  | some cut => simp [reachBehind]

theorem isWordChar_of_isDigit (h : c.isDigit = true) : Text.isWordChar c = true := by
  have hascii : c.toNat < 128 := by
    simp only [Char.isDigit, Bool.and_eq_true, decide_eq_true_eq, UInt32.le_iff_toNat_le] at h
    exact Nat.lt_of_le_of_lt h.2 (by decide)
  simp [Text.isWordChar, hascii, Char.isAlphanum, h]

theorem starts_number (h : number.starts c = true) : c = '-' ∨ c.isDigit = true := by
  rw [← digit_holds]
  simp only [number, radixNumber, decimalNumber, inRow, anyOf, one, starts, nullable, Piece.starts,
    Bool.or_eq_true, Bool.false_and, Bool.or_false, Bool.true_and, holds, beq_iff_eq] at h
  rcases h with h | (rfl | rfl | rfl | h)
  · exact .inl h
  · exact .inr (by decide)
  · exact .inr (by decide)
  · exact .inr (by decide)
  · exact .inr h

variable (hw : Text.isWordChar c = false)

include hw in
theorem prefix_eq_nil (hp : IsStringPrefix pre) (h : c :: rest = pre ++ more) : pre = [] := by
  cases pre with
  | nil => rfl
  | cons d pre =>
    obtain ⟨rfl, -⟩ := List.cons.inj h
    rw [isWordChar_of_isPrefixLetter (hp.2 c List.mem_cons_self)] at hw
    cases hw

include hw in
theorem triple_of_not_isWordChar (h : ¬ q.delimiter <+: c :: rest) :
    lexeme? (c :: rest) (closedEntry q) = none ∧ lexeme? (c :: rest) (openEntry q) = none := by
  apply triple_eq_none
  intro pre rest' hp heq
  rw [List.append_assoc] at heq
  obtain rfl := prefix_eq_nil hw hp heq
  exact h ⟨rest', heq.symm⟩

include hw in
theorem short_of_not_isWordChar (hn : '\n' ∉ rest) (h : c = q.mark → q.shortScan rest = none) :
    lexeme? (c :: rest) (shortEntry q.mark) = none := by
  cases hx : lexeme? (c :: rest) (shortEntry q.mark) with
  | none => rfl
  | some x =>
    obtain ⟨z, hz, -, -⟩ := lexeme?_eq_some hx
    obtain ⟨pre, rest', hp, heq⟩ := quoted_of_match?_shortString hz
    obtain rfl := prefix_eq_nil hw hp heq
    obtain ⟨rfl, rfl⟩ := List.cons.inj heq
    have hnone := (lexeme?_short_eq_none isStringPrefix_nil hn).mpr (h rfl)
    rw [List.nil_append, hx] at hnone
    cases hnone

/-- None of the classes takes a text exactly if it starts neither a name nor a comment, and if no
string that it opens closes on the line or is one between triple quotes. -/
theorem classes_eq_none (hn : '\n' ∉ rest) (hminus : c ≠ '-') :
    classEntries.findSome? (lexeme? (c :: rest)) = none ↔
      Text.isWordChar c = false ∧ c ≠ '#' ∧
        ∀ q : TripleQuote, c = q.mark → ¬ q.delimiter <+: c :: rest ∧ q.shortScan rest = none := by
  rw [List.findSome?_eq_none_iff]
  constructor
  · intro h
    refine ⟨?_, ?_, ?_⟩
    · have hname := h nameEntry (by simp [classEntries, plainEntries, nameEntry])
      by_contra hword
      rw [Bool.not_eq_false] at hword
      simp [lexeme?, nameEntry, match?_name, hword] at hname
    · rintro rfl
      have hcomment := h ⟨.comment, .token, comment⟩ (by simp [classEntries, plainEntries])
      simp [lexeme?, match?_comment] at hcomment
    · rintro q rfl
      constructor
      · rintro ⟨more, hmore⟩
        have hopen := h (openEntry q) (by cases q <;> simp [classEntries, tripleEntries])
        exact ne_opening hopen isStringPrefix_nil more hmore.symm
      · have hshort := h (shortEntry q.mark)
          (by cases q <;> simp [classEntries, shortEntries, TripleQuote.mark])
        exact (lexeme?_short_eq_none isStringPrefix_nil hn).mp hshort
  · rintro ⟨hw, hhash, hquote⟩ e he
    have htriple : ∀ q : TripleQuote, ¬ q.delimiter <+: c :: rest := fun q hd =>
      (hquote q (TripleQuote.mark_of_delimiter q hd)).1 hd
    have hshort : ∀ q : TripleQuote, lexeme? (c :: rest) (shortEntry q.mark) = none := fun q =>
      short_of_not_isWordChar hw hn fun hc => (hquote q hc).2
    simp only [classEntries, tripleEntries, shortEntries, plainEntries, List.mem_append,
      List.mem_cons, List.not_mem_nil, or_false] at he
    rcases he with (((rfl | rfl) | rfl | rfl) | rfl | rfl) | rfl | rfl | rfl
    · exact (triple_of_not_isWordChar hw (htriple .double)).1
    · exact (triple_of_not_isWordChar hw (htriple .double)).2
    · exact (triple_of_not_isWordChar hw (htriple .single)).1
    · exact (triple_of_not_isWordChar hw (htriple .single)).2
    · exact hshort .double
    · exact hshort .single
    · apply lexeme?_eq_none
      rw [Bool.eq_false_iff]
      exact fun hstarts => hhash (starts_comment.mp hstarts)
    · apply lexeme?_eq_none
      rw [Bool.eq_false_iff]
      intro hstarts
      rcases starts_number hstarts with rfl | hdigit
      · exact hminus rfl
      · rw [isWordChar_of_isDigit hdigit] at hw
        cases hw
    · exact lexeme?_eq_none hw

end Unrecognised

theorem heads_eq_none (h : ops.Reachable) :
    (heads ops).findSome? (lexeme? text) = none ↔
      (∀ b ∈ Bracket.openers ++ Bracket.closers, ¬ b.toList <+: text) ∧
        ∀ op ∈ ops.members, ¬ op.toList <+: text := by
  rw [heads_eq, Option.or_eq_none_iff, Option.or_eq_none_iff, brackets_eq_none,
    operators_eq_none h.empty_not_mem]
  constructor
  · rintro ⟨hbrackets, -, hops⟩
    exact ⟨hbrackets, hops⟩
  · rintro ⟨hbrackets, hops⟩
    refine ⟨hbrackets, pointNumber_eq_none ?_, hops⟩
    -- the point is an operator of every set
    rintro d rest rfl
    have hpoint : "." ∈ ops.members := h.core_subset "." (by rw [OperatorSet.members_core]; decide)
    exact absurd ⟨d :: rest, rfl⟩ (hops "." hpoint)

/-- The texts of which the table makes nothing: no bracket and no operator starts them, their first
character belongs to no name and no comment, and if it is a quotation mark, then it neither opens
triple quotes nor has a mark behind it that closes the string. -/
theorem classify_eq_none_iff (h : ops.Reachable) (hn : '\n' ∉ c :: rest) :
    (ofOperators ops).classify (c :: rest) = none ↔
      ((∀ b ∈ Bracket.openers ++ Bracket.closers, ¬ b.toList <+: c :: rest) ∧
        ∀ op ∈ ops.members, ¬ op.toList <+: c :: rest) ∧
      Text.isWordChar c = false ∧ c ≠ '#' ∧
      ∀ q : TripleQuote, c = q.mark → ¬ q.delimiter <+: c :: rest ∧ q.shortScan rest = none := by
  have hline : '\n' ∉ rest := fun hm => hn (List.mem_cons_of_mem c hm)
  rw [classify_eq, Option.or_eq_none_iff, heads_eq_none h]
  refine and_congr_right ?_
  rintro ⟨-, hops⟩
  apply classes_eq_none hline
  -- the minus sign is an operator of every set
  rintro rfl
  have hminus : "-" ∈ ops.members := h.core_subset "-" (by rw [OperatorSet.members_core]; decide)
  exact hops "-" hminus ⟨rest, rfl⟩

/-- A string that ends with an escaped mark is not recognised. -/
theorem classify_eq_none_iff_escaped :
    (ofOperators .extended).classify ('"' :: "é'\\\"".toList) = none := by
  apply (classify_eq_none_iff (.ofPreset .extended) (by decide)).mpr
  refine ⟨⟨by decide, by decide +kernel⟩, by decide, by decide, ?_⟩
  intro q hq
  cases q with
  | double => exact ⟨by decide, by decide⟩
  | single => cases hq

end Table

end Offside
