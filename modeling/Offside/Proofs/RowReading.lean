import Offside.Proofs.Lines
import Offside.Proofs.OperatorSet
import Offside.Proofs.Placement
import Offside.Proofs.QuotedText
import Offside.Proofs.Verdict

/-!
# Printed rows read back

The reader of rows undoes the printer of rows, whatever texts the tokens have: the fields of a row
may be wider than their columns, and the marks at which the reader cuts stand where they should.
-/

namespace Offside

set_option autoImplicit false

namespace Text

theorem numeral_toDigits (n : Nat) :
    numeral 10 ((Nat.toDigits 10 n).map fun c => c.toNat - '0'.toNat) = n := by
  rw [numeral, List.foldl_map]
  have h := Nat.ofDigitChars_ten_toDigits (n := n)
  rw [Nat.ofDigitChars_eq_foldl] at h
  simpa only [Nat.mul_comm] using h

theorem digitsUpTo?_toDigits {limit n : Nat} (h : n ≤ limit) :
    digitsUpTo? limit (Nat.toDigits 10 n) = some n := by
  have hdigits : (Nat.toDigits 10 n).all Char.isDigit = true :=
    List.all_eq_true.mpr fun c hc => Nat.isDigit_of_mem_toDigits (by decide) (by decide) hc
  have hne : (Nat.toDigits 10 n).isEmpty = false := by
    rw [List.isEmpty_eq_false_iff]
    exact Nat.toDigits_ne_nil
  rw [digitsUpTo?, digitValues?, hdigits, hne]
  change numeralUpTo? 10 limit _ = some n
  rw [numeralUpTo?_eq (by decide), numeral_toDigits, if_pos h]

theorem int64?_toDigits {n : Nat} (h : (n : Int) ≤ int64Max) :
    int64? (Nat.toDigits 10 n) = some (n : Int) := by
  have hlimit : n ≤ max int64Min.natAbs int64Max.natAbs := by
    simp only [int64Min, int64Max] at h ⊢
    omega
  have hread := digitsUpTo?_toDigits hlimit
  have hlow : int64Min ≤ (n : Int) := Int.le_trans (by decide) (Int.natCast_nonneg n)
  have hdigit : ∀ c ∈ Nat.toDigits 10 n, c.isDigit = true := fun c hc =>
    Nat.isDigit_of_mem_toDigits (by decide) (by decide) hc
  -- a numeral has no sign
  unfold int64? integer?
  split
  · rename_i r hr
    have hplus := hdigit '+' (by rw [hr]; exact List.mem_cons_self)
    exact absurd hplus (by decide)
  · rename_i r hr
    have hminus := hdigit '-' (by rw [hr]; exact List.mem_cons_self)
    exact absurd hminus (by decide)
  · simp [hread, hlow, h]

theorem trimStart_blanks_append {bs : List Char} (h : ∀ c ∈ bs, isBlank c = true)
    (cs : List Char) : trimStart (bs ++ cs) = trimStart cs :=
  List.dropWhile_append_of_pos h

theorem trimStart_cons {c : Char} (h : isBlank c = false) (cs : List Char) :
    trimStart (c :: cs) = c :: cs :=
  List.dropWhile_cons_of_neg (by simp [h])

theorem trimEnd_append_blanks {bs : List Char} (h : ∀ c ∈ bs, isBlank c = true)
    (cs : List Char) : trimEnd (cs ++ bs) = trimEnd cs := by
  rw [trimEnd, List.reverse_append, List.dropWhile_append_of_pos]
  · rfl
  · intro c hc
    exact h c (List.mem_reverse.mp hc)

theorem trimEnd_concat {c : Char} (h : isBlank c = false) (cs : List Char) :
    trimEnd (cs ++ [c]) = cs ++ [c] := by
  rw [trimEnd, List.reverse_append, List.reverse_singleton, List.singleton_append,
    List.dropWhile_cons_of_neg (by simp [h])]
  simp

theorem trim_padded {before behind : List Char} {a b : Char} (cs : List Char)
    (hbefore : ∀ c ∈ before, isBlank c = true) (hbehind : ∀ c ∈ behind, isBlank c = true)
    (ha : isBlank a = false) (hb : isBlank b = false) :
    trim (before ++ (a :: cs ++ [b]) ++ behind) = a :: cs ++ [b] := by
  rw [trim, List.append_assoc, trimStart_blanks_append hbefore, List.cons_append,
    List.cons_append, trimStart_cons ha, ← List.cons_append, ← List.cons_append,
    trimEnd_append_blanks hbehind, trimEnd_concat hb]

theorem trim_of_none {cs : List Char} (h : ∀ c ∈ cs, isBlank c = false) : trim cs = cs := by
  rcases List.eq_nil_or_concat cs with rfl | ⟨init, last, rfl⟩
  · rfl
  · have hlast := h last (by simp)
    have hstart : trimStart (init ++ [last]) = init ++ [last] := by
      cases init with
      | nil => exact trimStart_cons hlast []
      | cons c init => exact trimStart_cons (h c (by simp)) _
    rw [trim, List.concat_eq_append, hstart, trimEnd_concat hlast]

theorem digit_cases {c : Char} (h : c.isDigit = true) :
    isBlank c = false ∧ c ≠ ',' ∧ c ≠ '-' ∧ c ≠ ':' := by
  have hall : ∀ k : Fin 10, isBlank (Char.ofNat (48 + k)) = false ∧ Char.ofNat (48 + k) ≠ ',' ∧
      Char.ofNat (48 + k) ≠ '-' ∧ Char.ofNat (48 + k) ≠ ':' := by decide
  have hrange : 48 ≤ c.toNat ∧ c.toNat ≤ 57 := Char.isDigit_iff_toNat.mp h
  have hc : Char.ofNat (48 + (c.toNat - 48)) = c := by
    rw [show 48 + (c.toNat - 48) = c.toNat by omega, Char.ofNat_toNat]
  have hk := hall ⟨c.toNat - 48, by omega⟩
  rw [hc] at hk
  exact hk

theorem digit_of_mem {n : Nat} {c : Char} (h : c ∈ Nat.toDigits 10 n) :
    isBlank c = false ∧ c ≠ ',' ∧ c ≠ '-' ∧ c ≠ ':' :=
  digit_cases (Nat.isDigit_of_mem_toDigits (by decide) (by decide) h)

end Text

namespace Reference

theorem splitAt?_append {c : Char} {before : List Char} (h : c ∉ before) (behind : List Char) :
    splitAt? c (before ++ c :: behind) = some (before, behind) := by
  have hall : ∀ d ∈ before, (d != c) = true := by
    intro d hd
    rw [bne_iff_ne]
    rintro rfl
    exact h hd
  rw [splitAt?, List.dropWhile_append_of_pos hall, List.takeWhile_append_of_pos hall]
  simp

end Reference

/-- A position whose line and column are not negative and fit in 64 bits. -/
def Position.Printable (p : Position) : Prop :=
  0 ≤ p.line ∧ p.line ≤ Text.int64Max ∧ 0 ≤ p.column ∧ p.column ≤ Text.int64Max

def Position.digits (line column : Nat) : List Char :=
  Nat.toDigits 10 line ++ ',' :: Nat.toDigits 10 column

def Span.digits (line column line' column' : Nat) : List Char :=
  Position.digits line column ++ '-' :: Position.digits line' column'

theorem Position.text_of (line column : Nat) :
    (Position.of line column).text.toList = digits line column := by
  have hrepr : ∀ n : Nat, toString (n : Int) = n.repr := fun _ => rfl
  simp [Position.text, digits, hrepr]

theorem Position.Printable.eq_of {p : Position} (h : p.Printable) :
    ∃ line column : Nat, p = .of line column ∧ (line : Int) ≤ Text.int64Max ∧
      (column : Int) ≤ Text.int64Max := by
  obtain ⟨line, column⟩ := p
  obtain ⟨hl, hl', hc, hc'⟩ := h
  obtain ⟨l, rfl⟩ := Int.eq_ofNat_of_zero_le hl
  obtain ⟨c, rfl⟩ := Int.eq_ofNat_of_zero_le hc
  exact ⟨l, c, rfl, hl', hc'⟩

namespace Reference

variable {line column line' column' : Nat}

theorem mem_digits {c : Char} (h : c ∈ Position.digits line column) :
    Text.isBlank c = false ∧ c ≠ '-' ∧ c ≠ ':' := by
  simp only [Position.digits, List.mem_append, List.mem_cons] at h
  rcases h with h | rfl | h
  · obtain ⟨hb, -, hm, hd⟩ := Text.digit_of_mem h
    exact ⟨hb, hm, hd⟩
  · decide
  · obtain ⟨hb, -, hm, hd⟩ := Text.digit_of_mem h
    exact ⟨hb, hm, hd⟩

theorem position?_digits (hl : (line : Int) ≤ Text.int64Max) (hc : (column : Int) ≤ Text.int64Max) :
    position? (Position.digits line column) = some (.of line column) := by
  have hcut : splitAt? ',' (Position.digits line column) =
      some (Nat.toDigits 10 line, Nat.toDigits 10 column) :=
    splitAt?_append (fun h => (Text.digit_of_mem h).2.1 rfl) _
  have htrim : ∀ n, Text.trim (Nat.toDigits 10 n) = Nat.toDigits 10 n := fun n =>
    Text.trim_of_none fun c h => (Text.digit_of_mem h).1
  simp [position?, hcut, htrim, Text.int64?_toDigits hl, Text.int64?_toDigits hc, Position.of]

theorem span?_digits (hl : (line : Int) ≤ Text.int64Max) (hc : (column : Int) ≤ Text.int64Max)
    (hl' : (line' : Int) ≤ Text.int64Max) (hc' : (column' : Int) ≤ Text.int64Max) :
    span? (Span.digits line column line' column') =
      some ⟨.of line column, .of line' column'⟩ := by
  have hcut : splitAt? '-' (Span.digits line column line' column') =
      some (Position.digits line column, Position.digits line' column') :=
    splitAt?_append (fun h => (mem_digits h).2.1 rfl) _
  simp [span?, hcut, position?_digits hl hc, position?_digits hl' hc']

end Reference

/-- No name of a kind is empty or fills its column, and none has white space in it. -/
theorem Kind.label_cases (k : Kind) :
    k.label.toList ≠ [] ∧ k.label.length < 15 ∧
      ∀ c ∈ k.label.toList, Text.isBlank c = false := by
  have hall : k.label.toList ≠ [] ∧ k.label.length < 15 ∧
      k.label.toList.all (fun c => !Text.isBlank c) = true := by
    cases k <;> decide
  obtain ⟨hne, hlen, hblank⟩ := hall
  refine ⟨hne, hlen, ?_⟩
  intro c hc
  simpa using List.all_eq_true.mp hblank c hc

namespace Token

theorem padRight_toList (width : Nat) (s : String) :
    (Text.padRight width s).toList = s.toList ++ List.replicate (width - s.length) ' ' := by
  simp [Text.padRight, Text.fill]

theorem row_toList (kind : Kind) (text : String) (line column line' column' : Nat) :
    ∃ m n k, (row ⟨kind, text, .of line column, .of line' column'⟩).toList =
      Span.digits line column line' column' ++
        ':' :: (List.replicate m ' ' ++ (kind.label.toList ++
          ' ' :: (List.replicate n ' ' ++ quote text.toList ++ List.replicate k ' '))) := by
  obtain ⟨-, hlen, -⟩ := kind.label_cases
  obtain ⟨n, hn⟩ : ∃ n, 15 - kind.label.length = n + 1 := ⟨14 - kind.label.length, by omega⟩
  let t : Token := ⟨kind, text, .of line column, .of line' column'⟩
  refine ⟨20 - (t.span.text ++ ":").length, n, 15 - t.quotedText.length, ?_⟩
  simp only [row, String.toList_append, padRight_toList, hn, List.replicate_succ, t]
  simp [Span.text, Span.digits, Position.text_of, quotedText]

end Token

namespace Reference

theorem isBlank_of_mem_replicate {n : Nat} {c : Char} (h : c ∈ List.replicate n ' ') :
    Text.isBlank c = true := by
  rw [List.eq_of_mem_replicate h]
  rfl

section Label

variable (kind : Kind) (m : Nat) (more : List Char)

theorem trimStart_label :
    Text.trimStart (List.replicate m ' ' ++ (kind.label.toList ++ more)) =
      kind.label.toList ++ more := by
  obtain ⟨hne, -, hlabel⟩ := kind.label_cases
  rw [Text.trimStart_blanks_append fun _ h => isBlank_of_mem_replicate h]
  cases hk : kind.label.toList with
  | nil => exact absurd hk hne
  | cons c cs => exact Text.trimStart_cons (hlabel c (by rw [hk]; exact List.mem_cons_self)) _

theorem not_isBlank_label (c : Char) (h : c ∈ kind.label.toList) : (!Text.isBlank c) = true := by
  rw [kind.label_cases.2.2 c h]
  rfl

theorem takeWhile_label :
    (kind.label.toList ++ ' ' :: more).takeWhile (fun c => !Text.isBlank c) =
      kind.label.toList := by
  rw [List.takeWhile_append_of_pos (not_isBlank_label kind)]
  exact List.append_nil _

theorem dropWhile_label :
    (kind.label.toList ++ ' ' :: more).dropWhile (fun c => !Text.isBlank c) = ' ' :: more := by
  rw [List.dropWhile_append_of_pos (not_isBlank_label kind)]
  rfl

end Label

theorem trim_quote (n k : Nat) (text : List Char) :
    Text.trim (' ' :: (List.replicate n ' ' ++ Token.quote text ++ List.replicate k ' ')) =
      Token.quote text := by
  have hmark : Text.isBlank (Token.quoteFor text) = false :=
    Token.of_quoteFor (P := fun q => Text.isBlank q = false) rfl rfl text
  have hbefore : ∀ c ∈ List.replicate (n + 1) ' ', Text.isBlank c = true := fun _ h =>
    isBlank_of_mem_replicate h
  have hbehind : ∀ c ∈ List.replicate k ' ', Text.isBlank c = true := fun _ h =>
    isBlank_of_mem_replicate h
  have h := Text.trim_padded (text.flatMap (Token.escapeIn (Token.quoteFor text))) hbefore
    hbehind hmark hmark
  rw [List.replicate_succ] at h
  exact h

theorem mem_range {line column line' column' : Nat} {c : Char}
    (h : c ∈ Span.digits line column line' column') : Text.isBlank c = false ∧ c ≠ ':' := by
  rcases List.mem_append.mp h with h | h
  · obtain ⟨hb, -, hd⟩ := mem_digits h
    exact ⟨hb, hd⟩
  · rcases List.mem_cons.mp h with rfl | h
    · decide
    · obtain ⟨hb, -, hd⟩ := mem_digits h
      exact ⟨hb, hd⟩

/-- The row of a token with positions that can be printed: a span that is read back and holds no
white space and no colon, and the columns behind it. -/
theorem row_columns {t : Token} (hstart : t.span.start.Printable)
    (hstop : t.span.stop.Printable) :
    ∃ range m n k, span? range = some t.span ∧
      (∀ c ∈ range, Text.isBlank c = false ∧ c ≠ ':') ∧
      t.row.toList = range ++ ':' :: (List.replicate m ' ' ++ (t.kind.label.toList ++
        ' ' :: (List.replicate n ' ' ++ Token.quote t.text.toList ++ List.replicate k ' '))) := by
  obtain ⟨kind, text, start, stop⟩ := t
  obtain ⟨line, column, rfl, hl, hc⟩ := hstart.eq_of
  obtain ⟨line', column', rfl, hl', hc'⟩ := hstop.eq_of
  obtain ⟨m, n, k, hrow⟩ := Token.row_toList kind text line column line' column'
  exact ⟨_, m, n, k, span?_digits hl hc hl' hc', fun _ h => mem_range h, hrow⟩

theorem row?_row {t : Token} (hstart : t.span.start.Printable) (hstop : t.span.stop.Printable) :
    row? t.row.toList = some t := by
  obtain ⟨range, m, n, k, hspan, hrange, hrow⟩ := row_columns hstart hstop
  have hcolon : ':' ∉ range := fun h => (hrange ':' h).2 rfl
  have hcut := splitAt?_append hcolon
    (List.replicate m ' ' ++ (t.kind.label.toList ++
      ' ' :: (List.replicate n ' ' ++ Token.quote t.text.toList ++ List.replicate k ' ')))
  rw [← hrow] at hcut
  have htrim : Text.trim range = range := Text.trim_of_none fun c h => (hrange c h).1
  simp only [row?, hcut, Option.bind_eq_bind, Option.bind_some, htrim, hspan, trimStart_label,
    takeWhile_label, dropWhile_label, trim_quote, Token.unquote?_quote, String.ofList_toList,
    Kind.ofLabel?_label]
  rfl

theorem endsLine_of_not_isBlank {c : Char} (h : Text.isBlank c = false) :
    Token.endsLine c = false := by
  rw [Token.endsLine, Bool.or_eq_false_iff, beq_eq_false_iff_ne, beq_eq_false_iff_ne]
  constructor
  · rintro rfl
    cases h
  · rintro rfl
    cases h

theorem endsLine_row {t : Token} (hstart : t.span.start.Printable) (hstop : t.span.stop.Printable)
    {c : Char} (h : c ∈ t.row.toList) : Token.endsLine c = false := by
  obtain ⟨range, m, n, k, -, hrange, hrow⟩ := row_columns hstart hstop
  rw [hrow] at h
  have hspace : ∀ j, c ∈ List.replicate j ' ' → Token.endsLine c = false := by
    intro j hj
    rw [List.eq_of_mem_replicate hj]
    rfl
  simp only [List.mem_append, List.mem_cons] at h
  rcases h with h | rfl | h | h | rfl | (h | h) | h
  · exact endsLine_of_not_isBlank (hrange c h).1
  · rfl
  · exact hspace m h
  · exact endsLine_of_not_isBlank (t.kind.label_cases.2.2 c h)
  · rfl
  · exact hspace n h
  · exact Token.endsLine_quote h
  · exact hspace k h

theorem not_all_isBlank_row {t : Token} (hstart : t.span.start.Printable)
    (hstop : t.span.stop.Printable) : t.row.toList.all Text.isBlank = false := by
  obtain ⟨range, m, n, k, -, -, hrow⟩ := row_columns hstart hstop
  have hcolon : Text.isBlank ':' = false := by decide
  rw [hrow, List.all_append, List.all_cons, hcolon, Bool.false_and, Bool.and_false]

end Reference

namespace Text

theorem cutLines_line {line : List Char} (h : ∀ c ∈ line, Token.endsLine c = false)
    (done : Array String) (read rest : List Char) (hr : read.head? ≠ some '\r') :
    cutLines done read (line ++ '\n' :: rest) =
      cutLines (done.push (String.ofList (read.reverse ++ line))) [] rest := by
  -- what has been read of the line stands in reverse order
  induction line generalizing read with
  | nil =>
    rw [List.nil_append, List.append_nil, cutLines_feed, closeLine_of_head? hr]
  | cons c line ih =>
    have hc := h c List.mem_cons_self
    have hn : c ≠ '\n' := by
      rintro rfl
      cases hc
    have hcr : (c :: read).head? ≠ some '\r' := by
      rintro hh
      obtain rfl := Option.some.inj hh
      cases hc
    rw [List.cons_append, cutLines_cons hn,
      ih (fun d hd => h d (List.mem_cons_of_mem c hd)) (c :: read) hcr]
    simp

theorem lines_line {r : String} (h : ∀ c ∈ r.toList, Token.endsLine c = false) :
    lines (r ++ "\n") = [r] := by
  have hfeed : "\n".toList = ['\n'] := rfl
  rw [lines, String.toList_append, hfeed, cutLines_line h #[] [] [] (by simp)]
  simp [cutLines]

theorem lines_join {rows : List String} (h : ∀ r ∈ rows, ∀ c ∈ r.toList, Token.endsLine c = false) :
    lines (String.join (rows.map fun r => r ++ "\n")) = rows := by
  induction rows with
  | nil => rfl
  | cons r rows ih =>
    rw [List.map_cons, String.join_cons, lines_append (.inr ⟨r, rfl⟩),
      lines_line (h r List.mem_cons_self), ih fun r' hr' => h r' (List.mem_cons_of_mem r hr')]
    rfl

end Text

namespace Reference

theorem readFrom_rows {ts : List Token}
    (h : ∀ t ∈ ts, t.span.start.Printable ∧ t.span.stop.Printable) (line : Nat)
    (done : Array Token) : readFrom line done (ts.map Token.row) = .ok (done.toList ++ ts) := by
  induction ts generalizing line done with
  | nil => simp [readFrom]
  | cons t ts ih =>
    obtain ⟨hstart, hstop⟩ := h t List.mem_cons_self
    rw [List.map_cons, readFrom, not_all_isBlank_row hstart hstop]
    simp only [Bool.false_eq_true, if_false, row?_row hstart hstop]
    rw [ih fun u hu => h u (List.mem_cons_of_mem t hu)]
    simp

theorem read_rows {ts : List Token}
    (h : ∀ t ∈ ts, t.span.start.Printable ∧ t.span.stop.Printable) :
    read (Token.rows ts) = .ok ts := by
  have hrows : ∀ r ∈ ts.map Token.row, ∀ c ∈ r.toList, Token.endsLine c = false := by
    intro r hr c hc
    obtain ⟨t, ht, rfl⟩ := List.mem_map.mp hr
    obtain ⟨hstart, hstop⟩ := h t ht
    exact endsLine_row hstart hstop hc
  have hlines := Text.lines_join hrows
  rw [List.map_map] at hlines
  rw [read, Token.rows]
  change readFrom 1 #[] (Text.lines (String.join (ts.map
    ((fun r => r ++ "\n") ∘ Token.row)))) = _
  rw [hlines, readFrom_rows h]
  rfl

end Reference

/-- A source whose lines, and the places on each of them, can be counted in 64 bits. -/
def Source.Countable (lines : List String) : Prop :=
  (lines.length + 1 : Nat) ≤ Text.int64Max ∧ ∀ l ∈ lines, (l.length + 1 : Nat) ≤ Text.int64Max

theorem Position.Fits.printable {height width : Nat} {p : Position} (h : p.Fits height width)
    (hh : (height : Int) ≤ Text.int64Max) (hw : (width : Int) ≤ Text.int64Max) :
    p.Printable := by
  obtain ⟨line, column, rfl, hl, hc⟩ := h
  refine ⟨Int.natCast_nonneg _, ?_, Int.natCast_nonneg _, ?_⟩
  · exact Int.le_trans (Int.ofNat_le.mpr hl) hh
  · exact Int.le_trans (Int.ofNat_le.mpr hc) hw

theorem Source.Countable.room {lines : List String} (h : Source.Countable lines) :
    Source.Room lines Text.int64Max.toNat Text.int64Max.toNat where
  height := Int.ofNat_le.mp h.1
  width l hl := Int.ofNat_le.mp (h.2 l hl)

/-- The rows of tokens are read as those tokens, whatever their texts. So a source of which the
rows are read back matches itself. -/
theorem printed_rows_read_back :
    (∀ ts : List Token, (∀ t ∈ ts, t.span.start.Printable ∧ t.span.stop.Printable) →
      Reference.read (Token.rows ts) = .ok ts) ∧
    ∀ (t : Table) (policy : EndPolicy) (lines : List String) (r : Tokenization),
      Source.Countable lines → t.tokenize policy lines = .ok r →
      ∃ ts, Reference.read (Token.rows r.tokens.toList) = .ok ts ∧
        ∀ label, (Comparison.ofStreams (.ofArray r.tokens) (.ofList ts) label).isMatch = true := by
  refine ⟨fun ts h => Reference.read_rows h, ?_⟩
  intro t policy lines r hc hr
  have hfits := fits_of_tokenize hc.room hr
  refine ⟨r.tokens.toList, Reference.read_rows ?_, ?_⟩
  · intro u hu
    obtain ⟨hstart, hstop⟩ := hfits u hu
    exact ⟨hstart.printable (Int.le_refl _) (Int.le_refl _),
      hstop.printable (Int.le_refl _) (Int.le_refl _)⟩
  · intro label
    rw [Comparison.isMatch_iff_look]
    intro k _
    rw [TokenStream.ofList, Array.toArray_toList]
    exact Token.agrees_refl _

/-- A text with both quotes, a colon, white space at its ends and a carriage return, and the rows
of a source. -/
theorem printed_rows_read_back_quotes :
    Reference.read (Token.rows [⟨.unknown, " 'a\": \\\r\n\x7f", .of 123456 7, .of 123456 123456⟩]) =
      .ok [⟨.unknown, " 'a\": \\\r\n\x7f", .of 123456 7, .of 123456 123456⟩] ∧
    ∃ r, (Table.ofOperators .core).tokenize .strict ["x = 'a:b'"] = .ok r ∧
      ∃ ts, Reference.read (Token.rows r.tokens.toList) = .ok ts ∧
        ∀ label, (Comparison.ofStreams (.ofArray r.tokens) (.ofList ts) label).isMatch = true := by
  constructor
  · apply printed_rows_read_back.1
    intro t ht
    rw [List.mem_singleton.mp ht]
    exact ⟨⟨by decide, by decide, by decide, by decide⟩, by decide, by decide, by decide, by decide⟩
  · have hrun : ((Table.ofOperators .core).tokenize .strict ["x = 'a:b'"]).isOk = true := by
      rw [Table.ofOperators, OperatorSet.matchOrder_core]
      decide +kernel
    cases hr : (Table.ofOperators .core).tokenize .strict ["x = 'a:b'"] with
    | error e =>
      rw [hr] at hrun
      cases hrun
    | ok r => exact ⟨r, rfl, printed_rows_read_back.2 _ _ _ r ⟨by decide, by decide⟩ hr⟩

end Offside
