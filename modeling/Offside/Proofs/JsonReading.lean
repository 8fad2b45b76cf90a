import Offside.Json
import Offside.Json.Reader
import Mathlib.Data.List.Forall2

/-!
# Printed documents read back

The reader of documents undoes the printer, for every document whose numbers are spelled as numbers
and whose texts and names have characters. The proof follows the two passes of the reader: the
text of a document is cut into just the lexemes it was written with, and the machine puts these
together to the document it was given.
-/

namespace Offside.Json

set_option autoImplicit false

section Strings

variable {read : Read} {rest : List Char}

theorem readString_short {c d : Char} (h : unescape? c = some d) :
    readString read ('\\' :: c :: rest) = readString (read.push d) rest := by
  rw [readString, h]
  rintro a b e f r rfl
  cases h

theorem readString_plain {c : Char} (hq : c ≠ '"') (hb : c ≠ '\\') (hc : ¬ c.toNat < 0x20) :
    readString read (c :: rest) = readString (read.push c) rest := by
  rw [readString]
  · simp [hb, hc]
  all_goals simp_all

theorem hexRun?_control (n : Fin 0x20) :
    (Text.hexPadded 4 n).length = 4 ∧ Text.hexRun? (Text.hexPadded 4 n) = some n.val ∧
      isHighHalf n = false ∧ isLowHalf n = false := by
  revert n
  decide

theorem readString_control {c : Char} (h : c.toNat < 0x20) :
    readString read ('\\' :: 'u' :: Text.hexPadded 4 c.toNat ++ rest) =
      readString (read.push c) rest := by
  obtain ⟨hlen, hvalue, hhigh, hlow⟩ := hexRun?_control ⟨c.toNat, h⟩
  obtain ⟨a, b, d, e, hdigits⟩ := List.length_eq_four.mp hlen
  simp only [hdigits] at hvalue hhigh hlow ⊢
  change readString read ('\\' :: 'u' :: a :: b :: d :: e :: rest) = _
  rw [readString, hvalue]
  simp only [hhigh, hlow]
  rw [Char.ofNat_toNat]
  simp

/-- What the printer writes for a character is read as that character. -/
theorem readString_escapeChar (c : Char) :
    readString read (escapeChar c ++ rest) = readString (read.push c) rest := by
  unfold escapeChar
  split
  · exact readString_short rfl
  · exact readString_short rfl
  · exact readString_short rfl
  · exact readString_short rfl
  · exact readString_short rfl
  · exact readString_short rfl
  · exact readString_short rfl
  · rename_i hq hb _ _ _ _ _
    split
    · rename_i hc
      exact readString_control hc
    · rename_i hc
      exact readString_plain hq hb hc

theorem readString_flatMap (cs : List Char) (read : List Char) (rest : List Char) :
    readString (some read) (cs.flatMap escapeChar ++ '"' :: rest) =
      some (some (String.ofList (read.reverse ++ cs)), rest) := by
  induction cs generalizing read with
  | nil => simp [readString]
  | cons c cs ih =>
    rw [List.flatMap_cons, List.append_assoc, readString_escapeChar]
    simpa [Read.push] using ih (c :: read)

end Strings

/-! ## Lexemes -/

/-- No numeral goes on in a text. -/
def Ends (rest : List Char) : Prop := ∀ c ∈ rest.head?, isNumeric c = false

theorem ends_cons {c : Char} (h : isNumeric c = false) (rest : List Char) : Ends (c :: rest) := by
  rintro _ ⟨⟩
  exact h

theorem takeWhile_of_ends {rest : List Char} (h : Ends rest) : rest.takeWhile isNumeric = [] := by
  cases rest with
  | nil => rfl
  | cons c rest => exact List.takeWhile_cons_of_neg (by simp [h c rfl])

theorem dropWhile_of_ends {rest : List Char} (h : Ends rest) : rest.dropWhile isNumeric = rest := by
  cases rest with
  | nil => rfl
  | cons c rest => exact List.dropWhile_cons_of_neg (by simp [h c rfl])

/-- A text is cut into lexemes wherever it stands, unless a numeral behind it goes on. -/
def Cuts (text : List Char) (xs : List Lexeme) : Prop :=
  ∀ done rest, Ends rest → lexemes done (text ++ rest) = lexemes (xs.reverse ++ done) rest

structure Mark (c : Char) (x : Lexeme) : Prop where
  ends : isNumeric c = false
  cut : ∀ done rest, lexemes done (c :: rest) = lexemes (x :: done) rest

theorem mark_comma : Mark ',' .comma := ⟨rfl, fun _ _ => by rw [lexemes]⟩

theorem mark_colon : Mark ':' .colon := ⟨rfl, fun _ _ => by rw [lexemes]⟩

theorem mark_openArray : Mark '[' .openArray := ⟨rfl, fun _ _ => by rw [lexemes]⟩

theorem mark_closeArray : Mark ']' .closeArray := ⟨rfl, fun _ _ => by rw [lexemes]⟩

theorem mark_openObject : Mark '\x7b' .openObject := ⟨rfl, fun _ _ => by rw [lexemes]⟩

theorem mark_closeObject : Mark '\x7d' .closeObject := ⟨rfl, fun _ _ => by rw [lexemes]⟩

section Marks

variable {text more : List Char} {xs ys : List Lexeme} {c d : Char} {x y : Lexeme}

theorem Cuts.separated (h : Cuts text xs) (hmore : Cuts more ys) (hc : Mark c x) :
    Cuts (text ++ c :: more) (xs ++ x :: ys) := by
  intro done rest hrest
  rw [List.append_assoc, List.cons_append, h done _ (ends_cons hc.ends _), hc.cut,
    hmore _ rest hrest]
  simp

theorem Cuts.enclosed (h : Cuts text xs) (hc : Mark c x) (hd : Mark d y) :
    Cuts (c :: text ++ [d]) (x :: xs ++ [y]) := by
  intro done rest hrest
  rw [List.append_assoc, List.cons_append, hc.cut, List.singleton_append,
    h _ _ (ends_cons hd.ends rest), hd.cut]
  simp

end Marks

theorem cuts_quote (s : String) : Cuts (quote s).toList [.text (some s)] := by
  intro done rest _
  have hread := readString_flatMap s.toList [] rest
  rw [quote, String.toList_ofList, List.cons_append, List.cons_append, List.append_assoc,
    List.singleton_append, lexemes]
  split
  · rename_i hr
    rw [hread] at hr
    cases hr
    simp
  · rename_i hr
    rw [hread] at hr
    cases hr

structure Numeral (cs : List Char) : Prop where
  isNumber : isNumber cs = true
  isNumeric : ∀ c ∈ cs, isNumeric c = true

theorem cuts_numeral {spelling : String} (h : Numeral spelling.toList) :
    Cuts spelling.toList [.number spelling] := by
  intro done rest hends
  obtain ⟨c, cs, hspelling⟩ : ∃ c cs, spelling.toList = c :: cs := by
    cases hs : spelling.toList with
    | nil =>
      rw [hs] at h
      cases h.isNumber
    | cons c cs => exact ⟨c, cs, rfl⟩
  rw [hspelling] at h
  have hc : isNumeric c = true := h.isNumeric c List.mem_cons_self
  have hcs : ∀ d ∈ cs, isNumeric d = true := fun d hd => h.isNumeric d (List.mem_cons_of_mem c hd)
  have hspace : isSpace c = false := by
    by_contra hs
    simp only [Bool.not_eq_false, isSpace, Bool.or_eq_true, beq_iff_eq] at hs
    rcases hs with ((rfl | rfl) | rfl) | rfl <;> cases hc
  have hback : String.ofList (c :: cs) = spelling := by rw [← hspelling, String.ofList_toList]
  rw [hspelling, List.cons_append, lexemes]
  · rw [if_neg (by simp [hspace]), if_pos hc, List.takeWhile_append_of_pos hcs,
      List.dropWhile_append_of_pos hcs, takeWhile_of_ends hends, dropWhile_of_ends hends,
      List.append_nil, if_pos h.isNumber, hback]
    rfl
  all_goals first
    | rintro rfl
      cases hc
    | rintro r rfl
      cases hc

theorem cuts_intercalate {texts : List (List Char)} {parts : List (List Lexeme)}
    (h : List.Forall₂ Cuts texts parts) :
    Cuts ([','].intercalate texts) ([.comma].intercalate parts) := by
  induction h with
  | nil =>
    intro done rest _
    rfl
  | cons hx hrest ih =>
    cases hrest with
    | nil =>
      rw [List.intercalate_singleton, List.intercalate_singleton]
      exact hx
    | cons _ _ =>
      rw [List.intercalate_cons_cons, List.intercalate_cons_cons, List.append_assoc,
        List.append_assoc]
      exact hx.separated ih mark_comma

/-! ## The lexemes of a document -/

mutual

def pieces : Json → List Lexeme
  | null => [.null]
  | bool b => [.bool b]
  | number spelling => [.number spelling]
  | text s => [.text s]
  | array items => .openArray :: [.comma].intercalate (itemPieces items) ++ [.closeArray]
  | object members =>
    .openObject :: [.comma].intercalate (memberPieces members) ++ [.closeObject]

def itemPieces : List Json → List (List Lexeme)
  | [] => []
  | j :: js => j.pieces :: itemPieces js

def memberPieces : List (Option String × Json) → List (List Lexeme)
  | [] => []
  | (name, j) :: ms => (.text name :: .colon :: j.pieces) :: memberPieces ms

end

/-- A document whose numbers are spelled as numbers, and whose texts and names have characters. -/
inductive Proper : Json → Prop
  | null : Proper null
  | bool (b : Bool) : Proper (bool b)
  | number {spelling : String} (h : Numeral spelling.toList) : Proper (number spelling)
  | text (s : String) : Proper (text (some s))
  | array {items : List Json} (h : ∀ j ∈ items, Proper j) : Proper (array items)
  | object {members : List (Option String × Json)} (hnames : ∀ m ∈ members, m.1.isSome)
      (h : ∀ m ∈ members, Proper m.2) : Proper (object members)

theorem itemPieces_eq (items : List Json) : itemPieces items = items.map pieces := by
  induction items with
  | nil => rfl
  | cons j js ih => rw [itemPieces, ih, List.map_cons]

theorem memberPieces_eq (members : List (Option String × Json)) :
    memberPieces members = members.map fun m => .text m.1 :: .colon :: m.2.pieces := by
  induction members with
  | nil => rfl
  | cons m ms ih => rw [memberPieces, ih, List.map_cons]

theorem compactItems_eq (items : List Json) : compactItems items = items.map compact := by
  induction items with
  | nil => rfl
  | cons j js ih => rw [compactItems, ih, List.map_cons]

theorem compactMembers_eq (members : List (Option String × Json)) :
    compactMembers members = members.map fun m => quoteText m.1 ++ ":" ++ m.2.compact := by
  induction members with
  | nil => rfl
  | cons m ms ih => rw [compactMembers, ih, List.map_cons]

theorem Proper.cuts {j : Json} (h : Proper j) : Cuts j.compact.toList j.pieces := by
  induction h with
  | null =>
    intro done rest _
    simp [compact, pieces, lexemes]
  | bool b =>
    intro done rest _
    cases b <;> simp [compact, pieces, lexemes]
  | number h => exact cuts_numeral h
  | text s => exact cuts_quote s
  | @array items _ ih =>
    have hitems : List.Forall₂ Cuts ((compactItems items).map String.toList)
        (itemPieces items) := by
      rw [compactItems_eq, itemPieces_eq, List.map_map, List.forall₂_map_left_iff,
        List.forall₂_map_right_iff, List.forall₂_same]
      exact ih
    rw [compact, pieces, String.toList_append, String.toList_append, String.toList_intercalate]
    exact (cuts_intercalate hitems).enclosed mark_openArray mark_closeArray
  | @object members hnames _ ih =>
    have hmembers : List.Forall₂ Cuts ((compactMembers members).map String.toList)
        (memberPieces members) := by
      rw [compactMembers_eq, memberPieces_eq, List.map_map, List.forall₂_map_left_iff,
        List.forall₂_map_right_iff, List.forall₂_same]
      intro m hm
      obtain ⟨name, hname⟩ := Option.isSome_iff_exists.mp (hnames m hm)
      simp only [Function.comp_apply, hname, String.toList_append]
      rw [List.append_assoc]
      exact (cuts_quote name).separated (ih m hm) mark_colon
    rw [compact, pieces, String.toList_append, String.toList_append, String.toList_intercalate]
    exact (cuts_intercalate hmembers).enclosed mark_openObject mark_closeObject

/-! ## The machine -/

def run (s : List Frame × Next) (xs : List Lexeme) : Option (List Frame × Next) :=
  xs.foldlM (fun s x => step s.1 s.2 x) s

theorem run_cons (frames : List Frame) (next : Next) (x : Lexeme) (xs : List Lexeme) :
    run (frames, next) (x :: xs) = (step frames next x).bind fun s => run s xs := rfl

theorem run_singleton (frames : List Frame) (next : Next) (x : Lexeme) :
    run (frames, next) [x] = step frames next x := by
  rw [run_cons]
  cases step frames next x <;> rfl

theorem run_append (s : List Frame × Next) (xs ys : List Lexeme) :
    run s (xs ++ ys) = (run s xs).bind fun s => run s ys := List.foldlM_append

theorem assemble_of_run {frames rest : List Frame} {next : Next} {xs : List Lexeme} {j : Json}
    (h : run (frames, next) xs = some (rest, .nothing j)) : assemble frames next xs = some j := by
  induction xs generalizing frames next with
  | nil =>
    obtain ⟨rfl, rfl⟩ := Prod.mk.inj (Option.some.inj h)
    rfl
  | cons x xs ih =>
    rw [run_cons] at h
    cases hs : step frames next x with
    | none =>
      rw [hs] at h
      cases h
    | some s =>
      rw [hs] at h
      simp only [assemble, hs]
      exact ih h

def Accepted (j : Json) : Prop :=
  ∀ frames next, next = .value ∨ next = .firstItem → run (frames, next) j.pieces = accept j frames

theorem reverse_append_cons {α : Type} (a : α) (as bs : List α) :
    as.reverse ++ a :: bs = (a :: as).reverse ++ bs := by
  rw [List.reverse_cons, List.append_assoc, List.singleton_append]

theorem run_items {j : Json} {items : List Json} (h : ∀ k ∈ j :: items, Accepted k)
    (done : List Json) (frames : List Frame) {next : Next}
    (hnext : next = .value ∨ next = .firstItem) :
    run (.array done :: frames, next)
        ([.comma].intercalate ((j :: items).map pieces) ++ [.closeArray]) =
      accept (.array (done.reverse ++ j :: items)) frames := by
  induction items generalizing j done next with
  | nil =>
    rw [List.map_singleton, List.intercalate_singleton, run_append,
      h j List.mem_cons_self _ _ hnext, reverse_append_cons, List.append_nil]
    exact run_singleton ..
  | cons k items ih =>
    have hitems : ∀ l ∈ k :: items, Accepted l := fun l hl => h l (List.mem_cons_of_mem j hl)
    have hrest := ih hitems (j :: done) (.inl rfl)
    rw [List.map_cons] at hrest
    rw [List.map_cons, List.map_cons, List.intercalate_cons_cons, List.append_assoc,
      List.append_assoc, run_append, h j List.mem_cons_self _ _ hnext, reverse_append_cons]
    exact hrest

theorem run_member {m : Option String × Json} (h : Accepted m.2)
    (done : List (Option String × Json)) (frames : List Frame) {next : Next}
    (hnext : next = .name ∨ next = .firstName) :
    run (.object done none :: frames, next) (.text m.1 :: .colon :: m.2.pieces) =
      some (.object (m :: done) none :: frames, .separator) := by
  have hvalue := h (.object done (some m.1) :: frames) .value (.inl rfl)
  rcases hnext with rfl | rfl
  · exact hvalue
  · exact hvalue

theorem run_members {m : Option String × Json} {members : List (Option String × Json)}
    (h : ∀ n ∈ m :: members, Accepted n.2) (done : List (Option String × Json))
    (frames : List Frame) {next : Next} (hnext : next = .name ∨ next = .firstName) :
    run (.object done none :: frames, next)
        ([.comma].intercalate
          ((m :: members).map fun m => .text m.1 :: .colon :: m.2.pieces) ++ [.closeObject]) =
      accept (.object (done.reverse ++ m :: members)) frames := by
  induction members generalizing m done next with
  | nil =>
    rw [List.map_singleton, List.intercalate_singleton, run_append,
      run_member (h m List.mem_cons_self) done frames hnext, reverse_append_cons, List.append_nil]
    exact run_singleton ..
  | cons n members ih =>
    have hmembers : ∀ l ∈ n :: members, Accepted l.2 := fun l hl =>
      h l (List.mem_cons_of_mem m hl)
    have hrest := ih hmembers (m :: done) (.inl rfl)
    rw [List.map_cons] at hrest
    rw [List.map_cons, List.map_cons, List.intercalate_cons_cons, List.append_assoc,
      List.append_assoc, run_append, run_member (h m List.mem_cons_self) done frames hnext,
      reverse_append_cons]
    exact hrest

theorem accepted_of_step {j : Json} {x : Lexeme} (hpieces : j.pieces = [x])
    (h : ∀ frames, step frames .value x = accept j frames ∧
      step frames .firstItem x = accept j frames) : Accepted j := by
  rintro frames next (rfl | rfl)
  · rw [hpieces, run_singleton, (h frames).1]
  · rw [hpieces, run_singleton, (h frames).2]

/-- The machine puts the lexemes of a document together to the document. -/
theorem Proper.accepted {j : Json} (h : Proper j) : Accepted j := by
  induction h with
  | null => exact accepted_of_step rfl fun _ => ⟨rfl, rfl⟩
  | bool b => exact accepted_of_step rfl fun _ => ⟨rfl, rfl⟩
  | number h => exact accepted_of_step rfl fun _ => ⟨rfl, rfl⟩
  | text s => exact accepted_of_step rfl fun _ => ⟨rfl, rfl⟩
  | @array items _ ih =>
    have hopen : ∀ frames, run (.array [] :: frames, .firstItem)
        ([.comma].intercalate (items.map pieces) ++ [.closeArray]) =
          accept (.array items) frames := by
      intro frames
      cases items with
      | nil => exact run_singleton ..
      | cons j items => exact run_items ih [] frames (.inr rfl)
    rw [← itemPieces_eq] at hopen
    rintro frames next (rfl | rfl)
    · exact hopen frames
    · exact hopen frames
  | @object members hnames _ ih =>
    have hopen : ∀ frames, run (.object [] none :: frames, .firstName)
        ([.comma].intercalate (members.map fun m => .text m.1 :: .colon :: m.2.pieces) ++
          [.closeObject]) = accept (.object members) frames := by
      intro frames
      cases members with
      | nil => exact run_singleton ..
      | cons m members => exact run_members ih [] frames (.inr rfl)
    rw [← memberPieces_eq] at hopen
    rintro frames next (rfl | rfl)
    · exact hopen frames
    · exact hopen frames

/-- The reader gives the document back whose text it is given. -/
theorem ofString?_compact {j : Json} (h : Proper j) : ofString? j.compact = some j := by
  have hcut := h.cuts [] [] nofun
  have hrun := h.accepted [] .value (.inl rfl)
  rw [List.append_nil, List.append_nil, lexemes, List.reverse_reverse] at hcut
  rw [ofString?, parse?, hcut]
  exact assemble_of_run hrun

end Offside.Json
