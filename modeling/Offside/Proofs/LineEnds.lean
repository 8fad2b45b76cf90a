import Offside.Lexer.Tokenization
import Offside.Proofs.Lines

/-!
# What cutting a source loses

A source is its lines, each followed by its terminator; only the last line may have none. So the
tokens of a source without other carriage returns depend neither on how its lines are ended nor on
whether the last one is.
-/

namespace Offside

set_option autoImplicit false

namespace Text

theorem ended_iff {a : String} :
    Ended a ↔ a.toList = [] ∨ a.toList.getLast? = some '\n' := by
  constructor
  · rintro (rfl | ⟨u, rfl⟩)
    · exact .inl String.toList_empty
    · exact .inr (by simp)
  · rintro (hnil | hlast)
    · exact .inl (String.toList_eq_nil_iff.mp hnil)
    · obtain ⟨u, hu⟩ := List.getLast?_eq_some_iff.mp hlast
      refine .inr ⟨String.ofList u, ?_⟩
      apply String.toList_injective
      rw [hu, String.toList_append, String.toList_ofList]
      rfl

inductive Terminator where
  | feed
  | returnFeed

def Terminator.text : Terminator → String
  | feed => "\n"
  | returnFeed => "\r\n"

/-- A line with its terminator, to which a carriage return before the line feed belongs. -/
structure EndedLine where
  line : String
  terminator : Terminator
  feedless : '\n' ∉ line.toList
  returned : terminator = .feed → line.toList.getLast? ≠ some '\r'

def EndedLine.text (l : EndedLine) : String := l.line ++ l.terminator.text

theorem EndedLine.text_toList (l : EndedLine) : ∃ u, l.text.toList = u ++ ['\n'] ∧ '\n' ∉ u := by
  obtain ⟨line, terminator, hfeedless, -⟩ := l
  cases terminator with
  | feed =>
    refine ⟨line.toList, ?_, hfeedless⟩
    simp [EndedLine.text, Terminator.text]
  | returnFeed =>
    refine ⟨line.toList ++ ['\r'], ?_, ?_⟩
    · simp [EndedLine.text, Terminator.text]
    · rw [List.mem_append]
      rintro (hmem | hmem)
      · exact hfeedless hmem
      · cases List.mem_singleton.mp hmem

theorem exists_endedLine {read : List Char} (h : '\n' ∉ read) :
    ∃ l : EndedLine, l.line = closeLine read ∧ l.text = String.ofList (read.reverse ++ ['\n']) := by
  by_cases hreturn : read.head? = some '\r'
  · obtain ⟨before, rfl⟩ := List.head?_eq_some_iff.mp hreturn
    have hbefore : '\n' ∉ (String.ofList before.reverse).toList := by
      rw [String.toList_ofList, List.mem_reverse]
      exact fun hmem => h (List.mem_cons_of_mem _ hmem)
    refine ⟨⟨String.ofList before.reverse, .returnFeed, hbefore, nofun⟩, rfl, ?_⟩
    apply String.toList_injective
    simp [EndedLine.text, Terminator.text]
  · refine ⟨⟨String.ofList read.reverse, .feed, ?_, ?_⟩, ?_, ?_⟩
    · rwa [String.toList_ofList, List.mem_reverse]
    · intro _
      rwa [String.toList_ofList, List.getLast?_reverse]
    · exact (closeLine_of_head? hreturn).symm
    · apply String.toList_injective
      simp [EndedLine.text, Terminator.text]

/-- The text is made of ended lines and a rest that has no line feed. -/
structure CutInto (source : String) (ended : List EndedLine) (rest : String) : Prop where
  whole : source = String.join (ended.map EndedLine.text) ++ rest
  feedless : '\n' ∉ rest.toList

section CutInto

variable {source rest : String} {ended : List EndedLine}

theorem CutInto.cons (h : CutInto source ended rest) (l : EndedLine) :
    CutInto (l.text ++ source) (l :: ended) rest := by
  refine ⟨?_, h.feedless⟩
  rw [h.whole, List.map_cons, String.join_cons, String.append_assoc]

theorem exists_cutInto_of_read (cs : List Char) {read : List Char} (h : '\n' ∉ read) :
    ∃ ended rest, CutInto (String.ofList (read.reverse ++ cs)) ended rest ∧
      (cutLines #[] read cs).toList =
        ended.map EndedLine.line ++ if rest = "" then [] else [rest] := by
  -- the line read so far is the start of the first line there is
  induction cs generalizing read with
  | nil =>
    refine ⟨[], String.ofList read.reverse, ⟨?_, ?_⟩, ?_⟩
    · rw [List.append_nil]
      exact String.empty_append.symm
    · rwa [String.toList_ofList, List.mem_reverse]
    · rw [cutLines]
      cases read with
      | nil => rfl
      | cons c read =>
        have hne : ¬ (c :: read).isEmpty = true := Bool.false_ne_true
        rw [if_neg hne, if_neg (by simp)]
        rfl
  | cons c cs ih =>
    by_cases hc : c = '\n'
    · subst hc
      obtain ⟨ended, rest, hcut, hlines⟩ := ih List.not_mem_nil
      obtain ⟨l, hline, htext⟩ := exists_endedLine h
      refine ⟨l :: ended, rest, ?_, ?_⟩
      · rw [List.append_cons, String.ofList_append, ← htext]
        exact hcut.cons l
      · rw [cutLines_feed, toList_cutLines, hlines, ← hline]
        rfl
    · obtain ⟨ended, rest, hcut, hlines⟩ :=
        ih (List.not_mem_cons_of_ne_of_not_mem (Ne.symm hc) h)
      refine ⟨ended, rest, ?_, ?_⟩
      · rwa [List.reverse_cons, List.append_assoc] at hcut
      · rwa [cutLines_cons hc]

theorem exists_cutInto (source : String) : ∃ ended rest, CutInto source ended rest ∧
    lines source = ended.map EndedLine.line ++ if rest = "" then [] else [rest] := by
  have h := exists_cutInto_of_read source.toList List.not_mem_nil
  rwa [List.reverse_nil, List.nil_append, String.ofList_toList] at h

theorem CutInto.count (h : CutInto source ended rest) :
    source.toList.count '\n' = ended.length := by
  obtain ⟨rfl, hfeedless⟩ := h
  induction ended with
  | nil =>
    rw [List.map_nil, String.join_nil, String.empty_append]
    exact List.count_eq_zero.mpr hfeedless
  | cons l ended ih =>
    obtain ⟨u, hu, hmem⟩ := l.text_toList
    rw [List.map_cons, String.join_cons, String.append_assoc, String.toList_append,
      List.count_append, ih, hu, List.count_append, List.count_eq_zero.mpr hmem, List.length_cons]
    exact Nat.add_comm _ _

theorem ended_join (ended : List EndedLine) : Ended (String.join (ended.map EndedLine.text)) := by
  rcases List.eq_nil_or_concat ended with rfl | ⟨before, l, rfl⟩
  · exact .inl rfl
  · obtain ⟨u, hu, -⟩ := l.text_toList
    refine ended_iff.mpr (.inr ?_)
    rw [List.concat_eq_append, List.map_append, String.join_append, List.map_singleton,
      String.join_cons, String.join_nil, String.append_empty, String.toList_append, hu]
    simp

theorem CutInto.rest_eq_empty_iff (h : CutInto source ended rest) :
    rest = "" ↔ Ended source := by
  obtain ⟨rfl, hfeedless⟩ := h
  constructor
  · rintro rfl
    rw [String.append_empty]
    exact ended_join ended
  · intro hended
    rw [ended_iff, String.toList_append] at hended
    rcases List.eq_nil_or_concat rest.toList with hnil | ⟨before, c, hrest⟩
    · exact String.toList_eq_nil_iff.mp hnil
    · -- the last character of the rest, which is no line feed, is that of the source
      have hc : c ∈ rest.toList := by simp [hrest]
      rw [hrest, List.concat_eq_append] at hended
      obtain rfl : c = '\n' := by simpa using hended
      exact absurd hc hfeedless

theorem mem_lines (h : CutInto source ended rest)
    (hlines : lines source = ended.map EndedLine.line ++ if rest = "" then [] else [rest]) :
    ∀ l ∈ lines source, '\n' ∉ l.toList := by
  intro l hl
  rw [hlines] at hl
  rcases List.mem_append.mp hl with hl | hl
  · obtain ⟨e, -, rfl⟩ := List.mem_map.mp hl
    exact e.feedless
  · split at hl
    · cases hl
    · cases List.mem_singleton.mp hl
      exact h.feedless

end CutInto

def withReturns (source : String) : String :=
  String.ofList (source.toList.flatMap fun c => if c = '\n' then ['\r', '\n'] else [c])

section Returnless

variable {read cs : List Char}

theorem head?_of_not_mem (h : '\r' ∉ read) : read.head? ≠ some '\r' :=
  fun hhead => h (List.mem_of_head? hhead)

theorem cutLines_withReturns (hread : '\r' ∉ read) (h : '\r' ∉ cs) (done : Array String) :
    cutLines done read (cs.flatMap fun c => if c = '\n' then ['\r', '\n'] else [c]) =
      cutLines done read cs := by
  induction cs generalizing done read with
  | nil => rfl
  | cons c cs ih =>
    rw [List.mem_cons, not_or] at h
    rw [List.flatMap_cons]
    by_cases hc : c = '\n'
    · subst hc
      have hreturn : closeLine ('\r' :: read) = closeLine read :=
        (closeLine_of_head? (head?_of_not_mem hread)).symm
      rw [if_pos rfl, List.cons_append, List.singleton_append, cutLines_cons (by decide),
        cutLines_feed, cutLines_feed, hreturn, ih List.not_mem_nil h.2]
    · rw [if_neg hc, List.singleton_append, cutLines_cons hc, cutLines_cons hc,
        ih (List.not_mem_cons_of_ne_of_not_mem h.1 hread) h.2]

/-- A line feed at the end of an open line closes that line and starts no other. -/
theorem cutLines_concat_feed (hread : '\r' ∉ read) (h : '\r' ∉ cs) (hopen : read ≠ [] ∨ cs ≠ [])
    (hlast : cs.getLast? ≠ some '\n') (done : Array String) :
    cutLines done read (cs ++ ['\n']) = cutLines done read cs := by
  induction cs generalizing done read with
  | nil =>
    have hne : ¬ read.isEmpty = true := by simpa using hopen
    rw [List.nil_append, cutLines_feed, closeLine_of_head? (head?_of_not_mem hread), cutLines,
      cutLines, if_neg hne]
    rfl
  | cons c cs ih =>
    rw [List.mem_cons, not_or] at h
    rw [List.cons_append]
    by_cases hc : c = '\n'
    · subst hc
      have hne : cs ≠ [] := by
        rintro rfl
        exact hlast rfl
      rw [List.getLast?_cons_of_ne_nil hne] at hlast
      rw [cutLines_feed, cutLines_feed, ih List.not_mem_nil h.2 (.inr hne) hlast]
    · have hlast' : cs.getLast? ≠ some '\n' := by
        intro hl
        cases cs with
        | nil => cases hl
        | cons d cs => exact hlast (by rwa [List.getLast?_cons_cons])
      rw [cutLines_cons hc, cutLines_cons hc, ih (List.not_mem_cons_of_ne_of_not_mem h.1 hread) h.2
        (.inl (List.cons_ne_nil c read)) hlast']

variable {source : String}

theorem lines_withReturns (h : '\r' ∉ source.toList) :
    lines (withReturns source) = lines source := by
  rw [lines, withReturns, String.toList_ofList, cutLines_withReturns List.not_mem_nil h, lines]

theorem lines_concat_feed (h : '\r' ∉ source.toList) (hopen : ¬ Ended source) :
    lines (source ++ "\n") = lines source := by
  rw [ended_iff, not_or] at hopen
  obtain ⟨hne, hlast⟩ := hopen
  have hfeed : "\n".toList = ['\n'] := rfl
  rw [lines, String.toList_append, hfeed,
    cutLines_concat_feed List.not_mem_nil h (.inr hne) hlast, lines]

end Returnless

/-- A source is its lines, each with its terminator behind it, and none behind the last if the
source is not empty and does not end with a line feed. Where there are no carriage returns, other
terminators and one more at the end make no difference to the tokens. -/
theorem lines_lose_terminators (source : String) :
    (∀ l ∈ lines source, '\n' ∉ l.toList) ∧
      (Ended source → (lines source).length = source.toList.count '\n') ∧
      (¬ Ended source → (lines source).length = source.toList.count '\n' + 1) ∧
      (∃ (ended : List EndedLine) (rest : String),
        source = String.join (ended.map EndedLine.text) ++ rest ∧
          lines source = ended.map EndedLine.line ++ (if rest = "" then [] else [rest]) ∧
          (rest = "" ↔ Ended source)) ∧
      ('\r' ∉ source.toList → ∀ (t : Table) (policy : EndPolicy),
        t.tokenize policy (lines (withReturns source)) = t.tokenize policy (lines source) ∧
          (¬ Ended source →
            t.tokenize policy (lines (source ++ "\n")) = t.tokenize policy (lines source))) := by
  obtain ⟨ended, rest, hcut, hlines⟩ := exists_cutInto source
  have hrest := hcut.rest_eq_empty_iff
  refine ⟨mem_lines hcut hlines, ?_, ?_, ⟨ended, rest, hcut.whole, hlines, hrest⟩, ?_⟩
  · intro hended
    rw [hlines, if_pos (hrest.mpr hended), hcut.count, List.append_nil, List.length_map]
  · intro hopen
    rw [hlines, if_neg (mt hrest.mp hopen), hcut.count, List.length_append, List.length_map]
    rfl
  · intro hreturnless t policy
    refine ⟨by rw [lines_withReturns hreturnless], ?_⟩
    intro hopen
    rw [lines_concat_feed hreturnless hopen]

theorem lines_lose_terminators_open :
    let source := "if x:\n\n  y"
    ¬ Ended source ∧ '\r' ∉ source.toList ∧
      (lines source).length = source.toList.count '\n' + 1 ∧
      ∀ (t : Table) (policy : EndPolicy),
        t.tokenize policy (lines (withReturns source)) = t.tokenize policy (lines source) ∧
          t.tokenize policy (lines (source ++ "\n")) = t.tokenize policy (lines source) := by
  intro source
  have hopen : ¬ Ended source := by
    rw [ended_iff]
    decide
  have hreturnless : '\r' ∉ source.toList := by decide
  obtain ⟨-, -, hlength, -, htokens⟩ := lines_lose_terminators source
  refine ⟨hopen, hreturnless, hlength hopen, ?_⟩
  intro t policy
  exact ⟨(htokens hreturnless t policy).1, (htokens hreturnless t policy).2 hopen⟩

/-- Only the carriage return directly before a line feed belongs to the terminator. -/
example : lines "a\r\n\rb\r\r\n\nc\r" = ["a", "\rb\r", "", "c\r"] := by decide +kernel

end Text

end Offside
