import Offside.Text.Cutting

/-!
# Lines of appended texts

A text that ends with its last line is cut by itself, whatever follows it, and it has as many lines
as line feeds.
-/

namespace Offside

set_option autoImplicit false

namespace Text

/-- A text without a line, or whose last line has its terminator. -/
def Ended (a : String) : Prop := a = "" ∨ ∃ u, a = u ++ "\n"

theorem cutLines_feed (done : Array String) (read rest : List Char) :
    cutLines done read ('\n' :: rest) = cutLines (done.push (closeLine read)) [] rest := by
  rw [cutLines]

theorem cutLines_cons {c : Char} (h : c ≠ '\n') (done : Array String) (read rest : List Char) :
    cutLines done read (c :: rest) = cutLines done (c :: read) rest := by
  rw [cutLines]
  exact h

theorem closeLine_of_head? {read : List Char} (h : read.head? ≠ some '\r') :
    closeLine read = String.ofList read.reverse := by
  rw [closeLine]
  rintro before rfl
  exact h rfl

theorem toList_cutLines (done : Array String) (read cs : List Char) :
    (cutLines done read cs).toList = done.toList ++ (cutLines #[] read cs).toList := by
  induction cs generalizing done read with
  | nil =>
    rw [cutLines, cutLines]
    split <;> simp
  | cons c rest ih =>
    by_cases hc : c = '\n'
    · subst hc
      rw [cutLines_feed, cutLines_feed, ih, ih (#[].push _)]
      simp
    · rw [cutLines_cons hc, cutLines_cons hc, ih]

/-- At a line feed the cutting starts anew. -/
theorem cutLines_append (done : Array String) (read u v : List Char) :
    cutLines done read (u ++ '\n' :: v) = cutLines (cutLines done read (u ++ ['\n'])) [] v := by
  induction u generalizing done read with
  | nil => rw [List.nil_append, List.nil_append, cutLines_feed, cutLines_feed, cutLines.eq_1]; rfl
  | cons c rest ih =>
    rw [List.cons_append, List.cons_append]
    by_cases hc : c = '\n'
    · subst hc
      rw [cutLines_feed, cutLines_feed, ih]
    · rw [cutLines_cons hc, cutLines_cons hc, ih]

theorem size_cutLines (done : Array String) (read u : List Char) :
    (cutLines done read (u ++ ['\n'])).size = done.size + (u ++ ['\n']).count '\n' := by
  induction u generalizing done read with
  | nil =>
    rw [List.nil_append, cutLines_feed, cutLines]
    simp
  | cons c rest ih =>
    rw [List.cons_append]
    by_cases hc : c = '\n'
    · subst hc
      rw [cutLines_feed, ih, Array.size_push, List.count_cons_self]
      omega
    · rw [cutLines_cons hc, ih, List.count_cons_of_ne hc]

variable {a : String}

theorem lines_append (h : Ended a) (b : String) : lines (a ++ b) = lines a ++ lines b := by
  rcases h with rfl | ⟨u, rfl⟩
  · rw [String.empty_append]
    rfl
  · have hfeed : "\n".toList = ['\n'] := rfl
    rw [lines, lines, lines, String.toList_append, String.toList_append, hfeed, List.append_assoc,
      List.singleton_append, cutLines_append, toList_cutLines]

theorem length_lines (h : Ended a) : (lines a).length = a.toList.count '\n' := by
  rcases h with rfl | ⟨u, rfl⟩
  · rfl
  · have hfeed : "\n".toList = ['\n'] := rfl
    rw [lines, String.toList_append, hfeed, Array.length_toList, size_cutLines]
    simp

end Text

end Offside
