import Offside.Position

/-!
# The source behind the lines

The lines of a source are its text cut at the line feeds. A position stands for an offset into that
text, and a span for the part between two offsets.
-/

namespace Offside.Source

set_option autoImplicit false

def joined (lines : List String) : List Char := ['\n'].intercalate (lines.map String.toList)

def terminated (lines : List String) : List Char := lines.flatMap fun l => l.toList ++ ['\n']

/-- How many characters stand before a position. -/
def offset (lines : List String) (p : Position) : Nat :=
  (terminated (lines.take (p.line.toNat - 1))).length + p.column.toNat

def slice (lines : List String) (s : Span) : String :=
  String.ofList (((joined lines).drop (offset lines s.start)).take
    (offset lines s.stop - offset lines s.start))

/-- A position before, between or behind the characters of one of the lines. -/
def IsPlace (lines : List String) (p : Position) : Prop :=
  ∃ line column text, p = .of (line + 1) column ∧ lines[line]? = some text ∧ column ≤ text.length

/-- What follows a position when every line has its line feed. -/
def after (lines : List String) (p : Position) : List Char :=
  (terminated lines).drop (offset lines p)

theorem terminated_append (lines more : List String) :
    terminated (lines ++ more) = terminated lines ++ terminated more := by
  simp [terminated]

theorem terminated_cons (l : String) (lines : List String) :
    terminated (l :: lines) = l.toList ++ '\n' :: terminated lines := by
  simp [terminated]

/-- Only the line feed behind the last line is not part of the source. -/
theorem terminated_eq_joined {lines : List String} (h : lines ≠ []) :
    terminated lines = joined lines ++ ['\n'] := by
  induction lines with
  | nil => exact absurd rfl h
  | cons l rest ih =>
    cases rest with
    | nil => simp [terminated, joined]
    | cons m rest =>
      rw [terminated_cons, ih (by simp)]
      simp [joined, List.intercalate_cons_cons]

section Cursor

variable {done ahead : List String} {text : String} {before rest : List Char}

theorem offset_of (done ahead : List String) (column : Nat) :
    offset (done ++ ahead) (.of (done.length + 1) column) = (terminated done).length + column := by
  simp [offset]

theorem isPlace_of (h : text.toList = before ++ rest) :
    IsPlace (done ++ text :: ahead) (.of (done.length + 1) before.length) := by
  refine ⟨done.length, before.length, text, rfl, by simp, ?_⟩
  rw [← String.length_toList, h]
  simp

theorem after_of (h : text.toList = before ++ rest) :
    after (done ++ text :: ahead) (.of (done.length + 1) before.length) =
      rest ++ '\n' :: terminated ahead := by
  rw [after, offset_of, terminated_append, terminated_cons, h, ← List.drop_drop]
  simp

end Cursor

def HasChar (lines : List String) (p : Position) (c : Char) : Prop :=
  ∃ line column text, p = .of (line + 1) column ∧ lines[line]? = some text ∧
    text.toList[column]? = some c

variable {lines : List String} {p q : Position}

theorem hasChar_between {done ahead : List String} {text : String} {before rest : List Char}
    {c : Char} (ht : text.toList = before ++ rest) (h : HasChar (done ++ text :: ahead) p c)
    (hle : .of (done.length + 1) before.length ≤ p) (hlt : p < .of (done.length + 2) 0) :
    ∃ i, p = .of (done.length + 1) (before.length + i) ∧ rest[i]? = some c := by
  obtain ⟨line, column, found, rfl, hl, hc⟩ := h
  rw [Position.of_le_of] at hle
  rw [Position.of_lt_of] at hlt
  obtain rfl : line = done.length := by omega
  obtain ⟨i, rfl⟩ := Nat.exists_eq_add_of_le (show before.length ≤ column by omega)
  obtain rfl : text = found := by simpa using hl
  rw [ht, List.getElem?_append_right (Nat.le_add_right ..), Nat.add_sub_cancel_left] at hc
  exact ⟨i, rfl, hc⟩

theorem IsPlace.split (h : IsPlace lines p) :
    ∃ done text ahead before rest, lines = done ++ text :: ahead ∧ text.toList = before ++ rest ∧
      p = .of (done.length + 1) before.length := by
  obtain ⟨line, column, text, rfl, hl, hc⟩ := h
  obtain ⟨hlt, rfl⟩ := List.getElem?_eq_some_iff.mp hl
  refine ⟨lines.take line, lines[line], lines.drop (line + 1), lines[line].toList.take column,
    lines[line].toList.drop column, by simp, by simp, ?_⟩
  have hlen : (lines.take line).length = line := by simp; omega
  rw [hlen, List.length_take, String.length_toList, Nat.min_eq_left hc]

theorem IsPlace.offset_le (h : IsPlace lines p) : offset lines p ≤ (joined lines).length := by
  obtain ⟨done, text, ahead, before, rest, rfl, ht, rfl⟩ := h.split
  have hne : done ++ text :: ahead ≠ [] := by simp
  have hj := congrArg List.length (terminated_eq_joined hne)
  rw [terminated_append, terminated_cons, ht] at hj
  simp only [List.length_append, List.length_cons, List.length_nil] at hj
  rw [offset_of]
  omega

theorem IsPlace.lines_ne_nil (h : IsPlace lines p) : lines ≠ [] := by
  rintro rfl
  obtain ⟨_, _, _, _, hl, _⟩ := h
  cases hl

theorem after_eq (h : IsPlace lines p) :
    after lines p = (joined lines).drop (offset lines p) ++ ['\n'] := by
  rw [after, terminated_eq_joined h.lines_ne_nil, List.drop_append_of_le_length h.offset_le]

theorem slice_eq {cs : List Char} (hp : IsPlace lines p) (hq : IsPlace lines q)
    (h : after lines p = cs ++ after lines q) : slice lines ⟨p, q⟩ = String.ofList cs := by
  rw [after_eq hp, after_eq hq, ← List.append_assoc] at h
  have hd : (joined lines).drop (offset lines p) = cs ++ (joined lines).drop (offset lines q) :=
    List.append_cancel_right h
  have hpl := hp.offset_le
  have hql := hq.offset_le
  have hlen := congrArg List.length hd
  rw [List.length_append, List.length_drop, List.length_drop] at hlen
  have hcs : offset lines q - offset lines p = cs.length := by omega
  simp only [slice]
  rw [hd, hcs, List.take_left']
  rfl

end Offside.Source
