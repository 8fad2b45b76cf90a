import Offside.Journal.Event

/-!
# What is left of a long message

A message that is too long for a log is cut at the last boundary within the bytes there is room for.
A character has four bytes at most, so the search for that boundary takes at most three steps back.
-/

namespace Offside

set_option autoImplicit false

namespace Text

/-- A start of a text that takes no more than `limit` bytes; all others are starts of this one. -/
structure IsLongestStart (limit : Nat) (text start : String) : Prop where
  starts : ∃ rest, text = start ++ rest
  fits : start.utf8ByteSize ≤ limit
  longest : ∀ q rest, text = q ++ rest → q.utf8ByteSize ≤ limit → ∃ r, start = q ++ r

variable {limit : Nat} {text p q rest more : String}

theorem eq_append_ofList {cs : List Char} (h : text.toList = p.toList ++ cs) :
    text = p ++ String.ofList cs := by
  apply String.toList_injective
  rw [h, String.toList_append, String.toList_ofList]

theorem eq_append_of_utf8ByteSize_le (h : p ++ rest = q ++ more)
    (hle : q.utf8ByteSize ≤ p.utf8ByteSize) : ∃ r, p = q ++ r := by
  have hlist : p.toList ++ rest.toList = q.toList ++ more.toList := by
    rw [← String.toList_append, h, String.toList_append]
  rcases List.append_eq_append_iff.mp hlist with ⟨r, hr, -⟩ | ⟨r, hr, -⟩
  · -- the other way round `q` is the longer text, but not in bytes
    have hq : q = p ++ String.ofList r := eq_append_ofList hr
    rw [hq, String.utf8ByteSize_append] at hle
    have hempty : String.ofList r = "" := String.utf8ByteSize_eq_zero_iff.mp (by omega)
    rw [hempty, String.append_empty] at hq
    exact ⟨"", by rw [hq, String.append_empty]⟩
  · exact ⟨String.ofList r, eq_append_ofList hr⟩

theorem isLongestStart_of_boundary (hle : p.utf8ByteSize ≤ limit)
    (hnone : ∀ k, p.utf8ByteSize < k → k ≤ limit → isBoundary (p ++ rest) k = false) :
    IsLongestStart limit (p ++ rest) p := by
  refine ⟨⟨rest, rfl⟩, hle, ?_⟩
  intro q more hq hfits
  apply eq_append_of_utf8ByteSize_le hq
  refine Nat.le_of_not_lt fun hlt => ?_
  have hboundary := hnone q.utf8ByteSize hlt hfits
  rw [hq, isBoundary_append] at hboundary
  cases hboundary

/-- The next boundary is behind the next character. -/
theorem le_add_three (hlong : limit < (p ++ rest).utf8ByteSize)
    (hnone : ∀ k, p.utf8ByteSize < k → k ≤ limit → isBoundary (p ++ rest) k = false) :
    limit ≤ p.utf8ByteSize + 3 := by
  refine Nat.le_of_not_lt fun hlt => ?_
  rw [String.utf8ByteSize_append] at hlong
  cases hrest : rest.toList with
  | nil =>
    obtain rfl := String.toList_eq_nil_iff.mp hrest
    rw [String.utf8ByteSize_empty] at hlong
    omega
  | cons c cs =>
    have hsplit : p ++ rest = (p ++ String.singleton c) ++ String.ofList cs :=
      eq_append_ofList (by simp [hrest])
    have hsize : (p ++ String.singleton c).utf8ByteSize = p.utf8ByteSize + c.utf8Size := by
      rw [String.utf8ByteSize_append, String.utf8ByteSize_singleton]
    have hpos := c.utf8Size_pos
    have hfour := c.utf8Size_le_four
    have hnext := hnone (p ++ String.singleton c).utf8ByteSize (by omega) (by omega)
    rw [hsplit, isBoundary_append] at hnext
    cases hnext

end Text

open Text

variable {limit : Nat} {message : String}

theorem clipMessage_eq {clipped : String} (h : clipMessage? limit message = some clipped) :
    clipMessage limit message = clipped := by
  rw [clipMessage, Option.get_of_eq_some _ h]

/-- A message within the limit is logged as it is, and else its longest start within the limit with
three dots behind it. To find its end takes three steps at most, each one byte back; they do not
pass the start of the message, and the bytes before the end are whole characters. -/
theorem clipMessage_longest (limit : Nat) (message : String) :
    (message.utf8ByteSize ≤ limit → clipMessage limit message = message) ∧
      (limit < message.utf8ByteSize → ∃ start steps,
        IsLongestStart limit message start ∧ clipMessage limit message = start ++ "..." ∧
          boundaryBefore? message limit = some start.utf8ByteSize ∧
          start.utf8ByteSize + steps = limit ∧ steps ≤ 3 ∧
          firstBytes? message start.utf8ByteSize = some start) ∧
      ∀ limits time level code details, (Event.of limits time level code message details).message =
        clipMessage limits.maxLogMessageLength message := by
  refine ⟨fun hshort => clipMessage_eq (clipMessage?_of_le hshort), ?_, fun _ _ _ _ _ => rfl⟩
  intro hlong
  obtain ⟨n, hn, hle, hboundary, hnone⟩ := boundaryBefore?_eq_some message limit
  obtain ⟨start, rest, rfl, rfl⟩ := isBoundary_iff.mp hboundary
  have hthree := le_add_three hlong hnone
  refine ⟨start, limit - start.utf8ByteSize, isLongestStart_of_boundary hle hnone, ?_, hn, ?_, ?_,
    ?_⟩
  · exact clipMessage_eq (clipMessage?_of_boundary hlong hn)
  · omega
  · omega
  · exact firstBytes?_append start rest

/-- The limit lies before the last byte of a character of four bytes. -/
theorem clipMessage_longest_within :
    let message := "aé€" ++ "𝄞𝄞"
    9 < message.utf8ByteSize ∧ boundaryBefore? message 9 = some 6 ∧
      IsLongestStart 9 message "aé€" ∧ clipMessage 9 message = "aé€" ++ "..." := by
  intro message
  have hlong : 9 < message.utf8ByteSize := by decide
  have hplace : boundaryBefore? message 9 = some 6 := by decide +kernel
  obtain ⟨start, steps, hlongest, hclip, hfound, -, -, hbytes⟩ :=
    (clipMessage_longest 9 message).2.1 hlong
  have hsix : start.utf8ByteSize = 6 := Option.some.inj (hfound.symm.trans hplace)
  have hfirst : firstBytes? message 6 = some "aé€" := firstBytes?_append "aé€" "𝄞𝄞"
  rw [hsix, hfirst] at hbytes
  obtain rfl := Option.some.inj hbytes
  exact ⟨hlong, hplace, hlongest, hclip⟩

end Offside
