import Mathlib.Data.List.DropRight
import Offside.Text.Numeral
import Offside.Token.Stream

/-!
# Reading a stream step by step

Whatever is asked of a stream, in whatever order: its tokens stay as they are, what `next` has given
since the cursor was last put back and what remains make up the whole stream, and a token is looked
up in the same way wherever the cursor stands.
-/

namespace Offside

set_option autoImplicit false

theorem Text.signed64_of_le {n : Nat} (h : (n : Int) ≤ int64Max) : signed64 n = n := by
  unfold int64Max at h
  unfold signed64 size64
  apply Int.bmod_eq_of_le_mul_two
  · omega
  · omega

namespace TokenStream

inductive Request where
  | next
  | reset
  | look (i : Nat)
  | lookAt (i : Int)
  | get (i : Nat)
  | remaining
  /-- The three numbers are words of 64 bits. -/
  | context (i before after : Nat)
deriving DecidableEq

def Request.isRandom : Request → Bool
  | next | reset | remaining => false
  | look _ | lookAt _ | get _ | context .. => true

inductive Answer where
  | done
  | token (t : Token)
  | exhausted (e : Exhausted)
  | found (t : Option Token)
  | tokens (ts : List Token)
deriving DecidableEq

def respond (s : TokenStream) : Request → Answer × TokenStream
  | .next =>
    match s.next with
    | .ok (t, s') => (.token t, s')
    | .error e => (.exhausted e, s)
  | .reset => (.done, s.reset)
  | .look i => (.token (s.look i), s)
  | .lookAt i => (.token (s.lookAt i), s)
  | .get i => (.found (s.get? i), s)
  | .remaining => (.tokens s.remaining, s)
  | .context i before after =>
    (.tokens (s.context (Text.signed64 i) (Text.signed64 before) (Text.signed64 after)), s)

/-- A stream with all that was asked of it and what it answered. -/
structure Session where
  stream : TokenStream
  log : List (Request × Answer)

namespace Session

def ofTokens (tokens : Array Token) : Session := ⟨.ofArray tokens, []⟩

def ask (c : Session) (r : Request) : Session :=
  ⟨(c.stream.respond r).2, c.log ++ [(r, (c.stream.respond r).1)]⟩

def askAll (c : Session) (rs : List Request) : Session := rs.foldl ask c

end Session

def handed? : Request × Answer → Option Token
  | (.next, .token t) => some t
  | _ => none

/-- The tokens handed out since the cursor was last put back. -/
def handed (log : List (Request × Answer)) : List Token :=
  (log.rtakeWhile fun e => e.1 ≠ .reset).filterMap handed?

theorem handed_reset (log : List (Request × Answer)) (a : Answer) :
    handed (log ++ [(.reset, a)]) = [] := by
  rw [handed, List.rtakeWhile_concat]
  rfl

theorem handed_concat (log : List (Request × Answer)) {r : Request} (hr : r ≠ .reset) (a : Answer) :
    handed (log ++ [(r, a)]) = handed log ++ (handed? (r, a)).toList := by
  have hkeep : decide (r ≠ .reset) = true := decide_eq_true hr
  rw [handed, List.rtakeWhile_concat, if_pos hkeep, List.filterMap_append, handed]
  cases h : handed? (r, a) with
  | none => rw [List.filterMap_cons_none h, List.filterMap_nil, Option.toList_none]
  | some t => rw [List.filterMap_cons_some h, List.filterMap_nil, Option.toList_some]

variable {s : TokenStream} {tokens : Array Token} {c : Session}

theorem next_cases (s : TokenStream) :
    (∃ t, s.tokens[s.cursor]? = some t ∧
      s.respond .next = (.token t, { s with cursor := s.cursor + 1 })) ∨
    (s.tokens[s.cursor]? = none ∧ s.respond .next = (.exhausted ⟨s.size⟩, s)) := by
  unfold respond next
  cases h : s.tokens[s.cursor]? with
  | some t => exact .inl ⟨t, rfl, rfl⟩
  | none => exact .inr ⟨rfl, rfl⟩

theorem respond_of_isRandom {r : Request} (h : r.isRandom = true) (cursor : Nat) :
    s.respond r = (((⟨s.tokens, cursor⟩ : TokenStream).respond r).1, s) := by
  cases r with
  | next => cases h
  | reset => cases h
  | remaining => cases h
  | look i => rfl
  | lookAt i => cases i <;> rfl
  | get i => rfl
  | context i before after =>
    have hlook (p : Int) : s.lookAt p = (⟨s.tokens, cursor⟩ : TokenStream).lookAt p := by
      cases p <;> rfl
    simp only [respond, context, hlook]

theorem handed?_of_isRandom {r : Request} (h : r.isRandom = true) (a : Answer) :
    handed? (r, a) = none := by
  cases r with
  | next => cases h
  | _ => rfl

/-- What is handed out are the tokens before the cursor. -/
structure Session.Consistent (tokens : Array Token) (c : Session) : Prop where
  same : c.stream.tokens = tokens
  within : c.stream.cursor ≤ tokens.size
  behind : handed c.log = tokens.toList.take c.stream.cursor

theorem Session.consistent_ofTokens (tokens : Array Token) : (ofTokens tokens).Consistent tokens :=
  ⟨rfl, Nat.zero_le _, rfl⟩

theorem Session.Consistent.next (h : c.Consistent tokens) : (c.ask .next).Consistent tokens := by
  obtain ⟨htokens, hcursor, hhanded⟩ := h
  unfold ask
  rcases next_cases c.stream with ⟨t, ht, hr⟩ | ⟨-, hr⟩
  · rw [htokens] at ht
    have hlt : c.stream.cursor < tokens.size := (Array.getElem?_eq_some_iff.mp ht).1
    rw [← Array.getElem?_toList] at ht
    rw [hr]
    refine ⟨htokens, hlt, ?_⟩
    rw [handed_concat (r := .next) _ nofun, hhanded, List.take_add_one, ht]
    rfl
  · rw [hr]
    refine ⟨htokens, hcursor, ?_⟩
    rw [handed_concat (r := .next) _ nofun, hhanded]
    exact List.append_nil _

theorem Session.Consistent.ask (h : c.Consistent tokens) (r : Request) :
    (c.ask r).Consistent tokens := by
  cases hr : r.isRandom with
  | true =>
    have hne : r ≠ .reset := by
      rintro rfl
      cases hr
    unfold Session.ask
    rw [respond_of_isRandom hr 0]
    refine ⟨h.same, h.within, ?_⟩
    rw [handed_concat _ hne, handed?_of_isRandom hr, h.behind]
    exact List.append_nil _
  | false =>
    cases r with
    | next => exact h.next
    | reset => exact ⟨h.same, Nat.zero_le _, handed_reset ..⟩
    | remaining =>
      refine ⟨h.same, h.within, ?_⟩
      rw [Session.ask, handed_concat (r := .remaining) _ nofun, h.behind]
      exact List.append_nil _
    | look i => cases hr
    | lookAt i => cases hr
    | get i => cases hr
    | context i before after => cases hr

theorem Session.Consistent.askAll (h : c.Consistent tokens) (rs : List Request) :
    (c.askAll rs).Consistent tokens := by
  induction rs generalizing c with
  | nil => exact h
  | cons r rs ih => exact ih (h.ask r)

theorem remaining_eq_cons {t : Token} {rest : List Token} (h : s.remaining = t :: rest) :
    s.respond .next = (.token t, { s with cursor := s.cursor + 1 }) ∧
      TokenStream.remaining { s with cursor := s.cursor + 1 } = rest := by
  have hget : s.tokens[s.cursor]? = some t := by
    rw [← Array.getElem?_toList, ← List.head?_drop]
    exact congrArg List.head? h
  constructor
  · rcases next_cases s with ⟨u, hu, hr⟩ | ⟨hnone, -⟩
    · rw [hget] at hu
      cases hu
      exact hr
    · rw [hget] at hnone
      cases hnone
  · rw [remaining, ← List.tail_drop]
    exact congrArg List.tail h

theorem remaining_eq_nil (h : s.remaining = []) :
    s.respond .next = (.exhausted ⟨s.size⟩, s) := by
  have hle : s.tokens.size ≤ s.cursor := List.drop_eq_nil_iff.mp h
  rcases next_cases s with ⟨t, ht, -⟩ | ⟨-, hr⟩
  · have hlt := (Array.getElem?_eq_some_iff.mp ht).1
    omega
  · exact hr

theorem lookAt_place (s : TokenStream) (i before k : Nat) :
    s.lookAt (i - before + k) =
      if h : before ≤ i + k ∧ i + k - before < s.tokens.size then s.tokens[i + k - before]
      else .missing := by
  by_cases hbefore : before ≤ i + k
  · have hplace : (i : Int) - before + k = ((i + k - before : Nat) : Int) := by omega
    rw [hplace]
    change s.look (i + k - before) = _
    unfold look get?
    by_cases hlt : i + k - before < s.tokens.size
    · rw [dif_pos ⟨hbefore, hlt⟩, Array.getElem?_eq_getElem hlt]
      rfl
    · rw [dif_neg (fun h => hlt h.2), Array.getElem?_eq_none (Nat.le_of_not_lt hlt)]
      rfl
  · obtain ⟨n, hn⟩ := Int.eq_negSucc_of_lt_zero (show (i : Int) - before + k < 0 by omega)
    rw [hn, dif_neg (fun h => hbefore h.1)]
    rfl

theorem context_window (s : TokenStream) (i before after : Nat) :
    (s.context i before after).length = before + 1 + after ∧
      ∀ k, k < before + 1 + after →
        (s.context i before after)[k]? = some (s.lookAt (i - before + k)) := by
  have hlength : ((before : Int) + 1 + after).toNat = before + 1 + after := by omega
  unfold context
  rw [hlength]
  constructor
  · rw [List.length_map, List.length_range]
  · intro k hk
    rw [List.getElem?_map, List.getElem?_range hk]
    rfl

/-- After any requests a stream has its tokens, the cursor is one of its places or its end, and what
was handed out since the cursor was put back stands before what remains. There is no next token if
and only if nothing remains; then the stream stays as it is. The other tokens are found wherever the
cursor stands, and a window is filled up with `Token.missing` at both ends. -/
theorem requests_consistent (tokens : Array Token) (requests : List Request) :
    let c := (Session.ofTokens tokens).askAll requests
    let s := c.stream
    s.tokens = tokens ∧ s.cursor ≤ s.size ∧ s.cursor + s.remainingCount = s.size ∧
      handed c.log ++ s.remaining = tokens.toList ∧
      (s.remaining = [] → s.respond .next = (.exhausted ⟨tokens.size⟩, s)) ∧
      (∀ t rest, s.remaining = t :: rest →
        ∃ s', s.respond .next = (.token t, s') ∧ s'.remaining = rest) ∧
      (∀ r cursor, r.isRandom = true →
        s.respond r = (((⟨tokens, cursor⟩ : TokenStream).respond r).1, s)) ∧
      ∀ i before after : Nat, i + after ≤ Text.int64Max → before ≤ Text.int64Max →
        ∃ window, s.respond (.context i before after) = (.tokens window, s) ∧
          window.length = before + 1 + after ∧
          ∀ k, k < before + 1 + after → window[k]? = some
            (if h : before ≤ i + k ∧ i + k - before < tokens.size then tokens[i + k - before]
            else .missing) := by
  intro c s
  obtain ⟨htokens, hcursor, hhanded⟩ := (Session.consistent_ofTokens tokens).askAll requests
  change s.tokens = tokens at htokens
  change s.cursor ≤ tokens.size at hcursor
  change handed c.log = tokens.toList.take s.cursor at hhanded
  clear_value s c
  subst htokens
  refine ⟨rfl, hcursor, Nat.add_sub_of_le hcursor, ?_, remaining_eq_nil, ?_, ?_, ?_⟩
  · rw [hhanded, remaining, List.take_append_drop]
  · intro t rest h
    exact ⟨_, remaining_eq_cons h⟩
  · intro r cursor hr
    exact respond_of_isRandom hr cursor
  · intro i before after hafter hbefore
    obtain ⟨hlength, hwindow⟩ := s.context_window i before after
    refine ⟨s.context i before after, ?_, hlength, ?_⟩
    · rw [respond, Text.signed64_of_le (by omega), Text.signed64_of_le hbefore,
        Text.signed64_of_le (by omega)]
    · intro k hk
      rw [hwindow k hk, lookAt_place]

/-- The stream was read to its end and once more, and then from the start again. -/
theorem requests_consistent_reset :
    let x : Token := ⟨.name, "x", .of 1 0, .of 1 1⟩
    let y : Token := ⟨.name, "y", .of 3 0, .of 3 1⟩
    let c := (Session.ofTokens #[x, y]).askAll
      [.next, .look 7, .next, .next, .remaining, .reset, .get 1, .next, .context 0 1 2]
    handed c.log ++ c.stream.remaining = [x, y] ∧ c.stream.remaining = [y] ∧
      (∃ s', c.stream.respond .next = (.token y, s') ∧ s'.remaining = []) ∧
      c.stream.respond (.look 0) = (.token x, c.stream) ∧
      ∃ window, c.stream.respond (.context 0 1 2) = (.tokens window, c.stream) ∧
        window.length = 4 ∧ window[0]? = some .missing ∧ window[2]? = some y := by
  intro x y c
  obtain ⟨-, -, -, hall, -, hnext, hrandom, hwindow⟩ := requests_consistent #[x, y]
    [.next, .look 7, .next, .next, .remaining, .reset, .get 1, .next, .context 0 1 2]
  obtain ⟨window, hw, hlength, hk⟩ := hwindow 0 1 2 (by decide) (by decide)
  exact ⟨hall, rfl, hnext y [] rfl, hrandom (.look 0) 0 rfl, window, hw, hlength,
    hk 0 (by decide), hk 2 (by decide)⟩

end TokenStream

end Offside
