import Offside.Proofs.Reports

/-!
# The times of events

The events of a run are numbered as they are made, and each bears the time that the clock gives for
its number. So a log is in the order of time wherever the clock is.
-/

namespace Offside

set_option autoImplicit false

namespace Event

/-- Each event bears the time of its number. -/
def Timed (clock : Nat → String) (es : List Event) : Prop :=
  es.map (·.time) = (List.range es.length).map clock

variable {clock : Nat → String} {es : List Event} {e : Event}

theorem timed_nil : Timed clock [] := rfl

theorem Timed.concat (h : Timed clock es) (he : e.time = clock es.length) :
    Timed clock (es ++ [e]) := by
  unfold Timed at h ⊢
  rw [List.map_append, h, List.length_append, List.length_singleton, List.range_succ,
    List.map_append, List.map_singleton, List.map_singleton, he]

/-- Whatever relation a clock keeps to, the events keep to. -/
theorem Timed.pairwise {R : String → String → Prop} (h : Timed clock es)
    (hclock : ∀ i j, i < j → R (clock i) (clock j)) : es.Pairwise fun a b => R a.time b.time := by
  have htimes : (es.map (·.time)).Pairwise R := by
    rw [h, List.pairwise_map]
    exact List.pairwise_lt_range.imp fun hlt => hclock _ _ hlt
  exact List.pairwise_map.mp htimes

end Event

section

variable (limits : Limits) (compiler : PatternCompiler) (clock : Nat → String)
  (rules : FileRules) (answers : FileAnswers) (elapsed path : String) (prefs : LexPrefs)
  (reference : ReferenceTokenizer)

theorem SourceFile.timed_process :
    Event.Timed clock (process limits clock rules answers elapsed path).1 := by
  have htwo (x y : Event) (hx : x.time = clock 0) (hy : y.time = clock 1) :
      Event.Timed clock [x, y] := (Event.timed_nil.concat hx).concat hy
  obtain ⟨f, htold, h⟩ | ⟨_, ⟨f, htold, h⟩ | ⟨f, h⟩⟩ :=
    process_cases limits clock rules answers elapsed path
  · rw [h]
    exact htwo _ _ rfl htold.stamp
  · rw [h]
    exact (htwo _ _ rfl rfl).concat htold.stamp
  · rw [h]
    refine (htwo _ _ rfl rfl).concat ?_
    unfold success
    split <;> rfl

namespace Comparison

theorem time_ofTokenization (time : String) (t : Tokenization) :
    (ofTokenization limits time path t reference).1.time = time := by
  unfold ofTokenization
  cases reference.tokens path with
  | error e => rfl
  | ok theirs =>
    simp only [event]
    split <;> rfl

/-- The events of a comparison bear the times of the clock, one after the other. -/
theorem timed_ofFile :
    Event.Timed clock (ofFile limits compiler clock answers elapsed path prefs reference).1 := by
  have hprocess := SourceFile.timed_process limits clock {} answers elapsed path
  obtain ⟨e, -, h⟩ | ⟨f, -, ⟨e, h⟩ | ⟨t, h⟩⟩ :=
    ofFile_cases limits compiler clock answers elapsed path prefs reference
  · rw [h]
    exact hprocess
  · rw [h]
    exact hprocess.concat rfl
  · rw [h]
    exact hprocess.concat (time_ofTokenization ..)

/-- The log of a comparison keeps to the order of time, also where its memory is too small. -/
theorem log_chronological {R : String → String → Prop}
    (hclock : ∀ i j, i < j → R (clock i) (clock j)) (bound : Level) (capacity : Nat) :
    (log limits compiler clock answers elapsed path prefs reference bound capacity).Pairwise
      fun a b => R a.time b.time := by
  have htimed := timed_ofFile limits compiler clock answers elapsed path prefs reference
  rw [log, Journal.events_foldl_record, List.rtake]
  exact ((htimed.pairwise hclock).filter _).sublist (List.drop_sublist _ _)

end Comparison

end

end Offside
