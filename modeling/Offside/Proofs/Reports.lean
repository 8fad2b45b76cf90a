import Offside.Proofs.Delivery
import Offside.Proofs.OperatorSet
import Offside.Reference.Tokenizer

/-!
# Reports

Comparing a file with a reference ends in one of many ways, and the log tells which. What a log
tells is the level and the code of each event that is not for debugging: an error is reported once,
under its own code; a file that was read is reported once, whatever comes after it; and the verdict
is reported once.
-/

namespace Offside

set_option autoImplicit false

namespace Event

/-- What events tell: the level and the code of each that is not for debugging. -/
inductive Tell : List Event → List (Level × Code) → Prop
  | nil : Tell [] []
  | debug {es ms} (limits : Limits) (time message : String) (details : List (String × String))
      (h : Tell es ms) : Tell (Event.debug limits time message details :: es) ms
  | mark {e : Event} {es ms} (hl : e.level ≠ .debug) (h : Tell es ms) :
      Tell (e :: es) ((e.level, e.code) :: ms)

variable {es more : List Event} {ms marks : List (Level × Code)} {bound : Level} {c : Code}

theorem Tell.append (h : Tell es ms) (hmore : Tell more marks) :
    Tell (es ++ more) (ms ++ marks) := by
  induction h with
  | nil => exact hmore
  | debug limits time message details _ ih => exact .debug limits time message details ih
  | mark hl _ ih => exact .mark hl ih

theorem tell_error (limits : Limits) (time : String) (code : Code) (message : String)
    (details : List (String × String)) :
    Tell [.error limits time code message details] [(.error, code)] :=
  .mark (e := .error limits time code message details) Level.noConfusion .nil

theorem tell_success (limits : Limits) (time : String) (code : Code) (message : String)
    (details : List (String × String)) :
    Tell [.success limits time code message details] [(.info, code)] :=
  .mark (e := .success limits time code message details) Level.noConfusion .nil

/-- Whoever does not listen to debugging is told the same. -/
theorem Tell.filter (h : Tell es ms) (hb : bound = .info ∨ bound = .debug) :
    Tell (es.filter (·.level.passes bound)) ms := by
  induction h with
  | nil => exact .nil
  | debug limits time message details _ ih =>
    rw [List.filter_cons]
    split
    · exact .debug limits time message details ih
    · exact ih
  | @mark e _ _ hl _ ih =>
    have hpass : e.level.passes bound = true := by
      rcases hb with rfl | rfl
      · revert hl
        cases e.level <;> decide
      · cases e.level <;> rfl
    rw [List.filter_cons, if_pos hpass]
    exact .mark hl ih

theorem Tell.codes_of_error (h : Tell es ms) :
    (Journal.ofLevel .error es).map (·.code) = (ms.filter (·.1 == .error)).map (·.2) := by
  unfold Journal.ofLevel
  induction h with
  | nil => rfl
  | debug _ _ _ _ _ ih => exact ih
  | @mark e _ _ _ _ ih =>
    rw [List.filter_cons, List.filter_cons]
    by_cases he : (e.level == .error) = true
    · rw [if_pos he, if_pos he]
      exact congrArg (e.code :: ·) ih
    · rw [if_neg he, if_neg he]
      exact ih

/-- Debugging has a code of its own, so every other code counts as often as it is told. -/
theorem Tell.length_withCode (h : Tell es ms) (hc : c ≠ Code.debug) :
    (Journal.withCode c es).length = ms.countP (·.2 == c) := by
  unfold Journal.withCode
  rw [← List.countP_eq_length_filter]
  induction h with
  | nil => rfl
  | debug limits time message details _ ih =>
    have hother : ((Event.debug limits time message details).code == c) = false :=
      beq_eq_false_iff_ne.mpr hc.symm
    rw [List.countP_cons, hother]
    exact ih
  | mark _ _ ih => rw [List.countP_cons, List.countP_cons, ih]

end Event

namespace Journal

theorem foldl_record_memory (bound : Level) (es : List Event) (m : Memory) :
    es.foldl (fun j e => j.record bound e) (ofSink (.memory m)) =
      ofSink (.memory ((es.filter (·.level.passes bound)).foldl Memory.push m)) := by
  induction es generalizing m with
  | nil => rfl
  | cons e rest ih =>
    rw [List.foldl_cons, List.filter_cons]
    by_cases hp : e.level.passes bound = true
    · have hrecord : (ofSink (.memory m)).record bound e = ofSink (.memory (m.push e)) := by
        simp [record, accepts, ofSink, hp, Sink.deliver]
      rw [hrecord, if_pos hp, ih, List.foldl_cons]
    · have hrecord : (ofSink (.memory m)).record bound e = ofSink (.memory m) := by
        simp [record, accepts, hp]
      rw [hrecord, if_neg hp, ih]

/-- An open memory keeps the newest of the events that pass a bound. -/
theorem events_foldl_record (bound : Level) (capacity : Nat) (es : List Event) :
    (es.foldl (fun j e => j.record bound e) (ofSink (.memory (.ofCapacity capacity)))).events =
      (es.filter (·.level.passes bound)).rtake (max capacity 1) := by
  have hkeeps := (Memory.keeps_ofCapacity capacity).pushes (es.filter (·.level.passes bound))
  rw [foldl_record_memory]
  exact hkeeps.newest

end Journal

namespace SourceFile

/-- The event of a failure is an error under the code of the failure, made at a time. -/
structure Failure.Told (time : String) (f : Failure) : Prop where
  tell : Event.Tell [f.event] [(.error, f.error.code)]
  stamp : f.event.time = time

def Tells {α : Type} (time : String) (r : Except Failure α) : Prop :=
  ∀ f, r = .error f → f.Told time

section Steps

variable {α β : Type} (limits : Limits) {time : String}

theorem tells_fail (error : FileError) (message : String) (details : List (String × String)) :
    Tells (α := α) time (.error (fail limits time error message details)) := by
  rintro _ ⟨⟩
  exact ⟨Event.tell_error .., rfl⟩

theorem tells_ok (a : α) : Tells time (.ok a) := by
  rintro _ ⟨⟩

theorem tells_ite {c : Prop} [Decidable c] {r r' : Except Failure α} (h : Tells time r)
    (h' : Tells time r') : Tells time (if c then r else r') := by
  split
  · exact h
  · exact h'

theorem tells_bind {r : Except Failure α} {g : α → Except Failure β} (h : Tells time r)
    (hg : ∀ a, Tells time (g a)) : Tells time (r.bind g) := by
  cases r with
  | error f =>
    rintro _ ⟨⟩
    exact h f rfl
  | ok a => exact hg a

variable (rules : FileRules) (answers : FileAnswers) (m : FileMeasures) (path : String)

theorem tells_measure : Tells time (measure limits time answers path) := by
  unfold measure
  apply tells_ite (tells_fail limits _ _ _)
  apply tells_ite (tells_fail limits _ _ _)
  apply tells_ite (tells_fail limits _ _ _)
  cases answers.canonical with
  | error e => exact tells_fail limits _ _ _
  | ok canonical =>
    dsimp only
    cases answers.size with
    | error e => exact tells_fail limits _ _ _
    | ok size => exact tells_ok _

theorem tells_checkMeasures : Tells time (checkMeasures limits time rules m path) := by
  unfold checkMeasures
  apply tells_ite (tells_fail limits _ _ _)
  apply tells_ite (tells_fail limits _ _ _)
  apply tells_ite (tells_fail limits _ _ _)
  exact tells_ok _

theorem tells_load : Tells time (load limits time answers m path) := by
  unfold load
  cases answers.text with
  | error e => exact tells_fail limits _ _ _
  | ok text => exact tells_ite (tells_fail limits _ _ _) (tells_ok _)

end Steps

section Reading

variable (limits : Limits) (clock : Nat → String) (rules : FileRules) (answers : FileAnswers)
  (elapsed path : String)

/-- How reading a file goes: it fails before the file is measured, or behind that, or it succeeds.
What else is said on the way is for debugging. -/
theorem process_cases :
    let started := Event.debug limits (clock 0) "Starting file processing" [("file", path)]
    (∃ f : Failure, f.Told (clock 1) ∧
      process limits clock rules answers elapsed path = ([started, f.event], .error f.error)) ∨
    ∃ details, let measured := Event.debug limits (clock 1) "File metadata collected" details
      (∃ f : Failure, f.Told (clock 2) ∧
        process limits clock rules answers elapsed path =
          ([started, measured, f.event], .error f.error)) ∨
      ∃ f, process limits clock rules answers elapsed path =
        ([started, measured, success limits (clock 2) rules f path elapsed], .ok f) := by
  simp only [process]
  cases hmeasure : measure limits (clock 1) answers path with
  | error f => exact .inl ⟨f, tells_measure limits answers path f hmeasure, rfl⟩
  | ok m =>
    dsimp only
    cases hread : (checkMeasures limits (clock 2) rules m path).bind fun _ =>
        load limits (clock 2) answers m path with
    | error f =>
      have htold : f.Told (clock 2) := tells_bind (tells_checkMeasures limits rules m path)
        (fun _ => tells_load limits answers m path) f hread
      exact .inr ⟨_, .inl ⟨f, htold, rfl⟩⟩
    | ok f => exact .inr ⟨_, .inr ⟨f, rfl⟩⟩

/-- Reading a file tells its one error, or that it was read. -/
theorem tell_process :
    Event.Tell (process limits clock rules answers elapsed path).1
      (match (process limits clock rules answers elapsed path).2 with
      | .error e => [(.error, e.code)]
      | .ok _ => [(.info, Code.fileRead)]) := by
  obtain ⟨f, htold, h⟩ | ⟨_, ⟨f, htold, h⟩ | ⟨f, h⟩⟩ :=
    process_cases limits clock rules answers elapsed path
  · rw [h]
    exact .debug _ _ _ _ htold.tell
  · rw [h]
    exact .debug _ _ _ _ (.debug _ _ _ _ htold.tell)
  · rw [h]
    refine .debug _ _ _ _ (.debug _ _ _ _ ?_)
    unfold success
    split
    · exact Event.tell_success ..
    · exact Event.tell_success ..

theorem length_process : (process limits clock rules answers elapsed path).1.length ≤ 3 := by
  obtain ⟨f, -, h⟩ | ⟨_, ⟨f, -, h⟩ | ⟨f, h⟩⟩ :=
    process_cases limits clock rules answers elapsed path
  · rw [h]
    exact Nat.le_succ 2
  · rw [h]
    exact Nat.le_refl 3
  · rw [h]
    exact Nat.le_refl 3

end Reading

end SourceFile

def Code.successes : List Code := [completed, fileRead, tokenized, referenceMatch]

theorem FileError.code_not_mem (e : FileError) : e.code ∉ Code.successes := by
  cases e <;> (simp only [code]; decide)

theorem LexError.code_not_mem (e : LexError) : e.code ∉ Code.successes := by
  cases e <;> (simp only [code]; decide)

theorem CommandError.code_not_mem (e : CommandError) : e.code ∉ Code.successes := by
  cases e <;> (simp only [code]; decide)

theorem DiffError.code_not_mem (e : DiffError) : e.code ∉ Code.successes := by
  cases e with
  | file e => exact e.code_not_mem
  | lexical e => exact e.code_not_mem
  | command e => exact e.code_not_mem
  | referenceFailed => simp only [code]; decide
  | malformed => simp only [code]; decide

theorem DiffError.code_beq (e : DiffError) {c : Code} (h : c ∈ Code.successes) :
    (e.code == c) = false := by
  apply beq_eq_false_iff_ne.mpr
  rintro rfl
  exact e.code_not_mem h

namespace Comparison

/-- How reading a file and comparing it with a reference end together, and what is told of it. -/
inductive Ends : Except FileError SourceFile → Except DiffError Comparison →
    List (Level × Code) → Prop
  | unread (e : FileError) : Ends (.error e) (.error (.file e)) [(.error, e.code)]
  | failed (f : SourceFile) (e : DiffError) :
      Ends (.ok f) (.error e) [(.info, Code.fileRead), (.error, e.code)]
  | matched (f : SourceFile) (c : Comparison) (h : c.isMatch = true) :
      Ends (.ok f) (.ok c) [(.info, Code.fileRead), (.info, Code.referenceMatch)]
  | mismatched (f : SourceFile) (c : Comparison) (h : c.isMatch = false) :
      Ends (.ok f) (.ok c) [(.info, Code.fileRead), (.error, Code.tokenMismatch)]

section Reporting

variable (limits : Limits) (time path : String)

theorem tell_event (c : Comparison) :
    Event.Tell [event limits time c path]
      [if c.isMatch then (.info, Code.referenceMatch) else (.error, Code.tokenMismatch)] := by
  unfold event isMatch
  cases c.mismatch with
  | none => exact Event.tell_success ..
  | some m => exact Event.tell_error ..

theorem tell_ofTokenization (t : Tokenization) (reference : ReferenceTokenizer) :
    Event.Tell [(ofTokenization limits time path t reference).1]
      [match (ofTokenization limits time path t reference).2 with
        | .error e => (.error, e.code)
        | .ok c =>
          if c.isMatch then (.info, Code.referenceMatch) else (.error, Code.tokenMismatch)] := by
  unfold ofTokenization
  cases reference.tokens path with
  | error e => exact Event.tell_error ..
  | ok theirs => exact tell_event ..

end Reporting

section Run

variable (limits : Limits) (compiler : PatternCompiler) (clock : Nat → String)
  (answers : FileAnswers) (elapsed path : String) (prefs : LexPrefs)
  (reference : ReferenceTokenizer)

/-- What a comparison adds to reading its file: nothing if the file cannot be read, and else one
event. -/
theorem ofFile_cases :
    let read := SourceFile.process limits clock {} answers elapsed path
    let run := ofFile limits compiler clock answers elapsed path prefs reference
    let time := clock read.1.length
    (∃ e, read.2 = .error e ∧ run = (read.1, .error (.file e))) ∨
    ∃ f, read.2 = .ok f ∧
      ((∃ e : LexError, run =
        (read.1 ++ [.error limits time e.code e.message [("file", path)]], .error (.lexical e))) ∨
      ∃ t, run = (read.1 ++ [(ofTokenization limits time path t reference).1],
        (ofTokenization limits time path t reference).2)) := by
  unfold ofFile
  generalize SourceFile.process limits clock {} answers elapsed path = outcome
  rcases outcome with ⟨events, e | f⟩
  · exact .inl ⟨e, rfl, rfl⟩
  · refine .inr ⟨f, rfl, ?_⟩
    dsimp only
    cases prefs.tokenize compiler f.lines with
    | error e => exact .inl ⟨e, rfl⟩
    | ok t => exact .inr ⟨t, rfl⟩

theorem ends_ofFile :
    ∃ ms, Event.Tell (ofFile limits compiler clock answers elapsed path prefs reference).1 ms ∧
      Ends (SourceFile.process limits clock {} answers elapsed path).2
        (ofFile limits compiler clock answers elapsed path prefs reference).2 ms := by
  have hprocess := SourceFile.tell_process limits clock {} answers elapsed path
  obtain ⟨e, hread, h⟩ | ⟨f, hread, ⟨e, h⟩ | ⟨t, h⟩⟩ :=
    ofFile_cases limits compiler clock answers elapsed path prefs reference
  · rw [hread] at hprocess
    rw [h, hread]
    exact ⟨_, hprocess, .unread e⟩
  · rw [hread] at hprocess
    rw [h, hread]
    exact ⟨_, hprocess.append (Event.tell_error ..), .failed f (.lexical e)⟩
  · rw [hread] at hprocess
    rw [h, hread]
    refine ⟨_, hprocess.append (tell_ofTokenization limits _ path t reference), ?_⟩
    dsimp only
    cases (ofTokenization limits _ path t reference).2 with
    | error e => exact .failed f e
    | ok c =>
      by_cases hc : c.isMatch = true
      · simp only [hc, if_true]
        exact .matched f c hc
      · simp only [hc]
        exact .mismatched f c (Bool.eq_false_iff.mpr hc)

theorem length_ofFile :
    (ofFile limits compiler clock answers elapsed path prefs reference).1.length ≤ 4 := by
  have hprocess := SourceFile.length_process limits clock {} answers elapsed path
  obtain ⟨e, -, h⟩ | ⟨f, -, ⟨e, h⟩ | ⟨t, h⟩⟩ :=
    ofFile_cases limits compiler clock answers elapsed path prefs reference
  · rw [h]
    exact Nat.le_succ_of_le hprocess
  · rw [h, List.length_append, List.length_singleton]
    exact Nat.succ_le_succ hprocess
  · rw [h, List.length_append, List.length_singleton]
    exact Nat.succ_le_succ hprocess

/-- What is logged of a comparison by a writer with a bound, into an open and empty memory. -/
def log (bound : Level) (capacity : Nat) : List Event :=
  ((ofFile limits compiler clock answers elapsed path prefs reference).1.foldl
    (fun j e => j.record bound e) (Journal.ofSink (.memory (.ofCapacity capacity)))).events

end Run

/-- A log that says once how reading a file and comparing it with a reference ended. -/
structure Reported (read : Except FileError SourceFile) (result : Except DiffError Comparison)
    (log : List Event) : Prop where
  /-- An error is reported under its code, and nothing as a match. -/
  failed : ∀ e, result = .error e →
    (Journal.ofLevel .error log).map (·.code) = [e.code] ∧
      Journal.withCode Code.referenceMatch log = []
  matched : ∀ c, result = .ok c → c.isMatch = true →
    Journal.ofLevel .error log = [] ∧ (Journal.withCode Code.fileRead log).length = 1 ∧
      (Journal.withCode Code.referenceMatch log).length = 1
  mismatched : ∀ c, result = .ok c → c.isMatch = false →
    (Journal.ofLevel .error log).map (·.code) = [Code.tokenMismatch] ∧
      Journal.withCode Code.referenceMatch log = []
  /-- A file is reported as read if and only if it was. -/
  read : Journal.withCode Code.fileRead log ≠ [] ↔ ∃ f, read = .ok f

variable {read : Except FileError SourceFile} {result : Except DiffError Comparison}
  {ms : List (Level × Code)}

theorem Ends.countP_fileRead (h : Ends read result ms) :
    ms.countP (·.2 == Code.fileRead) ≠ 0 ↔ ∃ f, read = .ok f := by
  cases h with
  | unread e =>
    have hcode : (e.code == Code.fileRead) = false := (DiffError.file e).code_beq (by decide)
    rw [List.countP_singleton, hcode]
    exact ⟨fun h => absurd rfl h, nofun⟩
  | failed f e =>
    rw [List.countP_cons]
    exact ⟨fun _ => ⟨f, rfl⟩, fun _ => Nat.succ_ne_zero _⟩
  | matched f c hc => exact ⟨fun _ => ⟨f, rfl⟩, fun _ => by decide⟩
  | mismatched f c hc => exact ⟨fun _ => ⟨f, rfl⟩, fun _ => by decide⟩

/-- An error is the only one that is told, and no match is told with it. -/
theorem Ends.of_error {e : DiffError} (h : Ends read (.error e) ms) :
    (ms.filter (·.1 == .error)).map (·.2) = [e.code] ∧
      ms.countP (·.2 == Code.referenceMatch) = 0 := by
  have hcode := e.code_beq (c := Code.referenceMatch) (by decide)
  cases h with
  | unread e =>
    refine ⟨rfl, ?_⟩
    rw [List.countP_singleton]
    exact if_neg (Bool.eq_false_iff.mp hcode)
  | failed f e =>
    refine ⟨rfl, ?_⟩
    rw [List.countP_cons, List.countP_singleton, hcode]
    rfl

theorem reported_of_ends {log : List Event} (h : Ends read result ms)
    (htell : Event.Tell log ms) : Reported read result log := by
  have hreads := htell.length_withCode (c := Code.fileRead) (by decide)
  have hmatches := htell.length_withCode (c := Code.referenceMatch) (by decide)
  refine ⟨?_, ?_, ?_, ?_⟩
  · rintro e rfl
    obtain ⟨herrors, hnone⟩ := h.of_error
    exact ⟨htell.codes_of_error.trans herrors, List.length_eq_zero_iff.mp (hmatches.trans hnone)⟩
  · rintro c rfl hc
    cases h with
    | matched => exact ⟨List.map_eq_nil_iff.mp htell.codes_of_error, hreads, hmatches⟩
    | mismatched _ _ hne =>
      rw [hc] at hne
      cases hne
  · rintro c rfl hc
    cases h with
    | matched _ _ heq =>
      rw [hc] at heq
      cases heq
    | mismatched => exact ⟨htell.codes_of_error, List.length_eq_zero_iff.mp hmatches⟩
  · rw [← h.countP_fileRead, ← hreads, ne_eq, ne_eq, List.length_eq_zero_iff]

end Comparison

/-- A log at the level of information or below it reports the outcome of a comparison once: an
error under its code, or the verdict, be it a match or a mismatch; and a file that was read is
reported whatever comes of it. The memory needs room for what is logged. -/
theorem outcome_reported_once (limits : Limits) (compiler : PatternCompiler)
    (clock : Nat → String) (answers : FileAnswers) (elapsed path : String) (prefs : LexPrefs)
    (reference : ReferenceTokenizer) (bound : Level) (capacity : Nat)
    (hb : bound = .info ∨ bound = .debug)
    (hroom : ((Comparison.ofFile limits compiler clock answers elapsed path prefs
      reference).1.filter (·.level.passes bound)).length ≤ max capacity 1) :
    Comparison.Reported (SourceFile.process limits clock {} answers elapsed path).2
      (Comparison.ofFile limits compiler clock answers elapsed path prefs reference).2
      (Comparison.log limits compiler clock answers elapsed path prefs reference bound
        capacity) := by
  obtain ⟨ms, htell, hends⟩ :=
    Comparison.ends_ofFile limits compiler clock answers elapsed path prefs reference
  apply Comparison.reported_of_ends hends
  rw [Comparison.log, Journal.events_foldl_record, List.rtake, Nat.sub_eq_zero_of_le hroom,
    List.drop_zero]
  exact htell.filter hb

theorem LexPrefs.table_core (policy : EndPolicy) :
    (⟨.core, [], policy⟩ : LexPrefs).table = .ofOperators .core := by
  simp only [table, operators, OperatorSet.ofPreset, OperatorSet.insertMany, List.foldl_nil]

/-- A file with one name on one line, and a reference that prints its four tokens. -/
theorem outcome_reported_once_match :
    let answers : FileAnswers := ⟨true, true, .ok "/x.py", .ok 2, .ok "x\n".toUTF8⟩
    let rows := "0,0-0,0: ENCODING 'utf-8'\n1,0-1,1: NAME 'x'\n1,1-1,2: NEWLINE '\\n'\n" ++
      "2,0-2,0: ENDMARKER ''\n"
    let log := Comparison.log .development (fun _ => none) toString answers "0" "x.py"
      ⟨.core, [], .strict⟩ ⟨"rows", fun _ => .ok rows⟩ .info 4
    Journal.ofLevel .error log = [] ∧ (Journal.withCode Code.fileRead log).length = 1 ∧
      (Journal.withCode Code.referenceMatch log).length = 1 := by
  intro answers rows log
  let run := Comparison.ofFile .development (fun _ => none) toString answers "0" "x.py"
    ⟨.core, [], .strict⟩ ⟨"rows", fun _ => .ok rows⟩
  have hcompile (t : Table) : t.compile (fun _ => none) = .ok t :=
    Table.compile_of_compiles fun _ _ => rfl
  have hverdict : run.2.toOption.map (·.isMatch) = some true := by
    simp only [run, Comparison.ofFile, LexPrefs.tokenize, LexPrefs.table_core, hcompile]
    rw [Table.ofOperators, OperatorSet.matchOrder_core]
    decide +kernel
  cases hresult : run.2 with
  | error e =>
    rw [hresult] at hverdict
    cases hverdict
  | ok c =>
    rw [hresult] at hverdict
    have hroom := (List.length_filter_le (·.level.passes .info) _).trans
      (Comparison.length_ofFile .development (fun _ => none) toString answers "0" "x.py"
        ⟨.core, [], .strict⟩ ⟨"rows", fun _ => .ok rows⟩)
    exact (outcome_reported_once .development (fun _ => none) toString answers "0" "x.py"
      ⟨.core, [], .strict⟩ ⟨"rows", fun _ => .ok rows⟩ .info 4 (.inl rfl) hroom).matched c hresult
      (Option.some.inj hverdict)

end Offside
