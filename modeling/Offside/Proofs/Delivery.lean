import Offside.Journal
import Mathlib.Data.List.DropRight

/-!
# Delivery

What comes of an event that is logged. `accepted` says it without any sink: an event counts if the
bound of its writer lets it pass and nobody has closed the journal before. Whatever the writers do
in whatever order, each memory and each file in the sink has got the events that count and that pass
the bounds on the way to it, each once and in order: a memory keeps the newest since it was cleared,
and behind a flush or the close a file ends with their lines.
-/

namespace Offside

set_option autoImplicit false

namespace Memory

variable {m : Memory} {es : List Event}

theorem push_rtake (hc : 0 < m.capacity) (h : m.events.toList = es.rtake m.capacity) (e : Event) :
    (m.push e).events.toList = (es ++ [e]).rtake m.capacity := by
  have hsize : m.events.size = min m.capacity es.length := by
    rw [← Array.length_toList, h, List.rtake, List.length_drop]
    omega
  have hlast : (es ++ [e]).rtake m.capacity = es.drop (es.length + 1 - m.capacity) ++ [e] := by
    rw [List.rtake, List.length_append, List.length_singleton,
      List.drop_append_of_le_length (by omega)]
  rw [hlast]
  unfold push
  split
  · rename_i hfull
    have hfirst : m.events.size + 1 - m.capacity = 1 := by omega
    have hdrop : es.length - m.capacity + 1 = es.length + 1 - m.capacity := by omega
    rw [Array.toList_push, Array.toList_extract, hfirst, List.extract_eq_take_drop,
      List.take_of_length_le (by simp), h, List.rtake, List.drop_drop, hdrop]
  · rename_i hroom
    rw [Array.toList_push, h, List.rtake]
    have hall : es.length - m.capacity = es.length + 1 - m.capacity := by omega
    rw [hall]

theorem push_capacity (m : Memory) (e : Event) : (m.push e).capacity = m.capacity := by
  unfold push
  split <;> rfl

/-- What a memory is that has been given events since it was last empty. -/
structure Keeps (m : Memory) (c : Nat) (es : List Event) : Prop where
  room : m.capacity = max c 1
  newest : m.events.toList = es.rtake (max c 1)

variable {c : Nat}

theorem keeps_ofCapacity (c : Nat) : (ofCapacity c).Keeps c [] :=
  ⟨rfl, by simp [ofCapacity]⟩

theorem Keeps.clear (h : m.Keeps c es) : m.clear.Keeps c [] :=
  ⟨h.room, by simp [Memory.clear]⟩

theorem Keeps.push (h : m.Keeps c es) (e : Event) : (m.push e).Keeps c (es ++ [e]) := by
  obtain ⟨hc, he⟩ := h
  refine ⟨(push_capacity m e).trans hc, ?_⟩
  rw [← hc] at he ⊢
  exact push_rtake (by omega) he e

theorem Keeps.pushes (h : m.Keeps c es) (more : List Event) :
    (more.foldl Memory.push m).Keeps c (es ++ more) := by
  induction more generalizing m es with
  | nil => simpa using h
  | cons e rest ih =>
    rw [List.append_cons]
    exact ih (h.push e)

end Memory

namespace LogFile

/-- All that has been handed to a file, be it written or not. -/
def content (f : LogFile) : String := f.written ++ f.buffer

def lines (form : Form) (es : List Event) : String :=
  es.foldl (fun text e => text ++ (form.line e ++ "\n")) ""

theorem lines_concat (form : Form) (es : List Event) (e : Event) :
    lines form (es ++ [e]) = lines form es ++ (form.line e ++ "\n") := by
  unfold lines
  rw [List.foldl_append]
  rfl

variable (f : LogFile)

theorem content_flush : f.flush.content = f.content := by
  unfold content flush
  rw [String.append_empty]

theorem content_write (s : String) : (f.write s).content = f.content ++ s := by
  simp only [write]
  by_cases hfull : f.capacity < f.buffer.utf8ByteSize + s.utf8ByteSize
  · rw [if_pos hfull]
    split
    · simp [content, flush]
    · simp [content, flush]
  · rw [if_neg hfull]
    split
    · -- a text as long as the buffer is not held back, and there is nothing to go before it
      have hempty : f.buffer = "" := by
        apply String.utf8ByteSize_eq_zero_iff.mp
        omega
      simp [content, hempty]
    · simp [content, String.append_assoc]

structure Holds (f g : LogFile) (es : List Event) : Prop where
  path : g.path = f.path
  bound : g.bound = f.bound
  form : g.form = f.form
  content : g.content = f.content ++ lines f.form es

variable {f} {g : LogFile} {es : List Event}

theorem holds_nil (f : LogFile) : f.Holds f [] := ⟨rfl, rfl, rfl, (String.append_empty).symm⟩

theorem Holds.flush (h : f.Holds g es) : f.Holds g.flush es :=
  ⟨h.path, h.bound, h.form, (content_flush g).trans h.content⟩

theorem write_path (f : LogFile) (s : String) : (f.write s).path = f.path := by
  simp only [write]
  split <;> split <;> rfl

theorem write_bound (f : LogFile) (s : String) : (f.write s).bound = f.bound := by
  simp only [write]
  split <;> split <;> rfl

theorem write_form (f : LogFile) (s : String) : (f.write s).form = f.form := by
  simp only [write]
  split <;> split <;> rfl

theorem Holds.deliver (h : f.Holds g es) (e : Event) :
    f.Holds (g.deliver e) (if e.level.passes f.bound then es ++ [e] else es) := by
  obtain ⟨hpath, hbound, hform, hcontent⟩ := h
  unfold LogFile.deliver
  rw [hbound]
  split
  · constructor
    · rw [write_path, write_path, hpath]
    · rw [write_bound, write_bound, hbound]
    · rw [write_form, write_form, hform]
    · rw [content_write, content_write, hcontent, hform, lines_concat, String.append_assoc,
        String.append_assoc]
  · exact ⟨hpath, hbound, hform, hcontent⟩

theorem Holds.deliveries (h : f.Holds g es) (more : List Event) :
    f.Holds (more.foldl LogFile.deliver g) (es ++ more.filter (·.level.passes f.bound)) := by
  induction more generalizing g es with
  | nil => simpa using h
  | cons e rest ih =>
    have hrest := ih (h.deliver e)
    by_cases hp : e.level.passes f.bound = true
    · simpa [hp] using hrest
    · simpa [hp] using hrest

end LogFile

namespace Sink

def isLeaf : Sink → Bool
  | multi .. => false
  | _ => true

theorem deliverAll_eq (e : Event) (parts : List Sink) :
    deliverAll e parts = parts.map (deliver e) := by
  induction parts with
  | nil => rfl
  | cons s rest ih => rw [deliverAll, ih, List.map_cons]

theorem flushAll_eq (parts : List Sink) : flushAll parts = parts.map flush := by
  induction parts with
  | nil => rfl
  | cons s rest ih => rw [flushAll, ih, List.map_cons]

def admits (s : Sink) (place : List Nat) (l : Level) : Bool := (s.guards place).all (l.passes ·)

theorem foldl_deliver_memory (es : List Event) (m : Memory) :
    es.foldl (fun leaf e => leaf.deliver e) (memory m) = memory (es.foldl Memory.push m) := by
  induction es generalizing m with
  | nil => rfl
  | cons e rest ih => exact ih (m.push e)

theorem foldl_deliver_file (es : List Event) (f : LogFile) :
    es.foldl (fun leaf e => leaf.deliver e) (file f) = file (es.foldl LogFile.deliver f) := by
  induction es generalizing f with
  | nil => rfl
  | cons e rest ih => exact ih (f.deliver e)

variable {s leaf : Sink} {place : List Nat}

/-- An event gets to a leaf if it passes the bounds on the way. -/
theorem part?_deliver (e : Event) (h : s.part? place = some leaf) (hl : leaf.isLeaf) :
    (s.deliver e).part? place =
      some (if s.admits place e.level then leaf.deliver e else leaf) := by
  induction place generalizing s with
  | nil =>
    obtain rfl := Option.some.inj h
    simp [part?, admits, guards]
  | cons i place ih =>
    cases s with
    | multi bound parts =>
      obtain ⟨part, hpart, hplace⟩ := Option.bind_eq_some_iff.mp h
      have hi := ih hplace
      have hguards : (multi bound parts).admits (i :: place) e.level =
          (e.level.passes bound && part.admits place e.level) := by
        simp [admits, guards, hpart]
      rw [hguards, deliver]
      by_cases hb : e.level.passes bound = true
      · rw [if_pos hb, deliverAll_eq, part?, List.getElem?_map, hpart, hb, Bool.true_and]
        exact hi
      · rw [if_neg hb, part?, hpart, Bool.eq_false_iff.mpr hb, Bool.false_and]
        exact hplace
    | _ => cases h

theorem part?_flush (h : s.part? place = some leaf) : s.flush.part? place = some leaf.flush := by
  induction place generalizing s with
  | nil =>
    obtain rfl := Option.some.inj h
    rfl
  | cons i place ih =>
    cases s with
    | multi bound parts =>
      obtain ⟨part, hpart, hplace⟩ := Option.bind_eq_some_iff.mp h
      rw [flush, flushAll_eq, part?, List.getElem?_map, hpart]
      exact ih hplace
    | _ => cases h

theorem part?_clearAt (cleared : List Nat) (h : s.part? place = some leaf) (hl : leaf.isLeaf) :
    (s.clearAt cleared).part? place =
      some (if cleared = place then leaf.clearAt [] else leaf) := by
  induction place generalizing s cleared with
  | nil =>
    obtain rfl := Option.some.inj h
    cases cleared with
    | nil => rfl
    | cons j cleared =>
      cases s with
      | multi => cases hl
      | discard => rfl
      | console => rfl
      | memory => rfl
      | file => rfl
  | cons i place ih =>
    cases s with
    | multi bound parts =>
      obtain ⟨part, hpart, hplace⟩ := Option.bind_eq_some_iff.mp h
      cases cleared with
      | nil =>
        rw [if_neg (by simp)]
        exact h
      | cons j cleared =>
        rw [clearAt, part?, List.getElem?_modify, hpart]
        by_cases hj : j = i
        · simpa [hj] using ih cleared hplace
        · simpa [hj] using hplace
    | _ => cases h

theorem guards_deliver (e : Event) (s : Sink) (place : List Nat) :
    (s.deliver e).guards place = s.guards place := by
  induction place generalizing s with
  | nil => cases s <;> rfl
  | cons i place ih =>
    cases s with
    | multi bound parts =>
      have hsame : guards place ∘ deliver e = guards place := funext ih
      rw [deliver, deliverAll_eq]
      split
      · rw [guards, guards, List.getElem?_map, Option.map_map, hsame]
      · rfl
    | _ => rfl

theorem guards_flush (s : Sink) (place : List Nat) : s.flush.guards place = s.guards place := by
  induction place generalizing s with
  | nil => cases s <;> rfl
  | cons i place ih =>
    cases s with
    | multi bound parts =>
      have hsame : guards place ∘ flush = guards place := funext ih
      rw [flush, flushAll_eq, guards, guards, List.getElem?_map, Option.map_map, hsame]
    | _ => rfl

theorem guards_clearAt (cleared : List Nat) (s : Sink) (place : List Nat) :
    (s.clearAt cleared).guards place = s.guards place := by
  induction place generalizing s cleared with
  | nil => cases s <;> cases cleared <;> rfl
  | cons i place ih =>
    cases s with
    | multi bound parts =>
      cases cleared with
      | nil => rfl
      | cons j cleared =>
        have hsame : (guards place ∘ fun part => if j = i then clearAt cleared part else part) =
            guards place := by
          funext part
          dsimp only [Function.comp]
          split
          · exact ih cleared part
          · rfl
        rw [clearAt, guards, guards, List.getElem?_modify, Option.map_eq_map, Option.map_map, hsame]
    | _ => cases cleared <;> rfl

end Sink

/-- The events that are logged before the journal is closed, each with a level that passes the bound
its writer has at that moment. -/
def accepted (bounds : List Level) : List Operation → List Event
  | [] => []
  | .log writer e :: ops =>
    if bounds[writer]?.any (e.level.passes ·) then e :: accepted bounds ops
    else accepted bounds ops
  | .setBound writer bound :: ops => accepted (bounds.set writer bound) ops
  | .clone writer :: ops => accepted (bounds ++ bounds[writer]?.toList) ops
  | .flush :: ops => accepted bounds ops
  | .clear _ :: ops => accepted bounds ops
  | .close :: _ => []

/-- Those of the accepted events that come after the last time the memory at a place is cleared. -/
def recent (place : List Nat) (bounds : List Level) (ops : List Operation) : List Event :=
  (accepted bounds ops).drop
    (accepted bounds (ops.rdropWhile fun op => op ≠ .clear place)).length

theorem accepted_append (bounds : List Level) (ops more : List Operation) :
    accepted bounds ops <+: accepted bounds (ops ++ more) := by
  induction ops generalizing bounds with
  | nil => exact List.nil_prefix
  | cons op rest ih =>
    cases op with
    | log writer e =>
      rw [List.cons_append, accepted, accepted]
      split
      · exact List.cons_prefix_cons.mpr ⟨rfl, ih bounds⟩
      · exact ih bounds
    | setBound => exact ih _
    | clone => exact ih _
    | flush => exact ih _
    | close => exact List.nil_prefix
    | clear => exact ih _

namespace SharedJournal

variable {s : SharedJournal} {ops : List Operation} {place : List Nat} {leaf : Sink}

def accepts (s : SharedJournal) : Operation → List Event
  | .log writer e => if s.bounds[writer]?.any (s.journal.accepts · e.level) then [e] else []
  | _ => []

theorem run_concat (s : SharedJournal) (ops : List Operation) (op : Operation) :
    s.run (ops ++ [op]) = (s.run ops).step op := by
  unfold run
  rw [List.foldl_append]
  rfl

theorem closed_step_log (s : SharedJournal) (writer : Nat) (e : Event) :
    (s.step (.log writer e)).journal.closed = s.journal.closed := by
  simp only [step]
  split
  · simp only [Journal.record]
    split <;> rfl
  · rfl

theorem bounds_step_log (s : SharedJournal) (writer : Nat) (e : Event) :
    (s.step (.log writer e)).bounds = s.bounds := by
  simp only [step]
  split <;> rfl

theorem closed_close (j : Journal) : j.close.closed = true := by
  unfold Journal.close
  split
  · assumption
  · rfl

/-- A journal is closed from the first time on that somebody closes it. -/
theorem closed_run (s : SharedJournal) (ops : List Operation) :
    (s.run ops).journal.closed = (s.journal.closed || ops.contains .close) := by
  induction ops using List.reverseRecOn with
  | nil => simp [run]
  | append_singleton ops op ih =>
    rw [run_concat]
    cases op with
    | log writer e => simpa [closed_step_log] using ih
    | close => simp [step, closed_close]
    | setBound => simpa [step] using ih
    | clone => simpa [step] using ih
    | flush => simpa [step, Journal.flush] using ih
    | clear => simpa [step] using ih

theorem accepts_of_closed (h : s.journal.closed = true) (op : Operation) : s.accepts op = [] := by
  cases op with
  | log writer e => simp [accepts, Journal.accepts, h]
  | _ => rfl

theorem accepted_concat (h : s.journal.closed = false) (ops : List Operation) (op : Operation) :
    accepted s.bounds (ops ++ [op]) = accepted s.bounds ops ++ (s.run ops).accepts op := by
  induction ops generalizing s with
  | nil =>
    cases op with
    | log writer e =>
      simp only [List.nil_append, accepted, run, List.foldl_nil, accepts, Journal.accepts, h]
      simp
    | _ => rfl
  | cons first rest ih =>
    cases first with
    | log writer e =>
      have hrest := ih (s := s.step (.log writer e)) ((closed_step_log s writer e).trans h)
      rw [bounds_step_log] at hrest
      rw [List.cons_append, accepted, accepted]
      split
      · exact congrArg (e :: ·) hrest
      · exact hrest
    | close =>
      have hclosed : (s.run (.close :: rest)).journal.closed = true := by
        rw [closed_run]
        simp
      rw [accepts_of_closed hclosed]
      rfl
    | setBound writer bound => exact ih (s := s.step (.setBound writer bound)) h
    | clone writer => exact ih (s := s.step (.clone writer)) h
    | flush => exact ih (s := s.step .flush) h
    | clear cleared => exact ih (s := s.step (.clear cleared)) h

theorem recent_concat (h : s.journal.closed = false) (place : List Nat) (ops : List Operation)
    (op : Operation) :
    recent place s.bounds (ops ++ [op]) =
      if op = .clear place then [] else recent place s.bounds ops ++ (s.run ops).accepts op := by
  unfold recent
  split
  · rename_i hop
    rw [List.rdropWhile_concat_neg _ _ _ (by simpa using hop), List.drop_length]
  · rename_i hop
    have hprefix : accepted s.bounds (ops.rdropWhile fun op => op ≠ .clear place) <+:
        accepted s.bounds ops := by
      obtain ⟨more, hmore⟩ := List.rdropWhile_prefix (fun op => op ≠ .clear place) ops
      have happ := accepted_append s.bounds (ops.rdropWhile fun op => op ≠ .clear place) more
      rw [hmore] at happ
      exact happ
    rw [List.rdropWhile_concat_pos _ _ _ (by simpa using hop), accepted_concat h,
      List.drop_append_of_le_length hprefix.length_le]

/-- The event of an operation that gets to a place, if there is one. -/
def reaches (s : SharedJournal) (place : List Nat) (op : Operation) : List Event :=
  (s.accepts op).filter fun e => s.journal.sink.admits place e.level

/-- What an operation does to the leaf at a place. -/
def touch (s : SharedJournal) (place : List Nat) (leaf : Sink) (op : Operation) : Sink :=
  match op with
  | .flush => leaf.flush
  | .close => if s.journal.closed then leaf else leaf.flush
  | .clear cleared => if cleared = place then leaf.clearAt [] else leaf
  | op => (s.reaches place op).foldl (fun leaf e => leaf.deliver e) leaf

theorem part?_step (h : s.journal.sink.part? place = some leaf) (hl : leaf.isLeaf)
    (op : Operation) : (s.step op).journal.sink.part? place = some (s.touch place leaf op) := by
  cases op with
  | log writer e =>
    have hdeliver := Sink.part?_deliver e h hl
    simp only [step, touch, reaches, accepts]
    cases s.bounds[writer]? with
    | none => exact h
    | some bound =>
      simp only [Journal.record, Option.any_some]
      by_cases ha : s.journal.accepts bound e.level = true
      · rw [if_pos ha, if_pos ha, hdeliver]
        by_cases hp : s.journal.sink.admits place e.level = true
        · simp [hp]
        · simp [hp]
      · rw [if_neg ha, if_neg ha]
        exact h
  | setBound => exact h
  | clone => exact h
  | flush => exact Sink.part?_flush h
  | close =>
    simp only [step, touch, Journal.close]
    split
    · exact h
    · exact Sink.part?_flush h
  | clear cleared => exact Sink.part?_clearAt cleared h hl

theorem guards_step (s : SharedJournal) (op : Operation) (place : List Nat) :
    (s.step op).journal.sink.guards place = s.journal.sink.guards place := by
  cases op with
  | log writer e =>
    simp only [step]
    split
    · simp only [Journal.record]
      split
      · exact Sink.guards_deliver e _ place
      · rfl
    · rfl
  | setBound => rfl
  | clone => rfl
  | flush => exact Sink.guards_flush _ place
  | close =>
    simp only [step, Journal.close]
    split
    · rfl
    · exact Sink.guards_flush _ place
  | clear cleared => exact Sink.guards_clearAt cleared _ place

theorem admits_run (s : SharedJournal) (ops : List Operation) (place : List Nat) (l : Level) :
    (s.run ops).journal.sink.admits place l = s.journal.sink.admits place l := by
  suffices hguards : (s.run ops).journal.sink.guards place = s.journal.sink.guards place by
    unfold Sink.admits
    rw [hguards]
  induction ops using List.reverseRecOn with
  | nil => rfl
  | append_singleton ops op ih => rw [run_concat, guards_step, ih]

theorem reaches_run (s : SharedJournal) (ops : List Operation) (place : List Nat)
    (op : Operation) :
    (s.run ops).reaches place op =
      ((s.run ops).accepts op).filter fun e => s.journal.sink.admits place e.level := by
  unfold reaches
  simp only [admits_run]

theorem touch_memory (s : SharedJournal) (place : List Nat) (m : Memory) (op : Operation) :
    s.touch place (.memory m) op =
      .memory
        (if op = .clear place then m.clear else (s.reaches place op).foldl Memory.push m) := by
  cases op with
  | log => exact Sink.foldl_deliver_memory _ m
  | setBound => rfl
  | clone => rfl
  | flush => rfl
  | close =>
    simp only [touch]
    split <;> rfl
  | clear cleared =>
    by_cases hc : cleared = place
    · simp [touch, hc, Sink.clearAt]
    · simp [touch, hc, reaches, accepts]

/-- A memory keeps the newest of the recent events that get to it. -/
theorem memory_run {c : Nat} (h : s.journal.sink.part? place = some (.memory (.ofCapacity c)))
    (ho : s.journal.closed = false) (ops : List Operation) :
    ∃ m, (s.run ops).journal.sink.part? place = some (.memory m) ∧
      m.Keeps c ((recent place s.bounds ops).filter
        fun e => s.journal.sink.admits place e.level) := by
  induction ops using List.reverseRecOn with
  | nil => exact ⟨_, h, Memory.keeps_ofCapacity c⟩
  | append_singleton ops op ih =>
    obtain ⟨m, hm, hkeeps⟩ := ih
    have hstep := part?_step hm rfl op
    rw [touch_memory] at hstep
    rw [run_concat, recent_concat ho]
    refine ⟨_, hstep, ?_⟩
    split
    · exact hkeeps.clear
    · rw [List.filter_append, ← reaches_run]
      exact hkeeps.pushes _

def flushes (s : SharedJournal) (op : Operation) : Bool :=
  op = .flush || op = .close && !s.journal.closed

theorem touch_file (s : SharedJournal) (place : List Nat) (f : LogFile) (op : Operation) :
    s.touch place (.file f) op =
      .file ((s.reaches place op).foldl LogFile.deliver (if s.flushes op then f.flush else f)) := by
  cases op with
  | log => exact Sink.foldl_deliver_file _ f
  | setBound => rfl
  | clone => rfl
  | flush => rfl
  | close =>
    by_cases hc : s.journal.closed = true
    · simp [touch, flushes, reaches, accepts, hc]
    · simp [touch, flushes, reaches, accepts, hc, Sink.flush]
  | clear cleared =>
    by_cases hc : cleared = place
    · simp [touch, flushes, reaches, accepts, hc, Sink.clearAt]
    · simp [touch, flushes, reaches, accepts, hc]

/-- A file holds the lines of the accepted events that get to it. -/
theorem file_run {f : LogFile} (h : s.journal.sink.part? place = some (.file f))
    (ho : s.journal.closed = false) (ops : List Operation) :
    ∃ g, (s.run ops).journal.sink.part? place = some (.file g) ∧
      f.Holds g (((accepted s.bounds ops).filter
        fun e => s.journal.sink.admits place e.level).filter (·.level.passes f.bound)) := by
  induction ops using List.reverseRecOn with
  | nil => exact ⟨f, h, f.holds_nil⟩
  | append_singleton ops op ih =>
    obtain ⟨g, hg, hholds⟩ := ih
    have hstep := part?_step hg rfl op
    rw [touch_file] at hstep
    rw [run_concat, accepted_concat ho, List.filter_append, List.filter_append]
    refine ⟨_, hstep, ?_⟩
    rw [← reaches_run]
    apply LogFile.Holds.deliveries
    split
    · exact hholds.flush
    · exact hholds

/-- Behind a flush or the first close nothing of a file is held back. -/
theorem buffer_of_flushes {g g' : LogFile} {op : Operation}
    (h : s.journal.sink.part? place = some (.file g)) (hf : s.flushes op = true)
    (h' : (s.step op).journal.sink.part? place = some (.file g')) : g'.buffer = "" := by
  rw [part?_step h rfl, touch_file, if_pos hf] at h'
  have hnone : s.reaches place op = [] := by
    cases op <;> first | rfl | cases hf
  rw [hnone] at h'
  obtain rfl := Sink.file.inj (Option.some.inj h')
  rfl

end SharedJournal

/-- Every memory and every file of a sink gets the events that are accepted and that pass the bounds
on the way: a memory keeps the newest of them since it was cleared, and a file has their lines
behind what it had before, all of them written once the journal is flushed or closed. -/
theorem events_delivered (sink : Sink) (bound : Level) (ops : List Operation) (place : List Nat) :
    (∀ c, sink.part? place = some (.memory (.ofCapacity c)) →
      ∃ m, ((SharedJournal.ofSink sink bound).run ops).journal.sink.part? place =
          some (.memory m) ∧
        m.events.toList =
          ((recent place [bound] ops).filter fun e => sink.admits place e.level).rtake
            (max c 1)) ∧
    (∀ f, sink.part? place = some (.file f) → f.buffer = "" →
      ∃ g, ((SharedJournal.ofSink sink bound).run ops).journal.sink.part? place =
          some (.file g) ∧
        g.path = f.path ∧
        g.written ++ g.buffer = f.written ++ LogFile.lines f.form
          (((accepted [bound] ops).filter fun e => sink.admits place e.level).filter
            (·.level.passes f.bound)) ∧
        ((∃ before, ops = before ++ [.flush] ∨ ops = before ++ [.close] ∧ .close ∉ before) →
          g.buffer = "")) := by
  constructor
  · intro c hc
    obtain ⟨m, hm, hkeeps⟩ := SharedJournal.memory_run (s := .ofSink sink bound) hc rfl ops
    exact ⟨m, hm, hkeeps.newest⟩
  · intro f hfile hempty
    obtain ⟨g, hg, hholds⟩ := SharedJournal.file_run (s := .ofSink sink bound) hfile rfl ops
    have hearlier : f.content = f.written := by
      rw [LogFile.content, hempty, String.append_empty]
    refine ⟨g, hg, hholds.path, hearlier ▸ hholds.content, ?_⟩
    rintro ⟨before, hlast⟩
    obtain ⟨op, rfl, hflushes⟩ : ∃ op, ops = before ++ [op] ∧
        ((SharedJournal.ofSink sink bound).run before).flushes op = true := by
      rcases hlast with rfl | ⟨rfl, hopen⟩
      · exact ⟨.flush, rfl, rfl⟩
      · refine ⟨.close, rfl, ?_⟩
        simp [SharedJournal.flushes, SharedJournal.closed_run, SharedJournal.ofSink,
          Journal.ofSink, hopen]
    obtain ⟨g', hg', -⟩ := SharedJournal.file_run (s := .ofSink sink bound) hfile rfl before
    rw [SharedJournal.run_concat] at hg
    exact SharedJournal.buffer_of_flushes hg' hflushes hg

/-- Two writers, of whom one hears of errors only: the memory, which has room for two events, was
cleared behind the first one, and the file takes no more than warnings. -/
theorem events_delivered_two_writers :
    let event (l : Level) (text : String) : Event := ⟨"12:00", l, Code.info, text, none, []⟩
    let sink := Sink.multi .info
      [.memory (.ofCapacity 2), .file ⟨"log", .warning, .plain, 16, "a\n", ""⟩]
    let ops : List Operation :=
      [.log 0 (event .error "1"), .clone 0, .setBound 1 .error, .clear [0],
       .log 1 (event .warning "2"), .log 0 (event .info "3"), .log 0 (event .debug "4"),
       .log 1 (event .error "5"), .log 0 (event .warning "6"), .close, .log 0 (event .error "7"),
       .flush]
    let s := (SharedJournal.ofSink sink .debug).run ops
    (∃ m, s.journal.sink.part? [0] = some (.memory m) ∧
      m.events.toList = [event .error "5", event .warning "6"]) ∧
    ∃ g, s.journal.sink.part? [1] = some (.file g) ∧ g.buffer = "" ∧
      g.written ++ g.buffer =
        "a\n" ++ LogFile.lines .plain [event .error "1", event .error "5", event .warning "6"] := by
  intro event sink ops s
  constructor
  · exact (events_delivered sink .debug ops [0]).1 2 rfl
  · obtain ⟨g, hfile, -, hcontent, hflushed⟩ := (events_delivered sink .debug ops [1]).2 _ rfl rfl
    exact ⟨g, hfile, hflushed ⟨ops.dropLast, .inl rfl⟩, hcontent⟩

end Offside
