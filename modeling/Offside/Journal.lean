import Offside.Journal.Sink

/-!
# The journal

A journal is a sink that can be closed. Whoever logs has a bound of its own: an event is recorded
if its level passes the bound and the journal is open. Several writers can share a journal. All of
them write to its sink, and a journal that one of them closes is closed for all; but each goes by a
bound of its own, which a new writer takes over from the one it comes from.
-/

namespace Offside

set_option autoImplicit false

structure Journal where
  sink : Sink
  closed : Bool

namespace Journal

def ofSink (sink : Sink) : Journal := ⟨sink, false⟩

def disabled : Journal := ofSink .discard

def inMemory (limits : Limits) : Journal :=
  ofSink (.memory (.ofCapacity limits.maxMemoryEvents))

/-- Whether a writer with a bound can record events of a level. -/
def accepts (j : Journal) (bound level : Level) : Bool := level.passes bound && !j.closed

/-- What a writer with a bound shows of itself. -/
def describe (j : Journal) (bound : Level) : String :=
  "LoggingService \x7b min_level: " ++ bound.title ++ ", closed: " ++
    (if j.closed then "true" else "false") ++ " \x7d"

def record (bound : Level) (e : Event) (j : Journal) : Journal :=
  if j.accepts bound e.level then { j with sink := j.sink.deliver e } else j

def flush (j : Journal) : Journal := { j with sink := j.sink.flush }

/-- Flushes and closes a journal; a closed one stays as it is. -/
def close (j : Journal) : Journal := if j.closed then j else ⟨j.sink.flush, true⟩

def clear (j : Journal) : Journal := { j with sink := j.sink.clear }

def events (j : Journal) : List Event := j.sink.remembered

def ofLevel (l : Level) (events : List Event) : List Event := events.filter fun e => e.level == l

def withCode (code : Code) (events : List Event) : List Event :=
  events.filter fun e => e.code == code

def ofCategory (category : String) (events : List Event) : List Event :=
  events.filter fun e => e.diagnostic.category == category

/-- The errors that end the work. -/
def critical (events : List Event) : List Event := events.filter Event.isCritical

/-- Whether there is an event of a level with a code. -/
def has (l : Level) (code : Code) (events : List Event) : Bool :=
  events.any fun e => e.level == l && e.code == code

structure Summary where
  total : Nat
  errors : Nat
  warnings : Nat
  infos : Nat
  debugs : Nat
  critical : Nat
deriving DecidableEq

def summary (events : List Event) : Summary where
  total := events.length
  errors := events.countP fun e => e.level == .error
  warnings := events.countP fun e => e.level == .warning
  infos := events.countP fun e => e.level == .info
  debugs := events.countP fun e => e.level == .debug
  critical := events.countP Event.isCritical

end Journal

namespace Sink

/-- The part of a sink at a place: which of its parts, which of the parts of that one, and so on. -/
def part? : List Nat → Sink → Option Sink
  | [], s => some s
  | i :: place, multi _ parts => parts[i]?.bind (part? place)
  | _ :: _, _ => none

/-- The bounds on the way to a place, from the outside. -/
def guards : List Nat → Sink → List Level
  | i :: place, multi bound parts =>
    bound :: (parts[i]?.map (guards place)).getD []
  | _, _ => []

/-- Clears the memory at a place. -/
def clearAt : List Nat → Sink → Sink
  | [], memory m => memory m.clear
  | i :: place, multi bound parts => multi bound (parts.modify i (clearAt place))
  | _, s => s

end Sink

/-- What can be asked of a journal that has several writers, who are numbered as they came. -/
inductive Operation
  | log (writer : Nat) (e : Event)
  | setBound (writer : Nat) (bound : Level)
  | clone (writer : Nat)
  | flush
  | close
  /-- Clears the memory at a place of the sink. -/
  | clear (place : List Nat)
deriving DecidableEq

/-- A journal with the bounds of its writers. -/
structure SharedJournal where
  journal : Journal
  bounds : List Level

namespace SharedJournal

def ofSink (sink : Sink) (bound : Level) : SharedJournal := ⟨.ofSink sink, [bound]⟩

/-- The journal after an operation; one that names a writer who never came changes nothing. -/
def step (s : SharedJournal) : Operation → SharedJournal
  | .log writer e =>
    match s.bounds[writer]? with
    | some bound => { s with journal := s.journal.record bound e }
    | none => s
  | .setBound writer bound => { s with bounds := s.bounds.set writer bound }
  | .clone writer => { s with bounds := s.bounds ++ s.bounds[writer]?.toList }
  | .flush => { s with journal := s.journal.flush }
  | .close => { s with journal := s.journal.close }
  | .clear place => { s with journal := { s.journal with sink := s.journal.sink.clearAt place } }

def run (s : SharedJournal) (ops : List Operation) : SharedJournal := ops.foldl step s

end SharedJournal

end Offside
