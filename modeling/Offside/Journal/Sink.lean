import Offside.Journal.Event

/-!
# Sinks

Where events go: nowhere, to the console, into memory, into a file, or to several sinks at once.
Memory keeps the newest events; a file is written when its buffer is full or flushed.
-/

namespace Offside

set_option autoImplicit false

/-- How an event is written: on a line for people, or as JSON. -/
inductive Form
  | plain
  | structured
deriving DecidableEq

def Form.line : Form → Event → String
  | plain, e => e.line
  | structured, e => e.toJson.compact

inductive Channel
  | out
  | err
deriving DecidableEq

/-- The newest events, at most `capacity` of them. -/
structure Memory where
  capacity : Nat
  events : Array Event

namespace Memory

def ofCapacity (capacity : Nat) : Memory := ⟨max capacity 1, #[]⟩

/-- Keeps one more event, and drops the oldest if there is no room. -/
def push (m : Memory) (e : Event) : Memory :=
  if m.capacity ≤ m.events.size then
    { m with events := (m.events.extract (m.events.size + 1 - m.capacity) m.events.size).push e }
  else { m with events := m.events.push e }

def clear (m : Memory) : Memory := { m with events := #[] }

end Memory

/-- A file that is written through a buffer. -/
structure LogFile where
  path : String
  bound : Level
  form : Form
  /-- How many bytes are held back before they are written. -/
  capacity : Nat
  /-- What has been written to the file. -/
  written : String := ""
  /-- What has not. -/
  buffer : String := ""

namespace LogFile

def flush (f : LogFile) : LogFile := { f with written := f.written ++ f.buffer, buffer := "" }

/-- Writes a text: into the buffer if it fits there, else after the buffer has been emptied. -/
def write (f : LogFile) (s : String) : LogFile :=
  let f := if f.capacity < f.buffer.utf8ByteSize + s.utf8ByteSize then f.flush else f
  if f.capacity ≤ s.utf8ByteSize then { f with written := f.written ++ s }
  else { f with buffer := f.buffer ++ s }

def deliver (f : LogFile) (e : Event) : LogFile :=
  if e.level.passes f.bound then (f.write (f.form.line e)).write "\n" else f

end LogFile

structure Console where
  bound : Level
  form : Form
  written : Array (Channel × String)

namespace Console

/-- Errors go to one channel and everything else to the other. -/
def deliver (c : Console) (e : Event) : Console :=
  if e.level.passes c.bound then
    let channel := if e.level = .error then Channel.err else Channel.out
    { c with written := c.written.push (channel, c.form.line e) }
  else c

end Console

inductive Sink
  | discard
  | console (c : Console)
  | memory (m : Memory)
  | file (f : LogFile)
  /-- Several sinks, for events of a bounded level. -/
  | multi (bound : Level) (parts : List Sink)

namespace Sink

mutual

def deliver (e : Event) : Sink → Sink
  | discard => discard
  | console c => console (c.deliver e)
  | memory m => memory (m.push e)
  | file f => file (f.deliver e)
  | multi bound parts => multi bound (if e.level.passes bound then deliverAll e parts else parts)

def deliverAll (e : Event) : List Sink → List Sink
  | [] => []
  | s :: ss => s.deliver e :: deliverAll e ss

end

mutual

def flush : Sink → Sink
  | file f => file f.flush
  | multi bound parts => multi bound (flushAll parts)
  | s => s

def flushAll : List Sink → List Sink
  | [] => []
  | s :: ss => s.flush :: flushAll ss

end

mutual

def clear : Sink → Sink
  | memory m => memory m.clear
  | multi bound parts => multi bound (clearAll parts)
  | s => s

def clearAll : List Sink → List Sink
  | [] => []
  | s :: ss => s.clear :: clearAll ss

end

mutual

/-- The events that are kept in memory. -/
def remembered : Sink → List Event
  | memory m => m.events.toList
  | multi _ parts => rememberedAll parts
  | _ => []

def rememberedAll : List Sink → List Event
  | [] => []
  | s :: ss => s.remembered ++ rememberedAll ss

end

mutual

def files : Sink → List LogFile
  | file f => [f]
  | multi _ parts => filesAll parts
  | _ => []

def filesAll : List Sink → List LogFile
  | [] => []
  | s :: ss => s.files ++ filesAll ss

end

mutual

def shown : Sink → List (Channel × String)
  | console c => c.written.toList
  | multi _ parts => shownAll parts
  | _ => []

def shownAll : List Sink → List (Channel × String)
  | [] => []
  | s :: ss => s.shown ++ shownAll ss

end

mutual

/-- The sink after what it has shown and written has been taken away. -/
def settled : Sink → Sink
  | console c => console { c with written := #[] }
  | file f => file { f with written := "" }
  | multi bound parts => multi bound (settledAll parts)
  | s => s

def settledAll : List Sink → List Sink
  | [] => []
  | s :: ss => s.settled :: settledAll ss

end

end Sink

end Offside
