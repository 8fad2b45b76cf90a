import Offside.Diagnostic
import Offside.Json
import Offside.Limits
import Offside.Position
import Offside.Text.Cutting
import Offside.Text.Bytes
import Offside.Text.Lowercase

/-!
# Events

What is worth a line in a log: a level, a code, a message, and perhaps a span and named details. An
event bears the time at which it was made, and a message too long for a log is cut behind the last
character that fits.
-/

namespace Offside

set_option autoImplicit false

/-- How urgent an event is, the most urgent first. -/
inductive Level
  | error
  | warning
  | info
  | debug
deriving DecidableEq, Inhabited

namespace Level

def rank : Level → Nat
  | error => 0
  | warning => 1
  | info => 2
  | debug => 3

def label : Level → String
  | error => "ERROR"
  | warning => "WARN"
  | info => "INFO"
  | debug => "DEBUG"

def title : Level → String
  | error => "Error"
  | warning => "Warning"
  | info => "Info"
  | debug => "Debug"

def name : Level → String
  | error => "error"
  | warning => "warning"
  | info => "info"
  | debug => "debug"

/-- Whether events of level `l` pass where the least urgent level is `bound`. -/
def passes (l bound : Level) : Bool := l.rank ≤ bound.rank

/-- The level a person asked for, by name or number; case and surrounding white space do not
matter. -/
def ofText? (s : String) : Option Level :=
  match Text.lowercase (Text.trimmed s) with
  | "error" => some error
  | "0" => some error
  | "warning" => some warning
  | "warn" => some warning
  | "1" => some warning
  | "info" => some info
  | "2" => some info
  | "debug" => some debug
  | "3" => some debug
  | _ => none

def ofName? (s : String) : Option Level :=
  [error, warning, info, debug].find? fun l => l.name == s

end Level

/-- Named details in the order of their names, each name once. -/
abbrev Context := List (String × String)

namespace Context

/-- Sets a detail; an earlier one of the same name is replaced. -/
def put (key value : String) : Context → Context
  | [] => [(key, value)]
  | (k, v) :: rest =>
    if key = k then (key, value) :: rest
    else if key < k then (key, value) :: (k, v) :: rest
    else (k, v) :: put key value rest

def ofList (details : List (String × String)) : Context :=
  details.foldl (fun c d => put d.1 d.2 c) []

end Context

/-- A message as it is logged: whole if it has no more than `limit` bytes, else what stands before
the last boundary within them, and three dots. -/
def clipMessage? (limit : Nat) (message : String) : Option String :=
  if message.utf8ByteSize ≤ limit then some message
  else (Text.boundaryBefore? message limit).bind fun n =>
    (Text.firstBytes? message n).map fun start => start ++ "..."

theorem clipMessage?_of_le {limit : Nat} {message : String} (h : message.utf8ByteSize ≤ limit) :
    clipMessage? limit message = some message :=
  if_pos h

theorem clipMessage?_of_boundary {limit : Nat} {p rest : String}
    (h : limit < (p ++ rest).utf8ByteSize)
    (hp : Text.boundaryBefore? (p ++ rest) limit = some p.utf8ByteSize) :
    clipMessage? limit (p ++ rest) = some (p ++ "...") := by
  rw [clipMessage?, if_neg (Nat.not_le.mpr h), hp, Option.bind_some, Text.firstBytes?_append,
    Option.map_some]

/-- No message is too long to be logged. -/
theorem isSome_clipMessage? (limit : Nat) (message : String) :
    (clipMessage? limit message).isSome = true := by
  rcases Nat.lt_or_ge limit message.utf8ByteSize with hlong | hshort
  · obtain ⟨n, hn, -, hboundary, -⟩ := Text.boundaryBefore?_eq_some message limit
    obtain ⟨p, rest, rfl, rfl⟩ := Text.isBoundary_iff.mp hboundary
    rw [clipMessage?_of_boundary hlong hn, Option.isSome_some]
  · rw [clipMessage?_of_le hshort, Option.isSome_some]

def clipMessage (limit : Nat) (message : String) : String :=
  (clipMessage? limit message).get (isSome_clipMessage? limit message)

structure Event where
  /-- When the event was made, as a structured log shows it. -/
  time : String
  level : Level
  code : Code
  message : String
  span : Option Span
  context : Context
deriving DecidableEq, Inhabited

namespace Event

section Making

variable (limits : Limits) (time : String)

def of (level : Level) (code : Code) (message : String) (details : List (String × String)) :
    Event :=
  ⟨time, level, code, clipMessage limits.maxLogMessageLength message, none, Context.ofList details⟩

def error (code : Code) (message : String) (details : List (String × String)) : Event :=
  of limits time .error code message details

def success (code : Code) (message : String) (details : List (String × String)) : Event :=
  of limits time .info code message details

def debug (message : String) (details : List (String × String)) : Event :=
  of limits time .debug Code.debug message details

end Making

def withSpan (e : Event) (s : Span) : Event := { e with span := some s }

def withDetail (e : Event) (key value : String) : Event :=
  { e with context := e.context.put key value }

def diagnostic (e : Event) : Diagnostic := .of e.code

def isCritical (e : Event) : Bool := e.level == .error && e.diagnostic.requiresHalt

def line (e : Event) : String :=
  "[" ++ e.level.label ++ "] " ++ e.code ++ " - " ++ e.message ++
    match e.span with
    | some s => " at " ++ toString s.start.line ++ ":" ++ toString s.start.column
    | none => ""

/-- An event with all that is known about it, over several lines. -/
def details (e : Event) : String :=
  let d := e.diagnostic
  e.line ++ "\n  Category: " ++ d.category ++ "\n  Severity: " ++ d.severity.label ++
  (if e.level = .error then
    "\n  Recoverable: " ++ toString d.recoverable ++ "\n  Requires halt: " ++
      toString d.requiresHalt
  else "") ++
  (if d.description = "Unknown error" then "" else "\n  Description: " ++ d.description) ++
  (if d.action = "No specific action available" then ""
    else "\n  Recommended action: " ++ d.action) ++
  (if e.context.isEmpty then ""
  else "\n  Context:" ++
    String.join (e.context.map fun p => "\n    " ++ p.1 ++ ": " ++ p.2))

def spanJson (s : Span) : Json :=
  .struct [("end_column", .int s.stop.column), ("end_line", .int s.stop.line),
    ("start_column", .int s.start.column), ("start_line", .int s.start.line)]

/-- An event as a JSON object with its members in the order of their names. -/
def toJson (e : Event) : Json :=
  let d := e.diagnostic
  .struct <|
    [("category", .string d.category), ("code", .string e.code)] ++
    (if e.context.isEmpty then []
    else [("context", .struct (e.context.map fun p => (p.1, .string p.2)))]) ++
    (if e.level = .error then
      [("error_metadata", .struct
        [("description", .string d.description), ("recommended_action", .string d.action),
         ("recoverable", .bool d.recoverable), ("requires_halt", .bool d.requiresHalt)])]
    else []) ++
    [("level", .string e.level.label), ("message", .string e.message),
     ("severity", .string d.severity.label)] ++
    (match e.span with
    | some s => [("span", spanJson s)]
    | none => []) ++
    [("timestamp", .string e.time)]

end Event

end Offside
