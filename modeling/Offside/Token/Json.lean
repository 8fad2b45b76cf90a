import Offside.Json
import Offside.Json.Reader
import Offside.Document
import Offside.Token

/-!
# Tokens in JSON

A token as an object of its kind, its text and its span, the span as an object of two positions. The
name of a kind follows a rule, from which two kinds are exempt.
-/

namespace Offside

set_option autoImplicit false

namespace Position

def toJson (p : Position) : Json :=
  .struct [("line", .int p.line), ("column", .int p.column)]

def ofJson? (j : Json) : Option Position := do
  match ← Document.allFields? ["line", "column"] j with
  | [line, column] => some ⟨← line.int64?, ← column.int64?⟩
  | _ => none

end Position

namespace Span

def toJson (s : Span) : Json :=
  .struct [("start", s.start.toJson), ("end", s.stop.toJson)]

def ofJson? (j : Json) : Option Span := do
  match ← Document.allFields? ["start", "end"] j with
  | [start, stop] => some ⟨← Position.ofJson? start, ← Position.ofJson? stop⟩
  | _ => none

end Span

namespace Kind

/-- The name of a kind, each word of it with a capital. -/
def title : Kind → String
  | encoding => "Encoding"
  | name => "Name"
  | number => "Number"
  | string => "String"
  | comment => "Comment"
  | op => "Op"
  | indent => "Indent"
  | dedent => "Dedent"
  | newline => "Newline"
  | nl => "Nl"
  | endMarker => "EndMarker"
  | unknown => "Unknown"

/-- Capitals throughout, with an underscore before each word but the first. -/
def screaming : List Char → List Char
  | [] => []
  | c :: cs => c.toUpper :: cs.flatMap fun d => if d.isUpper then ['_', d] else [d.toUpper]

def jsonName : Kind → String
  | endMarker => "ENDMARKER"
  | unknown => "unknown"
  | k => String.ofList (screaming k.title.toList)

def ofJsonName? (s : String) : Option Kind :=
  (emitted ++ [unknown]).find? fun k => k.jsonName == s

end Kind

namespace Token

def toJson (t : Token) : Json :=
  .struct [("kind", .string t.kind.jsonName), ("text", .string t.text), ("span", t.span.toJson)]

def ofJson? (j : Json) : Option Token := do
  match ← Document.allFields? ["kind", "text", "span"] j with
  | [kind, text, span] =>
    some ⟨← kind.choice?.bind Kind.ofJsonName?, ← text.text?, ← Span.ofJson? span⟩
  | _ => none

/-- The tokens as one JSON document without spaces. -/
def listText (ts : List Token) : String := (Json.array (ts.map toJson)).compact

def ofJsonText? (s : String) : Option Token := (Json.ofString? s).bind ofJson?

def listOfJson? (j : Json) : Option (List Token) :=
  j.items?.bind fun items => items.mapM ofJson?

def listOfText? (s : String) : Option (List Token) := (Json.ofString? s).bind listOfJson?

end Token

end Offside
