import Offside.Json
import Offside.Text.Numeral

/-!
# Documents

What settings need of the format they are written in. Settings are records of truth values, texts,
natural numbers, lists of texts and choices; each format has its own way to write these. In JSON a
record is an object with a member for every field, in any order and beside others, or an array of
its fields in their order; a choice without further data is its name, or an object that maps its
name to `null`. In TOML a record is a table or an array.
-/

namespace Offside

set_option autoImplicit false

class Document (α : Type) where
  /-- The fields of a record in the order of the given names, `none` where one is left out. -/
  fields? : List String → α → Option (List (Option α))
  items? : α → Option (List α)
  text? : α → Option String
  bool? : α → Option Bool
  /-- The name of a choice without further data. -/
  choice? : α → Option String
  /-- A natural number below 2^64. -/
  natural? : α → Option Nat
  /-- Whether a value stands for none. -/
  isNull : α → Bool

namespace Document

variable {α β : Type} [Document α]

/-- The value of a field, or a default if the field is left out. -/
def orElse? (read : α → Option β) (default : β) : Option α → Option β
  | some d => read d
  | none => some default

/-- The fields of a record, all of which have to be given. -/
def allFields? (names : List String) (d : α) : Option (List α) :=
  (fields? names d).bind fun fs => fs.mapM id

def texts? (d : α) : Option (List String) :=
  (items? d).bind fun ds => ds.mapM text?

def optional? (read : α → Option β) (d : α) : Option (Option β) :=
  if isNull d then some none else (read d).map some

end Document

namespace Json

/-- The only member of a given name, or `none` inside if there is no such member. -/
def single? (members : List (Option String × Json)) (name : String) : Option (Option Json) :=
  match members.filter fun m => m.1 == some name with
  | [] => some none
  | [m] => some (some m.2)
  | _ => none

/-- The fields of a record, as far as they are given. -/
def fields? (names : List String) : Json → Option (List (Option Json))
  | object members =>
    if members.all fun m => m.1.isSome then names.mapM (single? members) else none
  | array items =>
    if items.length ≤ names.length then
      some (items.map some ++ List.replicate (names.length - items.length) none)
    else none
  | _ => none

def choice? : Json → Option String
  | text s => s
  | object [(name, null)] => name
  | _ => none

/-- The integer between two bounds that a number spells; it has neither fraction nor exponent. -/
def integerWithin? (low high : Int) : Json → Option Int
  | number "-0" => none
  | number spelling =>
    if spelling.toList.head? == some '+' then none else Text.integer? low high spelling.toList
  | _ => none

def int64? (j : Json) : Option Int := j.integerWithin? Text.int64Min Text.int64Max

def uint64? (j : Json) : Option Nat := (j.integerWithin? 0 Text.uint64Max).map Int.toNat

instance : Document Json where
  fields? := fields?
  items? := items?
  text? := text?
  bool? := bool?
  choice? := choice?
  natural? := uint64?
  isNull
    | null => true
    | _ => false

end Json

inductive Toml
  | string (s : String)
  | integer (n : Int)
  /-- A floating-point number, as it is spelled. -/
  | float (spelling : String)
  | bool (b : Bool)
  /-- A date, a time or both, as it is spelled. -/
  | moment (spelling : String)
  | array (items : List Toml)
  | table (entries : List (String × Toml))
deriving Inhabited

namespace Toml

/-- The fields of a record: the entries of a table by name, or the items of an array by place. A
moment is a record of its own, with none of these fields. -/
def fields? (names : List String) : Toml → Option (List (Option Toml))
  | moment _ => some (names.map fun _ => none)
  | table entries => some (names.map fun n => (entries.find? fun e => e.1 == n).map (·.2))
  | array items =>
    some ((items.take names.length).map some ++
      List.replicate (names.length - items.length) none)
  | _ => none

def choice? : Toml → Option String
  | string s => some s
  | table [(name, array [])] => some name
  | table [(name, table [])] => some name
  | _ => none

instance : Document Toml where
  fields? := fields?
  items?
    | array items => some items
    | _ => none
  text?
    | string s => some s
    | _ => none
  bool?
    | bool b => some b
    | _ => none
  choice? := choice?
  natural?
    | integer n => if 0 ≤ n then some n.toNat else none
    | _ => none
  isNull _ := false

end Toml

end Offside
