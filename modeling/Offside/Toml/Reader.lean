import Offside.Toml.Scalars
import Offside.Toml.Strings

/-!
# Reading TOML

A document is a sequence of lines: a key with its value, the header of a table or of one more table
in an array, or nothing. No key may be given twice, and no table may be defined twice. Values are
nested, and keys are divided, less than `depthLimit` times. All reading takes a bound on the steps
that are left, of which one more than the document has characters is enough.
-/

namespace Offside.Toml

set_option autoImplicit false

/-- What stands under a key while a document is read. -/
inductive Item
  | value (v : Toml)
  /-- A table; `implied` if no header and no braces define it, `dotted` if keys with dots do. -/
  | table (implied dotted : Bool) (entries : List (String × Item))
  /-- Tables under one header, the last one first. -/
  | tables (list : List (List (String × Item)))

abbrev Entries := List (String × Item)

mutual

def Item.toToml : Item → Toml
  | .value v => v
  | .table _ _ entries => .table (entriesToToml entries)
  | .tables list => .array (tablesToToml list).reverse

def entriesToToml : List (String × Item) → List (String × Toml)
  | [] => []
  | (k, i) :: rest => (k, i.toToml) :: entriesToToml rest

def tablesToToml : List (List (String × Item)) → List Toml
  | [] => []
  | t :: rest => .table (entriesToToml t) :: tablesToToml rest

end

namespace Entries

def get? (t : Entries) (key : String) : Option Item := (t.find? fun e => e.1 == key).map (·.2)

/-- Sets a key, in its place if it is there. -/
def set (key : String) (item : Item) : Entries → Entries
  | [] => [(key, item)]
  | (k, i) :: rest => if k = key then (k, item) :: rest else (k, i) :: set key item rest

/-- Changes the table that keys lead to; `change` is told whether keys with dots define it. Tables
that are missing on the way are implied. Keys with dots lead through implied tables only. -/
def update (dotted : Bool) (change : Bool → Entries → Option Entries) :
    List String → Bool → Entries → Option Entries
  | [], isDotted, t => change isDotted t
  | key :: keys, _, t =>
    match t.get? key with
    | none =>
      (update dotted change keys dotted []).map fun u => t.set key (.table true dotted u)
    | some (.table implied isDotted u) =>
      if dotted && !implied then none
      else (update dotted change keys isDotted u).map fun u => t.set key (.table implied isDotted u)
    | some (.tables (u :: us)) =>
      (update dotted change keys false u).map fun u => t.set key (.tables (u :: us))
    | some (.tables []) => none
    | some (.value _) => none

def insertNew (key : String) (item : Item) (t : Entries) : Option Entries :=
  if (t.get? key).isSome then none else some (t.set key item)

/-- Sets a key with dots, `path` before its last part. -/
def insertAt (path : List String) (key : String) (item : Item) (t : Entries) : Option Entries :=
  update true (fun isDotted u => if isDotted == path.isEmpty then none else insertNew key item u)
    path false t

end Entries

/-- The table whose lines are being read: the keys of its header and whether it is in an array. -/
structure Section where
  path : List String
  inArray : Bool
  entries : Entries

structure Draft where
  root : Entries
  current : Section

namespace Draft

def empty : Draft := ⟨[], ⟨[], false, []⟩⟩

/-- The tables of a document with the current one put into its place. -/
def close (d : Draft) : Option Entries :=
  match d.current.path.getLast? with
  | none => some d.current.entries
  | some key =>
    d.root.update false (fun _ t =>
      if d.current.inArray then
        match t.get? key with
        | none => some (t.set key (.tables [d.current.entries]))
        | some (.tables list) => some (t.set key (.tables (d.current.entries :: list)))
        | some _ => none
      else some (t.set key (.table false false d.current.entries))) d.current.path.dropLast false

def addPair (d : Draft) (path : List String) (key : String) (v : Toml) : Option Draft :=
  (d.current.entries.insertAt path key (.value v)).map fun t =>
    { d with current := { d.current with entries := t } }

/-- Checks that a header may stand for a table of its own; gives what is in the table already. -/
def implied? (root : Entries) (path : List String) (key : String) : Option Entries :=
  let rec find : List String → Entries → Option Entries
    | [], t =>
      match t.get? key with
      | none => some []
      | some (.table true false entries) => some entries
      | some _ => none
    | k :: ks, t =>
      match t.get? k with
      | none => some []
      | some (.table _ _ u) => find ks u
      | some (.tables (u :: _)) => find ks u
      | some (.tables []) => none
      | some (.value _) => none
  find path root

/-- Whether a header may stand for one more table in an array. -/
def admitsTable (root : Entries) (path : List String) (key : String) : Bool :=
  let rec find : List String → Entries → Bool
    | [], t =>
      match t.get? key with
      | none => true
      | some (.tables _) => true
      | some _ => false
    | k :: ks, t =>
      match t.get? k with
      | none => true
      | some (.table _ _ u) => find ks u
      | some (.tables (u :: _)) => find ks u
      | some (.tables []) => false
      | some (.value _) => false
  find path root

/-- Starts the table of a header. -/
def openTable (d : Draft) (path : List String) (key : String) (inArray : Bool) : Option Draft := do
  let root ← d.close
  if inArray then
    if admitsTable root path key then some ⟨root, ⟨path ++ [key], true, []⟩⟩ else none
  else
    let entries ← implied? root path key
    some ⟨root, ⟨path ++ [key], false, entries⟩⟩

end Draft

def dropSpace (cs : List Char) : List Char := cs.dropWhile isSpace

/-- Drops white space, line ends and comments. -/
def dropFill (inComment : Bool) : List Char → Option (List Char)
  | [] => some []
  | '\n' :: rest => dropFill false rest
  | '\r' :: '\n' :: rest => dropFill false rest
  | c :: rest =>
    if inComment then if isControl c then none else dropFill true rest
    else if isSpace c then dropFill false rest
    else if c = '#' then dropFill true rest
    else some (c :: rest)

/-- Drops what may follow on a line: white space, a comment and the line end. -/
def dropLineEnd (cs : List Char) : Option (List Char) :=
  let comment := dropSpace cs
  let rest := if comment.head? == some '#' then comment.dropWhile fun c => !isControl c else comment
  match rest with
  | [] => some []
  | '\n' :: rest => some rest
  | '\r' :: '\n' :: rest => some rest
  | _ => none

/-- How many parts of a key, and how many brackets and braces around a value, are too many. -/
def depthLimit : Nat := 80

def isBareKeyChar (c : Char) : Bool := c.isAlphanum || c == '-' || c == '_'

def keyPart? (cs : List Char) : Option (String × List Char) :=
  match cs with
  | '"' :: _ => lineString? cs
  | '\'' :: _ => lineString? cs
  | _ =>
    let part := cs.takeWhile isBareKeyChar
    if part.isEmpty then none else some (String.ofList part, cs.dropWhile isBareKeyChar)

/-- Reads a key of which some parts are read: its parts but the last, the last part and what
follows. -/
def key? (left : Nat) (parts : List String) (cs : List Char) :
    Option (List String × String × List Char) :=
  match left with
  | 0 => none
  | left + 1 =>
    match keyPart? (dropSpace cs) with
    | none => none
    | some (part, rest) =>
      match dropSpace rest with
      | '.' :: rest => key? left (parts ++ [part]) rest
      | rest => some (parts, part, rest)

def wholeKey? (cs : List Char) : Option (List String × String × List Char) :=
  key? (depthLimit - 1) [] cs

mutual

def value? (depth steps : Nat) (cs : List Char) : Option (Toml × List Char) :=
  match steps, depth, cs with
  | 0, _, _ => none
  | _ + 1, 0, '[' :: _ => none
  | _ + 1, 0, '\x7b' :: _ => none
  | steps + 1, depth + 1, '[' :: rest => arrayFrom? depth steps [] rest
  | steps + 1, depth + 1, '\x7b' :: rest =>
    match dropSpace rest with
    | '\x7d' :: rest => some (.table [], rest)
    | rest => tableFrom? depth steps [] rest
  | _ + 1, _, '"' :: rest => (string? ('"' :: rest)).map fun p => (.string p.1, p.2)
  | _ + 1, _, '\'' :: rest => (string? ('\'' :: rest)).map fun p => (.string p.1, p.2)
  | _ + 1, _, cs => scalar? cs

/-- Reads the rest of an array behind the given items, the last one first. -/
def arrayFrom? (depth steps : Nat) (items : List Toml) (cs : List Char) :
    Option (Toml × List Char) :=
  match steps with
  | 0 => none
  | steps + 1 =>
    match dropFill false cs with
    | none => none
    | some (']' :: rest) => some (.array items.reverse, rest)
    | some cs =>
      match value? depth steps cs with
      | none => none
      | some (v, rest) =>
        match dropFill false rest with
        | some (',' :: rest) => arrayFrom? depth steps (v :: items) rest
        | some (']' :: rest) => some (.array (v :: items).reverse, rest)
        | _ => none

/-- Reads the rest of a table in braces behind the given entries. -/
def tableFrom? (depth steps : Nat) (entries : Entries) (cs : List Char) :
    Option (Toml × List Char) :=
  match steps with
  | 0 => none
  | steps + 1 =>
    match wholeKey? cs with
    | some (path, key, '=' :: rest) =>
      match value? depth steps (dropSpace rest) with
      | none => none
      | some (v, rest) =>
        match entries.insertAt path key (.value v), dropSpace rest with
        | some entries, ',' :: rest => tableFrom? depth steps entries rest
        | some entries, '\x7d' :: rest => some (.table (entriesToToml entries), rest)
        | _, _ => none
    | _ => none

end

/-- Reads a line, and gives what follows it. -/
def line? (steps : Nat) (d : Draft) (cs : List Char) : Option (Draft × List Char) := do
  match dropSpace cs with
  | '[' :: '[' :: rest =>
    match ← wholeKey? rest with
    | (path, key, ']' :: ']' :: rest) =>
      let rest ← dropLineEnd rest
      some (← d.openTable path key true, rest)
    | _ => none
  | '[' :: rest =>
    match ← wholeKey? rest with
    | (path, key, ']' :: rest) =>
      let rest ← dropLineEnd rest
      some (← d.openTable path key false, rest)
    | _ => none
  | rest =>
    match dropLineEnd rest with
    | some rest => some (d, rest)
    | none =>
      match ← wholeKey? rest with
      | (path, key, '=' :: rest) =>
        let (v, rest) ← value? (depthLimit - 1) steps (dropSpace rest)
        let rest ← dropLineEnd rest
        some (← d.addPair path key v, rest)
      | _ => none

/-- Reads lines to the end of a document. -/
def lines? (steps : Nat) (d : Draft) (cs : List Char) : Option Draft :=
  match steps, cs with
  | _, [] => some d
  | 0, _ => none
  | steps + 1, cs =>
    match line? (steps + 1) d cs with
    | some (d, rest) => lines? steps d rest
    | none => none

/-- The table that a document spells. A byte order mark may come first. -/
def ofString? (s : String) : Option Toml := do
  let cs := match s.toList with
    | '\uFEFF' :: rest => rest
    | cs => cs
  let d ← lines? (cs.length + 1) .empty cs
  some (.table (entriesToToml (← d.close)))

end Offside.Toml
