/-!
# Command lines

A command line has flags, options with a value and at most one operand. Flags and options start
with two hyphens and may be given once; a value stands behind its option, alone or after `=`.
Everything behind two hyphens alone is an operand. Arguments are read from left to right, and a
request for the version or for help is granted at once.
-/

namespace Offside

set_option autoImplicit false

structure CommandLine where
  flags : List String
  /-- The options by name, each with a test for its values. -/
  options : List (String × (String → Bool))
  operand : String → Bool

/-- What was found on a command line. -/
structure Arguments where
  operand : Option String := none
  flags : List String := []
  values : List (String × String) := []
deriving DecidableEq

namespace Arguments

def hasFlag (a : Arguments) (name : String) : Bool := a.flags.contains name

def value? (a : Arguments) (name : String) : Option String :=
  (a.values.find? fun v => v.1 == name).map (·.2)

end Arguments

/-- What a command line asks for. -/
inductive Request
  | run (a : Arguments)
  | version
  | help
deriving DecidableEq

namespace CommandLine

/-- How a single argument is spelled. -/
inductive Spelling
  | operand
  /-- Two hyphens alone. -/
  | separator
  | short (letters : List Char)
  | long (name : String) (value : Option String)

def spelling (arg : String) : Spelling :=
  match arg.toList with
  | ['-', '-'] => .separator
  | '-' :: '-' :: cs =>
    let name := String.ofList (cs.takeWhile (· != '='))
    match cs.dropWhile (· != '=') with
    | [] => .long name none
    | _ :: value => .long name (some (String.ofList value))
  | '-' :: c :: cs => .short (c :: cs)
  | _ => .operand

def takeOperand (l : CommandLine) (a : Arguments) (arg : String) : Option Arguments :=
  if a.operand.isNone && l.operand arg then some { a with operand := some arg } else none

def takeFlag (l : CommandLine) (a : Arguments) (name : String) : Option Arguments :=
  if l.flags.contains name && !a.hasFlag name then some { a with flags := name :: a.flags }
  else none

def takeOption (l : CommandLine) (a : Arguments) (name value : String) : Option Arguments :=
  match l.options.find? fun o => o.1 == name with
  | some (_, admits) =>
    if admits value && (a.value? name).isNone then
      some { a with values := (name, value) :: a.values }
    else none
  | none => none

def takeOperands (l : CommandLine) (a : Arguments) (args : List String) : Option Request :=
  (args.foldlM l.takeOperand a).map .run

def readFrom (l : CommandLine) (a : Arguments) : List String → Option Request
  | [] => some (.run a)
  | arg :: rest =>
    match spelling arg with
    | .operand => (l.takeOperand a arg).bind fun a => l.readFrom a rest
    | .separator => l.takeOperands a rest
    | .short ('V' :: _) => some .version
    | .short ('h' :: _) => some .help
    | .short _ => none
    | .long "version" none => some .version
    | .long "help" none => some .help
    | .long name (some value) => (l.takeOption a name value).bind fun a => l.readFrom a rest
    | .long name none =>
      if l.flags.contains name then (l.takeFlag a name).bind fun a => l.readFrom a rest
      else match rest with
        | value :: rest =>
          match spelling value with
          | .operand => (l.takeOption a name value).bind fun a => l.readFrom a rest
          | _ => none
        | [] => none

/-- What a command line asks for; `none` if it is not to be understood. -/
def read (l : CommandLine) (args : List String) : Option Request := l.readFrom {} args

end CommandLine

end Offside
