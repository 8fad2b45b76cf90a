import Offside.Diagnostic
import Offside.Text.Quoted

/-!
# Lexical errors

Why a source has no tokens. Each error ends the whole run; lines are counted from one and columns
from zero, in characters.
-/

namespace Offside

set_option autoImplicit false

inductive LexError
  /-- No entry of the table matches the rest of a line. -/
  | patternMismatch (line column : Nat) (text : String)
  /-- A line is indented less than the one before it, but not as any open block is. -/
  | indentation (line width : Nat)
  /-- A bracket closes where none is open. -/
  | bracketUnderflow (line column : Nat) (bracket : Char)
  /-- The source ends within a string that was opened at a place. -/
  | unterminatedString (line column : Nat)
  /-- The source of `line` lines ends with open brackets. -/
  | unclosedBracket (depth line : Nat)
  /-- A pattern of the table cannot be compiled. -/
  | invalidPattern (pattern message : String)
deriving DecidableEq

namespace LexError

def code : LexError → Code
  | patternMismatch .. => Code.patternMismatch
  | indentation .. => Code.indentation
  | bracketUnderflow .. => Code.bracketUnderflow
  | unterminatedString .. => Code.unterminatedString
  | unclosedBracket .. => Code.unclosedBracket
  | invalidPattern .. => Code.invalidPattern

def line? : LexError → Option Nat
  | patternMismatch line .. => some line
  | indentation line _ => some line
  | bracketUnderflow line .. => some line
  | unterminatedString line _ => some line
  | unclosedBracket _ line => some line
  | invalidPattern .. => none

/-- Whether an error is about what was open when the source ended. -/
def isEndOfInput : LexError → Bool
  | unterminatedString .. => true
  | unclosedBracket .. => true
  | _ => false

def message : LexError → String
  | patternMismatch line column text =>
    "No pattern matches " ++ Text.quoted text ++ " at line " ++ toString line ++ ", column " ++
      toString column
  | indentation line width =>
    "unindent does not match any outer indentation level (line " ++ toString line ++ ", width " ++
      toString width ++ ")"
  | bracketUnderflow line column bracket =>
    "Unmatched closing bracket '" ++ bracket.toString ++ "' at line " ++ toString line ++
      ", column " ++ toString column
  | unterminatedString line column =>
    "EOF in multi-line string starting at line " ++ toString line ++ ", column " ++ toString column
  | unclosedBracket depth line =>
    "EOF in multi-line statement: " ++ toString depth ++ " unclosed bracket(s) after line " ++
      toString line
  | invalidPattern pattern message =>
    "Invalid pattern " ++ Text.quoted pattern ++ ": " ++ message

end LexError

end Offside
