/-!
# Diagnostic codes

Every error and every success worth a report has a code. The register says of each code what it
means, how grave it is and what to do about it; a code that is not registered is taken for a
recoverable trouble of medium severity.
-/

namespace Offside

set_option autoImplicit false

abbrev Code := String

namespace Code

def internal : Code := "ERR001"
def initialization : Code := "ERR002"
def fileNotFound : Code := "E005"
def extension : Code := "E006"
def fileTooLarge : Code := "E007"
def emptyFile : Code := "E008"
def filePermission : Code := "E009"
def encoding : Code := "E010"
def io : Code := "E011"
def path : Code := "E012"
def tooManyLines : Code := "E013"
def patternMismatch : Code := "E020"
def indentation : Code := "E021"
def bracketUnderflow : Code := "E022"
def unterminatedString : Code := "E023"
def unclosedBracket : Code := "E024"
def cursorExhausted : Code := "E025"
def invalidPattern : Code := "E026"
def referenceNotFound : Code := "E060"
def referenceFailed : Code := "E061"
def referenceTimeout : Code := "E062"
def malformedReference : Code := "E063"
def tokenMismatch : Code := "E064"
def referencePermission : Code := "E065"
def completed : Code := "I001"
def fileRead : Code := "I006"
def tokenized : Code := "I020"
def referenceMatch : Code := "I060"

/-- The codes of events that were given none. -/
def warning : Code := "W000"

def info : Code := "I000"

def debug : Code := "D000"

end Code

/-- How grave a matter is, the gravest first. -/
inductive Severity
  | critical
  | high
  | medium
  | low
deriving DecidableEq, Inhabited

namespace Severity

def label : Severity → String
  | critical => "Critical"
  | high => "High"
  | medium => "Medium"
  | low => "Low"

def rank : Severity → Nat
  | critical => 0
  | high => 1
  | medium => 2
  | low => 3

end Severity

structure Diagnostic where
  code : Code
  category : String := "Unknown"
  severity : Severity := .medium
  recoverable : Bool := true
  requiresHalt : Bool := false
  description : String := "Unknown error"
  action : String := "No specific action available"
deriving DecidableEq, Inhabited

namespace Diagnostic

def register : List Diagnostic :=
  [⟨Code.internal, "System", .critical, false, true,
     "Critical internal system error",
     "File a bug report with the input that triggered it"⟩,
   ⟨Code.initialization, "System", .critical, false, true,
     "Startup initialization failed",
     "Check configuration files and log destinations"⟩,
   ⟨Code.fileNotFound, "FileProcessing", .high, false, true,
     "Input file not found",
     "Verify the file path exists and is accessible"⟩,
   ⟨Code.extension, "FileProcessing", .medium, false, true,
     "Input file has an unexpected extension",
     "Use a .py file or disable the extension requirement"⟩,
   ⟨Code.fileTooLarge, "FileProcessing", .high, false, true,
     "Input file exceeds the maximum size",
     "Split the file or raise the profile limit"⟩,
   ⟨Code.emptyFile, "FileProcessing", .low, true, false,
     "Input file is empty",
     "Provide a non-empty file or allow empty files"⟩,
   ⟨Code.filePermission, "FileProcessing", .high, false, true,
     "Permission denied reading input file",
     "Check file permissions"⟩,
   ⟨Code.encoding, "FileProcessing", .high, false, true,
     "Input file is not valid UTF-8",
     "Re-encode the file as UTF-8"⟩,
   ⟨Code.io, "FileProcessing", .high, false, true,
     "I/O error reading input file",
     "Check disk and filesystem state"⟩,
   ⟨Code.path, "FileProcessing", .medium, false, true,
     "Invalid input path",
     "Pass a path to a regular file"⟩,
   ⟨Code.tooManyLines, "FileProcessing", .high, false, true,
     "Input file exceeds the maximum line count",
     "Split the file or raise the profile limit"⟩,
   ⟨Code.patternMismatch, "Lexical", .high, false, true,
     "No pattern matches the remaining line text",
     "Remove or replace the unrecognized characters"⟩,
   ⟨Code.indentation, "Lexical", .high, false, true,
     "Unindent does not match any outer indentation level",
     "Align the line with an enclosing block"⟩,
   ⟨Code.bracketUnderflow, "Lexical", .high, false, true,
     "Closing bracket without an open counterpart",
     "Remove the bracket or add the matching opener"⟩,
   ⟨Code.unterminatedString, "Lexical", .high, false, true,
     "End of input inside a multi-line string",
     "Close the triple-quoted string or use the lenient policy"⟩,
   ⟨Code.unclosedBracket, "Lexical", .high, false, true,
     "End of input inside an open bracket",
     "Close the bracket or use the lenient policy"⟩,
   ⟨Code.cursorExhausted, "Lexical", .low, true, false,
     "Sequential retrieval past the last token",
     "Check remaining tokens before retrieving"⟩,
   ⟨Code.invalidPattern, "Lexical", .critical, false, true,
     "Pattern table entry failed to compile",
     "Fix the configured operator list"⟩,
   ⟨Code.referenceNotFound, "Differential", .high, false, true,
     "Reference tokenizer program not found",
     "Install python3 or pass --reference"⟩,
   ⟨Code.referenceFailed, "Differential", .high, false, true,
     "Reference tokenizer failed",
     "Inspect the reference stderr output"⟩,
   ⟨Code.referenceTimeout, "Differential", .high, false, true,
     "Reference tokenizer timed out",
     "Raise the timeout or shrink the input"⟩,
   ⟨Code.malformedReference, "Differential", .high, false, true,
     "Reference output line could not be parsed",
     "Check the reference tokenizer version"⟩,
   ⟨Code.tokenMismatch, "Differential", .medium, true, false,
     "Token streams differ",
     "Inspect the mismatch context"⟩,
   ⟨Code.referencePermission, "Differential", .high, false, true,
     "Reference program not permitted",
     "Add the program to the executor allow-list"⟩,
   ⟨Code.completed, "Success", .low, true, false,
     "Operation completed successfully",
     "No action required"⟩,
   ⟨Code.fileRead, "Success", .low, true, false,
     "File read and split into lines",
     "Continue to tokenization"⟩,
   ⟨Code.tokenized, "Success", .low, true, false,
     "Tokenization completed",
     "No action required"⟩,
   ⟨Code.referenceMatch, "Success", .low, true, false,
     "Token stream matches the reference tokenizer",
     "No action required"⟩]

/-- What a registered code stands for. -/
def find? (code : Code) : Option Diagnostic :=
  register.find? fun d => d.code == code

/-- What a code stands for, registered or not. -/
def of (code : Code) : Diagnostic := (find? code).getD { code }

end Diagnostic

end Offside
