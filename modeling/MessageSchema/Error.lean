/-
What can go wrong, and how it is said. Faults of a line carry its number.
A reader that stops at a fault hands over what it had assembled until then.
-/
import MessageSchema.Text.Quoted

namespace MessageSchema

/-- A fault in the source of a schema, with the line that holds it. -/
inductive LineError where
  /-- The trimmed line is neither a field nor a constant. -/
  | malformed (line : Nat) (text : String)
  | unknownConstantType (line : Nat) (typeName : String)
  | tooManyDelimiters (line : Nat)
  | invalidSize (line : Nat) (size : String)
deriving DecidableEq, Repr

namespace LineError

/-- The line that holds the fault. -/
def line : LineError → Nat
  | malformed n _ => n
  | unknownConstantType n _ => n
  | tooManyDelimiters n => n
  | invalidSize n _ => n

/-- The fault without its line number. -/
def reason : LineError → String
  | malformed _ text => "couldn't parse " ++ Text.quote text ++ " as either a field or a constant"
  | unknownConstantType _ typeName => "unknown constant type " ++ typeName
  | tooManyDelimiters _ => "too many '---' delimiters"
  | invalidSize _ size => "invalid array size " ++ size

/-- The fault in words. -/
def message (e : LineError) : String :=
  "error on line " ++ e.line.repr ++ ": " ++ e.reason

end LineError

/-- Why a file could not be read as text. -/
inductive ReadError where
  /-- The system refuses, and says so by a number and in words. -/
  | system (code : Nat) (words : String)
  /-- The path holds a null character, so the system is not asked. -/
  | nullInPath
  /-- The content is not UTF-8. -/
  | notText
deriving DecidableEq, Repr

namespace ReadError

def notFound : ReadError := system 2 "No such file or directory"

def notDirectory : ReadError := system 20 "Not a directory"

def isDirectory : ReadError := system 21 "Is a directory"

/-- The reason in words, without the number. -/
def words : ReadError → String
  | system _ words => words
  | nullInPath => "file name contained an unexpected NUL byte"
  | notText => "stream did not contain valid UTF-8"

/-- The reason in words. -/
def message : ReadError → String
  | system code words => "I/O error: " ++ words ++ " (os error " ++ code.repr ++ ")"
  | e => "I/O error: " ++ e.words

end ReadError

/-- Why an interface file gave no interface. -/
inductive FileError where
  | line (error : LineError)
  /-- The path names no interface. -/
  | invalidPath (path : String)
  | read (error : ReadError)
deriving DecidableEq, Repr

namespace FileError

/-- The source line at fault, if the source is. -/
def line? : FileError → Option Nat
  | line e => some e.line
  | _ => none

/-- The fault in words. -/
def message : FileError → String
  | line e => e.message
  | invalidPath path => "Invalid interface path: " ++ path
  | read e => e.message

end FileError

/-- A failure, with what had been assembled before it if that is of use. -/
structure Failure (ε α : Type) where
  assembled : Option α
  cause : ε
deriving DecidableEq, Repr

namespace Failure

variable {ε ε' α β : Type}

/-- A failure that leaves nothing. -/
def fatal (cause : ε) : Failure ε α :=
  ⟨none, cause⟩

/-- Changes what was assembled. -/
def map (f : α → β) (e : Failure ε α) : Failure ε β :=
  ⟨e.assembled.map f, e.cause⟩

/-- Changes the cause. -/
def mapCause (f : ε → ε') (e : Failure ε α) : Failure ε' α :=
  ⟨e.assembled, f e.cause⟩

end Failure

end MessageSchema
