/-
The ways in which a JSON text can fail the one who reads it. Reading goes
from left to right and stops at the first fault.
-/

namespace MessageSchema.Json

/-- Why a JSON text could not be read. -/
inductive Fault where
  /-- The text breaks the grammar. -/
  | malformed
  /-- The text ends too early. -/
  | endOfInput
  /-- The text is well-formed so far, but another value is wanted. -/
  | mistyped
deriving DecidableEq, Repr

namespace Fault

/-- The name of the fault's class. -/
def label : Fault → String
  | malformed => "Syntax"
  | endOfInput => "Eof"
  | mistyped => "Data"

end Fault

end MessageSchema.Json
