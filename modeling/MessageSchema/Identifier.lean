/-
Identifiers and the names derived from them.

`toCamel` joins the words of a snake-case name, each with a capital.
`toSnake` goes back: a run of capitals together with the digits right after
it is one word, and the last capital of a run starts a new word when a
small letter follows it, so that `TF2Error` becomes `tf2_error` and
`TFMessage` becomes `tf_message`.

Generated schemas carry the name of the service or action they belong to
followed by a fixed ending; `dropEnding` finds the name again.
-/
import MessageSchema.Text.CaseMapping
import MessageSchema.Text.Numeric
import MessageSchema.Text.Uppercase

namespace MessageSchema.Identifier

open Text

/-! ## Case -/

/-- Drops underscores and puts the character after each into capitals, and
the next one too when `capital` is set. -/
def camelChars (capital : Bool) : List Char → List Char
  | [] => []
  | c :: cs =>
    if c = '_' then camelChars true cs
    else if capital then upper c ++ camelChars false cs
    else c :: camelChars false cs

/-- The camel-case form: `float64_values` becomes `Float64Values`. -/
def toCamel (name : String) : String :=
  String.ofList (camelChars true name.toList)

/-- Whether a character goes on a run of capitals. -/
def continuesRun (c : Char) : Bool :=
  isUppercase c || isNumeric c

/-- Whether the character in front of `rest` is the last of its run and a
small letter or the like follows. -/
def endsRun : List Char → Bool
  | [] => false
  | next :: _ => !continuesRun next

/-- Puts capitals into small letters, with an underscore before each that
starts a word. `first` says that no character precedes, `inRun` that the
one before belongs to a run of capitals and digits. -/
def snakeChars (first inRun : Bool) : List Char → List Char
  | [] => []
  | c :: cs =>
    if isUppercase c || (inRun && isNumeric c) then
      let startsWord := !first && (!inRun || endsRun cs)
      (if startsWord then ['_'] else []) ++ lower c ++ snakeChars false true cs
    else c :: snakeChars false false cs

/-- The snake-case form: `MultiDOFJointState` becomes `multi_dof_joint_state`. -/
def toSnake (name : String) : String :=
  String.ofList (snakeChars true false name.toList)

/-! ## Endings -/

/-- The endings of the two halves of a service. -/
def serviceEndings : List String :=
  ["_Request", "_Response"]

/-- The endings of the messages generated for an action. -/
def actionMessageEndings : List String :=
  ["_Goal", "_Result", "_Feedback", "_SendGoal_Request", "_SendGoal_Response",
   "_GetResult_Request", "_GetResult_Response", "_FeedbackMessage"]

/-- The endings of the services generated for an action. -/
def actionServiceEndings : List String :=
  ["_SendGoal", "_GetResult"]

/-- Removes the first of the endings that the name has, once. -/
def dropEnding (endings : List String) (name : String) : String :=
  match endings.find? fun e => e.toList.isSuffixOf name.toList with
  | some e => String.ofList (name.toList.take (name.toList.length - e.toList.length))
  | none => name

/-- The service that a request or response schema belongs to. -/
def serviceOfHalf (name : String) : String :=
  dropEnding serviceEndings name

/-- The action that a generated message belongs to. -/
def actionOfMessage (name : String) : String :=
  dropEnding actionMessageEndings name

/-- The action that a generated service belongs to. -/
def actionOfService (name : String) : String :=
  dropEnding actionServiceEndings name

end MessageSchema.Identifier
