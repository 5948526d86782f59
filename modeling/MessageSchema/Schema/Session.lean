/-
A builder driven from outside, one call after the other. A call may change
the builder and may end in a fault; whatever it has changed by then stays
changed, and the next call goes on from there. The waiting comments are used
up where a declaration takes them, so it matters when that happens.
-/
import MessageSchema.Schema.Builder

namespace MessageSchema.Builder

/-- A call on a builder. -/
abbrev Call := EStateM LineError Builder

namespace Call

/-- The comment of a declaration with a comment of its own or none. The
waiting comments are used up. -/
def takeComment (own : Option String) : Call String :=
  modifyGet fun b => (b.pending.attach own, b.withPending .empty)

/-- The constant that a declaration stands for. -/
def takeConstant (line : Nat) (decl : ConstantDecl) : Call Constant := do
  return {
    line
    typeToken := decl.type.name
    primitive := Primitive.ofKeyword? decl.type.name
    name := decl.name
    value := decl.value
    comment := ← takeComment decl.comment }

/-- The field that a declaration stands for. -/
def takeField (line : Nat) (text : String) (decl : FieldDecl) : Call Field := do
  let array ← ofExcept (ArrayKind.ofMarker line decl.type.marker)
  let bound ← ofExcept (stringBound line text decl)
  let b ← get
  let resolved := ResolvedType.resolve b.config b.schema.metadata decl.type.package decl.type.name
  return {
    line
    packageToken := decl.type.package
    typeToken := decl.type.name
    resolved
    array
    stringBound := bound
    defaultText := decl.defaultText
    defaultValue := decl.defaultText.map (.of array resolved.name)
    name := decl.name
    targetName := Identifier.toCamel decl.name
    nativeName := b.config.nativeName decl.name
    comment := ← takeComment decl.comment }

/-- Reads a line without adding it to the schema. -/
def read (line : Nat) (text : String) : Call Contribution := do
  let text := Text.trimmed text
  match LineContent.of text with
  | .comment comment =>
    modify fun b => b.withPending (b.pending.push comment)
    return .nothing
  | .blank =>
    modify fun b => b.withPending .empty
    return .nothing
  | .declaration (.constant decl) => return .constant (← takeConstant line decl)
  | .declaration (.field decl) => return .field (← takeField line text decl)
  | .malformed => throw (.malformed line text)

/-- Reads a line and adds it to the schema. A constant of unknown type is
added before its fault is reported. -/
def feed (line : Nat) (text : String) : Call Unit := do
  match ← read line text with
  | .field f => modify fun b => { b with schema := b.schema.addField f }
  | .constant c =>
    modify fun b => { b with schema := b.schema.addConstant c }
    if c.primitive = none then throw (.unknownConstantType line c.typeToken)
  | .nothing => return ()

end Call

/-! ## Sessions -/

/-- A step of a session: a line is only read, or fed. -/
inductive SessionStep where
  | read (line : Nat) (text : String)
  | feed (line : Nat) (text : String)
deriving DecidableEq, Repr

/-- The call that a step makes. -/
def SessionStep.call : SessionStep → Call Unit
  | read line text => do
    let _ ← Call.read line text
  | feed line text => Call.feed line text

/-- The builder that a step leaves, and its fault if it has one. -/
def perform (b : Builder) (step : SessionStep) : Builder × Option LineError :=
  match step.call.run b with
  | .ok _ b' => (b', none)
  | .error e b' => (b', some e)

/-- The builder that a session leaves, and the faults of its steps in their
order. -/
def session (b : Builder) : List SessionStep → Builder × List LineError
  | [] => (b, [])
  | step :: steps =>
    let (b, fault) := b.perform step
    let (b, faults) := b.session steps
    (b, fault.toList ++ faults)

end MessageSchema.Builder
