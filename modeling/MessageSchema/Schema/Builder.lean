/-
A schema under construction. Lines are read one after the other: a comment
line waits for the next declaration, a blank line drops the waiting
comments, and a declaration takes them and is added to the schema.

A line at fault leaves everything as it was, with one exception: a constant
of unknown type is still added before the fault is reported. A whole text
is read up to its first fault.
-/
import MessageSchema.Comment
import MessageSchema.Declaration.Grammar
import MessageSchema.Error
import MessageSchema.Identifier
import MessageSchema.Schema
import MessageSchema.Text.Lines

namespace MessageSchema

/-! ## Lines -/

/-- What a trimmed line holds. -/
inductive LineContent where
  | comment (text : String)
  | blank
  | declaration (decl : Declaration)
  | malformed
deriving DecidableEq, Repr

/-- Tells what a trimmed line holds. -/
def LineContent.of (line : String) : LineContent :=
  match Declaration.commentText? line with
  | some text => comment text
  | none =>
    if line = "" then blank
    else
      match Declaration.read? line with
      | some decl => declaration decl
      | none => malformed

/-! ## Sizes -/

/-- Reads a size in the given line. -/
def readSize (line : Nat) (digits : String) : Except LineError Nat :=
  match readSize? digits with
  | some n => .ok n
  | none => .error (.invalidSize line digits)

/-- The array kind that a marker stands for. -/
def ArrayKind.ofMarker (line : Nat) : Option ArrayMarker → Except LineError ArrayKind
  | none => .ok .scalar
  | some m =>
    if m.bounded then (readSize line m.size).map .bounded
    else if m.size = "" then .ok .unbounded
    else (readSize line m.size).map .fixed

/-- The default of a field whose type has the given name. -/
def DefaultValue.of (array : ArrayKind) (typeName text : String) : DefaultValue :=
  if array.isArray then .list (split typeName text) else .scalar (normalize typeName text)

/-! ## Building -/

/-- A schema under construction, and the comments that wait for its next
declaration. -/
structure Builder where
  config : Config
  schema : Schema
  pending : PendingComment
deriving DecidableEq

/-- What one line adds to a schema. -/
inductive Contribution where
  | field (f : Field)
  | constant (c : Constant)
  | nothing
deriving DecidableEq, Repr

namespace Builder

/-- The start of a schema. -/
def start (config : Config) (metadata : Metadata) : Builder :=
  ⟨config, .empty metadata, .empty⟩

/-- The bound of a text field. Only text types may be bounded; `text` is the
whole line. -/
def stringBound (line : Nat) (text : String) (decl : FieldDecl) : Except LineError (Option Nat) :=
  match decl.stringBound with
  | none => .ok none
  | some digits =>
    if isTextualName decl.type.name then (readSize line digits).map some
    else .error (.malformed line text)

/-- The field that a declaration stands for here. -/
def field (b : Builder) (line : Nat) (text : String) (decl : FieldDecl) : Except LineError Field := do
  let array ← ArrayKind.ofMarker line decl.type.marker
  let bound ← stringBound line text decl
  let resolved := ResolvedType.resolve b.config b.schema.metadata decl.type.package decl.type.name
  return {
    line
    packageToken := decl.type.package
    typeToken := decl.type.name
    resolved
    array
    stringBound := bound
    defaultText := decl.defaultText
    defaultValue := decl.defaultText.map (.of array resolved.name)
    name := decl.name
    targetName := Identifier.toCamel decl.name
    nativeName := b.config.nativeName decl.name
    comment := b.pending.attach decl.comment }

/-- The constant that a declaration stands for here. -/
def constant (b : Builder) (line : Nat) (decl : ConstantDecl) : Constant where
  line
  typeToken := decl.type.name
  primitive := Primitive.ofKeyword? decl.type.name
  name := decl.name
  value := decl.value
  comment := b.pending.attach decl.comment

/-- Replaces the waiting comments. -/
def withPending (b : Builder) (pending : PendingComment) : Builder :=
  { b with pending }

/-- Reads a line without adding it to the schema. -/
def read (b : Builder) (line : Nat) (text : String) : Except LineError (Contribution × Builder) :=
  let text := Text.trimmed text
  match LineContent.of text with
  | .comment comment => .ok (.nothing, b.withPending (b.pending.push comment))
  | .blank => .ok (.nothing, b.withPending .empty)
  | .declaration (.constant decl) => .ok (.constant (b.constant line decl), b.withPending .empty)
  | .declaration (.field decl) =>
    match b.field line text decl with
    | .ok f => .ok (.field f, b.withPending .empty)
    | .error e => .error e
  | .malformed => .error (.malformed line text)

/-- Adds what a line contributes; a constant of unknown type is at fault. -/
def add (b : Builder) (line : Nat) : Contribution → Builder × Option LineError
  | .field f => ({ b with schema := b.schema.addField f }, none)
  | .constant c =>
    ({ b with schema := b.schema.addConstant c },
      if c.primitive = none then some (.unknownConstantType line c.typeToken) else none)
  | .nothing => (b, none)

/-- Reads a line and adds it to the schema. The fault, if there is one, comes
with the builder as the line leaves it. -/
def feed (b : Builder) (line : Nat) (text : String) : Builder × Option LineError :=
  match b.read line text with
  | .ok (contribution, b) => b.add line contribution
  | .error e => (b, some e)

/-- Reads numbered lines up to the first fault. -/
def feedAll (b : Builder) : List Text.NumberedLine → Except (Failure LineError Schema) Schema
  | [] => .ok b.schema
  | (line, text) :: rest =>
    match b.feed line text with
    | (b, none) => b.feedAll rest
    | (b, some e) => .error ⟨some b.schema, e⟩

/-- Reads a text up to the first fault. -/
def feedText (b : Builder) (text : String) : Except (Failure LineError Schema) Schema :=
  b.feedAll (Text.numberedLines text)

end Builder

/-- Reads the text of a message. -/
def Schema.ofText (config : Config) (metadata : Metadata) (text : String) :
    Except (Failure LineError Schema) Schema :=
  (Builder.start config metadata).feedText text

end MessageSchema
