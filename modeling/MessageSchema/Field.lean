/-
Fields and constants of a schema, with all their names looked up.
-/
import MessageSchema.ArrayKind
import MessageSchema.DefaultValue
import MessageSchema.ResolvedType

namespace MessageSchema

/-- A field of a schema. -/
structure Field where
  /-- The line that declares the field. -/
  line : Nat
  /-- The package written before the type. -/
  packageToken : Option String
  /-- The type as written. -/
  typeToken : String
  resolved : ResolvedType
  array : ArrayKind
  /-- The greatest length of a bounded text. -/
  stringBound : Option Nat
  /-- The default as written. -/
  defaultText : Option String
  defaultValue : Option DefaultValue
  name : String
  /-- The name in the generated code. -/
  targetName : String
  /-- The name in the native struct. -/
  nativeName : String
  comment : String
deriving DecidableEq, Repr

namespace Field

/-- Whether the field holds one value of a message type. -/
def isSingleComplex (f : Field) : Bool :=
  !f.array.isArray && !f.resolved.isPrimitive

/-- The alias and a dot when the type lives behind an import. -/
def packageReference (f : Field) : String :=
  match f.resolved.qualifier with
  | some a => if f.resolved.isPrimitive then "" else a ++ "."
  | none => ""

/-- The package qualifier with its slash. -/
def packageText (f : Field) : String :=
  match f.packageToken with
  | some p => p ++ "/"
  | none => ""

/-- The bound of a bounded text. -/
def boundText (f : Field) : String :=
  match f.stringBound with
  | some n => "<=" ++ n.repr
  | none => ""

/-- The default behind a space. -/
def defaultSuffix (f : Field) : String :=
  match f.defaultText with
  | some d => " " ++ d
  | none => ""

/-- The declaration of the field as a source line. -/
def text (f : Field) : String :=
  f.packageText ++ f.typeToken ++ f.array.text ++ f.boundText ++ " " ++ f.name ++ f.defaultSuffix

end Field

/-- A constant of a schema. -/
structure Constant where
  /-- The line that declares the constant. -/
  line : Nat
  /-- The type as written. -/
  typeToken : String
  /-- The scalar that the type names, if it names one. -/
  primitive : Option Primitive
  name : String
  value : String
  comment : String
deriving DecidableEq, Repr

namespace Constant

/-- The type in the generated code; for an unknown type a notice that there
is none. -/
def targetType (c : Constant) : String :=
  match c.primitive with
  | some p => p.targetType
  | none => "<missing translation from constant type " ++ c.typeToken ++ ">"

end Constant

end MessageSchema
