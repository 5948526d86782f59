/-
Declarations as they are written, before any name in them is looked up. A
declaration is a constant or a field; both start with a type.

    [package/]type[marker] NAME = value         # comment
    [package/]type[marker][<=bound] name default # comment
-/

namespace MessageSchema

/-- The brackets after a type, with the digits between them as written. -/
structure ArrayMarker where
  /-- Whether the digits follow `<=`. -/
  bounded : Bool
  size : String
deriving DecidableEq, Repr

/-- The type with which a declaration starts. -/
structure DeclaredType where
  package : Option String
  name : String
  marker : Option ArrayMarker
deriving DecidableEq, Repr

/-- A constant as written. -/
structure ConstantDecl where
  type : DeclaredType
  name : String
  value : String
  comment : Option String
deriving DecidableEq, Repr

/-- A field as written. -/
structure FieldDecl where
  type : DeclaredType
  /-- The digits after a `<=` that follows the type. -/
  stringBound : Option String
  name : String
  defaultText : Option String
  comment : Option String
deriving DecidableEq, Repr

/-- A declaration as written. -/
inductive Declaration where
  | constant (decl : ConstantDecl)
  | field (decl : FieldDecl)
deriving DecidableEq, Repr

end MessageSchema
