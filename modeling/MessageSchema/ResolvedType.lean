/-
Resolution of type names. A scalar keyword names its scalar whatever
package is written before it. Any other name is looked for in one package:
the one written before it, else the package of the schema itself, except
that a message names the shared vocabulary without qualifier.

Messages mention the other messages of their package directly; the halves
of a service live in another module and import them.
-/
import MessageSchema.Config
import MessageSchema.Metadata

namespace MessageSchema

/-- What a type name in a declaration stands for. -/
structure ResolvedType where
  /-- The canonical name of the type. -/
  name : String
  /-- The package that defines the type; a plain scalar has none. -/
  package : Option String
  samePackage : Bool
  /-- The import alias through which the type is mentioned. -/
  qualifier : Option String
  primitive : Option Primitive
deriving DecidableEq, Repr

namespace ResolvedType

/-- Whether the type is a scalar. -/
def isPrimitive (r : ResolvedType) : Bool :=
  r.primitive.isSome

/-- A scalar, imported with its support package if it has one. -/
def ofPrimitive (p : Primitive) : ResolvedType :=
  { name := p.canonical
    package := p.supportPackage
    samePackage := false
    qualifier := p.supportPackage
    primitive := some p }

/-- A type of the schema's own package. -/
def sibling (config : Config) (metadata : Metadata) (typeName : String) : ResolvedType :=
  { name := typeName
    package := some metadata.package
    samePackage := true
    qualifier := match metadata.kind with
      | .message => none
      | .request => some (config.importAlias metadata.package)
      | .response => some (config.importAlias metadata.package)
    primitive := none }

/-- A type of another package. -/
def foreign (config : Config) (package typeName : String) : ResolvedType :=
  { name := typeName
    package := some package
    samePackage := false
    qualifier := some (config.importAlias package)
    primitive := none }

/-- What a type name, with the package written before it if there is one,
stands for in the schema that `metadata` names. -/
def resolve (config : Config) (metadata : Metadata) (package : Option String) (typeName : String) :
    ResolvedType :=
  match Primitive.ofKeyword? typeName with
  | some p => ofPrimitive p
  | none =>
    match package with
    | some p =>
      if p = metadata.package then sibling config metadata typeName
      else foreign config p typeName
    | none =>
      if metadata.kind = .message ∧ config.isCommonType typeName = true ∧
          metadata.package ≠ config.commonPackage then
        foreign config config.commonPackage typeName
      else sibling config metadata typeName

end ResolvedType

end MessageSchema
