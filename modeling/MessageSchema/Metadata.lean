/-
The identity of a schema: the package it belongs to, its name, and whether
it is a message or one half of a service.
-/

namespace MessageSchema

/-- What a schema describes. -/
inductive SchemaKind where
  | message
  | request
  | response
deriving DecidableEq, Repr

namespace SchemaKind

/-- The folder of its package in which such a schema lives. -/
def folder : SchemaKind → String
  | message => "msg"
  | request => "srv"
  | response => "srv"

/-- The name of the kind. -/
def label : SchemaKind → String
  | message => "message"
  | request => "request"
  | response => "response"

end SchemaKind

/-- The identity of a schema. -/
structure Metadata where
  package : String
  name : String
  kind : SchemaKind
deriving DecidableEq, Repr

namespace Metadata

/-- The identity of a message. -/
def message (package name : String) : Metadata :=
  ⟨package, name, .message⟩

/-- The package and the folder, as a path. -/
def importPath (m : Metadata) : String :=
  m.package ++ "/" ++ m.kind.folder

/-- The package and the folder, as one identifier. -/
def moduleName (m : Metadata) : String :=
  m.package ++ "_" ++ m.kind.folder

end Metadata

end MessageSchema
