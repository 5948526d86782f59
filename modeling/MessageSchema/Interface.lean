/-
Interfaces: the content of one interface file, a message or a service. The
path of the file says which, and gives package and name.
-/
import MessageSchema.Interface.Path
import MessageSchema.Service

namespace MessageSchema

/-- The content of an interface file. -/
inductive Interface where
  | message (schema : Schema)
  | service (service : Service)
deriving DecidableEq

namespace Interface

/-- The kind of the interface. -/
def kind : Interface → InterfaceKind
  | message _ => .message
  | service _ => .service

/-- The package of the interface. -/
def package : Interface → String
  | message s => s.metadata.package
  | service s => s.package

/-- The name of the interface. -/
def name : Interface → String
  | message s => s.metadata.name
  | service s => s.name

/-- Reads the text of the interface that `id` names. -/
def ofText (config : Config) (id : InterfaceId) (text : String) :
    Except (Failure LineError Interface) Interface :=
  match id.kind with
  | .message =>
    match Schema.ofText config id.message text with
    | .ok schema => .ok (message schema)
    | .error failure => .error (failure.map message)
  | .service =>
    match Service.ofText config id.package id.name text with
    | .ok s => .ok (service s)
    | .error failure => .error (failure.map service)

end Interface

end MessageSchema
