/-
The JSON document of an interface. Its first key says whether it is a
message or a service; then come the parts of the interface in the order of
their declaration, absent ones as null.
-/
import MessageSchema.Interface
import MessageSchema.Json.Value

namespace MessageSchema

/-- The document of a scalar type. -/
def Primitive.toJson (p : Primitive) : Json :=
  .object [
    ("idl_name", .text p.keyword),
    ("canonical", .text p.canonical),
    ("target_type", .text p.targetType),
    ("native_type", .text p.nativeType),
    ("native_struct", .text p.nativeStruct),
    ("package", .optional p.supportPackage),
    ("custom_serialization", .bool p.customSerialization)]

/-- The document of a scalar type, or null. -/
def Primitive.optionalJson : Option Primitive → Json
  | some p => p.toJson
  | none => .null

/-- The document of an identity. -/
def Metadata.toJson (m : Metadata) : Json :=
  .object [("package", .text m.package), ("name", .text m.name), ("kind", .text m.kind.label)]

/-- The document of an array kind: its name, and its size if it has one. -/
def ArrayKind.toJson (a : ArrayKind) : Json :=
  match a with
  | .scalar => .object [("kind", .text a.label)]
  | .fixed n => .object [("kind", .text a.label), ("size", .number n)]
  | .unbounded => .object [("kind", .text a.label)]
  | .bounded n => .object [("kind", .text a.label), ("size", .number n)]

/-- The document of a resolved type. -/
def ResolvedType.toJson (r : ResolvedType) : Json :=
  .object [
    ("name", .text r.name),
    ("package", .optional r.package),
    ("same_package", .bool r.samePackage),
    ("alias", .optional r.qualifier),
    ("primitive", Primitive.optionalJson r.primitive)]

/-- The document of a default value, or null. -/
def DefaultValue.optionalJson : Option DefaultValue → Json
  | some (.scalar literal) => .object [("scalar", .text literal)]
  | some (.list literals) => .object [("list", .texts literals)]
  | none => .null

/-- The document of a field. -/
def Field.toJson (f : Field) : Json :=
  .object [
    ("line", .number f.line),
    ("package_token", .optional f.packageToken),
    ("type_token", .text f.typeToken),
    ("resolved", f.resolved.toJson),
    ("array", f.array.toJson),
    ("string_bound", match f.stringBound with
      | some n => .number n
      | none => .null),
    ("default_text", .optional f.defaultText),
    ("default", DefaultValue.optionalJson f.defaultValue),
    ("name", .text f.name),
    ("target_name", .text f.targetName),
    ("native_name", .text f.nativeName),
    ("comment", .text f.comment)]

/-- The document of a constant. -/
def Constant.toJson (c : Constant) : Json :=
  .object [
    ("line", .number c.line),
    ("type_token", .text c.typeToken),
    ("primitive", Primitive.optionalJson c.primitive),
    ("name", .text c.name),
    ("value", .text c.value),
    ("comment", .text c.comment)]

/-- The document of an import map. -/
def Imports.toJson (m : Imports) : Json :=
  .object (m.entries.map fun e => (e.1, .text e.2))

namespace Schema

/-- The members of the document of a schema. -/
def jsonMembers (s : Schema) : List (String × Json) :=
  [("meta", s.metadata.toJson),
   ("fields", .list (s.fields.map Field.toJson)),
   ("constants", .list (s.constants.map Constant.toJson)),
   ("imports", s.imports.toJson)]

/-- The document of a schema. -/
def toJson (s : Schema) : Json :=
  .object s.jsonMembers

end Schema

namespace Service

/-- The members of the document of a service. -/
def jsonMembers (s : Service) : List (String × Json) :=
  [("package", .text s.package),
   ("name", .text s.name),
   ("request", s.request.toJson),
   ("response", s.response.toJson)]

end Service

namespace Interface

/-- The members of the document after the first. -/
def jsonMembers : Interface → List (String × Json)
  | message s => s.jsonMembers
  | service s => s.jsonMembers

/-- The document of an interface. -/
def toJson (i : Interface) : Json :=
  .object (("interface", .text i.kind.label) :: i.jsonMembers)

/-- The document of an interface in its indented form. -/
def render (i : Interface) : String :=
  i.toJson.pretty

end Interface

end MessageSchema
