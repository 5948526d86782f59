/-
Reading an interface back from its JSON document. Every part is looked up under
its key, null stands for what is absent, and the first key of the document says
whether to read a message or a service. The document of an interface reads
back as the interface (`Interface.ofJson?_toJson`).
-/
import MessageSchema.Interface.Document

namespace MessageSchema

/-! ## Reading values -/

namespace Json

variable {α : Type}

/-- The keys of an object, in their order. -/
def keys : Json → List String
  | object ms => ms.map Prod.fst
  | _ => []

/-- The value of an object under a key. -/
def get? (v : Json) (key : String) : Option Json :=
  match v with
  | object ms => ms.lookup key
  | _ => none

/-- What `read` makes of the value under a key. -/
def at? (v : Json) (key : String) (read : Json → Option α) : Option α :=
  (v.get? key).bind read

/-- A number. -/
def number? : Json → Option Nat
  | number n => some n
  | _ => none

/-- A truth value. -/
def bool? : Json → Option Bool
  | bool b => some b
  | _ => none

/-- A text. -/
def text? : Json → Option String
  | text s => some s
  | _ => none

/-- Null for nothing, and else what `read` makes of the value. -/
def option? (read : Json → Option α) : Json → Option (Option α)
  | null => some none
  | v => (read v).map some

/-- What `read` makes of each element of a list. -/
def list? (read : Json → Option α) : Json → Option (List α)
  | list vs => vs.mapM read
  | _ => none

@[simp] theorem get?_object (ms : List (String × Json)) (key : String) :
    (object ms).get? key = ms.lookup key := rfl

@[simp] theorem number?_number (n : Nat) : (number n).number? = some n := rfl

@[simp] theorem bool?_bool (b : Bool) : (bool b).bool? = some b := rfl

@[simp] theorem text?_text (s : String) : (text s).text? = some s := rfl

@[simp] theorem option?_null (read : Json → Option α) : null.option? read = some none := rfl

@[simp] theorem option?_number (n : Nat) : (number n).option? number? = some (some n) := rfl

@[simp] theorem option?_optional (value : Option String) : (optional value).option? text? = some value := by
  cases value <;> rfl

theorem mapM_map_eq_some {β : Type} {read : β → Option α} {form : α → β} (h : ∀ a, read (form a) = some a)
    (as : List α) : (as.map form).mapM read = some as := by
  induction as with
  | nil => rfl
  | cons a as ih => simp [List.mapM_cons, h, ih]

theorem list?_map {read : Json → Option α} {form : α → Json} (h : ∀ a, read (form a) = some a)
    (as : List α) : (list (as.map form)).list? read = some as :=
  mapM_map_eq_some h as

@[simp] theorem list?_texts (values : List String) : (texts values).list? text? = some values :=
  list?_map text?_text values

end Json

open Json (number? bool? text? option? list?)

/-! ## Reading the parts of an interface -/

/-- The scalar with the keyword, if all else that is said of it is right. -/
def Primitive.ofJson? (v : Json) : Option Primitive := do
  let p ← (← v.at? "idl_name" text?) |> ofKeyword?
  if v.at? "canonical" text? = some p.canonical ∧
      v.at? "target_type" text? = some p.targetType ∧
      v.at? "native_type" text? = some p.nativeType ∧
      v.at? "native_struct" text? = some p.nativeStruct ∧
      v.at? "package" (option? text?) = some p.supportPackage ∧
      v.at? "custom_serialization" bool? = some p.customSerialization then
    return p
  else none

/-- The kind of schema with a name. -/
def SchemaKind.ofLabel? : String → Option SchemaKind
  | "message" => some message
  | "request" => some request
  | "response" => some response
  | _ => none

def Metadata.ofJson? (v : Json) : Option Metadata := do
  return {
    package := ← v.at? "package" text?
    name := ← v.at? "name" text?
    kind := ← (← v.at? "kind" text?) |> SchemaKind.ofLabel? }

/-- The array kind with a name, and a size exactly where there is one. -/
def ArrayKind.ofJson? (v : Json) : Option ArrayKind := do
  match ← v.at? "kind" text?, v.get? "size" with
  | "scalar", none => return scalar
  | "fixed", some size => return fixed (← size.number?)
  | "unbounded", none => return unbounded
  | "bounded", some size => return bounded (← size.number?)
  | _, _ => none

def ResolvedType.ofJson? (v : Json) : Option ResolvedType := do
  return {
    name := ← v.at? "name" text?
    package := ← v.at? "package" (option? text?)
    samePackage := ← v.at? "same_package" bool?
    qualifier := ← v.at? "alias" (option? text?)
    primitive := ← v.at? "primitive" (option? Primitive.ofJson?) }

/-- The default with its kind as the only key. -/
def DefaultValue.ofJson? (v : Json) : Option DefaultValue :=
  match v.keys with
  | ["scalar"] => (v.at? "scalar" text?).map scalar
  | ["list"] => (v.at? "list" (list? text?)).map list
  | _ => none

def Field.ofJson? (v : Json) : Option Field := do
  return {
    line := ← v.at? "line" number?
    packageToken := ← v.at? "package_token" (option? text?)
    typeToken := ← v.at? "type_token" text?
    resolved := ← v.at? "resolved" ResolvedType.ofJson?
    array := ← v.at? "array" ArrayKind.ofJson?
    stringBound := ← v.at? "string_bound" (option? number?)
    defaultText := ← v.at? "default_text" (option? text?)
    defaultValue := ← v.at? "default" (option? DefaultValue.ofJson?)
    name := ← v.at? "name" text?
    targetName := ← v.at? "target_name" text?
    nativeName := ← v.at? "native_name" text?
    comment := ← v.at? "comment" text? }

def Constant.ofJson? (v : Json) : Option Constant := do
  return {
    line := ← v.at? "line" number?
    typeToken := ← v.at? "type_token" text?
    primitive := ← v.at? "primitive" (option? Primitive.ofJson?)
    name := ← v.at? "name" text?
    value := ← v.at? "value" text?
    comment := ← v.at? "comment" text? }

/-- The import map whose packages are the keys, if these are in order. -/
def Imports.ofJson? : Json → Option Imports
  | .object ms => do
    let entries ← ms.mapM fun m => m.2.text?.map (m.1, ·)
    if h : entries.Pairwise fun a b => a.1 < b.1 then return ⟨entries, h⟩ else none
  | _ => none

def Schema.ofJson? (v : Json) : Option Schema := do
  return {
    metadata := ← v.at? "meta" Metadata.ofJson?
    fields := ← v.at? "fields" (list? Field.ofJson?)
    constants := ← v.at? "constants" (list? Constant.ofJson?)
    imports := ← v.at? "imports" Imports.ofJson? }

def Service.ofJson? (v : Json) : Option Service := do
  return {
    package := ← v.at? "package" text?
    name := ← v.at? "name" text?
    request := ← v.at? "request" Schema.ofJson?
    response := ← v.at? "response" Schema.ofJson? }

def Interface.ofJson? (v : Json) : Option Interface := do
  match ← v.at? "interface" text? with
  | "message" => return message (← Schema.ofJson? v)
  | "service" => return service (← Service.ofJson? v)
  | _ => none

/-! ## Every part is read back -/

@[simp] theorem Primitive.ofJson?_toJson (p : Primitive) : ofJson? p.toJson = some p := by
  simp [ofJson?, toJson, Json.at?, List.lookup_cons, ofKeyword?_keyword]

@[simp] theorem Primitive.option?_optionalJson (p : Option Primitive) :
    (Primitive.optionalJson p).option? ofJson? = some p := by
  cases p with
  | none => rfl
  | some p => exact congrArg (Option.map some) (ofJson?_toJson p)

@[simp] theorem SchemaKind.ofLabel?_label (k : SchemaKind) : ofLabel? k.label = some k := by
  cases k <;> rfl

@[simp] theorem Metadata.ofJson?_toJson (m : Metadata) : ofJson? m.toJson = some m := by
  simp [ofJson?, toJson, Json.at?, List.lookup_cons]

@[simp] theorem ArrayKind.ofJson?_toJson (a : ArrayKind) : ofJson? a.toJson = some a := by
  cases a <;> simp [ofJson?, toJson, Json.at?, List.lookup_cons, label]

@[simp] theorem ResolvedType.ofJson?_toJson (r : ResolvedType) : ofJson? r.toJson = some r := by
  simp [ofJson?, toJson, Json.at?, List.lookup_cons]

@[simp] theorem DefaultValue.option?_optionalJson (d : Option DefaultValue) :
    (DefaultValue.optionalJson d).option? ofJson? = some d := by
  rcases d with _ | ⟨literal⟩ | ⟨literals⟩
  case none => rfl
  all_goals simp [optionalJson, option?, ofJson?, Json.keys, Json.at?]

@[simp] theorem Field.ofJson?_toJson (f : Field) : ofJson? f.toJson = some f := by
  obtain ⟨line, packageToken, typeToken, resolved, array, stringBound, defaultText, defaultValue,
    name, targetName, nativeName, comment⟩ := f
  cases stringBound <;> simp [ofJson?, toJson, Json.at?, List.lookup_cons]

@[simp] theorem Constant.ofJson?_toJson (c : Constant) : ofJson? c.toJson = some c := by
  simp [ofJson?, toJson, Json.at?, List.lookup_cons]

@[simp] theorem Imports.ofJson?_toJson (m : Imports) : ofJson? m.toJson = some m := by
  have hentries : (m.entries.map fun e => (e.1, Json.text e.2)).mapM
      (fun m : String × Json => m.2.text?.map (m.1, ·)) = some m.entries :=
    @Json.mapM_map_eq_some _ _ _ (fun e => (e.1, Json.text e.2)) (fun _ => rfl) m.entries
  simp only [ofJson?, toJson, hentries]
  exact dif_pos m.sorted

@[simp] theorem Schema.ofJson?_toJson (s : Schema) : ofJson? s.toJson = some s := by
  simp [ofJson?, toJson, jsonMembers, Json.at?, List.lookup_cons, Json.list?_map]

/-- **The document of an interface reads back as the interface.** -/
theorem Interface.ofJson?_toJson (i : Interface) : ofJson? i.toJson = some i := by
  cases i with
  | message s =>
    simp [ofJson?, Schema.ofJson?, toJson, kind, InterfaceKind.label, jsonMembers, Schema.jsonMembers,
      Json.at?, List.lookup_cons, Json.list?_map]
  | service s =>
    simp [ofJson?, Service.ofJson?, toJson, kind, InterfaceKind.label, jsonMembers, Service.jsonMembers,
      Json.at?, List.lookup_cons]

end MessageSchema
