/-
A schema: the identity, the fields and constants in the order of the
source, and the packages that the types of its fields need.
-/
import MessageSchema.Field
import MessageSchema.Imports

namespace MessageSchema

/-- A message, or one half of a service. -/
structure Schema where
  metadata : Metadata
  fields : List Field
  constants : List Constant
  imports : Imports
deriving DecidableEq

namespace Schema

/-- The schema without declarations. -/
def empty (metadata : Metadata) : Schema :=
  ⟨metadata, [], [], .empty⟩

/-- Imports the package that a type is mentioned through, if it is. -/
def register (s : Schema) (r : ResolvedType) : Schema :=
  match r.package, r.qualifier with
  | some package, some qualifier => { s with imports := s.imports.insert package qualifier }
  | _, _ => s

/-- Adds a field, and the import that its type needs. -/
def addField (s : Schema) (f : Field) : Schema :=
  let s := s.register f.resolved
  { s with fields := s.fields ++ [f] }

/-- Adds a constant. -/
def addConstant (s : Schema) (c : Constant) : Schema :=
  { s with constants := s.constants ++ [c] }

/-! ## What adding changes -/

section

variable (s : Schema)

@[simp] theorem register_metadata (r : ResolvedType) : (s.register r).metadata = s.metadata := by
  unfold register
  split <;> rfl

@[simp] theorem register_fields (r : ResolvedType) : (s.register r).fields = s.fields := by
  unfold register
  split <;> rfl

@[simp] theorem register_constants (r : ResolvedType) : (s.register r).constants = s.constants := by
  unfold register
  split <;> rfl

@[simp] theorem addField_metadata (f : Field) : (s.addField f).metadata = s.metadata := by
  simp [addField]

@[simp] theorem addField_fields (f : Field) : (s.addField f).fields = s.fields ++ [f] := by
  simp [addField]

@[simp] theorem addField_constants (f : Field) : (s.addField f).constants = s.constants := by
  simp [addField]

@[simp] theorem addConstant_metadata (c : Constant) : (s.addConstant c).metadata = s.metadata := rfl

@[simp] theorem addConstant_fields (c : Constant) : (s.addConstant c).fields = s.fields := rfl

@[simp] theorem addConstant_constants (c : Constant) :
    (s.addConstant c).constants = s.constants ++ [c] := rfl

end

end Schema

end MessageSchema
