/-
What a type name resolves to. `Resolution` lists the four ways, each with the
condition under which it is taken, and `resolve_cases` says that there are no
others; what holds of every resolved type is shown case by case.
-/
import MessageSchema.ResolvedType

namespace MessageSchema.ResolvedType

/-- A message of another package names the shared vocabulary without
qualifier. -/
def Vocabulary (config : Config) (metadata : Metadata) (typeName : String) : Prop :=
  metadata.kind = .message ∧ config.isCommonType typeName = true ∧
    metadata.package ≠ config.commonPackage

/-- The ways to resolve a type name. -/
inductive Resolution (config : Config) (metadata : Metadata) (package : Option String)
    (typeName : String) : ResolvedType → Prop where
  | scalar {p : Primitive} (keyword : Primitive.ofKeyword? typeName = some p) :
      Resolution config metadata package typeName (ofPrimitive p)
  | sibling (keyword : Primitive.ofKeyword? typeName = none)
      (own : package = some metadata.package ∨ package = none ∧ ¬ Vocabulary config metadata typeName) :
      Resolution config metadata package typeName (sibling config metadata typeName)
  | written {p : String} (keyword : Primitive.ofKeyword? typeName = none) (qualified : package = some p)
      (other : p ≠ metadata.package) :
      Resolution config metadata package typeName (foreign config p typeName)
  | vocabulary (keyword : Primitive.ofKeyword? typeName = none) (unqualified : package = none)
      (common : Vocabulary config metadata typeName) :
      Resolution config metadata package typeName (foreign config config.commonPackage typeName)

variable {config : Config} {metadata : Metadata} {package : Option String} {typeName : String}

/-- **Every type name is resolved in one of these ways.** -/
theorem resolve_cases (config : Config) (metadata : Metadata) (package : Option String)
    (typeName : String) :
    Resolution config metadata package typeName (resolve config metadata package typeName) := by
  unfold resolve
  split
  · next p keyword => exact .scalar keyword
  · next keyword =>
    split
    · next p =>
      split
      · next own => exact .sibling keyword (.inl (by rw [own]))
      · next other => exact .written keyword rfl other
    · split
      · next common => exact .vocabulary keyword rfl common
      · next uncommon => exact .sibling keyword (.inr ⟨rfl, uncommon⟩)

theorem sibling_qualifier {a : String} (h : (sibling config metadata typeName).qualifier = some a) :
    a = config.importAlias metadata.package := by
  unfold sibling at h
  cases hkind : metadata.kind <;> simp only [hkind] at h <;> cases h <;> rfl

/-- A type asks for its package under one of two aliases: a scalar under the
package's own name, any other type under the name with the suffix. -/
theorem qualifier_resolve {p a : String}
    (hp : (resolve config metadata package typeName).package = some p)
    (ha : (resolve config metadata package typeName).qualifier = some a) :
    a = if (resolve config metadata package typeName).isPrimitive then p else config.importAlias p := by
  have hcases := resolve_cases config metadata package typeName
  generalize resolve config metadata package typeName = r at hcases hp ha ⊢
  cases hcases with
  | scalar keyword =>
    have heq : some p = some a := hp.symm.trans ha
    exact (Option.some.inj heq).symm
  | sibling keyword own =>
    cases hp
    exact sibling_qualifier ha
  | written keyword qualified other =>
    cases hp
    cases ha
    rfl
  | vocabulary keyword unqualified common =>
    cases hp
    cases ha
    rfl

/-- A scalar is mentioned through its support package. -/
theorem qualifier_of_primitive (h : (resolve config metadata package typeName).isPrimitive = true) :
    (resolve config metadata package typeName).qualifier =
      (resolve config metadata package typeName).package := by
  have hcases := resolve_cases config metadata package typeName
  generalize resolve config metadata package typeName = r at hcases h ⊢
  cases hcases with
  | scalar keyword => rfl
  | sibling keyword own => cases h
  | written keyword qualified other => cases h
  | vocabulary keyword unqualified common => cases h

/-- A type that is mentioned through an alias belongs to a package. -/
theorem package_of_qualifier {a : String}
    (ha : (resolve config metadata package typeName).qualifier = some a) :
    ∃ p, (resolve config metadata package typeName).package = some p := by
  have hcases := resolve_cases config metadata package typeName
  generalize resolve config metadata package typeName = r at hcases ha ⊢
  cases hcases with
  | scalar keyword => exact ⟨a, ha⟩
  | sibling keyword own => exact ⟨metadata.package, rfl⟩
  | written keyword qualified other => exact ⟨_, rfl⟩
  | vocabulary keyword unqualified common => exact ⟨config.commonPackage, rfl⟩

end MessageSchema.ResolvedType
