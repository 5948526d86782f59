/-
What a resolved type refers to. To write out the package in which a type was
found changes nothing (`resolve_package`), be it found by its keyword, in the
schema's own package, in a written one or in the shared vocabulary. The flag
for the own package and the alias then follow from the package alone: a type
that is no scalar is mentioned directly only by a message of the same package.
-/
import MessageSchema.Field
import MessageSchema.Proofs.Field.Resolution

namespace MessageSchema

namespace ResolvedType

variable {config : Config} {metadata : Metadata} {package : Option String} {typeName : String}

/-! ## Written packages -/

theorem resolve_of_keyword {p : Primitive} (keyword : Primitive.ofKeyword? typeName = some p) :
    resolve config metadata package typeName = ofPrimitive p := by
  simp only [resolve, keyword]

theorem resolve_own (keyword : Primitive.ofKeyword? typeName = none) :
    resolve config metadata (some metadata.package) typeName = sibling config metadata typeName := by
  simp only [resolve, keyword, if_true]

theorem resolve_other {p : String} (keyword : Primitive.ofKeyword? typeName = none)
    (other : p ≠ metadata.package) :
    resolve config metadata (some p) typeName = foreign config p typeName := by
  simp only [resolve, keyword, if_neg other]

/-- Only a keyword resolves to a scalar. -/
theorem exists_keyword_of_isPrimitive
    (h : (resolve config metadata package typeName).isPrimitive = true) :
    ∃ scalar, Primitive.ofKeyword? typeName = some scalar := by
  have hcases := resolve_cases config metadata package typeName
  generalize resolve config metadata package typeName = r at hcases h
  cases hcases with
  | @scalar p keyword => exact ⟨p, keyword⟩
  | sibling keyword own => cases h
  | written keyword qualified other => cases h
  | vocabulary keyword unqualified common => cases h

/-- A type resolves to the same when the package it was found in is written
before it. -/
theorem resolve_package {q : String}
    (h : (resolve config metadata package typeName).package = some q) :
    resolve config metadata (some q) typeName = resolve config metadata package typeName := by
  have hcases := resolve_cases config metadata package typeName
  generalize resolve config metadata package typeName = r at hcases h ⊢
  cases hcases with
  | scalar keyword => exact resolve_of_keyword keyword
  | sibling keyword own =>
    cases h
    exact resolve_own keyword
  | written keyword qualified other =>
    cases h
    exact resolve_other keyword other
  | vocabulary keyword unqualified common =>
    cases h
    exact resolve_other keyword (Ne.symm common.2.2)

/-! ## Own package and alias -/

theorem samePackage_iff (h : (resolve config metadata package typeName).isPrimitive = false) :
    (resolve config metadata package typeName).samePackage = true ↔
      (resolve config metadata package typeName).package = some metadata.package := by
  have hcases := resolve_cases config metadata package typeName
  generalize resolve config metadata package typeName = r at hcases h ⊢
  cases hcases with
  | scalar keyword => cases h
  | sibling keyword own => simp [sibling]
  | written keyword qualified other => simp [foreign, other]
  | vocabulary keyword unqualified common => simp [foreign, Ne.symm common.2.2]

theorem sibling_qualifier_ne_none_iff :
    (sibling config metadata typeName).qualifier ≠ none ↔ metadata.kind ≠ .message := by
  unfold sibling
  cases metadata.kind <;> simp

/-- Only a message mentions a type without alias, and only one of its own
package. -/
theorem qualifier_ne_none_iff (h : (resolve config metadata package typeName).isPrimitive = false) :
    (resolve config metadata package typeName).qualifier ≠ none ↔
      (resolve config metadata package typeName).samePackage = false ∨ metadata.kind ≠ .message := by
  have hcases := resolve_cases config metadata package typeName
  generalize resolve config metadata package typeName = r at hcases h ⊢
  cases hcases with
  | scalar keyword => cases h
  | sibling keyword own =>
    have hown : ¬ (sibling config metadata typeName).samePackage = false := by simp [sibling]
    rw [sibling_qualifier_ne_none_iff, or_iff_right hown]
  | written keyword qualified other => simp [foreign]
  | vocabulary keyword unqualified common => simp [foreign]

/-- In a message no type but a scalar is mentioned through the message's own
package. -/
theorem primitive_of_own_package (hkind : metadata.kind = .message)
    (hp : (resolve config metadata package typeName).package = some metadata.package)
    (ha : (resolve config metadata package typeName).qualifier ≠ none) :
    ∃ scalar, (resolve config metadata package typeName).primitive = some scalar ∧
      scalar.supportPackage = some metadata.package := by
  cases hscalar : (resolve config metadata package typeName).isPrimitive with
  | false =>
    rcases (qualifier_ne_none_iff hscalar).1 ha with hother | hservice
    · rw [(samePackage_iff hscalar).2 hp] at hother
      cases hother
    · exact absurd hkind hservice
  | true =>
    obtain ⟨scalar, keyword⟩ := exists_keyword_of_isPrimitive hscalar
    rw [resolve_of_keyword keyword] at hp ⊢
    exact ⟨scalar, rfl, hp⟩

end ResolvedType

/-- A field refers to a package when its type has an alias and is no scalar. -/
theorem Field.packageReference_ne_empty_iff (f : Field) :
    f.packageReference ≠ "" ↔ f.resolved.qualifier ≠ none ∧ f.resolved.isPrimitive = false := by
  unfold packageReference
  cases f.resolved.qualifier with
  | none => simp
  | some a => cases f.resolved.isPrimitive <;> simp

/-- **Writing out the package of a type does not change what it stands for, and
the flags follow from the package.** -/
theorem ResolvedType.resolve_explicit (config : Config) (metadata : Metadata) (package : Option String)
    (typeName : String) :
    let r := resolve config metadata package typeName
    (∀ q, r.package = some q → resolve config metadata (some q) typeName = r) ∧
    (r.isPrimitive = false → (r.samePackage = true ↔ r.package = some metadata.package)) ∧
    ∀ f : Field, f.resolved = r →
      (f.packageReference ≠ "" ↔
        r.isPrimitive = false ∧ (r.samePackage = false ∨ metadata.kind ≠ .message)) := by
  refine ⟨fun q => resolve_package, samePackage_iff, fun f hf => ?_⟩
  rw [f.packageReference_ne_empty_iff, hf, and_comm]
  exact and_congr_right qualifier_ne_none_iff

/-- A vocabulary type with its package written out, and a type of a service
half's own package, which is mentioned through an alias. -/
theorem ResolvedType.resolve_explicit_vocabulary :
    resolve .standard (.message "p" "M") (some "std_msgs") "Header" =
      resolve .standard (.message "p" "M") none "Header" ∧
    (resolve .standard ⟨"p", "S_Request", .request⟩ none "Header").samePackage = true ∧
    ∃ f : Field, f.resolved = resolve .standard ⟨"p", "S_Request", .request⟩ none "Header" ∧
      f.packageReference ≠ "" := by
  obtain ⟨hexplicit, -, -⟩ := resolve_explicit .standard (.message "p" "M") none "Header"
  obtain ⟨-, hsame, hreference⟩ := resolve_explicit .standard ⟨"p", "S_Request", .request⟩ none "Header"
  refine ⟨hexplicit "std_msgs" (by decide), (hsame (by decide)).2 (by decide),
    ⟨1, none, "Header", _, .scalar, none, none, none, "h", "H", "h", ""⟩, rfl, ?_⟩
  exact (hreference _ rfl).2 ⟨by decide, .inr (by decide)⟩

end MessageSchema
