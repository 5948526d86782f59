/-
The imports of a schema are those that the types of its fields ask for, one
after the other in the order of the fields, and nothing else: `importsOf`
computes them from the fields, and every line keeps the two in step. So a
package has the alias that the last field asks for (`get?_importsOf`).
-/
import MessageSchema.Proofs.Builder.Run
import Mathlib.Data.List.Induction

namespace MessageSchema

/-- Imports the package that a type is mentioned through, if it is. -/
def Imports.register (m : Imports) (r : ResolvedType) : Imports :=
  match r.package, r.qualifier with
  | some package, some qualifier => m.insert package qualifier
  | _, _ => m

/-- What the types of the fields import. -/
def importsOf (fields : List Field) : Imports :=
  fields.foldl (fun m f => m.register f.resolved) .empty

theorem importsOf_append_singleton (fields : List Field) (f : Field) :
    importsOf (fields ++ [f]) = (importsOf fields).register f.resolved := by
  simp [importsOf]

/-! ## Alias by alias -/

/-- The alias under which a type asks to import a package. -/
def ResolvedType.aliasFor (r : ResolvedType) (package : String) : Option String :=
  if r.package = some package then r.qualifier else none

theorem ResolvedType.aliasFor_eq_some_iff {r : ResolvedType} {package a : String} :
    r.aliasFor package = some a ↔ r.package = some package ∧ r.qualifier = some a := by
  unfold aliasFor
  split
  · next h => simp [h]
  · next h => simp [h]

theorem Imports.get?_register (m : Imports) (r : ResolvedType) (package : String) :
    (m.register r).get? package = (r.aliasFor package).or (m.get? package) := by
  unfold register ResolvedType.aliasFor
  split
  · next p a hp ha =>
    rw [get?_insert, hp, ha]
    by_cases h : package = p
    · rw [if_pos h, if_pos (by rw [h]), Option.some_or]
    · have hne : ¬ some p = some package := by
        intro heq
        exact h (Option.some.inj heq).symm
      rw [if_neg h, if_neg hne, Option.none_or]
  · next hno =>
    cases ha : r.qualifier with
    | none => simp
    | some a =>
      have hne : ¬ r.package = some package := fun hp => hno package a hp ha
      rw [if_neg hne, Option.none_or]

/-- **The last field that asks for a package names its alias.** -/
theorem get?_importsOf (fields : List Field) (package : String) :
    (importsOf fields).get? package =
      fields.reverse.findSome? fun f => f.resolved.aliasFor package := by
  induction fields using List.reverseRecOn with
  | nil => rfl
  | append_singleton fields f ih =>
    rw [importsOf_append_singleton, Imports.get?_register, ih, List.reverse_append,
      List.reverse_singleton, List.singleton_append, List.findSome?_cons]
    cases f.resolved.aliasFor package <;> rfl

/-! ## Every line keeps them -/

theorem Schema.register_imports (s : Schema) (r : ResolvedType) :
    (s.register r).imports = s.imports.register r := by
  unfold register Imports.register
  cases r.package <;> cases r.qualifier <;> rfl

theorem Schema.addField_imports (s : Schema) (f : Field) :
    (s.addField f).imports = s.imports.register f.resolved :=
  s.register_imports f.resolved

/-- The schema imports what its fields ask for. -/
def Schema.Registered (s : Schema) : Prop :=
  s.imports = importsOf s.fields

theorem Schema.Registered.addField {s : Schema} (h : s.Registered) (f : Field) :
    (s.addField f).Registered := by
  unfold Registered at h ⊢
  rw [addField_imports, addField_fields, importsOf_append_singleton, h]

namespace Builder

variable {b b' : Builder} {ls : List Text.NumberedLine}

theorem feed_registered (b : Builder) (line : Nat) (text : String) (h : b.schema.Registered) :
    (b.feed line text).1.schema.Registered := by
  have hadding := feed_adding b line text
  generalize (b.feed line text).1.schema = s at hadding
  cases hadding with
  | nothing => exact h
  | field content built => exact h.addField _
  | constant content => exact h

theorem feedEach_registered (h : b.schema.Registered) : (b.feedEach ls).schema.Registered :=
  feedEach_invariant (P := fun b => b.schema.Registered) feed_registered h

theorem Feeds.registered (h : Feeds b ls b') (hb : b.schema.Registered) : b'.schema.Registered :=
  h.keeps (P := fun b => b.schema.Registered) feed_registered hb

end Builder

end MessageSchema
