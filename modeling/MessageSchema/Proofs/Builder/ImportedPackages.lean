/-
Which packages a schema imports, and under which aliases. In every state that
calls on a builder reach, the entries answer to the fields: there is one for
each package that a field asks for, its alias is that of the last such field,
and there are no others. So what an alias may look like is read off what types
resolve to, one field at a time.
-/
import MessageSchema.Proofs.Builder.Aliases
import MessageSchema.Proofs.Builder.Session
import MessageSchema.Proofs.Field.Reference

namespace MessageSchema

/-! ## Entries and fields -/

/-- The last field that asks for a package asks for it under the alias. -/
def LastRequest (fields : List Field) (package a : String) : Prop :=
  ∃ before f after, fields = before ++ f :: after ∧ f.resolved.package = some package ∧
    f.resolved.qualifier = some a ∧
    ∀ g ∈ after, g.resolved.package = some package → g.resolved.qualifier = none

theorem ResolvedType.aliasFor_eq_none_iff {r : ResolvedType} {package : String} :
    r.aliasFor package = none ↔ (r.package = some package → r.qualifier = none) := by
  unfold aliasFor
  split
  · next h => simp [h]
  · next h => simp [h]

theorem get?_importsOf_eq_some_iff {fields : List Field} {package a : String} :
    (importsOf fields).get? package = some a ↔ LastRequest fields package a := by
  rw [get?_importsOf, List.findSome?_eq_some_iff]
  constructor
  · intro h
    obtain ⟨later, f, earlier, hfields, hf, hlater⟩ := h
    obtain ⟨hp, ha⟩ := ResolvedType.aliasFor_eq_some_iff.1 hf
    refine ⟨earlier.reverse, f, later.reverse, ?_, hp, ha, fun g hg => ?_⟩
    · rw [← List.reverse_reverse fields, hfields]
      simp
    · exact ResolvedType.aliasFor_eq_none_iff.1 (hlater g (List.mem_reverse.1 hg))
  · intro h
    obtain ⟨before, f, after, rfl, hp, ha, hafter⟩ := h
    refine ⟨after.reverse, f, before.reverse, by simp, ResolvedType.aliasFor_eq_some_iff.2 ⟨hp, ha⟩, ?_⟩
    intro g hg
    exact ResolvedType.aliasFor_eq_none_iff.2 (hafter g (List.mem_reverse.1 hg))

theorem get?_importsOf_ne_none_iff {fields : List Field} {package : String} :
    (importsOf fields).get? package ≠ none ↔
      ∃ f ∈ fields, f.resolved.package = some package ∧ f.resolved.qualifier ≠ none := by
  rw [get?_importsOf, Ne, List.findSome?_eq_none_iff]
  simp only [List.mem_reverse, ResolvedType.aliasFor_eq_none_iff, not_forall, exists_prop, Ne]

/-! ## How an alias is spelled -/

theorem Primitive.mem_of_supportPackage {scalar : Primitive} {package : String}
    (h : scalar.supportPackage = some package) : package ∈ [primitivesPackage, timePackage] := by
  cases scalar <;> simp_all [supportPackage]

/-- An alias is the package with the suffix; a support package may also go by
its own name. -/
def Spelled (config : Config) (package a : String) : Prop :=
  a = package ++ config.importSuffix ∨ package ∈ [primitivesPackage, timePackage] ∧ a = package

theorem Field.Resolved.spelled {config : Config} {metadata : Metadata} {f : Field} {package a : String}
    (h : f.Resolved config metadata) (hp : f.resolved.package = some package)
    (ha : f.resolved.qualifier = some a) : Spelled config package a := by
  have halias := h.qualifier_eq hp ha
  cases hscalar : f.resolved.isPrimitive with
  | false =>
    rw [hscalar] at halias
    exact .inl halias
  | true =>
    rw [hscalar] at halias
    refine .inr ⟨?_, halias⟩
    rw [h.resolved] at hscalar hp
    obtain ⟨scalar, keyword⟩ := ResolvedType.exists_keyword_of_isPrimitive hscalar
    rw [ResolvedType.resolve_of_keyword keyword] at hp
    exact Primitive.mem_of_supportPackage hp

/-- No support package's name ends in the built-in suffix. -/
theorem append_suffix_not_mem (package : String) :
    package ++ Config.standard.importSuffix ∉ [primitivesPackage, timePackage] := by
  intro hmem
  have hlast : (package ++ Config.standard.importSuffix).toList.getLast? = some 'g' := by
    rw [String.toList_append, List.getLast?_append_of_ne_nil _ (by decide)]
    rfl
  simp only [List.mem_cons, List.not_mem_nil, or_false] at hmem
  rcases hmem with hmem | hmem
  · rw [hmem] at hlast
    exact absurd hlast (by decide)
  · rw [hmem] at hlast
    exact absurd hlast (by decide)

theorem Spelled.package_inj {p q a : String} (hp : Spelled .standard p a) (hq : Spelled .standard q a) :
    p = q := by
  rcases hp with rfl | ⟨hp, rfl⟩
  · rcases hq with h | ⟨hq, h⟩
    · exact String.append_left_inj _ |>.1 h
    · rw [← h] at hq
      exact absurd hq (append_suffix_not_mem p)
  · rcases hq with h | ⟨hq, h⟩
    · rw [h] at hp
      exact absurd hp (append_suffix_not_mem q)
    · exact h

/-! ## Every reachable state -/

/-- The fields account for the imports of a schema. -/
structure Schema.Accounted (config : Config) (metadata : Metadata) (s : Schema) : Prop where
  /-- A package is imported when a field asks for it. -/
  packages : ∀ p, s.imports.get? p ≠ none ↔
    ∃ f ∈ s.fields, f.resolved.package = some p ∧ f.resolved.qualifier ≠ none
  /-- The last field that asks for a package names its alias. -/
  aliases : ∀ p a, s.imports.get? p = some a → LastRequest s.fields p a
  spelling : ∀ p a, s.imports.get? p = some a → Spelled config p a
  /-- A message imports its own package only as a support package. -/
  own : metadata.kind = .message → s.imports.get? metadata.package ≠ none →
    ∃ f ∈ s.fields, ∃ scalar, f.resolved.primitive = some scalar ∧
      scalar.supportPackage = some metadata.package
  /-- With the built-in settings aliases tell packages apart. -/
  distinct : config = .standard → ∀ p q a, s.imports.get? p = some a → s.imports.get? q = some a → p = q

theorem Schema.Registered.accounted {config : Config} {metadata : Metadata} {s : Schema}
    (h : s.Registered) (hresolved : ∀ f ∈ s.fields, f.Resolved config metadata) :
    s.Accounted config metadata := by
  unfold Registered at h
  have hpackages : ∀ p, s.imports.get? p ≠ none ↔
      ∃ f ∈ s.fields, f.resolved.package = some p ∧ f.resolved.qualifier ≠ none := by
    intro p
    rw [h]
    exact get?_importsOf_ne_none_iff
  have haliases : ∀ p a, s.imports.get? p = some a → LastRequest s.fields p a := by
    intro p a hget
    rw [h] at hget
    exact get?_importsOf_eq_some_iff.1 hget
  have hspelling : ∀ p a, s.imports.get? p = some a → Spelled config p a := by
    intro p a hget
    obtain ⟨before, f, after, hfields, hp, ha, -⟩ := haliases p a hget
    exact (hresolved f (by simp [hfields])).spelled hp ha
  refine ⟨hpackages, haliases, hspelling, fun hkind hown => ?_, fun hstandard p q a hp hq => ?_⟩
  · obtain ⟨f, hf, hp, ha⟩ := (hpackages metadata.package).1 hown
    rw [(hresolved f hf).resolved] at hp ha
    obtain ⟨scalar, hscalar, hsupport⟩ := ResolvedType.primitive_of_own_package hkind hp ha
    exact ⟨f, hf, scalar, by rw [(hresolved f hf).resolved, hscalar], hsupport⟩
  · subst hstandard
    exact (hspelling p a hp).package_inj (hspelling q a hq)

namespace Builder

theorem session_accounted (config : Config) (metadata : Metadata) (steps : List SessionStep) :
    ((start config metadata).session steps).1.schema.Accounted config metadata := by
  let P : Builder → Prop := fun b => b.Writes config metadata ∧ b.schema.Registered
  have hpending : ∀ b pending, P b → P (b.withPending pending) := fun b pending h =>
    ⟨⟨h.1.settings, h.1.identity, h.1.fields⟩, h.2⟩
  have hfeed : ∀ b line text, P b → P (b.feed line text).1 := fun b line text h =>
    ⟨feed_writes b line text h.1, feed_registered b line text h.2⟩
  have hreached : P ((start config metadata).session steps).1 :=
    session_invariant (fun _ step hb => perform_keeps hpending hfeed step hb) steps
      ⟨start_writes config metadata, rfl⟩
  exact hreached.2.accounted fun f hf => (hreached.1.fields f hf).2

/-- A line that is fed and gives no field imports nothing. -/
theorem feed_imports {b : Builder} {line : Nat} {text : String}
    (h : ∀ f b', b.read line text ≠ .ok (.field f, b')) :
    (b.feed line text).1.schema.imports = b.schema.imports := by
  unfold feed
  split
  · next contribution b' hread =>
    have hschema := read_schema hread
    cases contribution with
    | field f => exact absurd hread (h f b')
    | constant c => rw [add, Schema.addConstant, hschema]
    | nothing => rw [add, hschema]
  · rfl

/-- **The fields account for the imports in every state that calls reach**, and
only a field that is fed adds to them: reading alone does not, nor do comments,
blank lines, constants and lines at fault. -/
theorem session_imports (config : Config) (metadata : Metadata) (steps : List SessionStep) :
    let b := ((start config metadata).session steps).1
    b.schema.Accounted config metadata ∧
    (∀ line text, (b.perform (.read line text)).1.schema.imports = b.schema.imports) ∧
    ∀ line text, (∀ f b', b.read line text ≠ .ok (.field f, b')) →
      (b.perform (.feed line text)).1.schema.imports = b.schema.imports := by
  refine ⟨session_accounted config metadata steps, fun line text => ?_, fun line text h => ?_⟩
  · rw [perform_read]
    split
    · next hread => rw [read_schema hread]
    · rfl
  · rw [perform_feed]
    exact feed_imports h

/-- A message of a package named like the support package of times: a scalar
imports that package, a line that is only read imports nothing, and a constant
of unknown type changes nothing. -/
theorem session_imports_own :
    let b := ((start .standard (.message "time" "M")).session
      [.feed 1 "duration d", .feed 2 "Foo x", .feed 3 "q/Foo y", .read 4 "r/Foo z"]).1
    b.schema.imports.entries = [("q", "q_msg"), ("time", "time")] ∧
    (∃ f ∈ b.schema.fields, ∃ scalar, f.resolved.primitive = some scalar ∧
      scalar.supportPackage = some "time") ∧
    (∀ p, b.schema.imports.get? p = some "q_msg" → p = "q") ∧
    (b.perform (.feed 5 "Foo A=1")).1.schema.imports = b.schema.imports := by
  obtain ⟨haccounted, -, hfeed⟩ := session_imports .standard (.message "time" "M")
    [.feed 1 "duration d", .feed 2 "Foo x", .feed 3 "q/Foo y", .read 4 "r/Foo z"]
  refine ⟨by rfl, haccounted.own rfl (by decide), fun p hp => ?_, ?_⟩
  · exact haccounted.distinct rfl p "q" "q_msg" hp (by decide)
  · refine hfeed 5 "Foo A=1" fun f b' hread => ?_
    cases hread

end Builder

end MessageSchema
