/-
The aliases of fields and the imports of their schema. A field names the
alias through which its type is mentioned, and the schema imports the package
of that type under an alias; the two should agree.

They do unless a message package has the name of a support package. Then a
scalar asks for the package under its own name, a message type asks for it
with the suffix, and the later field wins. `handedOver_aliases_iff` says that
nothing else ever goes wrong, in whole schemas and in those that a fault cut
short.
-/
import MessageSchema.Proofs.Builder.Imports
import MessageSchema.Proofs.Builder.RoundTrip
import MessageSchema.Proofs.Field.Resolution
import MessageSchema.Proofs.Service.Sections

namespace MessageSchema

open Builder

/-! ## Aliases that agree, and those that do not -/

namespace Schema

/-- Every alias through which a field mentions its type is the one under which
the package of that type is imported. -/
structure AliasesRegistered (s : Schema) : Prop where
  qualifiers : ∀ f ∈ s.fields, ∀ p a, f.resolved.package = some p → f.resolved.qualifier = some a →
    s.imports.get? p = some a
  references : ∀ f ∈ s.fields, f.packageReference ≠ "" →
    ∃ p a, f.packageReference = a ++ "." ∧ s.imports.get? p = some a

/-- A scalar needs a support package, and a type of a message package of the
same name is mentioned through an alias, which differs by the suffix. -/
def SupportClash (config : Config) (s : Schema) : Prop :=
  config.importSuffix ≠ "" ∧
    ∃ f ∈ s.fields, ∃ g ∈ s.fields, f.resolved.isPrimitive = true ∧ g.resolved.isPrimitive = false ∧
      f.resolved.package ≠ none ∧ g.resolved.package = f.resolved.package ∧
      g.resolved.qualifier ≠ none

instance (config : Config) (s : Schema) : Decidable (s.SupportClash config) :=
  inferInstanceAs (Decidable (_ ∧ _))

end Schema

theorem Config.importAlias_of_suffix_empty {config : Config} (h : config.importSuffix = "") (p : String) :
    config.importAlias p = p := by
  rw [importAlias, h, String.append_empty]

theorem Config.importAlias_eq_self_iff {config : Config} {p : String} :
    config.importAlias p = p ↔ config.importSuffix = "" := by
  refine ⟨fun h => ?_, fun h => importAlias_of_suffix_empty h p⟩
  have hlist : p.toList ++ config.importSuffix.toList = p.toList := by
    rw [← String.toList_append]
    exact congrArg String.toList h
  exact String.toList_inj.1 (List.append_right_eq_self.1 hlist)

/-! ## From fields to imports -/

section

variable {config : Config} {metadata : Metadata} {s : Schema} {f : Field} {p a : String}

/-- A package that a field asks for is imported as some field of that package
asks. -/
theorem Schema.Registered.exists_field (h : s.Registered) (hf : f ∈ s.fields)
    (hp : f.resolved.package = some p) (ha : f.resolved.qualifier = some a) :
    ∃ g ∈ s.fields, ∃ b, g.resolved.package = some p ∧ g.resolved.qualifier = some b ∧
      s.imports.get? p = some b := by
  have hget : s.imports.get? p = s.fields.reverse.findSome? fun f => f.resolved.aliasFor p := by
    rw [h, get?_importsOf]
  cases hfind : s.fields.reverse.findSome? fun f => f.resolved.aliasFor p with
  | none =>
    have hnone := List.findSome?_eq_none_iff.1 hfind f (List.mem_reverse.2 hf)
    rw [ResolvedType.aliasFor_eq_some_iff.2 ⟨hp, ha⟩] at hnone
    cases hnone
  | some b =>
    obtain ⟨g, hg, hb⟩ := List.exists_of_findSome?_eq_some hfind
    obtain ⟨hgp, hgb⟩ := ResolvedType.aliasFor_eq_some_iff.1 hb
    exact ⟨g, List.mem_reverse.1 hg, b, hgp, hgb, by rw [hget, hfind]⟩

theorem Field.Resolved.qualifier_eq (h : f.Resolved config metadata) (hp : f.resolved.package = some p)
    (ha : f.resolved.qualifier = some a) :
    a = if f.resolved.isPrimitive then p else config.importAlias p := by
  rw [h.resolved] at hp ha ⊢
  exact ResolvedType.qualifier_resolve hp ha

theorem Field.Resolved.qualifier_of_primitive (h : f.Resolved config metadata)
    (hscalar : f.resolved.isPrimitive = true) : f.resolved.qualifier = f.resolved.package := by
  rw [h.resolved] at hscalar ⊢
  exact ResolvedType.qualifier_of_primitive hscalar

/-- A reference is the alias with a dot, and asks for a package. -/
theorem Field.Resolved.packageReference (h : f.Resolved config metadata) (hne : f.packageReference ≠ "") :
    ∃ p a, f.packageReference = a ++ "." ∧ f.resolved.package = some p ∧
      f.resolved.qualifier = some a := by
  unfold Field.packageReference at hne ⊢
  split at hne
  · next a ha =>
    rw [h.resolved] at ha
    obtain ⟨p, hp⟩ := ResolvedType.package_of_qualifier ha
    rw [← h.resolved] at ha hp
    split at hne
    · exact absurd rfl hne
    · next hscalar => exact ⟨p, a, if_neg hscalar, hp, ha⟩
  · exact absurd rfl hne

/-- What lines build has its fields resolved and their imports registered. -/
theorem Builder.Builds.resolved (h : Builds config metadata s) :
    (∀ f ∈ s.fields, f.Resolved config metadata) ∧ s.Registered := by
  obtain ⟨b, ⟨hwrites, hregistered⟩, rfl⟩ := h.invariant
    (P := fun b => b.Writes config metadata ∧ b.schema.Registered)
    (fun b line text hb => ⟨feed_writes b line text hb.1, feed_registered b line text hb.2⟩)
    ⟨start_writes config metadata, rfl⟩
  exact ⟨fun f hf => (hwrites.fields f hf).2, hregistered⟩

/-- Two fields of one package that are both scalars, or both no scalars, ask
for the same alias; two of different kinds ask for the same one only when
there is no suffix. -/
theorem Builder.Builds.aliasesRegistered_iff (h : Builds config metadata s) :
    s.AliasesRegistered ↔ ¬ s.SupportClash config := by
  obtain ⟨hresolved, hregistered⟩ := h.resolved
  constructor
  · intro haliases hclash
    obtain ⟨hsuffix, f, hf, g, hg, hscalar, hmessage, hpackage, hsame, hqualifier⟩ := hclash
    obtain ⟨p, hp⟩ := Option.ne_none_iff_exists'.1 hpackage
    obtain ⟨a, ha⟩ := Option.ne_none_iff_exists'.1 hqualifier
    have hfp := haliases.qualifiers f hf p p hp
      (by rw [(hresolved f hf).qualifier_of_primitive hscalar, hp])
    have hgp := haliases.qualifiers g hg p a (hsame.trans hp) ha
    have halias := (hresolved g hg).qualifier_eq (hsame.trans hp) ha
    rw [hmessage] at halias
    rw [hfp] at hgp
    exact hsuffix (Config.importAlias_eq_self_iff.1 (halias.symm.trans (Option.some.inj hgp).symm))
  · intro hclash
    have hqualifiers : ∀ f ∈ s.fields, ∀ p a, f.resolved.package = some p →
        f.resolved.qualifier = some a → s.imports.get? p = some a := by
      intro f hf p a hp ha
      obtain ⟨g, hg, b, hgp, hgb, hget⟩ := hregistered.exists_field hf hp ha
      have hsuffix : f.resolved.isPrimitive ≠ g.resolved.isPrimitive → config.importSuffix = "" := by
        intro hne
        refine Decidable.byContradiction fun hsuffix => hclash ⟨hsuffix, ?_⟩
        cases hfs : f.resolved.isPrimitive with
        | true =>
          refine ⟨f, hf, g, hg, hfs, ?_, by simp [hp], hgp.trans hp.symm, by simp [hgb]⟩
          rw [hfs] at hne
          simpa using hne.symm
        | false =>
          refine ⟨g, hg, f, hf, ?_, hfs, by simp [hgp], hp.trans hgp.symm, by simp [ha]⟩
          rw [hfs] at hne
          simpa using hne.symm
      rw [hget, (hresolved f hf).qualifier_eq hp ha, (hresolved g hg).qualifier_eq hgp hgb]
      by_cases hkinds : f.resolved.isPrimitive = g.resolved.isPrimitive
      · rw [hkinds]
      · simp only [Config.importAlias_of_suffix_empty (hsuffix hkinds), ite_self]
    refine ⟨hqualifiers, fun f hf hne => ?_⟩
    obtain ⟨p, a, hreference, hp, ha⟩ := (hresolved f hf).packageReference hne
    exact ⟨p, a, hreference, hqualifiers f hf p a hp ha⟩

end

/-! ## Messages and services -/

/-- **The aliases of fields are registered unless a message package has the
name of a support package.** This holds of all that reading a message hands
over, and of both halves of what reading a service hands over. -/
theorem handedOver_aliases_iff (config : Config) :
    (∀ metadata text s, Failure.handedOver (Schema.ofText config metadata text) = some s →
      (s.AliasesRegistered ↔ ¬ s.SupportClash config)) ∧
    ∀ package name text v, Failure.handedOver (Service.ofText config package name text) = some v →
      (v.request.AliasesRegistered ↔ ¬ v.request.SupportClash config) ∧
      (v.response.AliasesRegistered ↔ ¬ v.response.SupportClash config) := by
  constructor
  · intro metadata text s h
    exact (builds_of_feedAll h).aliasesRegistered_iff
  · intro package name text v h
    obtain ⟨hrequest, hresponse⟩ := Service.builds_halves h
    exact ⟨hrequest.aliasesRegistered_iff, hresponse.aliasesRegistered_iff⟩

/-- A message that a fault cuts short, and a service whose request mentions a
message of its own package. -/
theorem handedOver_aliases_iff_partial :
    (∃ s, Failure.handedOver (Schema.ofText .standard (.message "p" "M") "string s\nq/Foo x\n?") = some s ∧
      s.imports.get? "q" = some "q_msg" ∧ s.AliasesRegistered) ∧
    ∃ v, Failure.handedOver (Service.ofText .standard "p" "S" "Foo x\n---\ntime t") = some v ∧
      v.request.AliasesRegistered ∧ v.response.AliasesRegistered := by
  obtain ⟨hmessage, hservice⟩ := handedOver_aliases_iff .standard
  refine ⟨⟨_, rfl, rfl, (hmessage (.message "p" "M") "string s\nq/Foo x\n?" _ rfl).2 (by decide)⟩, ?_⟩
  obtain ⟨hrequest, hresponse⟩ := hservice "p" "S" "Foo x\n---\ntime t" _ rfl
  exact ⟨_, rfl, hrequest.2 (by decide), hresponse.2 (by decide)⟩

/-- A message of a package named like the support package of texts, and a text
after it: the reference of the first is imported under no alias. -/
theorem packageReference_not_registered :
    ∃ s, Schema.ofText .standard (.message "p" "M") "primitives/Foo x\nstring s" = .ok s ∧
      (∃ f ∈ s.fields, f.resolved.package = some "primitives" ∧
        f.resolved.qualifier = some "primitives_msg" ∧ f.packageReference = "primitives_msg." ∧
        s.imports.entries = [("primitives", "primitives")]) ∧
      ¬ s.AliasesRegistered := by
  refine ⟨_, rfl, ⟨_, List.mem_cons_self, rfl, rfl, rfl, rfl⟩, fun h => ?_⟩
  have hget := h.qualifiers _ List.mem_cons_self "primitives" "primitives_msg" rfl rfl
  exact absurd hget (by decide)

end MessageSchema
