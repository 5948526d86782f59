/-
The text of an interface loses nothing: it is a JSON text of the document of the
interface and of no other value, no object in the document has a key twice,
and the document reads back as the interface (`Interface.render_lossless`).
-/
import MessageSchema.Proofs.Interface.Decoding
import MessageSchema.Proofs.Json.Document

namespace MessageSchema

/-! ## No key twice -/

namespace Json

/-- No object in the value has a key twice, so that a reader finds every member
under its key. -/
inductive DistinctKeys : Json → Prop where
  | null : DistinctKeys .null
  | bool (b : Bool) : DistinctKeys (.bool b)
  | number (n : Nat) : DistinctKeys (.number n)
  | text (s : String) : DistinctKeys (.text s)
  | list {vs : List Json} (elements : ∀ v ∈ vs, DistinctKeys v) : DistinctKeys (.list vs)
  | object {ms : List (String × Json)} (keys : (ms.map Prod.fst).Nodup)
      (members : ∀ m ∈ ms, DistinctKeys m.2) : DistinctKeys (.object ms)

attribute [simp] DistinctKeys.null DistinctKeys.bool DistinctKeys.number DistinctKeys.text

@[simp] theorem distinctKeys_list {vs : List Json} :
    DistinctKeys (.list vs) ↔ ∀ v ∈ vs, DistinctKeys v := by
  refine ⟨fun h => ?_, .list⟩
  cases h with
  | list elements => exact elements

@[simp] theorem distinctKeys_object {ms : List (String × Json)} :
    DistinctKeys (.object ms) ↔ (ms.map Prod.fst).Nodup ∧ ∀ m ∈ ms, DistinctKeys m.2 := by
  refine ⟨fun h => ?_, fun h => .object h.1 h.2⟩
  cases h with
  | object keys members => exact ⟨keys, members⟩

@[simp] theorem distinctKeys_optional (value : Option String) : DistinctKeys (optional value) := by
  cases value <;> simp [optional]

end Json

open Json (DistinctKeys)

@[simp] theorem Primitive.distinctKeys_optionalJson (p : Option Primitive) :
    DistinctKeys (Primitive.optionalJson p) := by
  cases p <;> simp [optionalJson, toJson]

@[simp] theorem Metadata.distinctKeys (m : Metadata) : DistinctKeys m.toJson := by
  simp [toJson]

@[simp] theorem ArrayKind.distinctKeys (a : ArrayKind) : DistinctKeys a.toJson := by
  cases a <;> simp [toJson]

@[simp] theorem ResolvedType.distinctKeys (r : ResolvedType) : DistinctKeys r.toJson := by
  simp [toJson]

@[simp] theorem DefaultValue.distinctKeys (d : Option DefaultValue) :
    DistinctKeys (DefaultValue.optionalJson d) := by
  rcases d with _ | ⟨_⟩ | ⟨_⟩
  all_goals simp [optionalJson, Json.texts]

@[simp] theorem Field.distinctKeys (f : Field) : DistinctKeys f.toJson := by
  cases h : f.stringBound <;> simp [toJson, h]

@[simp] theorem Constant.distinctKeys (c : Constant) : DistinctKeys c.toJson := by
  simp [toJson]

/-- The keys of an import map are distinct because they ascend. -/
@[simp] theorem Imports.distinctKeys (m : Imports) : DistinctKeys m.toJson := by
  have hne : ∀ {a b : String × String}, a.1 < b.1 → a.1 ≠ b.1 := by
    intro a b hlt heq
    rw [heq] at hlt
    exact String.lt_irrefl _ hlt
  have hkeys : (m.entries.map Prod.fst).Nodup := List.pairwise_map.2 (m.sorted.imp hne)
  refine .object ?_ ?_
  · rw [List.map_map]
    exact hkeys
  · intro member hmember
    obtain ⟨e, -, rfl⟩ := List.mem_map.1 hmember
    exact .text e.2

@[simp] theorem Schema.distinctKeys (s : Schema) : DistinctKeys s.toJson := by
  simp [toJson, jsonMembers]

theorem Interface.distinctKeys (i : Interface) : DistinctKeys i.toJson := by
  cases i <;> simp [toJson, jsonMembers, Schema.jsonMembers, Service.jsonMembers]

/-! ## The text of an interface -/

/-- The keys of the document of an interface: first the one that tells its kind,
then its parts in the order of their declaration. -/
theorem Interface.keys_toJson (i : Interface) :
    i.toJson.keys = "interface" :: match i with
      | message _ => ["meta", "fields", "constants", "imports"]
      | service _ => ["package", "name", "request", "response"] := by
  cases i <;> rfl

/-- **Nothing is lost in the text of an interface.** It is a JSON text of one
value. The keys of that value are the one for the kind and then the parts in
the order of their declaration, no object in it has a key twice, and it reads
back as the interface. So two interfaces with the same text are equal. -/
theorem Interface.render_lossless (i : Interface) :
    (∃ v, Json.Denotes i.render v) ∧
    (∀ v, Json.Denotes i.render v →
      (v.keys = "interface" :: match i with
        | message _ => ["meta", "fields", "constants", "imports"]
        | service _ => ["package", "name", "request", "response"]) ∧
      DistinctKeys v ∧ ofJson? v = some i) ∧
    ∀ j : Interface, i.render = j.render → i = j := by
  have hrender : ∀ k : Interface, Json.Denotes k.render k.toJson := fun k => Json.denotes_pretty k.toJson
  refine ⟨⟨i.toJson, hrender i⟩, ?value, ?same⟩
  case value =>
    intro v hv
    obtain rfl := hv.unique (hrender i)
    exact ⟨i.keys_toJson, i.distinctKeys, i.ofJson?_toJson⟩
  case same =>
    intro j h
    -- the text of `j` stands for the document of `i` too
    have hvalue : j.toJson = i.toJson := (h ▸ hrender j : Json.Denotes i.render j.toJson).unique (hrender i)
    have hread := i.ofJson?_toJson
    rw [← hvalue, j.ofJson?_toJson] at hread
    exact (Option.some.inj hread).symm

/-- A message with one constant, whose value has a quote and a line feed in it. -/
theorem Interface.render_lossless_quotes :
    let i := message ⟨.message "p" "M", [], [⟨1, "Foo", none, "A", "\"\n", ""⟩], .empty⟩
    i.render = "\n".intercalate [
      "\x7b",
      "  \"interface\": \"message\",",
      "  \"meta\": \x7b",
      "    \"package\": \"p\",",
      "    \"name\": \"M\",",
      "    \"kind\": \"message\"",
      "  \x7d,",
      "  \"fields\": [],",
      "  \"constants\": [",
      "    \x7b",
      "      \"line\": 1,",
      "      \"type_token\": \"Foo\",",
      "      \"primitive\": null,",
      "      \"name\": \"A\",",
      "      \"value\": \"\\\"\\n\",",
      "      \"comment\": \"\"",
      "    \x7d",
      "  ],",
      "  \"imports\": \x7b\x7d",
      "\x7d"] ∧
    ∃ v, Json.Denotes i.render v ∧ ofJson? v = some i := by
  intro i
  obtain ⟨⟨v, hv⟩, hvalue, -⟩ := render_lossless i
  exact ⟨by decide +kernel, v, hv, (hvalue v hv).2.2⟩

end MessageSchema
