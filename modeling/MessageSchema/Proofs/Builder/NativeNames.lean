/-
The names of fields in the native struct. A reserved name gets an underscore
in front and every other name is kept, so two things can go wrong: the name
with the underscore may be reserved too, and another field may have that very
name. `Schema.ofText_nativeNames` says that nothing else can, and that the
built-in reserved words rule the first one out.
-/
import MessageSchema.Proofs.Builder.Aliases
import Mathlib.Data.List.Nodup

namespace MessageSchema

namespace Config

/-- The second name is free, and is what the first one, being reserved, is
changed into. -/
def Shadows (config : Config) (a b : String) : Prop :=
  a ∈ config.reservedWords ∧ b ∉ config.reservedWords ∧ b = "_" ++ a

instance (config : Config) (a b : String) : Decidable (config.Shadows a b) :=
  inferInstanceAs (Decidable (_ ∧ _))

/-- No built-in reserved word is another one with an underscore in front. -/
theorem underscore_not_mem_reservedWords :
    ∀ a ∈ MessageSchema.reservedWords, "_" ++ a ∉ MessageSchema.reservedWords := by
  decide

variable {config : Config} {a b : String}

theorem isReserved_iff : config.isReserved a = true ↔ a ∈ config.reservedWords :=
  List.contains_iff_mem

theorem nativeName_of_reserved (h : a ∈ config.reservedWords) : config.nativeName a = "_" ++ a :=
  if_pos (isReserved_iff.2 h)

theorem nativeName_of_free (h : a ∉ config.reservedWords) : config.nativeName a = a :=
  if_neg (isReserved_iff.not.2 h)

theorem nativeName_mem_reservedWords_iff :
    config.nativeName a ∈ config.reservedWords ↔
      a ∈ config.reservedWords ∧ "_" ++ a ∈ config.reservedWords := by
  by_cases ha : a ∈ config.reservedWords
  · rw [nativeName_of_reserved ha]
    exact (and_iff_right ha).symm
  · rw [nativeName_of_free ha]
    exact iff_of_false ha fun h => ha h.1

/-- Two names are changed into one only if one of them shadows the other. -/
theorem nativeName_eq_iff :
    config.nativeName a = config.nativeName b ↔ a = b ∨ config.Shadows a b ∨ config.Shadows b a := by
  unfold Shadows
  by_cases ha : a ∈ config.reservedWords
  · by_cases hb : b ∈ config.reservedWords
    · rw [nativeName_of_reserved ha, nativeName_of_reserved hb, String.append_right_inj]
      simp [ha, hb]
    · rw [nativeName_of_reserved ha, nativeName_of_free hb]
      have hne : a ≠ b := fun h => hb (h ▸ ha)
      simp [ha, hb, hne, eq_comm]
  · by_cases hb : b ∈ config.reservedWords
    · rw [nativeName_of_free ha, nativeName_of_reserved hb]
      have hne : a ≠ b := fun h => ha (h ▸ hb)
      simp [ha, hb, hne]
    · rw [nativeName_of_free ha, nativeName_of_free hb]
      simp [ha, hb]

/-- **Distinct names stay distinct unless one shadows another.** -/
theorem nodup_map_nativeName_iff {names : List String} (h : names.Nodup) :
    (names.map config.nativeName).Nodup ↔ ∀ a ∈ names, ∀ b ∈ names, ¬ config.Shadows a b := by
  constructor
  · intro hnative a ha b hb hshadows
    have heq : a = b :=
      List.inj_on_of_nodup_map hnative ha hb (nativeName_eq_iff.2 (.inr (.inl hshadows)))
    obtain ⟨hreserved, hfree, -⟩ := hshadows
    exact hfree (heq ▸ hreserved)
  · intro hno
    refine h.map_on fun a ha b hb heq => ?_
    rcases nativeName_eq_iff.1 heq with heq | hshadows | hshadows
    · exact heq
    · exact absurd hshadows (hno a ha b hb)
    · exact absurd hshadows (hno b hb a ha)

end Config

open Builder

/-- **The native names of a message whose field names are distinct.** Such a
name is reserved only if the field's name is, with and without an underscore
in front, which is so of no built-in reserved word; and these names are
distinct unless the name of one field shadows that of another. -/
theorem Schema.ofText_nativeNames {config : Config} {metadata : Metadata} {text : String} {s : Schema}
    (h : Schema.ofText config metadata text = .ok s) (hnames : (s.fields.map Field.name).Nodup) :
    (∀ f ∈ s.fields, f.nativeName ∈ config.reservedWords ↔
      f.name ∈ config.reservedWords ∧ "_" ++ f.name ∈ config.reservedWords) ∧
    (config.reservedWords = MessageSchema.reservedWords →
      ∀ f ∈ s.fields, f.nativeName ∉ config.reservedWords) ∧
    ((s.fields.map Field.nativeName).Nodup ↔
      ∀ f ∈ s.fields, ∀ g ∈ s.fields, ¬ config.Shadows f.name g.name) := by
  obtain ⟨hresolved, -⟩ := (builds_of_feedAll_ok h).resolved
  have hnative : ∀ f ∈ s.fields, f.nativeName = config.nativeName f.name := fun f hf =>
    (hresolved f hf).nativeName
  have hreserved : ∀ f ∈ s.fields, f.nativeName ∈ config.reservedWords ↔
      f.name ∈ config.reservedWords ∧ "_" ++ f.name ∈ config.reservedWords := by
    intro f hf
    rw [hnative f hf]
    exact Config.nativeName_mem_reservedWords_iff
  refine ⟨hreserved, ?_, ?_⟩
  · intro hbuiltIn f hf hmem
    have hboth := (hreserved f hf).1 hmem
    rw [hbuiltIn] at hboth
    exact Config.underscore_not_mem_reservedWords f.name hboth.1 hboth.2
  · have hmap : s.fields.map Field.nativeName = (s.fields.map Field.name).map config.nativeName := by
      rw [List.map_map]
      exact List.map_congr_left hnative
    rw [hmap, Config.nodup_map_nativeName_iff hnames]
    simp only [List.forall_mem_map]

/-- Two reserved names, and a free one with an underscore in front. -/
theorem Schema.ofText_nativeNames_reserved :
    ∃ s, Schema.ofText .standard (.message "p" "M") "int8 type\nint8 go\nint8 _types" = .ok s ∧
      (s.fields.map Field.name).Nodup ∧ s.fields.map Field.nativeName = ["_type", "_go", "_types"] ∧
      (s.fields.map Field.nativeName).Nodup ∧
      ∀ f ∈ s.fields, f.nativeName ∉ Config.standard.reservedWords := by
  obtain ⟨-, hbuiltIn, hdistinct⟩ := Schema.ofText_nativeNames
    (show Schema.ofText .standard (.message "p" "M") "int8 type\nint8 go\nint8 _types" = .ok _ from rfl)
    (by decide)
  exact ⟨_, rfl, by decide, rfl, hdistinct.2 (by decide), hbuiltIn rfl⟩

/-- Two fields whose distinct names become one, and a reserved name that
becomes another reserved name. -/
theorem nativeNames_collide :
    (∃ s, Schema.ofText .standard (.message "p" "M") "int8 type\nint8 _type" = .ok s ∧
      (s.fields.map Field.name).Nodup ∧ s.fields.map Field.nativeName = ["_type", "_type"] ∧
      ¬ (s.fields.map Field.nativeName).Nodup) ∧
    ∃ s, Schema.ofText { reservedWords := ["type", "_type"] } (.message "p" "M") "int8 type" = .ok s ∧
      (s.fields.map Field.name).Nodup ∧ ∃ f ∈ s.fields, f.nativeName ∈ ["type", "_type"] := by
  constructor
  · obtain ⟨s, hread, hnames, hnative⟩ :
        ∃ s, Schema.ofText .standard (.message "p" "M") "int8 type\nint8 _type" = .ok s ∧
          (s.fields.map Field.name).Nodup ∧ s.fields.map Field.nativeName = ["_type", "_type"] :=
      ⟨_, rfl, by decide, rfl⟩
    refine ⟨s, hread, hnames, hnative, ?_⟩
    rw [hnative]
    decide
  · exact ⟨_, rfl, by decide, _, List.mem_cons_self, by decide⟩

end MessageSchema
