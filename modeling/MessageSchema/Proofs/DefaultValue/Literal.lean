/-
Literals between double quotes, and the text one stands for. Between the
quotes a backslash escapes the character behind it, whatever that is, and a
double quote has to be escaped (`Spells`). `decode?` reads a literal from the
left and takes the first double quote that is not escaped for its end; it
reads all literals and nothing else (`decode?_eq_some_iff`).
-/
import MessageSchema.DefaultValue

namespace MessageSchema.DefaultValue

/-- The characters between the quotes stand for the text. -/
inductive Spells : List Char → List Char → Prop where
  | nil : Spells [] []
  | plain {c : Char} {cs text : List Char} (quote : c ≠ '"') (backslash : c ≠ '\\')
      (rest : Spells cs text) : Spells (c :: cs) (c :: text)
  | escaped (c : Char) {cs text : List Char} (rest : Spells cs text) :
      Spells ('\\' :: c :: cs) (c :: text)

/-- Reads a literal after its opening double quote, up to the first double
quote that is not escaped: its text, and what stands behind it. -/
def readText? : List Char → Option (List Char × List Char)
  | [] => none
  | '"' :: cs => some ([], cs)
  | ['\\'] => none
  | '\\' :: c :: cs => (readText? cs).map fun (text, rest) => (c :: text, rest)
  | c :: cs => (readText? cs).map fun (text, rest) => (c :: text, rest)

/-- The text of a literal, if the characters are one. -/
def decode? : List Char → Option (List Char)
  | '"' :: cs =>
    match readText? cs with
    | some (text, []) => some text
    | _ => none
  | _ => none

/-- The characters are one literal. -/
def IsLiteral (cs : List Char) : Prop := (decode? cs).isSome = true

instance (cs : List Char) : Decidable (IsLiteral cs) :=
  inferInstanceAs (Decidable (_ = true))

/-! ## Reading -/

theorem Spells.readText? {body text : List Char} (h : Spells body text) (rest : List Char) :
    readText? (body ++ '"' :: rest) = some (text, rest) := by
  induction h with
  | nil => rfl
  | plain quote backslash h ih =>
    rw [List.cons_append, DefaultValue.readText?, ih]
    · rfl
    · exact quote
    · exact fun hc _ => backslash hc
    · exact fun _ _ hc _ => backslash hc
  | escaped c h ih =>
    rw [List.cons_append, List.cons_append, DefaultValue.readText?, ih]
    rfl

theorem spells_of_readText? {cs text rest : List Char} (h : readText? cs = some (text, rest)) :
    ∃ body, Spells body text ∧ cs = body ++ '"' :: rest := by
  fun_induction readText? cs generalizing text with
  | case1 => cases h
  | case2 cs =>
    cases h
    exact ⟨[], .nil, rfl⟩
  | case3 => cases h
  | case4 c cs ih =>
    obtain ⟨⟨t, r⟩, hread, heq⟩ := Option.map_eq_some_iff.1 h
    cases heq
    obtain ⟨body, hbody, rfl⟩ := ih hread
    exact ⟨'\\' :: c :: body, .escaped c hbody, rfl⟩
  | case5 c cs quote last backslash ih =>
    obtain ⟨⟨t, r⟩, hread, heq⟩ := Option.map_eq_some_iff.1 h
    cases heq
    obtain ⟨body, hbody, rfl⟩ := ih hread
    have hc : c ≠ '\\' := by
      rintro rfl
      cases body with
      | nil => exact backslash '"' rest rfl rfl
      | cons d body => exact backslash d _ rfl rfl
    exact ⟨c :: body, .plain quote hc hbody, rfl⟩

/-- **What is read as a literal is one**, and a literal is read as its text. -/
theorem decode?_eq_some_iff {cs text : List Char} :
    decode? cs = some text ↔ ∃ body, Spells body text ∧ cs = '"' :: (body ++ ['"']) := by
  constructor
  · intro h
    unfold decode? at h
    split at h
    · next cs =>
      split at h
      · next t hread =>
        cases h
        obtain ⟨body, hbody, rfl⟩ := spells_of_readText? hread
        exact ⟨body, hbody, rfl⟩
      · cases h
    · cases h
  · rintro ⟨body, hbody, rfl⟩
    rw [decode?, hbody.readText?]

theorem decode?_enclosed_iff {body text : List Char} :
    decode? ('"' :: (body ++ ['"'])) = some text ↔ Spells body text := by
  rw [decode?_eq_some_iff]
  constructor
  · rintro ⟨body', hbody, heq⟩
    obtain rfl : body = body' := by simpa using heq
    exact hbody
  · intro hbody
    exact ⟨body, hbody, rfl⟩

instance (body text : List Char) : Decidable (Spells body text) :=
  decidable_of_iff _ decode?_enclosed_iff

theorem isLiteral_enclosed_iff {body : List Char} :
    IsLiteral ('"' :: (body ++ ['"'])) ↔ ∃ text, Spells body text := by
  rw [IsLiteral, Option.isSome_iff_exists]
  exact exists_congr fun _ => decode?_enclosed_iff

end MessageSchema.DefaultValue
