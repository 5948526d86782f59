/-
Two runs side by side. `feedAll_alike` is the rule for them: when feeding a
pair of lines keeps two builders related, reading the lines to the end leaves
related schemas, or stops both builders at the same line with related faults.
What differs from one comparison of runs to the next is only what one line
does, and that depends on what the line holds (`feed_eq_feedContent`).
-/
import MessageSchema.Proofs.Builder.Run
import Mathlib.Data.List.Forall2

namespace MessageSchema

open Text

/-! ## What may be missing -/

section

variable {α β : Type} {o o' : Option α}

theorem optionRel_eq_iff : Option.Rel Eq o o' ↔ o = o' := by
  constructor
  · intro h
    cases h with
    | none => rfl
    | some h => rw [h]
  · rintro rfl
    cases o with
    | none => exact .none
    | some a => exact .some rfl

theorem optionRel_of_map_eq {f : α → β} (h : o.map f = o'.map f) :
    Option.Rel (fun a a' => f a = f a') o o' := by
  cases o with
  | none =>
    rw [Option.map_none, eq_comm, Option.map_eq_none_iff] at h
    rw [h]
    exact .none
  | some a =>
    rw [Option.map_some, eq_comm, Option.map_eq_some_iff] at h
    obtain ⟨a', rfl, ha⟩ := h
    exact .some ha.symm

theorem optionRel_map {β' : Type} {R : α → α → Prop} {S : β → β' → Prop} {f : α → β} {f' : α → β'}
    (hf : ∀ a a', R a a' → S (f a) (f' a')) (h : Option.Rel R o o') :
    Option.Rel S (o.map f) (o'.map f') := by
  cases h with
  | none => exact .none
  | some h => exact .some (hf _ _ h)

end

/-! ## Readers that end alike -/

section

variable {ε α : Type} {E : ε → ε → Prop} {S : α → α → Prop}

/-- Two readers end alike when both succeed or both fail: what they give back
is related by `S`, and so is what they had assembled before a failure; the
causes of the failures are related by `E`. -/
inductive Alike (E : ε → ε → Prop) (S : α → α → Prop) :
    Except (Failure ε α) α → Except (Failure ε α) α → Prop where
  | ok {a a' : α} (result : S a a') : Alike E S (.ok a) (.ok a')
  | error {failure failure' : Failure ε α} (cause : E failure.cause failure'.cause)
      (assembled : Option.Rel S failure.assembled failure'.assembled) :
      Alike E S (.error failure) (.error failure')

/-- Readers that end alike, by how they end. -/
theorem Alike.ends {r r' : Except (Failure ε α) α} (h : Alike E S r r') :
    (∃ a a', r = .ok a ∧ r' = .ok a' ∧ S a a') ∨
      ∃ failure failure', r = .error failure ∧ r' = .error failure' ∧ E failure.cause failure'.cause ∧
        Option.Rel S failure.assembled failure'.assembled := by
  cases h with
  | ok result => exact .inl ⟨_, _, rfl, rfl, result⟩
  | error cause assembled => exact .inr ⟨_, _, rfl, rfl, cause, assembled⟩

theorem Alike.imp {S' : α → α → Prop} (hS : ∀ a a', S a a' → S' a a')
    {r r' : Except (Failure ε α) α} (h : Alike E S r r') : Alike E S' r r' := by
  cases h with
  | ok result => exact .ok (hS _ _ result)
  | @error failure failure' cause assembled =>
    have hmap : Option.Rel S' (failure.assembled.map id) (failure'.assembled.map id) :=
      optionRel_map hS assembled
    rw [Option.map_id_apply, Option.map_id_apply] at hmap
    exact .error cause hmap

theorem Alike.eq {r r' : Except (Failure ε α) α} (h : Alike Eq Eq r r') : r = r' := by
  cases h with
  | ok result => rw [result]
  | @error failure failure' cause assembled =>
    obtain ⟨a, e⟩ := failure
    obtain ⟨a', e'⟩ := failure'
    have hcause : e = e' := cause
    have hassembled : a = a' := optionRel_eq_iff.1 assembled
    rw [hcause, hassembled]

/-- Readers of which the first gives `f` of what the second gives. -/
theorem Alike.eq_map {f : α → α} {r r' : Except (Failure ε α) α} :
    Alike Eq (fun a a' => a = f a') r r' →
      r = match r' with
        | .ok a => .ok (f a)
        | .error failure => .error (failure.map f) := by
  intro h
  cases h with
  | ok result => rw [result]
  | @error failure failure' cause assembled =>
    obtain ⟨a, e⟩ := failure
    obtain ⟨a', e'⟩ := failure'
    have hcause : e = e' := cause
    have hassembled : a = a'.map f := by
      cases assembled with
      | none => rfl
      | some h => rw [h, Option.map_some]
    rw [hcause, hassembled]
    rfl

end

namespace Builder

/-! ## One line -/

/-- What the content of a trimmed line does to a builder. -/
def feedContent (b : Builder) (line : Nat) (text : String) : LineContent → Builder × Option LineError
  | .comment comment => (b.withPending (b.pending.push comment), none)
  | .blank => (b.withPending .empty, none)
  | .declaration (.constant decl) =>
    ({ b.withPending .empty with schema := b.schema.addConstant (b.constant line decl) },
      if (b.constant line decl).primitive = none then
        some (.unknownConstantType line (b.constant line decl).typeToken) else none)
  | .declaration (.field decl) =>
    match b.field line text decl with
    | .ok f => ({ b.withPending .empty with schema := b.schema.addField f }, none)
    | .error e => (b, some e)
  | .malformed => (b, some (.malformed line text))

/-- A line acts through its content alone. -/
theorem feed_eq_feedContent (b : Builder) (line : Nat) (text : String) :
    b.feed line text = b.feedContent line (trimmed text) (LineContent.of (trimmed text)) := by
  unfold feed read
  simp only
  generalize LineContent.of (trimmed text) = content
  cases content with
  | comment comment => rfl
  | blank => rfl
  | malformed => rfl
  | declaration decl =>
    cases decl with
    | constant decl => rfl
    | field decl =>
      simp only [feedContent]
      cases b.field line (trimmed text) decl <;> rfl

/-! ## All lines -/

variable {P : String → String → Prop} {R : Builder → Builder → Prop} {E : LineError → LineError → Prop}
  {S : Schema → Schema → Prop} {b b' : Builder} {ls ls' : List String}

/-- **Runs that are kept alike line by line end alike.** -/
theorem feedAll_alike
    (step : ∀ {b b' line source source'}, R b b' → P source source' →
      R (b.feed line source).1 (b'.feed line source').1 ∧
        Option.Rel E (b.feed line source).2 (b'.feed line source').2)
    (schema : ∀ {b b'}, R b b' → S b.schema b'.schema) (hb : R b b') (hls : List.Forall₂ P ls ls')
    (first : Nat) :
    Alike E S (b.feedAll (numberFrom first ls)) (b'.feedAll (numberFrom first ls')) := by
  induction hls generalizing b b' first with
  | nil => exact .ok (schema hb)
  | @cons source source' ls ls' hsource _ ih =>
    obtain ⟨hnext, hfault⟩ : R (b.feed first source).1 (b'.feed first source').1 ∧
        Option.Rel E (b.feed first source).2 (b'.feed first source').2 := step hb hsource
    cases hfeed : b.feed first source with
    | mk b₁ fault =>
      cases hfeed' : b'.feed first source' with
      | mk b₁' fault' =>
        rw [hfeed, hfeed'] at hnext hfault
        cases hfault with
        | none =>
          have hread : b.feedAll ((first, source) :: numberFrom (first + 1) ls) =
              b₁.feedAll (numberFrom (first + 1) ls) := feedAll_cons_ok hfeed
          have hread' : b'.feedAll ((first, source') :: numberFrom (first + 1) ls') =
              b₁'.feedAll (numberFrom (first + 1) ls') := feedAll_cons_ok hfeed'
          rw [numberFrom, numberFrom, hread, hread']
          exact ih hnext (first + 1)
        | @some e e' he =>
          have hread : b.feedAll ((first, source) :: numberFrom (first + 1) ls) =
              .error ⟨some b₁.schema, e⟩ := feedAll_cons_error hfeed
          have hread' : b'.feedAll ((first, source') :: numberFrom (first + 1) ls') =
              .error ⟨some b₁'.schema, e'⟩ := feedAll_cons_error hfeed'
          rw [numberFrom, numberFrom, hread, hread']
          exact .error he (.some (schema hnext))

end Builder

end MessageSchema
