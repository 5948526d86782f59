/-
The imports of a schema: a map from packages to the aliases under which
they are imported, kept in the order of the package names, so that two maps
with the same entries are equal.
-/

namespace MessageSchema

/-- A map from packages to aliases. -/
structure Imports where
  entries : List (String × String)
  sorted : entries.Pairwise fun a b => a.1 < b.1
deriving DecidableEq

namespace Imports

/-- No imports. -/
def empty : Imports := ⟨[], .nil⟩

instance : Inhabited Imports := ⟨empty⟩

/-- Puts an entry into its place, over the one with the same package. -/
def place (package qualifier : String) : List (String × String) → List (String × String)
  | [] => [(package, qualifier)]
  | e :: es =>
    if package < e.1 then (package, qualifier) :: e :: es
    else if package = e.1 then (package, qualifier) :: es
    else e :: place package qualifier es

theorem mem_place {package qualifier : String} {es : List (String × String)} {e : String × String}
    (h : e ∈ place package qualifier es) : e = (package, qualifier) ∨ e ∈ es := by
  induction es with
  | nil => simpa [place] using h
  | cons d es ih =>
    unfold place at h
    split at h
    · simpa using h
    · split at h
      · simp only [List.mem_cons] at h ⊢
        exact h.imp id .inr
      · simp only [List.mem_cons] at h ⊢
        rcases h with rfl | h
        · exact .inr (.inl rfl)
        · exact (ih h).imp id .inr

theorem place_sorted (package qualifier : String) {es : List (String × String)}
    (h : es.Pairwise fun a b => a.1 < b.1) :
    (place package qualifier es).Pairwise fun a b => a.1 < b.1 := by
  induction es with
  | nil => simp [place]
  | cons d es ih =>
    obtain ⟨hd, hes⟩ := List.pairwise_cons.1 h
    unfold place
    split
    · rename_i hlt
      refine List.pairwise_cons.2 ⟨fun e he => ?_, h⟩
      rcases List.mem_cons.1 he with rfl | he
      · exact hlt
      · exact String.lt_trans hlt (hd e he)
    · rename_i hlt
      split
      · rename_i heq
        exact List.pairwise_cons.2 ⟨fun e he => heq ▸ hd e he, hes⟩
      · rename_i hne
        refine List.pairwise_cons.2 ⟨fun e he => ?_, ih hes⟩
        rcases mem_place he with rfl | he
        · refine Decidable.byContradiction fun hnot => hne ?_
          exact String.le_antisymm (String.not_lt.1 hnot) (String.not_lt.1 hlt)
        · exact hd e he

/-- Imports a package under an alias, which replaces an earlier one. -/
def insert (m : Imports) (package qualifier : String) : Imports :=
  ⟨place package qualifier m.entries, place_sorted package qualifier m.sorted⟩

/-- The alias of a package. -/
def get? (m : Imports) (package : String) : Option String :=
  m.entries.lookup package

theorem lookup_cons_eq_ite (key package qualifier : String) (es : List (String × String)) :
    ((package, qualifier) :: es).lookup key = if key = package then some qualifier else es.lookup key := by
  by_cases hk : key = package
  · subst hk
    simp
  · have hb : (key == package) = false := by simpa using hk
    simp only [List.lookup_cons, hb, if_neg hk]

theorem lookup_place (package qualifier key : String) (es : List (String × String)) :
    (place package qualifier es).lookup key = if key = package then some qualifier else es.lookup key := by
  induction es with
  | nil => exact lookup_cons_eq_ite key package qualifier []
  | cons d es ih =>
    obtain ⟨d, a⟩ := d
    unfold place
    split
    · exact lookup_cons_eq_ite key package qualifier _
    · split
      · rename_i heq
        have heq : package = d := heq
        subst heq
        rw [lookup_cons_eq_ite, lookup_cons_eq_ite]
        split <;> rfl
      · rename_i hne
        have hne : package ≠ d := hne
        rw [lookup_cons_eq_ite, lookup_cons_eq_ite, ih]
        by_cases hd : key = d
        · subst hd
          rw [if_pos rfl, if_neg (Ne.symm hne), if_pos rfl]
        · rw [if_neg hd, if_neg hd]

/-- After an import the package has the new alias, and all others have the
one they had. -/
theorem get?_insert (m : Imports) (package qualifier key : String) :
    (m.insert package qualifier).get? key = if key = package then some qualifier else m.get? key :=
  lookup_place package qualifier key m.entries

end Imports

end MessageSchema
