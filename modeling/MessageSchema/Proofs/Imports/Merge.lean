/-
Imports read package by package. Since the entries are kept in order, imports
with the same alias for every package are the same (`ext_get?`), so an equation
between imports is one between look-ups. Merging puts the entries of one over
those of another; it is what importing them one after the other comes to.
-/
import MessageSchema.Imports
import Mathlib.Data.List.Basic

namespace MessageSchema.Imports

/-- In ordered entries, to be among them is to be found. -/
theorem mem_iff_lookup {es : List (String × String)} (h : es.Pairwise fun a b => a.1 < b.1)
    {key a : String} : (key, a) ∈ es ↔ es.lookup key = some a := by
  induction es with
  | nil => simp
  | cons e es ih =>
    obtain ⟨package, qualifier⟩ := e
    obtain ⟨hfirst, hes⟩ := List.pairwise_cons.1 h
    rw [lookup_cons_eq_ite, List.mem_cons, Prod.mk.injEq, ih hes]
    by_cases hk : key = package
    · subst hk
      rw [if_pos rfl, Option.some.injEq]
      constructor
      · intro hmem
        rcases hmem with hmem | hmem
        · exact hmem.2.symm
        · exact absurd (hfirst (key, a) ((ih hes).2 hmem)) (String.lt_irrefl key)
      · intro ha
        exact .inl ⟨rfl, ha.symm⟩
    · rw [if_neg hk]
      exact or_iff_right fun hmem => hk hmem.1

theorem nodup_of_sorted {es : List (String × String)} (h : es.Pairwise fun a b => a.1 < b.1) : es.Nodup := by
  refine h.imp ?_
  intro a b hlt heq
  subst heq
  exact String.lt_irrefl a.1 hlt

/-- **Imports are told apart by their aliases.** -/
theorem ext_get? {m m' : Imports} (h : ∀ key, m.get? key = m'.get? key) : m = m' := by
  obtain ⟨es, hes⟩ := m
  obtain ⟨es', hes'⟩ := m'
  have hperm : es.Perm es' := by
    rw [List.perm_ext_iff_of_nodup (nodup_of_sorted hes) (nodup_of_sorted hes')]
    intro e
    obtain ⟨key, a⟩ := e
    rw [mem_iff_lookup hes, mem_iff_lookup hes']
    exact Eq.congr_left (h key)
  have heq : es = es' :=
    hperm.eq_of_pairwise (fun a b _ _ hab hba => absurd (String.lt_trans hab hba) (String.lt_irrefl _))
      hes hes'
  subst heq
  rfl

/-- Imports what either of the two imports; where both import a package, the
second names its alias. -/
def merge (m m' : Imports) : Imports :=
  m'.entries.foldr (fun e acc => acc.insert e.1 e.2) m

theorem get?_merge (m m' : Imports) (key : String) :
    (m.merge m').get? key = (m'.get? key).or (m.get? key) := by
  unfold merge
  show _ = (m'.entries.lookup key).or (m.get? key)
  induction m'.entries with
  | nil => rfl
  | cons e es ih =>
    obtain ⟨package, qualifier⟩ := e
    rw [List.foldr_cons, get?_insert, ih, lookup_cons_eq_ite]
    split
    · rfl
    · rfl

@[simp] theorem merge_empty (m : Imports) : m.merge .empty = m := rfl

/-- An import after a merge is one into what was merged last. -/
theorem insert_merge (m m' : Imports) (package qualifier : String) :
    (m.merge m').insert package qualifier = m.merge (m'.insert package qualifier) := by
  refine ext_get? fun key => ?_
  rw [get?_insert, get?_merge, get?_merge, get?_insert]
  split <;> rfl

end MessageSchema.Imports
