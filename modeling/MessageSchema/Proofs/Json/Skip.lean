/-
Passing over a value. The tokens of a value of any grammar-conforming text are
passed over as one value, in whatever lists and objects it stands and whatever
follows (`ValueText.exists_tokens`), so nothing behind a value is touched.
-/
import MessageSchema.Json.Skip
import MessageSchema.Proofs.Json.Grammar
import Mathlib.Data.List.Forall2

namespace MessageSchema.Json

open Token (Spelled)

/-- Passes over what is left of a value, if anything is. -/
def resume : Option Place → List Token → Except Fault (List Token)
  | none, ts => .ok ts
  | some place, ts => skipFrom place ts

/-- The tokens of one value, wherever a value is expected. -/
def Passed (ts : List Token) : Prop :=
  ∀ containers rest,
    skipFrom ⟨containers, .value⟩ (ts ++ rest) = resume (Place.afterValue containers) rest

theorem skipFrom_of_step {place : Place} {next : Option Place} {t : Token} (h : place.step t = .ok next)
    (ts : List Token) : skipFrom place (t :: ts) = resume next ts := by
  rw [skipFrom, h]
  cases next with
  | none => rfl
  | some place => rfl

theorem Passed.skip {ts : List Token} (h : Passed ts) (rest : List Token) : skip (ts ++ rest) = .ok rest :=
  h [] rest

theorem step_value (containers : List Container) (t : Token) :
    Place.step ⟨containers, .value⟩ t = Place.startValue containers t := by
  rw [Place.step]

/-- Where an element may stand, a token that closes no list is read as where a
value is expected. -/
theorem step_element (containers : List Container) {t : Token} (h : t ≠ .closeList) :
    Place.step ⟨containers, .element⟩ t = Place.startValue containers t := by
  cases containers with
  | nil => rfl
  | cons c containers =>
    cases t with
    | closeList => exact absurd rfl h
    | _ => rfl

theorem skipFrom_element (containers : List Container) {t : Token} (h : t ≠ .closeList) (ts : List Token) :
    skipFrom ⟨containers, .element⟩ (t :: ts) = skipFrom ⟨containers, .value⟩ (t :: ts) := by
  rw [skipFrom, skipFrom, step_element containers h, step_value]

theorem passed_scalar {t : Token}
    (h : ∀ containers, Place.startValue containers t = .ok (Place.afterValue containers)) : Passed [t] := by
  intro containers rest
  exact skipFrom_of_step ((step_value containers t).trans (h containers)) rest

theorem Passed.exists_cons {ts : List Token} (h : Passed ts) :
    ∃ t more, ts = t :: more ∧ t ≠ .closeList := by
  have hskip := h [] []
  cases ts with
  | nil => cases hskip
  | cons t more =>
    refine ⟨t, more, rfl, ?_⟩
    rintro rfl
    cases hskip

section

variable {c : Container} {containers : List Container} {expected : Expected} {close : Token}
  {tss : List (List Token)}

/-- Items with commas between them are passed over up to the closing bracket. -/
theorem skipFrom_items
    (hcomma : Place.step ⟨c :: containers, .separator⟩ .comma = .ok (some ⟨c :: containers, expected⟩))
    (hclose : Place.step ⟨c :: containers, .separator⟩ close = .ok (Place.afterValue containers))
    (hne : tss ≠ [])
    (hitems : ∀ ts ∈ tss, ∀ rest,
      skipFrom ⟨c :: containers, expected⟩ (ts ++ rest) = skipFrom ⟨c :: containers, .separator⟩ rest)
    (rest : List Token) :
    skipFrom ⟨c :: containers, expected⟩ ([.comma].intercalate tss ++ close :: rest) =
      resume (Place.afterValue containers) rest := by
  induction tss with
  | nil => exact absurd rfl hne
  | cons ts tss ih =>
    cases tss with
    | nil =>
      rw [List.intercalate_singleton, hitems ts (by simp)]
      exact skipFrom_of_step hclose rest
    | cons ts' tss =>
      have hmore := ih (by simp) fun ts hts => hitems ts (List.mem_cons_of_mem _ hts)
      simp only [List.intercalate_cons_cons, List.append_assoc, List.cons_append]
      rw [hitems ts (by simp), skipFrom_of_step hcomma]
      exact hmore

end

theorem passed_list {tss : List (List Token)} (h : ∀ ts ∈ tss, Passed ts) :
    Passed (bracketed .openList .closeList tss) := by
  intro containers rest
  have hopen : Place.step ⟨containers, .value⟩ .openList = .ok (some ⟨.list :: containers, .element⟩) :=
    step_value containers .openList
  have hcomma : Place.step ⟨.list :: containers, .separator⟩ .comma =
      .ok (some ⟨.list :: containers, .value⟩) := rfl
  have hclose : Place.step ⟨.list :: containers, .separator⟩ .closeList = .ok (Place.afterValue containers) := rfl
  rw [bracketed, List.cons_append, skipFrom_of_step hopen, resume, List.append_assoc, List.singleton_append]
  cases tss with
  | nil => exact skipFrom_of_step rfl rest
  | cons ts tss =>
    have hitems := skipFrom_items hcomma hclose (List.cons_ne_nil ts tss)
      (fun ts hts rest => h ts hts (.list :: containers) rest) rest
    obtain ⟨t, more, hts, hfirst⟩ := (h ts (by simp)).exists_cons
    obtain ⟨more', hstart⟩ : ∃ more', [.comma].intercalate (ts :: tss) ++ .closeList :: rest = t :: more' := by
      obtain ⟨rest', heq⟩ := separated_cons tss ts (.closeList :: rest)
      exact ⟨more ++ rest', by rw [heq, hts, List.cons_append]⟩
    rw [hstart] at hitems ⊢
    rw [← hitems, skipFrom_element _ hfirst]

theorem passed_object {α : Type} {members : List α} {name : α → Except Fault String} {value : α → List Token}
    (h : ∀ m ∈ members, Passed (value m)) :
    Passed (bracketed .openObject .closeObject (members.map fun m => keyed (name m) (value m))) := by
  intro containers rest
  have hopen : Place.step ⟨containers, .value⟩ .openObject = .ok (some ⟨.object :: containers, .member⟩) :=
    step_value containers .openObject
  have hcomma : Place.step ⟨.object :: containers, .separator⟩ .comma =
      .ok (some ⟨.object :: containers, .key⟩) := rfl
  have hclose : Place.step ⟨.object :: containers, .separator⟩ .closeObject =
      .ok (Place.afterValue containers) := rfl
  rw [bracketed, List.cons_append, skipFrom_of_step hopen, resume, List.append_assoc, List.singleton_append]
  cases members with
  | nil => exact skipFrom_of_step rfl rest
  | cons m members =>
    have hmember : ∀ ts ∈ (m :: members).map fun m => keyed (name m) (value m), ∀ rest,
        skipFrom ⟨.object :: containers, .key⟩ (ts ++ rest) =
          skipFrom ⟨.object :: containers, .separator⟩ rest := by
      intro ts hts rest
      obtain ⟨m', hm', rfl⟩ := List.mem_map.1 hts
      exact h m' hm' (.object :: containers) rest
    have hitems := skipFrom_items hcomma hclose (by simp) hmember rest
    obtain ⟨more, hstart⟩ := separated_cons (members.map fun m => keyed (name m) (value m))
      (keyed (name m) (value m)) (.closeObject :: rest)
    rw [List.map_cons, hstart] at hitems ⊢
    exact hitems

/-- **A value has tokens that are passed over** as one value. -/
theorem ValueText.exists_tokens {cs : List Char} (h : ValueText cs) : ∃ ts, ReadsAs cs ts ∧ Passed ts := by
  induction h with
  | @word word known =>
    simp only [List.mem_cons, List.not_mem_nil, or_false] at known
    rcases known with rfl | rfl | rfl
    · have hspelled : Spelled ('n' :: "ull".toList) .null := .literal rfl
      exact ⟨_, hspelled.readsAs, passed_scalar fun _ => rfl⟩
    · have hspelled : Spelled ('t' :: "rue".toList) (.bool true) := .literal rfl
      exact ⟨_, hspelled.readsAs, passed_scalar fun _ => rfl⟩
    · have hspelled : Spelled ('f' :: "alse".toList) (.bool false) := .literal rfl
      exact ⟨_, hspelled.readsAs, passed_scalar fun _ => rfl⟩
  | number form => exact ⟨_, (Spelled.number form).readsAs, passed_scalar fun _ => rfl⟩
  | text literal =>
    obtain ⟨value, hreads⟩ := literal.readsAs
    exact ⟨_, hreads, passed_scalar fun _ => rfl⟩
  | @list items _ enclosed values ih =>
    choose! tokens hreads hpassed using ih
    have hitems : List.Forall₂ ReadsAs items (items.map tokens) :=
      forall₂_readsAs (List.forall₂_same.2 fun _ _ => rfl) fun item a ha (heq : item = a) => heq ▸ hreads a ha
    exact ⟨_, enclosed.readsAs rfl rfl hitems, passed_list (by simpa using hpassed)⟩
  | @object items members _ enclosed written keys values ih =>
    choose! tokens hreads hpassed using ih
    choose! names hnames using fun m hm => (keys m hm).readsAs
    have hitems : List.Forall₂ ReadsAs items (members.map fun m => keyed (names m) (tokens m)) :=
      forall₂_readsAs written fun item m hm hmember => hmember.readsAs (hnames m hm) (hreads m hm)
    exact ⟨_, enclosed.readsAs rfl rfl hitems, passed_object hpassed⟩

end MessageSchema.Json
