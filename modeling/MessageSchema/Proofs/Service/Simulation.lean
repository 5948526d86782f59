/-
Two service sources side by side. Where corresponding lines are delimiters
together, two sources divide alike (`ofLines_alike`), and then whatever is
shown of two runs over sections carries over to whole services
(`ofText_alike`).
-/
import MessageSchema.Proofs.Builder.Simulation
import MessageSchema.Service

namespace MessageSchema

open Text

/-! ## Dividing related lines -/

section

variable {α : Type} {R : α → α → Prop} {p : α → Bool} {as bs : List α}

/-- Related lists divide in step at the first element that fails `p`. -/
theorem forall₂_span (hp : ∀ a b, R a b → p a = p b) (h : List.Forall₂ R as bs) :
    List.Forall₂ R (as.takeWhile p) (bs.takeWhile p) ∧ List.Forall₂ R (as.dropWhile p) (bs.dropWhile p) := by
  induction h with
  | nil => exact ⟨.nil, .nil⟩
  | @cons a b as bs hab h ih =>
    have hpb := hp a b hab
    cases hpa : p a with
    | true =>
      rw [hpa] at hpb
      rw [List.takeWhile_cons_of_pos hpa, List.takeWhile_cons_of_pos hpb.symm,
        List.dropWhile_cons_of_pos hpa, List.dropWhile_cons_of_pos hpb.symm]
      exact ⟨.cons hab ih.1, ih.2⟩
    | false =>
      rw [hpa] at hpb
      have hna : ¬ p a = true := by simp [hpa]
      have hnb : ¬ p b = true := by simp [← hpb]
      rw [List.takeWhile_cons_of_neg hna, List.takeWhile_cons_of_neg hnb,
        List.dropWhile_cons_of_neg hna, List.dropWhile_cons_of_neg hnb]
      exact ⟨.nil, .cons hab h⟩

theorem forall₂_findIdx? (hp : ∀ a b, R a b → p a = p b) (h : List.Forall₂ R as bs) :
    as.findIdx? p = bs.findIdx? p := by
  induction h with
  | nil => rfl
  | cons hab _ ih => rw [List.findIdx?_cons, List.findIdx?_cons, hp _ _ hab, ih]

end

variable {P : String → String → Prop} {E : LineError → LineError → Prop} {S : Schema → Schema → Prop}

namespace ServiceSource

/-- Two divisions that match: the same fault, or sections that start at the
same lines and hold related ones. -/
inductive Matches (P : String → String → Prop) :
    Except LineError ServiceSource → Except LineError ServiceSource → Prop where
  | error (e : LineError) : Matches P (.error e) (.error e)
  | ok {first next : Nat} {ls ls' ms ms' : List String} (request : List.Forall₂ P ls ls')
      (response : List.Forall₂ P ms ms') :
      Matches P (.ok ⟨⟨first, ls⟩, ⟨next, ms⟩⟩) (.ok ⟨⟨first, ls'⟩, ⟨next, ms'⟩⟩)

theorem ofLines_alike {ls ls' : List String} (hdelimiter : ∀ l l', P l l' → isDelimiter l = isDelimiter l')
    (h : List.Forall₂ P ls ls') : Matches P (ofLines ls) (ofLines ls') := by
  obtain ⟨hrequest, hrest⟩ := forall₂_span (p := fun l => !isDelimiter l)
    (fun l l' hl => congrArg not (hdelimiter l l' hl)) h
  have hlength := hrequest.length_eq
  unfold ofLines
  simp only
  cases hdrop : ls.dropWhile fun l => !isDelimiter l with
  | nil =>
    rw [hdrop, List.forall₂_nil_left_iff] at hrest
    rw [hrest, hlength]
    exact .ok hrequest .nil
  | cons d response =>
    rw [hdrop, List.forall₂_cons_left_iff] at hrest
    obtain ⟨d', response', -, hresponse, hdrop'⟩ := hrest
    rw [hdrop', hlength]
    simp only [forall₂_findIdx? hdelimiter hresponse]
    split
    · exact .error _
    · exact .ok hrequest hresponse

end ServiceSource

namespace Service

/-- Two services have the same names, and halves that are related. -/
structure Rel (S : Schema → Schema → Prop) (v v' : Service) : Prop where
  package : v.package = v'.package
  name : v.name = v'.name
  request : S v.request v'.request
  response : S v.response v'.response

theorem Rel.eq {v v' : Service} (h : Rel Eq v v') : v = v' := by
  obtain ⟨package, name, request, response⟩ := v
  obtain ⟨package', name', request', response'⟩ := v'
  obtain ⟨rfl, rfl, rfl, rfl⟩ := h
  rfl

/-- A failure in a half, within its service. -/
theorem alike_of_half {f f' : Schema → Service} (hf : ∀ s s', S s s' → Rel S (f s) (f' s'))
    {failure failure' : Failure LineError Schema} (cause : E failure.cause failure'.cause)
    (assembled : Option.Rel S failure.assembled failure'.assembled) :
    Alike E (Rel S) (.error (failure.map f)) (.error (failure'.map f')) :=
  .error cause (optionRel_map hf assembled)

/-- **Sources of related lines are read alike.** Sections of related lines
have to be read alike, and related lines have to be delimiters together. -/
theorem ofText_alike {config : Config} {text text' : String}
    (hdelimiter : ∀ l l', P l l' → isDelimiter l = isDelimiter l') (hcause : ∀ e, E e e)
    (hread : ∀ metadata first ls ls', List.Forall₂ P ls ls' →
      Alike E S ((Builder.start config metadata).feedAll (numberFrom first ls))
        ((Builder.start config metadata).feedAll (numberFrom first ls')))
    (h : List.Forall₂ P (lines text) (lines text')) (package name : String) :
    Alike E (Rel S) (ofText config package name text) (ofText config package name text') := by
  have hempty : ∀ metadata, S (.empty metadata) (.empty metadata) := by
    intro metadata
    cases hread metadata 1 [] [] .nil with
    | ok result => exact result
  have hdivide := ServiceSource.ofLines_alike hdelimiter h
  unfold ofText ServiceSource.ofText
  simp only
  generalize ServiceSource.ofLines (lines text) = source at hdivide ⊢
  generalize ServiceSource.ofLines (lines text') = source' at hdivide ⊢
  cases hdivide with
  | error e => exact .error (hcause e) .none
  | @ok first next ls ls' ms ms' hls hms =>
    simp only [SourceSection.numbered]
    have hrequest := hread (empty package name).request.metadata first ls ls' hls
    have hresponse := hread (empty package name).response.metadata next ms ms' hms
    rcases hrequest.ends with
      ⟨s, s', hr, hr', hs⟩ | ⟨failure, failure', hr, hr', cause, assembled⟩
    · rcases hresponse.ends with
        ⟨t, t', hq, hq', ht⟩ | ⟨failure, failure', hq, hq', cause, assembled⟩
      · simp only [hr, hr', hq, hq']
        exact .ok ⟨rfl, rfl, hs, ht⟩
      · simp only [hr, hr', hq, hq']
        refine alike_of_half ?_ cause assembled
        exact fun t t' ht => ⟨rfl, rfl, hs, ht⟩
    · simp only [hr, hr']
      refine alike_of_half ?_ cause assembled
      exact fun s s' hs => ⟨rfl, rfl, hs, hempty _⟩

end Service

end MessageSchema
