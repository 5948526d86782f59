/-
The endings of generated names. None of the endings of one kind is the end of
another one (`Exclusive`), so a name has one of them at most, and which of them
is looked for first does not matter: the owner's name with an ending leads back
to the owner (`takesOff_dropEnding`). The ending of a message that belongs to a
service of an action is the ending of the service and that of the half, one
after the other, so the action is found in one step or in two (`endings_takenOff`).
-/
import MessageSchema.Identifier
import MessageSchema.Service
import Mathlib.Data.List.Infix

namespace MessageSchema.Identifier

/-- None of the endings is the end of another one. -/
def Exclusive (endings : List String) : Prop :=
  ∀ e ∈ endings, ∀ f ∈ endings, e.toList <:+ f.toList → e = f

instance (endings : List String) : Decidable (Exclusive endings) :=
  inferInstanceAs (Decidable (∀ e ∈ endings, ∀ f ∈ endings, e.toList <:+ f.toList → e = f))

/-- The function takes an ending off the names that have one, and leaves the
other names alone. -/
structure TakesOff (endings : List String) (owner : String → String) : Prop where
  ending : ∀ name, ∀ e ∈ endings, owner (name ++ e) = name
  other : ∀ name, (∀ e ∈ endings, ¬ e.toList <:+ name.toList) → owner name = name

variable {endings : List String} {name : String}

theorem dropEnding_cases (endings : List String) (name : String) :
    (∃ e ∈ endings, name = dropEnding endings name ++ e) ∨
      ((∀ e ∈ endings, ¬ e.toList <:+ name.toList) ∧ dropEnding endings name = name) := by
  unfold dropEnding
  split
  · next e he =>
    have hsuffix : e.toList <:+ name.toList := by
      simpa [List.isSuffixOf_iff_suffix] using List.find?_some he
    obtain ⟨front, hfront⟩ := hsuffix
    refine .inl ⟨e, List.mem_of_find?_eq_some he, String.toList_inj.1 ?_⟩
    rw [String.toList_append, String.toList_ofList, ← hfront]
    simp
  · next hnone =>
    refine .inr ⟨fun e he => ?_, rfl⟩
    simpa [List.isSuffixOf_iff_suffix] using List.find?_eq_none.1 hnone e he

theorem exists_ending_of_dropEnding_ne (h : dropEnding endings name ≠ name) :
    ∃ e ∈ endings, name = dropEnding endings name ++ e := by
  rcases dropEnding_cases endings name with hending | ⟨-, hsame⟩
  · exact hending
  · exact absurd hsame h

/-- **Endings that exclude each other are taken off**, whatever their order and
whatever stands in front of them. -/
theorem takesOff_dropEnding (h : Exclusive endings) : TakesOff endings (dropEnding endings) where
  ending name e he := by
    have hsuffix : e.toList <:+ (name ++ e).toList := ⟨name.toList, String.toList_append.symm⟩
    rcases dropEnding_cases endings (name ++ e) with ⟨f, hf, heq⟩ | ⟨hnone, -⟩
    · have hsuffix' : f.toList <:+ (name ++ e).toList :=
        ⟨_, by rw [← String.toList_append, ← heq]⟩
      have hef : e = f := by
        rcases List.suffix_or_suffix_of_suffix hsuffix hsuffix' with hle | hle
        · exact h e he f hf hle
        · exact (h f hf e he hle).symm
      subst hef
      exact ((String.append_left_inj e).1 heq).symm
    · exact absurd hsuffix (hnone e he)
  other name hnone := by
    rcases dropEnding_cases endings name with ⟨e, he, heq⟩ | ⟨-, hsame⟩
    · have hsuffix : e.toList <:+ name.toList := ⟨_, by rw [← String.toList_append, ← heq]⟩
      exact absurd hsuffix (hnone e he)
    · exact hsame

theorem exclusive_serviceEndings : Exclusive serviceEndings := by decide

theorem exclusive_actionMessageEndings : Exclusive actionMessageEndings := by decide

theorem exclusive_actionServiceEndings : Exclusive actionServiceEndings := by decide

/-- The halves of the services of an action are messages of the action. -/
theorem append_mem_actionMessageEndings :
    ∀ e ∈ actionServiceEndings, ∀ f ∈ serviceEndings, e ++ f ∈ actionMessageEndings := by
  decide

/-- The action of a half of one of its services is found in one step or in
two. -/
theorem actionOfMessage_of_half (hhalf : serviceOfHalf name ≠ name)
    (hservice : actionOfService (serviceOfHalf name) ≠ serviceOfHalf name) :
    actionOfMessage name = actionOfService (serviceOfHalf name) := by
  obtain ⟨f, hf, hname⟩ := exists_ending_of_dropEnding_ne hhalf
  obtain ⟨e, he, hmiddle⟩ := exists_ending_of_dropEnding_ne hservice
  have hboth : name = actionOfService (serviceOfHalf name) ++ (e ++ f) := by
    rw [← String.append_assoc]
    exact hname.trans (congrArg (· ++ f) hmiddle)
  have hending := (takesOff_dropEnding exclusive_actionMessageEndings).ending
    (actionOfService (serviceOfHalf name)) (e ++ f) (append_mem_actionMessageEndings e he f hf)
  rw [← hboth] at hending
  exact hending

/-- **The owner of a generated name is found again**: of both halves of a service
the service, whatever its name ends in, and of the messages and services of an
action the action. A name without any of the endings is its own owner. For a half
of a service of an action, taking off the ending of the message gives what taking
off the ending of the half and then that of the service gives. -/
theorem endings_takenOff :
    (∀ package name,
      serviceOfHalf (Service.empty package name).request.metadata.name = name ∧
        serviceOfHalf (Service.empty package name).response.metadata.name = name) ∧
    TakesOff ["_Request", "_Response"] serviceOfHalf ∧
    TakesOff
      ["_Goal", "_Result", "_Feedback", "_SendGoal_Request", "_SendGoal_Response",
       "_GetResult_Request", "_GetResult_Response", "_FeedbackMessage"] actionOfMessage ∧
    TakesOff ["_SendGoal", "_GetResult"] actionOfService ∧
    ∀ name, serviceOfHalf name ≠ name → actionOfService (serviceOfHalf name) ≠ serviceOfHalf name →
      actionOfMessage name = actionOfService (serviceOfHalf name) := by
  have hhalf : TakesOff serviceEndings serviceOfHalf := takesOff_dropEnding exclusive_serviceEndings
  refine ⟨fun package name => ⟨?_, ?_⟩, hhalf, takesOff_dropEnding exclusive_actionMessageEndings,
    takesOff_dropEnding exclusive_actionServiceEndings, fun name => actionOfMessage_of_half⟩
  · exact hhalf.ending name "_Request" (by decide)
  · exact hhalf.ending name "_Response" (by decide)

/-- Endings in front of the last one stay: those of a service named like one of
its own halves, and the first of two that belong to services of an action. -/
theorem endings_takenOff_repeated :
    serviceOfHalf (Service.empty "p" "Plan_Request").request.metadata.name = "Plan_Request" ∧
    serviceOfHalf "Fly_GetResult_SendGoal_Request" ≠ "Fly_GetResult_SendGoal_Request" ∧
    actionOfService (serviceOfHalf "Fly_GetResult_SendGoal_Request") ≠
      serviceOfHalf "Fly_GetResult_SendGoal_Request" ∧
    actionOfMessage "Fly_GetResult_SendGoal_Request" =
      actionOfService (serviceOfHalf "Fly_GetResult_SendGoal_Request") ∧
    (∀ e ∈ ["_SendGoal", "_GetResult"], ¬ e.toList <:+ "Fly_GetResults".toList) ∧
    actionOfService "Fly_GetResults" = "Fly_GetResults" := by
  obtain ⟨hservice, -, -, hother, hsteps⟩ := endings_takenOff
  have hhalf : serviceOfHalf "Fly_GetResult_SendGoal_Request" ≠ "Fly_GetResult_SendGoal_Request" := by
    decide
  have htwice : actionOfService (serviceOfHalf "Fly_GetResult_SendGoal_Request") ≠
      serviceOfHalf "Fly_GetResult_SendGoal_Request" := by
    decide
  have hnone : ∀ e ∈ ["_SendGoal", "_GetResult"], ¬ e.toList <:+ "Fly_GetResults".toList := by decide
  exact ⟨(hservice "p" "Plan_Request").1, hhalf, htwice, hsteps _ hhalf htwice, hnone, hother.other _ hnone⟩

end MessageSchema.Identifier
