/-
Whole runs of a builder. `Feeds b lines b'` says that `b` reads the lines
without a fault and becomes `b'`; reading a list of lines either is such a
run or stops at the first line at fault, with all lines before it read
(`feedAll_eq_ok_iff`, `feedAll_eq_error_iff`). Whichever it is, what it hands
over is built by feeding lines (`builds_of_feedAll`).
-/
import MessageSchema.Proofs.Builder.Step

namespace MessageSchema

/-- What a reader gives back: all that was read, or what was assembled before
the fault. -/
def Failure.handedOver {ε α : Type} : Except (Failure ε α) α → Option α
  | .ok a => some a
  | .error failure => failure.assembled

namespace Builder

open Text

/-- A run without faults. -/
inductive Feeds : Builder → List NumberedLine → Builder → Prop where
  | nil {b : Builder} : Feeds b [] b
  | cons {b b₁ b₂ : Builder} {l : NumberedLine} {rest : List NumberedLine}
      (first : b.feed l.1 l.2 = (b₁, none)) (others : Feeds b₁ rest b₂) :
      Feeds b (l :: rest) b₂

variable {b b' b'' : Builder} {ls ms : List NumberedLine}

/-- A run goes through the builder that its first lines leave. -/
theorem Feeds.split (h : Feeds b (ls ++ ms) b'') : ∃ b', Feeds b ls b' ∧ Feeds b' ms b'' := by
  induction ls generalizing b with
  | nil => exact ⟨b, .nil, h⟩
  | cons l ls ih =>
    cases h with
    | cons first others =>
      obtain ⟨b', h₁, h₂⟩ := ih others
      exact ⟨b', .cons first h₁, h₂⟩

/-- What every line without a fault keeps, a run keeps. -/
theorem Feeds.invariant {P : Builder → Prop}
    (step : ∀ b line text b', b.feed line text = (b', none) → P b → P b')
    (h : Feeds b ls b') (hb : P b) : P b' := by
  induction h with
  | nil => exact hb
  | cons first _ ih => exact ih (step _ _ _ _ first hb)

/-- What every line keeps, whatever fault it has, a run keeps. -/
theorem Feeds.keeps {P : Builder → Prop} (step : ∀ b line text, P b → P (b.feed line text).1)
    (h : Feeds b ls b') (hb : P b) : P b' := by
  refine h.invariant ?_ hb
  intro b₁ line text b₂ hfeed hb₁
  have hstep := step b₁ line text hb₁
  rw [hfeed] at hstep
  exact hstep

theorem feedAll_cons_ok {l : NumberedLine} (h : b.feed l.1 l.2 = (b', none)) :
    b.feedAll (l :: ls) = b'.feedAll ls := by
  rw [feedAll, h]

theorem feedAll_cons_error {l : NumberedLine} {e : LineError} (h : b.feed l.1 l.2 = (b', some e)) :
    b.feedAll (l :: ls) = .error ⟨some b'.schema, e⟩ := by
  rw [feedAll, h]

/-- After a run without faults, further lines are read by the builder it leaves. -/
theorem Feeds.feedAll_append (h : Feeds b ls b') (ms : List NumberedLine) :
    b.feedAll (ls ++ ms) = b'.feedAll ms := by
  induction h with
  | nil => rfl
  | cons first _ ih =>
    rw [List.cons_append, feedAll_cons_ok first]
    exact ih

/-- A list of lines is read exactly when there is a run without faults. -/
theorem feedAll_eq_ok_iff {s : Schema} : b.feedAll ls = .ok s ↔ ∃ b', Feeds b ls b' ∧ b'.schema = s := by
  constructor
  · intro h
    induction ls generalizing b with
    | nil =>
      rw [feedAll] at h
      cases h
      exact ⟨b, .nil, rfl⟩
    | cons l ls ih =>
      cases hfeed : b.feed l.1 l.2 with
      | mk b₁ fault =>
        cases fault with
        | none =>
          rw [feedAll_cons_ok hfeed] at h
          obtain ⟨b', hrun, hs⟩ := ih h
          exact ⟨b', .cons hfeed hrun, hs⟩
        | some e =>
          rw [feedAll_cons_error hfeed] at h
          cases h
  · intro h
    obtain ⟨b', h, rfl⟩ := h
    rw [← List.append_nil ls, h.feedAll_append]
    rfl

/-- Where a list of lines is not read: a run without faults up to some line,
and a fault there. -/
structure StopsAt (b : Builder) (pre : List NumberedLine) (l : NumberedLine)
    (failure : Failure LineError Schema) : Prop where
  intro ::
  stops : ∃ b₁ b₂ e, Feeds b pre b₁ ∧ b₁.feed l.1 l.2 = (b₂, some e) ∧ failure = ⟨some b₂.schema, e⟩

theorem feedAll_eq_error_iff {failure : Failure LineError Schema} :
    b.feedAll ls = .error failure ↔ ∃ pre l post, ls = pre ++ l :: post ∧ StopsAt b pre l failure := by
  constructor
  · intro h
    induction ls generalizing b with
    | nil =>
      rw [feedAll] at h
      cases h
    | cons l ls ih =>
      cases hfeed : b.feed l.1 l.2 with
      | mk b₁ fault =>
        cases fault with
        | none =>
          rw [feedAll_cons_ok hfeed] at h
          obtain ⟨pre, m, post, rfl, ⟨b₂, b₃, e, hrun, hfault, hf⟩⟩ := ih h
          exact ⟨l :: pre, m, post, rfl, ⟨b₂, b₃, e, .cons hfeed hrun, hfault, hf⟩⟩
        | some e =>
          rw [feedAll_cons_error hfeed] at h
          simp only [Except.error.injEq] at h
          exact ⟨[], l, ls, rfl, ⟨b, b₁, e, .nil, hfeed, h.symm⟩⟩
  · intro h
    obtain ⟨pre, l, post, rfl, ⟨b₁, b₂, e, hrun, hfault, rfl⟩⟩ := h
    rw [hrun.feedAll_append]
    exact feedAll_cons_error hfault

/-- After a fault no further line matters. -/
theorem feedAll_append_error {failure : Failure LineError Schema} (h : b.feedAll ls = .error failure)
    (ms : List NumberedLine) : b.feedAll (ls ++ ms) = .error failure := by
  obtain ⟨pre, l, post, rfl, hstops⟩ := feedAll_eq_error_iff.1 h
  refine feedAll_eq_error_iff.2 ⟨pre, l, post ++ ms, ?_, hstops⟩
  rw [List.append_assoc, List.cons_append]

/-- What was assembled before a fault is always handed over. -/
theorem assembled_of_feedAll {failure : Failure LineError Schema} (h : b.feedAll ls = .error failure) :
    ∃ s, failure = ⟨some s, failure.cause⟩ := by
  obtain ⟨pre, l, post, -, ⟨b₁, b₂, e, -, -, rfl⟩⟩ := feedAll_eq_error_iff.1 h
  exact ⟨b₂.schema, rfl⟩

/-- What holds of the empty run and is kept by each further line holds of the
lines of a run and the builder that they leave. -/
theorem Feeds.history {P : List NumberedLine → Builder → Prop}
    (step : ∀ ls b l b', b.feed l.1 l.2 = (b', none) → P ls b → P (ls ++ [l]) b')
    (h : Feeds b ls b') (hb : P [] b) : P ls b' := by
  suffices hpast : ∀ past, P past b → P (past ++ ls) b' from hpast [] hb
  clear hb
  induction h with
  | nil =>
    intro past hpast
    rw [List.append_nil]
    exact hpast
  | @cons b b₁ b₂ l rest first _ ih =>
    intro past hpast
    have hrest := ih (past ++ [l]) (step past b l b₁ first hpast)
    rw [List.append_assoc] at hrest
    exact hrest

/-! ## Runs that go on after a fault -/

/-- Feeds lines one after the other, whatever faults they have. -/
def feedEach (b : Builder) (lines : List NumberedLine) : Builder :=
  lines.foldl (fun b l => (b.feed l.1 l.2).1) b

theorem feedEach_cons (b : Builder) (l : NumberedLine) (ls : List NumberedLine) :
    b.feedEach (l :: ls) = (b.feed l.1 l.2).1.feedEach ls := by
  rw [feedEach, List.foldl_cons, feedEach]

/-- What every line keeps, such a run keeps. -/
theorem feedEach_invariant {P : Builder → Prop} (step : ∀ b line text, P b → P (b.feed line text).1)
    (hb : P b) : P (b.feedEach ls) := by
  induction ls generalizing b with
  | nil => exact hb
  | cons l ls ih =>
    rw [feedEach_cons]
    exact ih (step b l.1 l.2 hb)

theorem Feeds.feedEach_eq (h : Feeds b ls b') : b.feedEach ls = b' := by
  induction h with
  | nil => rfl
  | cons first _ ih =>
    rw [feedEach_cons, first]
    exact ih

theorem feedEach_append (b : Builder) (ls ms : List NumberedLine) :
    b.feedEach (ls ++ ms) = (b.feedEach ls).feedEach ms := by
  simp only [feedEach, List.foldl_append]

/-! ## What is handed over -/

/-- Some lines build the schema, whatever faults they had. -/
def Builds (config : Config) (metadata : Metadata) (s : Schema) : Prop :=
  ∃ lines, ((start config metadata).feedEach lines).schema = s

variable {config : Config} {metadata : Metadata} {s : Schema}

/-- What every line keeps holds of all that lines build. -/
theorem Builds.invariant {P : Builder → Prop} (step : ∀ b line text, P b → P (b.feed line text).1)
    (hstart : P (start config metadata)) (h : Builds config metadata s) : ∃ b, P b ∧ b.schema = s := by
  obtain ⟨lines, rfl⟩ := h
  exact ⟨_, feedEach_invariant step hstart, rfl⟩

theorem builds_empty (config : Config) (metadata : Metadata) : Builds config metadata (.empty metadata) :=
  ⟨[], rfl⟩

theorem builds_of_feedAll_ok (h : (start config metadata).feedAll ls = .ok s) :
    Builds config metadata s := by
  obtain ⟨b', hrun, rfl⟩ := feedAll_eq_ok_iff.1 h
  exact ⟨ls, by rw [hrun.feedEach_eq]⟩

theorem builds_of_feedAll_error {failure : Failure LineError Schema}
    (h : (start config metadata).feedAll ls = .error failure) (hs : failure.assembled = some s) :
    Builds config metadata s := by
  obtain ⟨pre, l, post, rfl, ⟨b₁, b₂, e, hrun, hfault, rfl⟩⟩ := feedAll_eq_error_iff.1 h
  cases hs
  refine ⟨pre ++ [l], ?_⟩
  rw [feedEach_append, hrun.feedEach_eq, feedEach_cons, hfault]
  rfl

/-- What reading hands over, be it whole or cut short by a fault, is what
lines build. -/
theorem builds_of_feedAll (h : Failure.handedOver ((start config metadata).feedAll ls) = some s) :
    Builds config metadata s := by
  cases hread : (start config metadata).feedAll ls with
  | ok t =>
    rw [hread] at h
    cases h
    exact builds_of_feedAll_ok hread
  | error failure =>
    rw [hread] at h
    exact builds_of_feedAll_error hread h

end Builder

end MessageSchema
