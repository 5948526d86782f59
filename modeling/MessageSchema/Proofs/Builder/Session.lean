/-
Sessions. A call that fails leaves the builder as it was, because the waiting
comments are taken only after everything that can fail (`run_takeField`); the
one exception is a line fed with a constant of unknown type, which is added.
So the calls are the readers of a builder with the builder carried along
(`run_read`, `run_feed`), and over a whole session every constant of unknown
type answers to one fault (`session_unknown`).
-/
import MessageSchema.Proofs.Builder.Step
import MessageSchema.Schema.Session

namespace MessageSchema.Builder

open Text

/-! ## What a call leaves -/

/-- A reader's answer as the result of a call: a fault leaves the builder `b`
on which the call was made. -/
def answer {α : Type} (b : Builder) : Except LineError (α × Builder) → EStateM.Result LineError Builder α
  | .ok (a, b') => .ok a b'
  | .error e => .error e b

theorem answer_eq_error {α : Type} {b b' : Builder} {out : Except LineError (α × Builder)} {e : LineError}
    (h : b.answer out = .error e b') : out = .error e ∧ b' = b := by
  cases out with
  | ok out => cases h
  | error e =>
    cases h
    exact ⟨rfl, rfl⟩

theorem run_takeField (b : Builder) (line : Nat) (text : String) (decl : FieldDecl) :
    (Call.takeField line text decl).run b =
      b.answer ((b.field line text decl).map fun f => (f, b.withPending .empty)) := by
  unfold Call.takeField field
  cases ArrayKind.ofMarker line decl.type.marker with
  | error e => rfl
  | ok array =>
    cases stringBound line text decl with
    | error e => rfl
    | ok bound => rfl

theorem run_read (b : Builder) (line : Nat) (text : String) :
    (Call.read line text).run b = b.answer (b.read line text) := by
  cases hc : LineContent.of (trimmed text) with
  | comment comment =>
    simp only [Call.read, Builder.read, hc]
    rfl
  | blank =>
    simp only [Call.read, Builder.read, hc]
    rfl
  | malformed =>
    simp only [Call.read, Builder.read, hc]
    rfl
  | declaration decl =>
    cases decl with
    | constant decl =>
      simp only [Call.read, Builder.read, hc]
      rfl
    | field decl =>
      have hfield := run_takeField b line (trimmed text) decl
      simp only [Call.read, Builder.read, hc, EStateM.run_bind, hfield]
      cases b.field line (trimmed text) decl with
      | ok f => rfl
      | error e => rfl

theorem run_feed (b : Builder) (line : Nat) (text : String) :
    (Call.feed line text).run b =
      match b.feed line text with
      | (b', none) => .ok () b'
      | (b', some e) => .error e b' := by
  simp only [Call.feed, EStateM.run_bind, run_read, Builder.feed]
  cases b.read line text with
  | error e => rfl
  | ok out =>
    obtain ⟨contribution, b'⟩ := out
    cases contribution with
    | field f => rfl
    | nothing => rfl
    | constant c =>
      by_cases hc : c.primitive = none
      · simp only [answer, add, hc]
        rfl
      · simp only [answer, add, hc]
        rfl

theorem feed_of_run_eq_error {b b' : Builder} {line : Nat} {text : String} {e : LineError}
    (h : (Call.feed line text).run b = .error e b') : b.feed line text = (b', some e) := by
  rw [run_feed] at h
  rcases hb : b.feed line text with ⟨b₁, _ | e₁⟩
  · rw [hb] at h
    cases h
  · rw [hb] at h
    cases h
    rfl

/-! ## Faults -/

/-- Whether the fault is that of a constant of unknown type. -/
def isUnknownConstant : LineError → Bool
  | .unknownConstantType _ _ => true
  | _ => false

/-- A line at fault that is fed changes nothing, or adds a constant of unknown
type. -/
theorem feed_error {b b' : Builder} {line : Nat} {text : String} {e : LineError}
    (h : b.feed line text = (b', some e)) :
    (isUnknownConstant e = false ∧ b' = b) ∨
      ∃ decl, LineContent.of (trimmed text) = .declaration (.constant decl) ∧
        (b.constant line decl).primitive = none ∧ e = .unknownConstantType line decl.type.name ∧
        b' = { b with schema := b.schema.addConstant (b.constant line decl), pending := .empty } := by
  have hf := feed_cases b line text
  rw [h] at hf
  cases hf with
  | unknown content unknown => exact .inr ⟨_, content, unknown, rfl, rfl⟩
  | refused content refused =>
    rcases field_eq_error refused with ⟨size, rfl⟩ | rfl
    · exact .inl ⟨rfl, rfl⟩
    · exact .inl ⟨rfl, rfl⟩
  | malformed content => exact .inl ⟨rfl, rfl⟩

/-- Reading alone has no such fault. -/
theorem read_error {b : Builder} {line : Nat} {text : String} {e : LineError}
    (h : b.read line text = .error e) : isUnknownConstant e = false := by
  have hfeed : b.feed line text = (b, some e) := by rw [feed, h]
  rcases feed_error hfeed with ⟨he, -⟩ | ⟨decl, content, -⟩
  · exact he
  · simp only [Builder.read, content] at h
    cases h

/-- Reading alone changes the waiting comments and nothing else. -/
theorem read_eq_ok {b b' : Builder} {line : Nat} {text : String} {contribution : Contribution}
    (h : b.read line text = .ok (contribution, b')) : ∃ pending, b' = b.withPending pending := by
  unfold Builder.read at h
  simp only at h
  split at h
  all_goals try split at h
  all_goals cases h
  all_goals exact ⟨_, rfl⟩

theorem read_schema {b b' : Builder} {line : Nat} {text : String} {contribution : Contribution}
    (h : b.read line text = .ok (contribution, b')) : b'.schema = b.schema := by
  obtain ⟨pending, rfl⟩ := read_eq_ok h
  rfl

/-! ## Whole sessions -/

theorem perform_read (b : Builder) (line : Nat) (text : String) :
    b.perform (.read line text) =
      match b.read line text with
      | .ok (_, b') => (b', none)
      | .error e => (b, some e) := by
  simp only [perform, SessionStep.call, EStateM.run_bind, run_read]
  rcases b.read line text with e | ⟨contribution, b'⟩
  · rfl
  · rfl

theorem perform_feed (b : Builder) (line : Nat) (text : String) :
    b.perform (.feed line text) = b.feed line text := by
  rw [perform, SessionStep.call, run_feed]
  rcases b.feed line text with ⟨b', _ | e⟩
  · rfl
  · rfl

/-- What a change of the waiting comments keeps, and every line that is fed,
a step keeps. -/
theorem perform_keeps {P : Builder → Prop} (hpending : ∀ b pending, P b → P (b.withPending pending))
    (hfeed : ∀ b line text, P b → P (b.feed line text).1) {b : Builder} (step : SessionStep) (hb : P b) :
    P (b.perform step).1 := by
  cases step with
  | read line text =>
    rw [perform_read]
    cases h : b.read line text with
    | error e => exact hb
    | ok out =>
      obtain ⟨contribution, b'⟩ := out
      obtain ⟨pending, rfl⟩ := read_eq_ok h
      exact hpending b pending hb
  | feed line text =>
    rw [perform_feed]
    exact hfeed b line text hb

/-- What every step keeps, a session keeps. -/
theorem session_invariant {P : Builder → Prop} (step : ∀ b s, P b → P (b.perform s).1) {b : Builder}
    (steps : List SessionStep) (hb : P b) : P (b.session steps).1 := by
  induction steps generalizing b with
  | nil => exact hb
  | cons s steps ih => exact ih (step b s hb)

/-- The number of constants of unknown type. -/
def unknownConstants (b : Builder) : Nat :=
  b.schema.constants.countP fun c => c.primitive = none

/-- A step adds a constant of unknown type when it reports one, and only then. -/
theorem perform_unknown (b : Builder) (step : SessionStep) :
    (b.perform step).1.unknownConstants =
      b.unknownConstants + (b.perform step).2.toList.countP isUnknownConstant := by
  cases step with
  | read line text =>
    rw [perform_read]
    cases h : b.read line text with
    | ok out => simp [unknownConstants, read_schema h]
    | error e => simp [read_error h]
  | feed line text =>
    rw [perform_feed]
    have hf := feed_cases b line text
    generalize b.feed line text = out at hf
    cases hf with
    | comment content => rfl
    | blank content => rfl
    | field content built => simp [unknownConstants]
    | constant content known => simp [unknownConstants, known]
    | unknown content unknown => simp [unknownConstants, unknown, isUnknownConstant]
    | refused content refused =>
      rcases field_eq_error refused with ⟨size, rfl⟩ | rfl
      · rfl
      · rfl
    | malformed content => rfl

theorem session_unknown (b : Builder) (steps : List SessionStep) :
    (b.session steps).1.unknownConstants =
      b.unknownConstants + (b.session steps).2.countP isUnknownConstant := by
  induction steps generalizing b with
  | nil => rfl
  | cons step steps ih =>
    simp only [session]
    rw [ih, perform_unknown, List.countP_append]
    omega

/-- **A call at fault leaves the builder as it was**, in every state that a
session reaches. Only a constant of unknown type that is fed is added, with
the comments that waited for it; so there are as many of these constants as
faults that reported one. -/
theorem session_fault_unchanged (config : Config) (metadata : Metadata) (steps : List SessionStep) :
    let (b, faults) := (start config metadata).session steps
    (∀ line text e b', (Call.read line text).run b = .error e b' → b' = b) ∧
    (∀ line text e b', (Call.feed line text).run b = .error e b' →
      (isUnknownConstant e = false ∧ b' = b) ∨
      ∃ decl, LineContent.of (trimmed text) = .declaration (.constant decl) ∧
        e = .unknownConstantType line decl.type.name ∧
        b' = { b with
          schema := { b.schema with
            constants := b.schema.constants ++ [{
              line
              typeToken := decl.type.name
              primitive := none
              name := decl.name
              value := decl.value
              comment := b.pending.attach decl.comment }] }
          pending := .empty }) ∧
    (b.schema.constants.countP fun c => c.primitive = none) = faults.countP isUnknownConstant := by
  have hcount := session_unknown (start config metadata) steps
  generalize (start config metadata).session steps = reached at hcount
  obtain ⟨b, faults⟩ := reached
  refine ⟨?_, ?_, ?_⟩
  · intro line text e b' h
    rw [run_read] at h
    exact (answer_eq_error h).2
  · intro line text e b' h
    rcases feed_error (feed_of_run_eq_error h) with hsame | ⟨decl, content, unknown, he, hb⟩
    · exact .inl hsame
    · refine .inr ⟨decl, content, he, ?_⟩
      rw [hb, ← unknown]
      rfl
  · simpa [unknownConstants, start, Schema.empty] using hcount

/-- A session with a refused field between a comment and the constant of
unknown type that the comment is for. -/
theorem session_fault_unchanged_unknown :
    let (b, faults) := (start .standard (.message "p" "M")).session
      [.feed 1 "# doc", .read 2 "int8[<=] x", .feed 3 "Foo A=1 # own"]
    faults = [.invalidSize 2 "", .unknownConstantType 3 "Foo"] ∧
    b.schema.constants = [⟨3, "Foo", none, "A", "1", "own. doc"⟩] ∧
    (∃ e b', (Call.read 4 "???").run b = .error e b' ∧ b' = b) ∧
    (b.schema.constants.countP fun c => c.primitive = none) = faults.countP isUnknownConstant := by
  obtain ⟨hread, -, hcount⟩ := session_fault_unchanged .standard (.message "p" "M")
    [.feed 1 "# doc", .read 2 "int8[<=] x", .feed 3 "Foo A=1 # own"]
  exact ⟨by rfl, by rfl, ⟨_, _, rfl, hread 4 "???" _ _ rfl⟩, hcount⟩

end MessageSchema.Builder
