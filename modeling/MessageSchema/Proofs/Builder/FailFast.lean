/-
Reading stops at the first fault. A failure names one line; the lines before
it are read without a fault, and what they build is what the failure hands
over, an unknown constant aside. The lines after it do not matter.

A text that is read to its end has constants of known types only, and cut
after any line it is read as well, to a schema that the whole one extends.
-/
import MessageSchema.Proofs.Builder.Run
import MessageSchema.Proofs.Text.Lines
import Mathlib.Logic.ExistsUnique

namespace MessageSchema

open Text

namespace Schema

/-- The other schema starts with the fields and constants of this one. -/
def Grows (s t : Schema) : Prop :=
  s.fields <+: t.fields ∧ s.constants <+: t.constants

theorem Grows.refl (s : Schema) : s.Grows s :=
  ⟨List.prefix_rfl, List.prefix_rfl⟩

theorem Grows.trans {s t u : Schema} (h : s.Grows t) (h' : t.Grows u) : s.Grows u :=
  ⟨h.1.trans h'.1, h.2.trans h'.2⟩

theorem grows_addField (s : Schema) (f : Field) : s.Grows (s.addField f) := by
  simp [Grows]

theorem grows_addConstant (s : Schema) (c : Constant) : s.Grows (s.addConstant c) := by
  simp [Grows]

/-- All constants have types that name a scalar. -/
def Known (s : Schema) : Prop :=
  ∀ c ∈ s.constants, c.primitive ≠ none

theorem Known.addField {s : Schema} (h : s.Known) (f : Field) : (s.addField f).Known := by
  unfold Known
  rw [addField_constants]
  exact h

theorem Known.addConstant {s : Schema} (h : s.Known) {c : Constant} (hc : c.primitive ≠ none) :
    (s.addConstant c).Known := by
  intro d hd
  rw [addConstant_constants, List.mem_append, List.mem_singleton] at hd
  rcases hd with hd | rfl
  · exact h d hd
  · exact hc

end Schema

namespace Builder

variable {b b' : Builder} {line : Nat} {text : String} {ls : List NumberedLine}

/-- A faulty line leaves the builder as it was, or adds one constant of
unknown type. Either way the fault carries the number of the line. -/
theorem feed_fault {e : LineError} (h : b.feed line text = (b', some e)) :
    (b' = b ∧ ((∃ size, e = .invalidSize line size) ∨ e = .malformed line (trimmed text))) ∨
      ∃ c : Constant, c.line = line ∧ c.primitive = none ∧ e = .unknownConstantType line c.typeToken ∧
        b'.schema = b.schema.addConstant c := by
  have hf := feed_cases b line text
  rw [h] at hf
  cases hf with
  | unknown content unknown => exact .inr ⟨_, rfl, unknown, rfl, rfl⟩
  | refused content refused => exact .inl ⟨rfl, field_eq_error refused⟩
  | malformed content => exact .inl ⟨rfl, .inr rfl⟩

theorem feed_grows (b : Builder) (line : Nat) (text : String) :
    b.schema.Grows (b.feed line text).1.schema := by
  have h := feed_adding b line text
  generalize (b.feed line text).1.schema = s at h
  cases h with
  | nothing => exact .refl _
  | field content built => exact b.schema.grows_addField _
  | constant content => exact b.schema.grows_addConstant _

theorem Feeds.grows (h : Feeds b ls b') : b.schema.Grows b'.schema :=
  h.keeps (P := fun b' => b.schema.Grows b'.schema)
    (fun b₁ line text hgrows => hgrows.trans (feed_grows b₁ line text)) (.refl _)

theorem feed_known (h : b.feed line text = (b', none)) (hb : b.schema.Known) : b'.schema.Known := by
  have hf := feed_cases b line text
  rw [h] at hf
  cases hf with
  | comment content => exact hb
  | blank content => exact hb
  | field content built => exact hb.addField _
  | constant content known => exact hb.addConstant known

theorem Feeds.known (h : Feeds b ls b') (hb : b.schema.Known) : b'.schema.Known :=
  h.invariant (P := fun b => b.schema.Known) (fun _ _ _ _ => feed_known) hb

end Builder

namespace Schema

open Builder

variable {config : Config} {metadata : Metadata} {text : String}

/-- What the first lines of a text build is what they build on their own. -/
theorem ofText_firstLines {n : Nat} {b : Builder}
    (h : Feeds (.start config metadata) (numberFrom 1 ((lines text).take n)) b) :
    ofText config metadata (firstLines n text) = .ok b.schema := by
  by_cases hn : n = 0
  · subst hn
    cases h
    rw [firstLines_zero]
    rfl
  · rw [ofText, feedText, numberedLines, lines_firstLines hn]
    exact feedAll_eq_ok_iff.2 ⟨b, h, rfl⟩

/-- What a failure on line `k` hands over when the lines before it have built
`s`. -/
def Leaves (s : Schema) (k : Nat) (failure : Failure LineError Schema) : Prop :=
  match failure.cause with
  | .unknownConstantType _ typeName =>
    ∃ c : Constant, c.line = k ∧ c.primitive = none ∧ c.typeToken = typeName ∧
      failure.assembled = some (s.addConstant c)
  | _ => failure.assembled = some s

/-- The failure is that of line `k`. -/
structure FailsAt (config : Config) (metadata : Metadata) (text : String)
    (failure : Failure LineError Schema) (k : Nat) : Prop where
  positive : 1 ≤ k
  bounded : k ≤ (lines text).length
  line : failure.cause.line = k
  /-- The lines before it are read on their own, and the failure leaves what
  they build. -/
  before : ∃ s, ofText config metadata (firstLines (k - 1) text) = .ok s ∧
    (k = 1 → s = .empty metadata) ∧ Leaves s k failure
  malformed : ∀ n t, failure.cause = .malformed n t →
    ∃ source, (lines text)[k - 1]? = some source ∧ t = trimmed source
  /-- The lines after it do not matter. -/
  after : ∀ text', (lines text').take k = (lines text).take k →
    ofText config metadata text' = .error failure

theorem failsAt_of_feeds {before after : List String} {source : String} {b b' : Builder} {e : LineError}
    (hlines : lines text = before ++ source :: after)
    (hrun : Feeds (.start config metadata) (numberFrom 1 before) b)
    (hfault : b.feed (1 + before.length) source = (b', some e)) :
    FailsAt config metadata text ⟨some b'.schema, e⟩ (1 + before.length) where
  positive := by omega
  bounded := by
    rw [hlines, List.length_append, List.length_cons]
    omega
  line := by
    rcases feed_fault hfault with ⟨-, ⟨size, rfl⟩ | rfl⟩ | ⟨c, -, -, rfl, -⟩ <;> rfl
  before := by
    have htake : (lines text).take (1 + before.length - 1) = before := by
      rw [Nat.add_sub_cancel_left, hlines, List.take_left]
    refine ⟨b.schema, ofText_firstLines (by rw [htake]; exact hrun), ?_, ?_⟩
    · intro hk
      have hnil : before = [] := List.length_eq_zero_iff.1 (by omega)
      subst hnil
      cases hrun
      rfl
    · rcases feed_fault hfault with ⟨rfl, ⟨size, rfl⟩ | rfl⟩ | ⟨c, hline, hprimitive, rfl, hs⟩
      · rfl
      · rfl
      · exact ⟨c, hline, hprimitive, rfl, congrArg some hs⟩
  malformed := by
    intro n t he
    have he : e = .malformed n t := he
    refine ⟨source, by simp [hlines], ?_⟩
    rcases feed_fault hfault with ⟨-, ⟨size, rfl⟩ | rfl⟩ | ⟨c, -, -, rfl, -⟩
    · cases he
    · cases he
      rfl
    · cases he
  after := by
    intro text' htake
    have hsame : (lines text').take (1 + before.length) = before ++ [source] := by
      rw [htake, hlines, Nat.add_comm, List.take_append, List.take_of_length_le (by omega)]
      simp
    have hlines' : lines text' = before ++ source :: (lines text').drop (1 + before.length) := by
      conv => lhs; rw [← List.take_append_drop (1 + before.length) (lines text'), hsame]
      simp
    have hsplit : numberedLines text' = numberFrom 1 before ++ (1 + before.length, source) ::
        numberFrom (1 + before.length + 1) ((lines text').drop (1 + before.length)) := by
      rw [numberedLines]
      conv => lhs; rw [hlines', numberFrom_append, numberFrom]
    exact feedAll_eq_error_iff.2 ⟨_, _, _, hsplit, ⟨b, b', e, hrun, hfault, rfl⟩⟩

/-- **Reading a text fails at one line or not at all.** A failure is that of
a single line in every respect; a text read without a failure has known
constants only, and every cut of it is read as well. -/
theorem ofText_stops_at_first_fault (config : Config) (metadata : Metadata) (text : String) :
    (∀ failure, ofText config metadata text = .error failure →
      ∃! k, FailsAt config metadata text failure k) ∧
    (∀ s, ofText config metadata text = .ok s →
      (∀ c ∈ s.constants, c.primitive ≠ none) ∧
      ∀ j, ∃ t, ofText config metadata (firstLines j text) = .ok t ∧
        t.fields <+: s.fields ∧ t.constants <+: s.constants) := by
  constructor
  · intro failure h
    obtain ⟨pre, l, post, hsplit, ⟨b, b', e, hrun, hfault, rfl⟩⟩ := feedAll_eq_error_iff.1 h
    obtain ⟨before, source, after, hlines, rfl, rfl⟩ := numberFrom_eq_append_cons hsplit
    have hfails := failsAt_of_feeds hlines hrun hfault
    exact ⟨1 + before.length, hfails, fun k hk => hk.line.symm.trans hfails.line⟩
  · intro s h
    obtain ⟨b, hrun, rfl⟩ := feedAll_eq_ok_iff.1 h
    refine ⟨hrun.known (by intro c hc; cases hc), fun j => ?_⟩
    have hcut : Feeds (.start config metadata)
        (numberFrom 1 ((lines text).take j) ++ numberFrom (1 + ((lines text).take j).length)
          ((lines text).drop j)) b := by
      rw [← numberFrom_append, List.take_append_drop]
      exact hrun
    obtain ⟨b₁, hfirst, hrest⟩ := hcut.split
    exact ⟨b₁.schema, ofText_firstLines hfirst, hrest.grows⟩

/-- An unknown constant on the second line of three, and a text without
faults. -/
theorem ofText_stops_at_second_line :
    (∃ failure, ofText .standard (.message "p" "M") "bool a\nfoo X=1\nbool b" = .error failure ∧
      ∃! k, FailsAt .standard (.message "p" "M") "bool a\nfoo X=1\nbool b" failure k) ∧
    ∃ s, ofText .standard (.message "p" "M") "int8 X=1" = .ok s ∧
      ∀ c ∈ s.constants, c.primitive ≠ none := by
  obtain ⟨hfail, -⟩ := ofText_stops_at_first_fault .standard (.message "p" "M") "bool a\nfoo X=1\nbool b"
  obtain ⟨-, hread⟩ := ofText_stops_at_first_fault .standard (.message "p" "M") "int8 X=1"
  exact ⟨⟨_, rfl, hfail _ rfl⟩, ⟨_, rfl, (hread _ rfl).1⟩⟩

end Schema

end MessageSchema
