/-
Messages are single lines. What a fault tells of its source is quoted, a word
or a run of digits, and none of these can hold a line feed; so the message of
a faulty source never does (`Interface.ofText_withinLine`), and that of a file
only where its path does or the words of the system do.
-/
import MessageSchema.File.Batch
import MessageSchema.Proofs.Builder.Run
import MessageSchema.Proofs.Declaration.Content
import MessageSchema.Proofs.Field.Size

namespace MessageSchema

open Text

/-- Holds no line feed. -/
def OneLine (s : String) : Prop := '\n' ∉ s.toList

instance (s : String) : Decidable (OneLine s) := inferInstanceAs (Decidable ('\n' ∉ s.toList))

theorem OneLine.append {s t : String} (hs : OneLine s) (ht : OneLine t) : OneLine (s ++ t) := by
  simpa [OneLine] using And.intro hs ht

theorem Text.Word.oneLine {s : String} (h : Word s.toList) : OneLine s := fun hmem =>
  absurd (h.2 '\n' hmem) (by decide)

theorem Text.Digits.oneLine {s : String} (h : Digits s.toList) : OneLine s := fun hmem =>
  absurd (h '\n' hmem) (by decide)

theorem newline_not_mem_escape (c : Char) : '\n' ∉ escape c := by
  have hhex : ∀ n < 16, hexDigit n ≠ '\n' := by decide
  unfold escape
  split_ifs with _ _ _ _ hnewline _ _ hcontrol
  all_goals try decide
  · have h₁ := hhex (c.toNat / 16) (by omega)
    have h₂ := hhex (c.toNat % 16) (by omega)
    simp [h₁.symm, h₂.symm]
  · simpa using Ne.symm hnewline

theorem oneLine_quote (s : String) : OneLine (quote s) := by
  have hbody : '\n' ∉ s.toList.flatMap escape := by
    intro hmem
    obtain ⟨c, -, hc⟩ := List.mem_flatMap.1 hmem
    exact newline_not_mem_escape c hc
  simp [OneLine, quote, quoteChars, hbody]

/-! ## Faults of a source -/

/-- Nothing that the fault tells unquoted holds a line feed. -/
def LineError.WithinLine : LineError → Prop
  | .malformed _ _ => True
  | .unknownConstantType _ typeName => OneLine typeName
  | .tooManyDelimiters _ => True
  | .invalidSize _ size => OneLine size

theorem LineError.WithinLine.message {e : LineError} (h : e.WithinLine) : OneLine e.message := by
  have hreason : OneLine e.reason := by
    cases e with
    | malformed line text => exact (OneLine.append (by decide) (oneLine_quote text)).append (by decide)
    | unknownConstantType line typeName => exact OneLine.append (by decide) h
    | tooManyDelimiters line =>
      show OneLine "too many '---' delimiters"
      decide
    | invalidSize line size => exact OneLine.append (by decide) h
  exact ((OneLine.append (by decide) (digits_repr e.line).oneLine).append (by decide)).append hreason

namespace Builder

theorem field_withinLine {b : Builder} {line : Nat} {text : String} {decl : FieldDecl} {e : LineError}
    (hform : Declaration.FieldForm text.toList decl) (h : b.field line text decl = .error e) :
    e.WithinLine := by
  generalize text.toList = cs at hform
  cases hform with
  | intro htype hbound =>
    unfold field at h
    cases ha : ArrayKind.ofMarker line _ with
    | error e' =>
      rw [ha] at h
      cases h
      obtain ⟨m, hm, rfl⟩ := ofMarker_eq_error ha
      exact (htype.marker m hm).oneLine
    | ok array =>
      cases hb : stringBound line text _ with
      | ok bound =>
        rw [ha, hb] at h
        cases h
      | error e' =>
        rw [ha, hb] at h
        cases h
        unfold stringBound at hb
        split at hb
        · cases hb
        · next digits hdigits =>
          split at hb
          · rw [map_readSize_eq_error hb]
            exact (hbound digits hdigits).oneLine
          · cases hb
            trivial

theorem feed_withinLine {b b' : Builder} {line : Nat} {text : String} {e : LineError}
    (h : b.feed line text = (b', some e)) : e.WithinLine := by
  have hf := feed_cases b line text
  rw [h] at hf
  cases hf with
  | unknown content unknown =>
    have hform := Declaration.read?_constant_iff.1 (LineContent.read?_of_declaration content)
    generalize (trimmed text).toList = cs at hform
    cases hform with
    | intro htype => exact htype.name.oneLine
  | refused content refused =>
    exact field_withinLine (Declaration.read?_field_iff.1 (LineContent.read?_of_declaration content)).2 refused
  | malformed content => trivial

theorem feedAll_withinLine {b : Builder} {lines : List NumberedLine} {failure : Failure LineError Schema}
    (h : b.feedAll lines = .error failure) : failure.cause.WithinLine := by
  obtain ⟨pre, l, post, -, ⟨b₁, b₂, e, -, hfault, rfl⟩⟩ := feedAll_eq_error_iff.1 h
  exact feed_withinLine hfault

end Builder

theorem ServiceSource.ofText_error {text : String} {e : LineError} (h : ofText text = .error e) :
    ∃ line, e = .tooManyDelimiters line := by
  simp only [ofText, ofLines] at h
  split at h
  · cases h
  · split at h
    · cases h
      exact ⟨_, rfl⟩
    · cases h

theorem Service.ofText_withinLine {config : Config} {package name text : String}
    {failure : Failure LineError Service} (h : ofText config package name text = .error failure) :
    failure.cause.WithinLine := by
  simp only [ofText] at h
  split at h
  · next hsource =>
    cases h
    obtain ⟨n, rfl⟩ := ServiceSource.ofText_error hsource
    trivial
  · split at h
    · next hrequest =>
      cases h
      exact Builder.feedAll_withinLine hrequest
    · split at h
      · next hresponse =>
        cases h
        exact Builder.feedAll_withinLine hresponse
      · cases h

theorem Interface.ofText_withinLine {config : Config} {id : InterfaceId} {text : String}
    {failure : Failure LineError Interface} (h : ofText config id text = .error failure) :
    failure.cause.WithinLine := by
  unfold ofText at h
  split at h
  · split at h
    · cases h
    · next hread =>
      cases h
      exact Builder.feedAll_withinLine hread
  · split at h
    · cases h
    · next hread =>
      cases h
      exact Service.ofText_withinLine hread

/-! ## Faults of a file -/

theorem ReadError.oneLine_message {e : ReadError} (h : OneLine e.words) : OneLine e.message := by
  cases e with
  | system code words =>
    exact (((OneLine.append (by decide) h).append (by decide)).append (digits_repr code).oneLine).append
      (by decide)
  | nullInPath => exact OneLine.append (by decide) h
  | notText => exact OneLine.append (by decide) h

/-- **The message of a file is a single line** if its path is, and if the
system has no others to say. -/
theorem Interface.oneLine_of_ofFile {files : FileSource} {config : Config} {path : String}
    {failure : Failure FileError Interface} (hpath : OneLine path)
    (hwords : ∀ e, files path = .error e → OneLine e.words)
    (h : ofFile files config path = .error failure) : OneLine failure.cause.message := by
  unfold ofFile at h
  split at h
  · cases h
    exact OneLine.append (by decide) hpath
  · split at h
    · next e he =>
      cases h
      exact ReadError.oneLine_message (hwords e he)
    · split at h
      · cases h
      · next hread =>
        cases h
        exact (ofText_withinLine hread).message

end MessageSchema
