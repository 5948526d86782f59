/-
A service source read as one text is its two sections read as messages: the
delimiter divides the lines, the response is counted on from it, and nothing
else passes from one section to the other.
-/
import MessageSchema.Proofs.Builder.Renumber
import MessageSchema.Proofs.Text.Blank
import MessageSchema.Proofs.Text.Lines
import MessageSchema.Service

namespace MessageSchema

open Text

/-! ## Dividing lines -/

namespace ServiceSource

variable {ls ls' : List String} {d : String}

/-- Lines without a delimiter are all request. -/
theorem ofLines_of_none (h : ∀ l ∈ ls, isDelimiter l = false) :
    ofLines ls = .ok ⟨⟨1, ls⟩, ⟨ls.length + 1, []⟩⟩ := by
  obtain ⟨htake, hdrop⟩ := (span_eq_iff (p := fun l => !isDelimiter l)).2
    ⟨(List.append_nil ls).symm, fun l hl => by rw [h l hl]; rfl, .nil⟩
  simp only [ofLines, htake, hdrop]

/-- One delimiter divides request and response. -/
theorem ofLines_of_one (h : ∀ l ∈ ls, isDelimiter l = false) (hd : isDelimiter d = true)
    (h' : ∀ l ∈ ls', isDelimiter l = false) :
    ofLines (ls ++ d :: ls') = .ok ⟨⟨1, ls⟩, ⟨ls.length + 2, ls'⟩⟩ := by
  have hstop : Stops (fun l => !isDelimiter l) (d :: ls') := .cons (by rw [hd]; rfl)
  obtain ⟨htake, hdrop⟩ := (span_eq_iff (p := fun l => !isDelimiter l)).2
    ⟨rfl, fun l hl => by rw [h l hl]; rfl, hstop⟩
  have hfind : ls'.findIdx? isDelimiter = none := List.findIdx?_eq_none_iff.2 h'
  simp only [ofLines, htake, hdrop, hfind]

/-- A second delimiter is a fault, reported on its line. -/
theorem ofLines_of_two {d' : String} {rest : List String} (h : ∀ l ∈ ls, isDelimiter l = false)
    (hd : isDelimiter d = true) (h' : ∀ l ∈ ls', isDelimiter l = false) (hd' : isDelimiter d' = true) :
    ofLines (ls ++ d :: (ls' ++ d' :: rest)) =
      .error (.tooManyDelimiters (ls.length + 2 + ls'.length)) := by
  have hstop : Stops (fun l => !isDelimiter l) (d :: (ls' ++ d' :: rest)) := .cons (by rw [hd]; rfl)
  obtain ⟨htake, hdrop⟩ := (span_eq_iff (p := fun l => !isDelimiter l)).2
    ⟨rfl, fun l hl => by rw [h l hl]; rfl, hstop⟩
  have hfind : (ls' ++ d' :: rest).findIdx? isDelimiter = some ls'.length := by
    rw [List.findIdx?_append, List.findIdx?_eq_none_iff.2 h', List.findIdx?_cons, if_pos hd']
    simp
  simp only [ofLines, htake, hdrop, hfind]

/-- Where the delimiters of some lines stand: there is none, one, or a second
one behind the first. -/
inductive Layout : List String → Prop where
  | whole {ls : List String} (h : ∀ l ∈ ls, isDelimiter l = false) : Layout ls
  | delimited {ls ls' : List String} {d : String} (h : ∀ l ∈ ls, isDelimiter l = false)
      (hd : isDelimiter d = true) (h' : ∀ l ∈ ls', isDelimiter l = false) : Layout (ls ++ d :: ls')
  | overfull {ls ls' rest : List String} {d d' : String} (h : ∀ l ∈ ls, isDelimiter l = false)
      (hd : isDelimiter d = true) (h' : ∀ l ∈ ls', isDelimiter l = false) (hd' : isDelimiter d' = true) :
      Layout (ls ++ d :: (ls' ++ d' :: rest))

/-- Lines have no delimiter, or one that none precedes. -/
theorem exists_first_delimiter (ls : List String) :
    (∀ l ∈ ls, isDelimiter l = false) ∨
      ∃ before d after, ls = before ++ d :: after ∧ (∀ l ∈ before, isDelimiter l = false) ∧
        isDelimiter d = true := by
  cases hfind : ls.find? isDelimiter with
  | none => exact .inl (by simpa using hfind)
  | some d =>
    obtain ⟨hd, before, after, hls, hbefore⟩ := List.find?_eq_some_iff_append.1 hfind
    exact .inr ⟨before, d, after, hls, by simpa using hbefore, hd⟩

theorem layout (ls : List String) : Layout ls := by
  rcases exists_first_delimiter ls with h | ⟨before, d, after, rfl, h, hd⟩
  · exact .whole h
  · rcases exists_first_delimiter after with h' | ⟨between, d', rest, rfl, h', hd'⟩
    · exact .delimited h hd h'
    · exact .overfull h hd h' hd'

theorem countP_eq_zero (h : ∀ l ∈ ls, isDelimiter l = false) : ls.countP isDelimiter = 0 := by
  rw [List.countP_eq_zero]
  intro l hl
  rw [h l hl]
  exact Bool.false_ne_true

theorem ofLines_of_many (h : 2 ≤ ls.countP isDelimiter) :
    ∃ line, ofLines ls = .error (.tooManyDelimiters line) := by
  cases layout ls with
  | whole h₁ =>
    rw [countP_eq_zero h₁] at h
    omega
  | delimited h₁ hd h₂ =>
    rw [List.countP_append, List.countP_cons_of_pos hd, countP_eq_zero h₁, countP_eq_zero h₂] at h
    omega
  | overfull h₁ hd h₂ hd' => exact ⟨_, ofLines_of_two h₁ hd h₂ hd'⟩

/-- The division of lines into sections: all of them are the request, or one
delimiter stands between request and response. -/
inductive Divides : List String → ServiceSource → Prop where
  | whole {ls : List String} (h : ∀ l ∈ ls, isDelimiter l = false) :
      Divides ls ⟨⟨1, ls⟩, ⟨ls.length + 1, []⟩⟩
  | delimited {ls ls' : List String} {d : String} (h : ∀ l ∈ ls, isDelimiter l = false)
      (hd : isDelimiter d = true) (h' : ∀ l ∈ ls', isDelimiter l = false) :
      Divides (ls ++ d :: ls') ⟨⟨1, ls⟩, ⟨ls.length + 2, ls'⟩⟩

theorem ofLines_eq_ok_iff {ls : List String} {source : ServiceSource} :
    ofLines ls = .ok source ↔ Divides ls source := by
  constructor
  · intro hread
    cases layout ls with
    | whole h =>
      rw [ofLines_of_none h] at hread
      cases hread
      exact .whole h
    | delimited h hd h' =>
      rw [ofLines_of_one h hd h'] at hread
      cases hread
      exact .delimited h hd h'
    | overfull h hd h' hd' =>
      rw [ofLines_of_two h hd h' hd'] at hread
      cases hread
  · intro h
    cases h with
    | whole h => exact ofLines_of_none h
    | delimited h hd h' => exact ofLines_of_one h hd h'

theorem lines_delimited (t t' : String) : lines (t ++ "\n---\n" ++ t') = lines t ++ "---" :: lines t' := by
  have hline : lines "---" = ["---"] := rfl
  rw [show "\n---\n" = "\n" ++ "---" ++ "\n" from rfl, lines_line_between hline]

/-- Two texts with a delimiter between them are the two sections. -/
theorem ofText_delimited {t t' : String} (h : ∀ l ∈ lines t, isDelimiter l = false)
    (h' : ∀ l ∈ lines t', isDelimiter l = false) :
    ofText (t ++ "\n---\n" ++ t') = .ok ⟨⟨1, lines t⟩, ⟨(lines t).length + 2, lines t'⟩⟩ := by
  rw [ofText, lines_delimited]
  exact ofLines_of_one h (by decide) h'

end ServiceSource

/-! ## Reading sections -/

namespace Service

/-! ## From sections to services -/

section

variable {config : Config} {package name text t : String} {request : Schema} {response : SourceSection}

theorem ofText_request_error {failure : Failure LineError Schema}
    (hsource : ServiceSource.ofText text = .ok ⟨⟨1, lines t⟩, response⟩)
    (hrequest : Schema.ofText config ⟨package, name ++ "_Request", .request⟩ t = .error failure) :
    ∃ request, failure.assembled = some request ∧
      ofText config package name text =
        .error ⟨some { empty package name with request }, failure.cause⟩ := by
  obtain ⟨request, hfailure⟩ := Builder.assembled_of_feedAll hrequest
  have hread : (Builder.start config (empty package name).request.metadata).feedAll
      (SourceSection.numbered ⟨1, lines t⟩) = .error failure := hrequest
  refine ⟨request, by rw [hfailure], ?_⟩
  rw [ofText, hsource]
  simp only [hread]
  rw [hfailure]
  rfl

theorem ofText_request_ok
    (hsource : ServiceSource.ofText text = .ok ⟨⟨1, lines t⟩, response⟩)
    (hrequest : Schema.ofText config ⟨package, name ++ "_Request", .request⟩ t = .ok request) :
    ofText config package name text =
      match (Builder.start config ⟨package, name ++ "_Response", .response⟩).feedAll response.numbered with
      | .error failure => .error (failure.map fun response => ⟨package, name, request, response⟩)
      | .ok response => .ok ⟨package, name, request, response⟩ := by
  have hread : (Builder.start config (empty package name).request.metadata).feedAll
      (SourceSection.numbered ⟨1, lines t⟩) = .ok request := hrequest
  rw [ofText, hsource]
  simp only [hread]
  rfl

variable {t' : String} {n : Nat}

theorem ofText_response_error {failure : Failure LineError Schema}
    (hsource : ServiceSource.ofText text = .ok ⟨⟨1, lines t⟩, ⟨n + 2, lines t'⟩⟩)
    (hrequest : Schema.ofText config ⟨package, name ++ "_Request", .request⟩ t = .ok request)
    (hresponse : Schema.ofText config ⟨package, name ++ "_Response", .response⟩ t' = .error failure) :
    ∃ response, failure.assembled = some response ∧
      ofText config package name text =
        .error ⟨some ⟨package, name, request, response.renumber (· + (n + 1))⟩,
          failure.cause.renumber (· + (n + 1))⟩ := by
  obtain ⟨response, hfailure⟩ := Builder.assembled_of_feedAll hresponse
  refine ⟨response, by rw [hfailure], ?_⟩
  rw [ofText_request_ok hsource hrequest, SourceSection.numbered, Builder.feedAll_numberFrom,
    hresponse, hfailure]
  rfl

theorem ofText_response_ok {answer : Schema}
    (hsource : ServiceSource.ofText text = .ok ⟨⟨1, lines t⟩, ⟨n + 2, lines t'⟩⟩)
    (hrequest : Schema.ofText config ⟨package, name ++ "_Request", .request⟩ t = .ok request)
    (hresponse : Schema.ofText config ⟨package, name ++ "_Response", .response⟩ t' = .ok answer) :
    ofText config package name text =
      .ok ⟨package, name, request, answer.renumber (· + (n + 1))⟩ := by
  rw [ofText_request_ok hsource hrequest, SourceSection.numbered, Builder.feedAll_numberFrom, hresponse]

end

/-! ## From services to their halves -/

section

variable {config : Config} {package name text : String} {v : Service}

/-- A service that is read whole has its two halves read from the two
sections. -/
theorem ofText_eq_ok (h : ofText config package name text = .ok v) :
    ∃ source, ServiceSource.ofText text = .ok source ∧
      (Builder.start config ⟨package, name ++ "_Request", .request⟩).feedAll source.request.numbered =
        .ok v.request ∧
      (Builder.start config ⟨package, name ++ "_Response", .response⟩).feedAll source.response.numbered =
        .ok v.response := by
  unfold ofText at h
  simp only at h
  split at h
  · cases h
  · next source hsource =>
    split at h
    · cases h
    · next request hrequest =>
      split at h
      · cases h
      · next response hresponse =>
        cases h
        exact ⟨source, hsource, hrequest, hresponse⟩

/-- Both halves of a service that is handed over are what lines build, each
under its own name. -/
theorem builds_halves (h : Failure.handedOver (ofText config package name text) = some v) :
    Builder.Builds config ⟨package, name ++ "_Request", .request⟩ v.request ∧
      Builder.Builds config ⟨package, name ++ "_Response", .response⟩ v.response := by
  unfold ofText at h
  simp only at h
  split at h
  · cases h
  · split at h
    · next failure hrequest =>
      obtain ⟨request, hassembled, rfl⟩ := Option.map_eq_some_iff.1 h
      exact ⟨Builder.builds_of_feedAll_error hrequest hassembled, Builder.builds_empty _ _⟩
    · next request hrequest =>
      split at h
      · next failure hresponse =>
        obtain ⟨response, hassembled, rfl⟩ := Option.map_eq_some_iff.1 h
        exact ⟨Builder.builds_of_feedAll_ok hrequest,
          Builder.builds_of_feedAll_error hresponse hassembled⟩
      · next response hresponse =>
        cases h
        exact ⟨Builder.builds_of_feedAll_ok hrequest, Builder.builds_of_feedAll_ok hresponse⟩

end

/-- **A service is read as two messages.** With one delimiter the request is
the text before it, and the response the text after it with all line numbers
counted on; a fault in the request comes with an empty response, one in the
response with the whole request. Without a delimiter all is request, and with
more than one the source is not divided at all. -/
theorem ofText_sections (config : Config) (package name : String) :
    (∀ t t', (∀ l ∈ lines t, isDelimiter l = false) → (∀ l ∈ lines t', isDelimiter l = false) →
      match Schema.ofText config ⟨package, name ++ "_Request", .request⟩ t,
        Schema.ofText config ⟨package, name ++ "_Response", .response⟩ t' with
      | .error failure, _ => ∃ request, failure.assembled = some request ∧
          ofText config package name (t ++ "\n---\n" ++ t') =
            .error ⟨some { empty package name with request }, failure.cause⟩
      | .ok request, .error failure => ∃ response, failure.assembled = some response ∧
          ofText config package name (t ++ "\n---\n" ++ t') =
            .error ⟨some ⟨package, name, request, response.renumber (· + ((lines t).length + 1))⟩,
              failure.cause.renumber (· + ((lines t).length + 1))⟩
      | .ok request, .ok response =>
          ofText config package name (t ++ "\n---\n" ++ t') =
            .ok ⟨package, name, request, response.renumber (· + ((lines t).length + 1))⟩) ∧
    (∀ t, (∀ l ∈ lines t, isDelimiter l = false) →
      match Schema.ofText config ⟨package, name ++ "_Request", .request⟩ t with
      | .error failure => ∃ request, failure.assembled = some request ∧
          ofText config package name t =
            .error ⟨some { empty package name with request }, failure.cause⟩
      | .ok request => ofText config package name t = .ok { empty package name with request }) ∧
    ∀ t, 2 ≤ (lines t).countP isDelimiter →
      ∃ line, ofText config package name t = .error ⟨none, .tooManyDelimiters line⟩ := by
  refine ⟨fun t t' ht ht' => ?_, fun t ht => ?_, fun t ht => ?_⟩
  · have hsource := ServiceSource.ofText_delimited ht ht'
    split
    · next failure hrequest => exact ofText_request_error hsource hrequest
    · next request failure hrequest hresponse => exact ofText_response_error hsource hrequest hresponse
    · next request response hrequest hresponse => exact ofText_response_ok hsource hrequest hresponse
  · have hsource : ServiceSource.ofText t = .ok ⟨⟨1, lines t⟩, ⟨(lines t).length + 1, []⟩⟩ :=
      ServiceSource.ofLines_of_none ht
    split
    · next failure hrequest => exact ofText_request_error hsource hrequest
    · next request hrequest =>
      rw [ofText_request_ok hsource hrequest]
      rfl
  · obtain ⟨line, hsource⟩ := ServiceSource.ofLines_of_many ht
    refine ⟨line, ?_⟩
    rw [ofText, ServiceSource.ofText, hsource]
    rfl

/-- A fault in the response, a source that is all request, and one with two
delimiters. -/
theorem ofText_sections_faults :
    (∃ request response, response.fields.map (·.line) = [3] ∧
      ofText .standard "p" "S" ("bool a" ++ "\n---\n" ++ "int8 b\n?") =
        .error ⟨some ⟨"p", "S", request, response⟩, .malformed 4 "?"⟩) ∧
    (∃ request, ofText .standard "p" "S" "bool a" = .ok { empty "p" "S" with request }) ∧
    ∃ line, ofText .standard "p" "S" "---\n?\n---" = .error ⟨none, .tooManyDelimiters line⟩ := by
  obtain ⟨hone, hnone, hmany⟩ := ofText_sections .standard "p" "S"
  refine ⟨?_, ⟨_, hnone "bool a" (by decide)⟩, hmany "---\n?\n---" (by decide)⟩
  obtain ⟨response, hassembled, hread⟩ := hone "bool a" "int8 b\n?" (by decide) (by decide)
  exact ⟨_, _, by cases hassembled; rfl, hread⟩

end Service

end MessageSchema
