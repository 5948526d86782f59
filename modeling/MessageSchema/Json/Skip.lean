/-
Passing over a JSON value of no interest. The value has to be well-formed,
but nothing in it is looked at: numbers may have any size and the units of
texts need not pair up. Lists and objects may be nested to any depth.
-/
import MessageSchema.Json.Token

namespace MessageSchema.Json

/-- A container that is open. -/
inductive Container where
  | list
  | object
deriving DecidableEq, Repr

/-- What may come next in a value. -/
inductive Expected where
  | value
  /-- The first element of a list, or its end. -/
  | element
  /-- The first key of an object, or its end. -/
  | member
  | key
  | colon
  /-- A comma, or the end of the container. -/
  | separator
deriving DecidableEq, Repr

/-- A point inside a value: the open containers, innermost first, and what is
expected. -/
structure Place where
  containers : List Container
  expected : Expected
deriving DecidableEq, Repr

namespace Place

/-- Where a complete value leads; a value in no container is the whole. -/
def afterValue : List Container → Option Place
  | [] => none
  | c :: cs => some ⟨c :: cs, .separator⟩

/-- The place after a token that starts a value. -/
def startValue (containers : List Container) : Token → Except Fault (Option Place)
  | .null => .ok (afterValue containers)
  | .bool _ => .ok (afterValue containers)
  | .number _ => .ok (afterValue containers)
  | .text _ => .ok (afterValue containers)
  | .openList => .ok (some ⟨.list :: containers, .element⟩)
  | .openObject => .ok (some ⟨.object :: containers, .member⟩)
  | .cutText _ f => .error f
  | .cutScalar _ f => .error f
  | _ => .error .malformed

/-- The place after a token that is a key. -/
def startMember (containers : List Container) : Token → Except Fault (Option Place)
  | .text _ => .ok (some ⟨containers, .colon⟩)
  | .cutText _ f => .error f
  | _ => .error .malformed

/-- The place after a token; none when the token completes the value. -/
def step : Place → Token → Except Fault (Option Place)
  | ⟨cs, .value⟩, t => startValue cs t
  | ⟨_ :: cs, .element⟩, .closeList => .ok (afterValue cs)
  | ⟨cs, .element⟩, t => startValue cs t
  | ⟨_ :: cs, .member⟩, .closeObject => .ok (afterValue cs)
  | ⟨cs, .member⟩, t => startMember cs t
  | ⟨cs, .key⟩, t => startMember cs t
  | ⟨cs, .colon⟩, .colon => .ok (some ⟨cs, .value⟩)
  | ⟨.list :: cs, .separator⟩, .comma => .ok (some ⟨.list :: cs, .value⟩)
  | ⟨.list :: cs, .separator⟩, .closeList => .ok (afterValue cs)
  | ⟨.object :: cs, .separator⟩, .comma => .ok (some ⟨.object :: cs, .key⟩)
  | ⟨.object :: cs, .separator⟩, .closeObject => .ok (afterValue cs)
  | _, _ => .error .malformed

end Place

/-- Passes over the rest of a value, and gives the tokens after it. -/
def skipFrom (place : Place) : List Token → Except Fault (List Token)
  | [] => .error .endOfInput
  | t :: ts =>
    match place.step t with
    | .error f => .error f
    | .ok none => .ok ts
    | .ok (some place) => skipFrom place ts

/-- Passes over a value. -/
def skip (ts : List Token) : Except Fault (List Token) :=
  skipFrom ⟨[], .value⟩ ts

theorem skipFrom_shorter {place : Place} {ts rest : List Token} (h : skipFrom place ts = .ok rest) :
    rest.length < ts.length := by
  induction ts generalizing place with
  | nil => cases h
  | cons t ts ih =>
    unfold skipFrom at h
    split at h
    · cases h
    · simp only [Except.ok.injEq] at h
      simp [h]
    · have := ih h
      simp only [List.length_cons]
      omega

end MessageSchema.Json
