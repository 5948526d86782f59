/-
Settings from a JSON document. An object names the settings that it
changes; other keys are passed over, and a setting named twice is at fault.
A list gives the settings in their order, the last ones left out if need
be. The first fault from the left is the one reported.
-/
import MessageSchema.Config
import MessageSchema.Error
import MessageSchema.Json.Skip

namespace MessageSchema

open Json (Fault Token)

/-- The settings. -/
inductive Setting where
  | commonPackage
  | commonTypes
  | reservedWords
  | importSuffix
deriving DecidableEq, Repr

namespace Setting

/-- The settings in their order. -/
def all : List Setting :=
  [commonPackage, commonTypes, reservedWords, importSuffix]

/-- The key of a setting. -/
def key : Setting → String
  | commonPackage => "common_package"
  | commonTypes => "common_types"
  | reservedWords => "reserved_words"
  | importSuffix => "import_suffix"

/-- The setting with a given key. -/
def ofKey? (key : String) : Option Setting :=
  all.find? fun s => s.key == key

end Setting

/-- The settings that a document changes. -/
structure Overrides where
  commonPackage : Option String := none
  commonTypes : Option (List String) := none
  reservedWords : Option (List String) := none
  importSuffix : Option String := none
deriving DecidableEq, Repr

namespace Overrides

/-- Whether the document has changed a setting. -/
def isSet (o : Overrides) : Setting → Bool
  | .commonPackage => o.commonPackage.isSome
  | .commonTypes => o.commonTypes.isSome
  | .reservedWords => o.reservedWords.isSome
  | .importSuffix => o.importSuffix.isSome

/-- The settings after the changes. -/
def apply (o : Overrides) (config : Config) : Config where
  commonPackage := o.commonPackage.getD config.commonPackage
  commonTypes := o.commonTypes.getD config.commonTypes
  reservedWords := o.reservedWords.getD config.reservedWords
  importSuffix := o.importSuffix.getD config.importSuffix

/-! ## Values -/

/-- Reads a text. -/
def readText : List Token → Except Fault (String × List Token)
  | [] => .error .endOfInput
  | .text (.ok s) :: ts => .ok (s, ts)
  | t :: _ => .error t.mistyped

/-- Reads the texts of a list, at least one, up to its end. -/
def readElements : List Token → Except Fault (List String × List Token)
  | .text (.ok s) :: .comma :: ts =>
    match readElements ts with
    | .ok (ss, ts) => .ok (s :: ss, ts)
    | .error f => .error f
  | .text (.ok s) :: .closeList :: ts => .ok ([s], ts)
  | .text (.ok _) :: _ :: _ => .error .malformed
  | .text (.ok _) :: [] => .error .endOfInput
  | t :: _ => .error t.mistyped
  | [] => .error .endOfInput

/-- Reads a list of texts. -/
def readTexts : List Token → Except Fault (List String × List Token)
  | [] => .error .endOfInput
  | .openList :: .closeList :: ts => .ok ([], ts)
  | .openList :: ts => readElements ts
  | t :: _ => .error t.mistyped

/-- Reads the value of a setting. -/
def readValue (o : Overrides) (s : Setting) (ts : List Token) :
    Except Fault (Overrides × List Token) :=
  match s with
  | .commonPackage => (readText ts).map fun (v, ts) => ({ o with commonPackage := some v }, ts)
  | .commonTypes => (readTexts ts).map fun (v, ts) => ({ o with commonTypes := some v }, ts)
  | .reservedWords => (readTexts ts).map fun (v, ts) => ({ o with reservedWords := some v }, ts)
  | .importSuffix => (readText ts).map fun (v, ts) => ({ o with importSuffix := some v }, ts)

/-! ## Objects -/

/-- Reads the key of a member. -/
def readKey : List Token → Except Fault (String × List Token)
  | [] => .error .endOfInput
  | .text (.ok key) :: ts => .ok (key, ts)
  | .text (.error f) :: _ => .error f
  | .cutText f _ :: _ => .error f
  | _ :: _ => .error .malformed

/-- Reads the colon after a key. -/
def readColon : List Token → Except Fault (List Token)
  | [] => .error .endOfInput
  | .colon :: ts => .ok ts
  | _ :: _ => .error .malformed

/-- Reads a member. -/
def readMember (o : Overrides) (ts : List Token) : Except Fault (Overrides × List Token) := do
  let (key, ts) ← readKey ts
  match Setting.ofKey? key with
  | some s =>
    if o.isSet s then throw .mistyped
    let ts ← readColon ts
    o.readValue s ts
  | none =>
    let ts ← readColon ts
    let ts ← Json.skip ts
    return (o, ts)

theorem readKey_shorter {ts rest : List Token} {key : String} (h : readKey ts = .ok (key, rest)) :
    rest.length < ts.length := by
  unfold readKey at h
  split at h
  all_goals try cases h
  simp

theorem readColon_shorter {ts rest : List Token} (h : readColon ts = .ok rest) :
    rest.length < ts.length := by
  unfold readColon at h
  split at h
  all_goals try cases h
  simp

theorem readText_shorter {ts rest : List Token} {s : String} (h : readText ts = .ok (s, rest)) :
    rest.length < ts.length := by
  unfold readText at h
  split at h
  all_goals try cases h
  simp

theorem readElements_shorter {ts rest : List Token} {ss : List String}
    (h : readElements ts = .ok (ss, rest)) : rest.length < ts.length := by
  fun_induction readElements ts generalizing ss rest with
  | case1 s ts ss' rest' hr ih =>
    simp only [Except.ok.injEq, Prod.mk.injEq] at h
    have := ih hr
    rw [← h.2]
    simp only [List.length_cons]
    omega
  | case3 =>
    simp only [Except.ok.injEq, Prod.mk.injEq] at h
    rw [← h.2]
    simp only [List.length_cons]
    omega
  | _ => cases h

theorem readTexts_shorter {ts rest : List Token} {ss : List String}
    (h : readTexts ts = .ok (ss, rest)) : rest.length < ts.length := by
  unfold readTexts at h
  split at h
  · cases h
  · cases h
    simp only [List.length_cons]
    omega
  · have := readElements_shorter h
    simp only [List.length_cons]
    omega
  · cases h

theorem readValue_shorter {o o' : Overrides} {s : Setting} {ts rest : List Token}
    (h : o.readValue s ts = .ok (o', rest)) : rest.length < ts.length := by
  unfold readValue at h
  split at h
  all_goals
    simp only [Except.map] at h
    split at h
    · cases h
    · rename_i hr
      simp only [Except.ok.injEq, Prod.mk.injEq] at h
      rw [← h.2]
      first
        | exact readText_shorter hr
        | exact readTexts_shorter hr

theorem readMember_shorter {o o' : Overrides} {ts rest : List Token}
    (h : o.readMember ts = .ok (o', rest)) : rest.length < ts.length := by
  simp only [readMember, bind, Except.bind] at h
  split at h
  · cases h
  · rename_i hk
    have h1 := readKey_shorter hk
    split at h
    · split at h
      · cases h
      · split at h
        · cases h
        · rename_i hc
          have h2 := readColon_shorter hc
          have h3 := readValue_shorter h
          omega
    · split at h
      · cases h
      · rename_i hc
        have h2 := readColon_shorter hc
        split at h
        · cases h
        · rename_i hs
          have h3 := Json.skipFrom_shorter hs
          simp only [pure, Except.pure, Except.ok.injEq, Prod.mk.injEq] at h
          rw [← h.2]
          omega

/-- Reads the members of an object, at least one, up to its end. -/
def readMembers (o : Overrides) (ts : List Token) : Except Fault (Overrides × List Token) :=
  match _h : o.readMember ts with
  | .error f => .error f
  | .ok (_, []) => .error .endOfInput
  | .ok (o, .comma :: ts) => o.readMembers ts
  | .ok (o, .closeObject :: ts) => .ok (o, ts)
  | .ok (_, _ :: _) => .error .malformed
termination_by ts.length
decreasing_by
  have := readMember_shorter _h
  simp only [List.length_cons] at this
  omega

/-- Reads an object after its opening brace. -/
def readObject : List Token → Except Fault (Overrides × List Token)
  | .closeObject :: ts => .ok ({}, ts)
  | ts => readMembers {} ts

/-! ## Lists -/

/-- Reads the end of a list that has given all settings. -/
def readListEnd (o : Overrides) : List Token → Except Fault (Overrides × List Token)
  | [] => .error .endOfInput
  | .closeList :: ts => .ok (o, ts)
  | _ :: _ => .error .malformed

/-- Reads the values of settings after the first, each behind a comma, up to
the end of the list. -/
def readPositions (o : Overrides) : List Setting → List Token → Except Fault (Overrides × List Token)
  | [], ts => o.readListEnd ts
  | _ :: _, [] => .error .endOfInput
  | _ :: _, .closeList :: ts => .ok (o, ts)
  | s :: ss, .comma :: ts =>
    match o.readValue s ts with
    | .ok (o, ts) => o.readPositions ss ts
    | .error f => .error f
  | _ :: _, _ :: _ => .error .malformed

/-- Reads a list after its opening bracket. -/
def readList : List Token → Except Fault (Overrides × List Token)
  | .closeList :: ts => .ok ({}, ts)
  | ts =>
    match readValue {} .commonPackage ts with
    | .ok (o, ts) => o.readPositions (Setting.all.drop 1) ts
    | .error f => .error f

/-! ## Documents -/

/-- Reads the whole of a document. -/
def read : List Token → Except Fault (Overrides × List Token)
  | [] => .error .endOfInput
  | .openObject :: ts => readObject ts
  | .openList :: ts => readList ts
  | t :: _ => .error t.mistyped

/-- The settings that a document changes. Nothing may follow the value. -/
def ofJson (text : String) : Except Fault Overrides :=
  match read (Token.ofString text) with
  | .ok (o, []) => .ok o
  | .ok (_, _ :: _) => .error .malformed
  | .error f => .error f

end Overrides

/-- The built-in settings with the changes of a document. -/
def Config.ofJson (text : String) : Except Fault Config :=
  (Overrides.ofJson text).map fun o => o.apply .standard

end MessageSchema
