/-
Settings from a document. A document overrides exactly the settings that its
keys name, wherever they stand among other keys and however the texts, the
spaces and the other values are written (`Config.ofDocument_overrides`). A
setting is accepted once: the reader keeps track of those it has changed
(`readMembers_nodup`), so a second one is a fault whatever its value is.
-/
import MessageSchema.Config.File
import MessageSchema.Proofs.Json.Skip

namespace MessageSchema

open Json (Token Escaped Spaces MemberText ObjectText WritesText WritesTexts ReadsAs Passed bracketed keyed
  escaped_flatMap_escape)

variable {c : Config} {o o' : Overrides} {s : Setting} {K : List Setting} {name : String} {ss : List String}
  {ts rest rest' : List Token} {members : List (String × List Char)} {tokens : String × List Char → List Token}

/-! ## Settings in a document -/

/-- The settings of `c` that `K` names, and otherwise the built-in ones. -/
def Config.on (c : Config) (K : List Setting) : Config where
  commonPackage := if .commonPackage ∈ K then c.commonPackage else standard.commonPackage
  commonTypes := if .commonTypes ∈ K then c.commonTypes else standard.commonTypes
  reservedWords := if .reservedWords ∈ K then c.reservedWords else standard.reservedWords
  importSuffix := if .importSuffix ∈ K then c.importSuffix else standard.importSuffix

/-- The characters write the value that a setting has in `c`. -/
def Setting.Written (c : Config) : Setting → List Char → Prop
  | .commonPackage, cs => WritesText cs c.commonPackage
  | .commonTypes, cs => WritesTexts cs c.commonTypes
  | .reservedWords, cs => WritesTexts cs c.reservedWords
  | .importSuffix, cs => WritesText cs c.importSuffix

/-- The settings that the keys of a document name. -/
def Setting.named (members : List (String × List Char)) : List Setting :=
  members.filterMap fun m => ofKey? m.1

theorem Setting.named_cons (m : String × List Char) (members : List (String × List Char)) :
    named (m :: members) = (ofKey? m.1).toList ++ named members := by
  cases hkey : ofKey? m.1 <;> simp [named, hkey]

theorem Config.on_all (h : ∀ s : Setting, s ∈ K) : c.on K = c := by
  simp only [on, h, if_true]

namespace Overrides

/-- The overrides of the settings in `K` by their values in `c`. -/
def on (c : Config) (K : List Setting) : Overrides where
  commonPackage := if .commonPackage ∈ K then some c.commonPackage else none
  commonTypes := if .commonTypes ∈ K then some c.commonTypes else none
  reservedWords := if .reservedWords ∈ K then some c.reservedWords else none
  importSuffix := if .importSuffix ∈ K then some c.importSuffix else none

theorem isSet_on (c : Config) (K : List Setting) (s : Setting) : (on c K).isSet s = decide (s ∈ K) := by
  cases s
  all_goals
    simp only [isSet, on]
    split <;> simp_all

theorem apply_on (c : Config) (K : List Setting) : (on c K).apply .standard = c.on K := by
  have hgetD : ∀ {α : Type} (p : Prop) [Decidable p] (a b : α),
      (if p then some a else none).getD b = if p then a else b := by
    intro α p _ a b
    split <;> rfl
  simp only [apply, on, Config.on, hgetD]

/-! ## Values -/

theorem readElements_texts (hne : ss ≠ []) (rest : List Token) :
    readElements ([.comma].intercalate (ss.map fun s => [.text (.ok s)]) ++ .closeList :: rest) =
      .ok (ss, rest) := by
  induction ss with
  | nil => exact absurd rfl hne
  | cons s ss ih =>
    cases ss with
    | nil => rfl
    | cons s' ss =>
      have hmore := ih (by simp)
      simp only [List.map_cons, List.intercalate_cons_cons, List.cons_append, List.nil_append] at hmore ⊢
      rw [readElements, hmore]

theorem readTexts_texts (ss : List String) (rest : List Token) :
    readTexts (bracketed .openList .closeList (ss.map fun s => [.text (.ok s)]) ++ rest) = .ok (ss, rest) := by
  cases ss with
  | nil => rfl
  | cons s ss =>
    have hitems := readElements_texts (List.cons_ne_nil s ss) rest
    obtain ⟨more, hstart⟩ :=
      Json.separated_cons (ss.map fun s => [.text (.ok s)]) [.text (.ok s)] (.closeList :: rest)
    rw [List.map_cons, hstart] at hitems
    rw [bracketed, List.cons_append, List.append_assoc, List.singleton_append, List.map_cons, hstart]
    exact hitems

/-- What writes the value of a setting is read as this value. -/
theorem readValue_written {cs : List Char} (h : s.Written c cs) :
    ∃ ts, ReadsAs cs ts ∧
      ∀ K rest, (on c K).readValue s (ts ++ rest) = .ok (on c (K ++ [s]), rest) := by
  cases s
  case commonPackage =>
    refine ⟨_, WritesText.readsAs h, fun K rest => ?_⟩
    simp [readValue, readText, Except.map, on]
  case commonTypes =>
    refine ⟨_, WritesTexts.readsAs h, fun K rest => ?_⟩
    simp [readValue, readTexts_texts, Except.map, on]
  case reservedWords =>
    refine ⟨_, WritesTexts.readsAs h, fun K rest => ?_⟩
    simp [readValue, readTexts_texts, Except.map, on]
  case importSuffix =>
    refine ⟨_, WritesText.readsAs h, fun K rest => ?_⟩
    simp [readValue, readText, Except.map, on]

theorem skip_of_readText (h : readText ts = .ok (name, rest)) : Json.skip ts = .ok rest := by
  unfold readText at h
  split at h
  all_goals cases h
  rfl

theorem skipFrom_of_readElements (h : readElements ts = .ok (ss, rest)) :
    Json.skipFrom ⟨[.list], .value⟩ ts = .ok rest := by
  fun_induction readElements ts generalizing ss rest with
  | case1 s ts ss' rest' hr ih =>
    cases h
    exact ih hr
  | case3 =>
    cases h
    rfl
  | _ => cases h

theorem skip_of_readTexts (h : readTexts ts = .ok (ss, rest)) : Json.skip ts = .ok rest := by
  unfold readTexts at h
  split at h
  case h_2 =>
    cases h
    rfl
  case h_3 ts hne =>
    have hskip := skipFrom_of_readElements h
    cases ts with
    | nil => cases h
    | cons t ts =>
      have hfirst : t ≠ .closeList := by
        rintro rfl
        exact hne ts rfl
      rw [← hskip, ← Json.skipFrom_element _ hfirst]
      rfl
  all_goals cases h

/-- A setting that is read takes up one value, and is set from then on. -/
theorem readValue_ok (h : o.readValue s ts = .ok (o', rest)) :
    Json.skip ts = .ok rest ∧ ∀ t, o'.isSet t = (o.isSet t || t == s) := by
  cases s
  all_goals
    simp only [readValue, Except.map] at h
    split at h
    · cases h
    · next hr =>
      cases h
      refine ⟨?_, fun t => by cases t <;> simp [isSet]⟩
      first
        | exact skip_of_readText hr
        | exact skip_of_readTexts hr

/-! ## Members -/

theorem readMember_keyed (o : Overrides) (name : String) (ts : List Token) :
    o.readMember (keyed (.ok name) ts) =
      match Setting.ofKey? name with
      | some s => if o.isSet s then .error .mistyped else o.readValue s ts
      | none => (Json.skip ts).map (o, ·) := by
  simp only [readMember, keyed, readKey, readColon, bind, Except.bind]
  cases Setting.ofKey? name with
  | none =>
    cases Json.skip ts <;> rfl
  | some s =>
    cases o.isSet s <;> rfl

theorem readMembers_more (h : o.readMember ts = .ok (o', .comma :: rest)) :
    o.readMembers ts = o'.readMembers rest := by
  rw [readMembers.eq_def]
  split <;> simp_all

theorem readMembers_last (h : o.readMember ts = .ok (o', .closeObject :: rest)) :
    o.readMembers ts = .ok (o', rest) := by
  rw [readMembers.eq_def]
  split <;> simp_all

theorem exists_readMember {result : Overrides × List Token} (h : o.readMembers ts = .ok result) :
    ∃ o' rest, o.readMember ts = .ok (o', rest) := by
  rw [readMembers.eq_def] at h
  split at h
  case h_1 => cases h
  case h_2 => cases h
  all_goals exact ⟨_, _, ‹_›⟩

/-- The tokens of an object behind its opening brace, in front of others. -/
def objectTail (tokens : String × List Char → List Token) (members : List (String × List Char))
    (rest : List Token) : List Token :=
  [.comma].intercalate (members.map fun m => keyed (.ok m.1) (tokens m)) ++ .closeObject :: rest

theorem objectTail_last (tokens : String × List Char → List Token) (m : String × List Char)
    (rest : List Token) :
    objectTail tokens [m] rest = keyed (.ok m.1) (tokens m) ++ .closeObject :: rest := by
  rw [objectTail, List.map_singleton, List.intercalate_singleton]

theorem objectTail_more (tokens : String × List Char → List Token) (m m' : String × List Char)
    (members : List (String × List Char)) (rest : List Token) :
    objectTail tokens (m :: m' :: members) rest =
      keyed (.ok m.1) (tokens m) ++ .comma :: objectTail tokens (m' :: members) rest := by
  simp only [objectTail, List.map_cons, List.intercalate_cons_cons, List.append_assoc,
    List.cons_append, List.nil_append]

/-- The tokens of a value give the setting that the key names its value in `c`;
under any other key they are one value. -/
def Gives (c : Config) (key : String) (ts : List Token) : Prop :=
  match Setting.ofKey? key with
  | some s => ∀ K rest, (on c K).readValue s (ts ++ rest) = .ok (on c (K ++ [s]), rest)
  | none => Passed ts

theorem readMember_gives (h : Gives c name ts) (hnew : ∀ s ∈ Setting.ofKey? name, s ∉ K)
    (rest : List Token) :
    (on c K).readMember (keyed (.ok name) ts ++ rest) =
      .ok (on c (K ++ (Setting.ofKey? name).toList), rest) := by
  unfold Gives at h
  change readMember _ (keyed (.ok name) (ts ++ rest)) = _
  rw [readMember_keyed]
  cases hkey : Setting.ofKey? name with
  | none =>
    rw [hkey] at h
    simp [h.skip rest, Except.map]
  | some s =>
    rw [hkey] at h hnew
    have hs : s ∉ K := hnew s rfl
    simp [isSet_on, hs, h K rest]

/-- Members that name no setting twice, and give each one its value in `c`,
override these settings. -/
theorem readMembers_gives (hne : members ≠ []) (h : ∀ m ∈ members, Gives c m.1 (tokens m))
    (hnodup : (K ++ Setting.named members).Nodup) (rest : List Token) :
    (on c K).readMembers (objectTail tokens members rest) =
      .ok (on c (K ++ Setting.named members), rest) := by
  induction members generalizing K with
  | nil => exact absurd rfl hne
  | cons m members ih =>
    rw [Setting.named_cons, ← List.append_assoc] at hnodup ⊢
    have hnew : ∀ s ∈ Setting.ofKey? m.1, s ∉ K := by
      have hfront := (List.nodup_append.1 hnodup).1
      exact fun s hs hK => (List.nodup_append.1 hfront).2.2 s hK s (Option.mem_toList.2 hs) rfl
    have hfirst := readMember_gives (h m (by simp)) hnew
    cases members with
    | nil =>
      rw [objectTail_last, readMembers_last (hfirst _)]
      simp [Setting.named]
    | cons m' members =>
      have hmore := ih (by simp) (fun x hx => h x (List.mem_cons_of_mem _ hx)) hnodup
      rw [objectTail_more, readMembers_more (hfirst _), hmore]

/-- A member that is accepted takes up the tokens of its value, and the setting
that its key names is set only from then on. -/
theorem readMember_ok (h : Passed ts) (hread : o.readMember (keyed (.ok name) ts ++ rest) = .ok (o', rest')) :
    rest' = rest ∧ (∀ s ∈ Setting.ofKey? name, o.isSet s = false ∧ o'.isSet s = true) ∧
      ∀ s, o.isSet s = true → o'.isSet s = true := by
  change readMember _ (keyed (.ok name) (ts ++ rest)) = _ at hread
  rw [readMember_keyed] at hread
  cases hkey : Setting.ofKey? name with
  | none =>
    rw [hkey] at hread
    simp only [h.skip rest, Except.map] at hread
    cases hread
    simp
  | some s =>
    rw [hkey] at hread
    simp only at hread
    split at hread
    · cases hread
    · next hset =>
      obtain ⟨hskip, hisSet⟩ := readValue_ok hread
      rw [h.skip rest] at hskip
      cases hskip
      simp_all

/-- **Members that are accepted name no setting twice**, whatever their values. -/
theorem readMembers_nodup {result : Overrides × List Token} (h : ∀ m ∈ members, Passed (tokens m))
    (hread : o.readMembers (objectTail tokens members rest) = .ok result) :
    (Setting.named members).Nodup ∧ ∀ s ∈ Setting.named members, o.isSet s = false := by
  induction members generalizing o with
  | nil => simp [Setting.named]
  | cons m members ih =>
    obtain ⟨o₁, hset, hkeeps, hnodup, hfree⟩ : ∃ o₁ : Overrides,
        (∀ s ∈ Setting.ofKey? m.1, o.isSet s = false ∧ o₁.isSet s = true) ∧
        (∀ s, o.isSet s = true → o₁.isSet s = true) ∧
        (Setting.named members).Nodup ∧ ∀ s ∈ Setting.named members, o₁.isSet s = false := by
      obtain ⟨o₁, rest₁, hfirst⟩ := exists_readMember hread
      cases members with
      | nil =>
        rw [objectTail_last] at hfirst
        obtain ⟨-, hset, hkeeps⟩ := readMember_ok (h m (by simp)) hfirst
        exact ⟨o₁, hset, hkeeps, by simp [Setting.named]⟩
      | cons m' members =>
        rw [objectTail_more] at hfirst hread
        obtain ⟨rfl, hset, hkeeps⟩ := readMember_ok (h m (by simp)) hfirst
        rw [readMembers_more hfirst] at hread
        exact ⟨o₁, hset, hkeeps, ih (fun x hx => h x (List.mem_cons_of_mem _ hx)) hread⟩
    rw [Setting.named_cons]
    refine ⟨List.nodup_append.2 ⟨?_, hnodup, ?_⟩, fun s hs => ?_⟩
    · cases Setting.ofKey? m.1 <;> simp
    · rintro s hs s' hs' rfl
      have hset' := (hset s (Option.mem_toList.1 hs)).2
      rw [hfree s hs'] at hset'
      cases hset'
    · rcases List.mem_append.1 hs with hkey | hlater
      · exact (hset s (Option.mem_toList.1 hkey)).1
      · cases hs' : o.isSet s with
        | false => rfl
        | true => rw [← hfree s hlater, hkeeps s hs']

/-! ## Documents -/

theorem on_nil (c : Config) : on c [] = {} := rfl

theorem read_object (hne : members ≠ []) :
    read (bracketed .openObject .closeObject (members.map fun m => keyed (.ok m.1) (tokens m))) =
      readMembers {} (objectTail tokens members []) := by
  obtain ⟨m, more, rfl⟩ := List.exists_cons_of_ne_nil hne
  obtain ⟨rest, hstart⟩ := Json.separated_cons (more.map fun m => keyed (.ok m.1) (tokens m))
    (keyed (.ok m.1) (tokens m)) [.closeObject]
  rw [bracketed, objectTail, List.map_cons, hstart]
  rfl

theorem ofJson_of_written {text : String} (h : ObjectText text members) (hnodup : (Setting.named members).Nodup)
    (hwritten : ∀ m ∈ members, ∀ s ∈ Setting.ofKey? m.1, s.Written c m.2) :
    ofJson text = .ok (on c (Setting.named members)) := by
  have htokens : ∀ m ∈ members, ∃ ts, ReadsAs m.2 ts ∧ Gives c m.1 ts := by
    intro m hm
    unfold Gives
    cases hkey : Setting.ofKey? m.1 with
    | none => exact (h.values m hm).exists_tokens
    | some s => exact readValue_written (hwritten m hm s hkey)
  choose! tokens hreads hgives using htokens
  rw [ofJson, h.ofString_eq hreads]
  by_cases hne : members = []
  · subst hne
    rfl
  · have hread := readMembers_gives hne hgives (K := []) (by simpa using hnodup) []
    rw [on_nil] at hread
    rw [read_object hne, hread, List.nil_append]

theorem nodup_of_ofJson {text : String} (h : ObjectText text members) (hread : ofJson text = .ok o) :
    (Setting.named members).Nodup := by
  have htokens : ∀ m ∈ members, ∃ ts, ReadsAs m.2 ts ∧ Passed ts := fun m hm =>
    (h.values m hm).exists_tokens
  choose! tokens hreads hpassed using htokens
  by_cases hne : members = []
  · subst hne
    simp [Setting.named]
  · rw [ofJson, h.ofString_eq hreads, read_object hne] at hread
    split at hread
    · next hmembers => exact (readMembers_nodup hpassed hmembers).1
    · cases hread
    · cases hread

end Overrides

/-- **A document overrides exactly the settings that it names.** An object whose
keys name no setting twice, and write the values that these settings have in
`c`, gives these values and the built-in ones; all of `c` if it names every
setting. An object that names a setting twice is at fault. Other keys and their
values, the order of the keys, the spaces and the escapes make no difference. -/
theorem Config.ofDocument_overrides (c : Config) {text : String} {members : List (String × List Char)}
    (h : ObjectText text members) :
    ((Setting.named members).Nodup → (∀ m ∈ members, ∀ s ∈ Setting.ofKey? m.1, s.Written c m.2) →
      ofDocument text = .ok (c.on (Setting.named members)) ∧
        ((∀ s : Setting, s ∈ Setting.named members) → ofDocument text = .ok c)) ∧
    (¬ (Setting.named members).Nodup → ∃ fault, ofDocument text = .error (.json fault)) := by
  constructor
  · intro hnodup hwritten
    have hread : ofDocument text = .ok (c.on (Setting.named members)) := by
      rw [ofDocument, ofJson, Overrides.ofJson_of_written h hnodup hwritten]
      simp [Except.map, Except.mapError, Overrides.apply_on]
    exact ⟨hread, fun hall => by rw [hread, on_all hall]⟩
  · intro htwice
    cases hread : Overrides.ofJson text with
    | ok o => exact absurd (Overrides.nodup_of_ofJson h hread) htwice
    | error fault => exact ⟨fault, by simp [ofDocument, ofJson, hread, Except.map, Except.mapError]⟩

/-- A key with an escape in it, behind a text that is only half of a pair; and a
setting that is named again with a value of another type. -/
theorem Config.ofDocument_overrides_escaped :
    ofDocument " \x7b\"x\":\"\\ud800\",\n\"import\\u005fsuffix\": \"\\uD83D\\ude00\\/\"\x7d" =
      .ok { importSuffix := "😀/" } ∧
    ∃ fault, ofDocument "\x7b\"import_suffix\":\"a\",\"import_suffix\":[]\x7d" = .error (.json fault) := by
  have hnone : Spaces [] := by simp [Spaces]
  have hspace : Spaces [' '] := by simp [Spaces, Token.isSpace]
  have hbreak : Spaces ['\n'] := by simp [Spaces, Token.isSpace]
  constructor
  · have hkey : Escaped "import\\u005fsuffix".toList "import_suffix".toList :=
      (escaped_flatMap_escape "import".toList).append
        (.unit (n := 0x5f) (by decide) (by decide) (escaped_flatMap_escape "suffix".toList))
    have hvalue : Escaped "\\uD83D\\ude00\\/".toList "😀/".toList :=
      .pair (n := 0xd83d) (m := 0xde00) (by decide) (by decide) (by decide) (by decide)
        (.short (c := '/') (by decide) .nil)
    have hobject := @ObjectText.intro [' '] [] _
      ["\"x\":\"\\ud800\"".toList, "\"import\\u005fsuffix\": \"\\uD83D\\ude00\\/\"".toList]
      [("x", "\"\\ud800\"".toList), ("import_suffix", "\"\\uD83D\\ude00\\/\"".toList)]
      hspace hnone (.items (.more hnone hnone (.last hbreak hnone)))
      (.cons ⟨_, @MemberText.intro "x".toList [] [] _ hnone hnone, escaped_flatMap_escape "x".toList⟩
        (.cons ⟨_, @MemberText.intro "import\\u005fsuffix".toList [] [' '] _ hnone hspace, hkey⟩ .nil))
      (List.forall_mem_cons.2 ⟨.text (.unit (n := 0xd800) (by decide) .nil),
        List.forall_mem_singleton.2 (.text hvalue.literal)⟩)
    have hwritten : ∀ s ∈ Setting.ofKey? "import_suffix",
        s.Written { importSuffix := "😀/" } "\"\\uD83D\\ude00\\/\"".toList := by
      rintro s ⟨⟩
      exact ⟨_, rfl, hvalue⟩
    exact ((ofDocument_overrides { importSuffix := "😀/" } hobject).1 (by decide)
      (List.forall_mem_cons.2 ⟨by rintro s ⟨⟩, List.forall_mem_singleton.2 hwritten⟩)).1
  · have hkey : Escaped "import_suffix".toList "import_suffix".toList :=
      escaped_flatMap_escape "import_suffix".toList
    have ha : Escaped "a".toList "a".toList := escaped_flatMap_escape "a".toList
    have hobject := @ObjectText.intro [] [] _ ["\"import_suffix\":\"a\"".toList, "\"import_suffix\":[]".toList]
      [("import_suffix", "\"a\"".toList), ("import_suffix", "[]".toList)]
      hnone hnone (.items (.more hnone hnone (.last hnone hnone)))
      (.cons ⟨_, @MemberText.intro "import_suffix".toList [] [] _ hnone hnone, hkey⟩
        (.cons ⟨_, @MemberText.intro "import_suffix".toList [] [] _ hnone hnone, hkey⟩ .nil))
      (List.forall_mem_cons.2 ⟨.text ha.literal,
        List.forall_mem_singleton.2 (.list (.empty hnone) (by simp))⟩)
    exact (ofDocument_overrides standard hobject).2 (by decide)

end MessageSchema
