/-
What a JSON text stands for. A value has one list of tokens, and a text stands
for the value whose tokens it is written with (`Denotes`). The brackets and commas
make the tokens unambiguous: where a value ends, and which value it is, can be
told from the tokens (`cancels_tokens`), so a text stands for one value at most.
The indented form of a value stands for the value (`denotes_pretty`).
-/
import MessageSchema.Json.Value
import MessageSchema.Proofs.Json.Lexing

namespace MessageSchema.Json

open Text (Stops)
open NumberText (goesOn)
open Token (Spelled ofMark?)

/-! ## The grammar -/

/-- Items between brackets, with commas between them. -/
def bracketed (left right : Token) (items : List (List Token)) : List Token :=
  left :: ([.comma].intercalate items ++ [right])

mutual

/-- The tokens of a value. -/
def tokens : Json → List Token
  | null => [.null]
  | bool b => [.bool b]
  | number n => [.number (.ofNat n)]
  | text s => [.text (.ok s)]
  | list vs => bracketed .openList .closeList (elementTokens vs)
  | object ms => bracketed .openObject .closeObject (memberTokens ms)

/-- The tokens of each element of a list. -/
def elementTokens : List Json → List (List Token)
  | [] => []
  | v :: vs => tokens v :: elementTokens vs

/-- The tokens of each member of an object: the key, a colon and the value. -/
def memberTokens : List (String × Json) → List (List Token)
  | [] => []
  | (key, v) :: ms => (.text (.ok key) :: .colon :: tokens v) :: memberTokens ms

end

/-- The text is a JSON text, and its value is the given one. -/
def Denotes (text : String) (v : Json) : Prop := Lexes text.toList v.tokens

theorem tokens_list (vs : List Json) :
    (list vs).tokens = bracketed .openList .closeList (vs.map tokens) := by
  have h : elementTokens vs = vs.map tokens := by
    induction vs with
    | nil => rfl
    | cons v vs ih => rw [elementTokens, ih, List.map_cons]
  rw [tokens, h]

theorem tokens_object (ms : List (String × Json)) :
    (object ms).tokens =
      bracketed .openObject .closeObject (ms.map fun m => .text (.ok m.1) :: .colon :: m.2.tokens) := by
  have h : memberTokens ms = ms.map fun m => .text (.ok m.1) :: .colon :: m.2.tokens := by
    induction ms with
    | nil => rfl
    | cons m ms ih => rw [memberTokens, ih, List.map_cons]
  rw [tokens, h]

/-- Induction over a value, with the hypothesis for each element and for the
value of each member. -/
@[elab_as_elim]
theorem nested_induction {P : Json → Prop} (null : P null) (bool : ∀ b, P (bool b))
    (number : ∀ n, P (number n)) (text : ∀ s, P (text s))
    (list : ∀ vs, (∀ v ∈ vs, P v) → P (list vs))
    (object : ∀ ms, (∀ m ∈ ms, P m.2) → P (object ms)) (v : Json) : P v :=
  @Json.rec P (fun vs => ∀ v ∈ vs, P v) (fun ms => ∀ m ∈ ms, P m.2) (fun m => P m.2)
    null bool number text list object
    (by simp) (fun v vs hv hvs => List.forall_mem_cons.2 ⟨hv, hvs⟩)
    (by simp) (fun m ms hm hms => List.forall_mem_cons.2 ⟨hm, hms⟩)
    (fun _ _ hv => hv) v

/-! ## One value at most -/

section

variable {α : Type} {code : α → List Token}

/-- From a text that starts with the code of `a`, both `a` and the rest can be
told. -/
def Cancels (code : α → List Token) (a : α) : Prop :=
  ∀ b r s, code a ++ r = code b ++ s → a = b ∧ r = s

theorem separated_cons (items : List (List Token)) (item r : List Token) :
    ∃ rest, [.comma].intercalate (item :: items) ++ r = item ++ rest := by
  cases items with
  | nil => exact ⟨r, by rw [List.intercalate_singleton]⟩
  | cons item' items => exact ⟨_, by rw [List.intercalate_cons_cons, List.append_assoc, List.append_assoc]⟩

/-- Items that cancel, none of which starts with the closing bracket, cancel as
a whole up to that bracket. -/
theorem cancels_separated {right : Token} (hcomma : right ≠ .comma)
    (hstart : ∀ a r, (code a ++ r).head? ≠ some right) {as : List α} (h : ∀ a ∈ as, Cancels code a) :
    Cancels (fun as => [.comma].intercalate (as.map code) ++ [right]) as := by
  have hopen : ∀ b bs r s, right :: r ≠ [.comma].intercalate ((b :: bs).map code) ++ s := by
    intro b bs r s heq
    obtain ⟨rest, hrest⟩ := separated_cons (bs.map code) (code b) s
    rw [List.map_cons, hrest] at heq
    exact hstart b rest (by rw [← heq, List.head?_cons])
  intro bs r s heq
  simp only [List.append_assoc, List.singleton_append] at heq
  induction as generalizing bs with
  | nil =>
    cases bs with
    | nil => exact ⟨rfl, (List.cons.inj heq).2⟩
    | cons b bs => exact absurd heq (hopen b bs r _)
  | cons a as ih =>
    cases bs with
    | nil => exact absurd heq.symm (hopen a as s _)
    | cons b bs =>
      have ha := h a (by simp)
      cases as with
      | nil =>
        cases bs with
        | nil =>
          obtain ⟨rfl, hrest⟩ := ha b _ _ (by simpa using heq)
          exact ⟨rfl, (List.cons.inj hrest).2⟩
        | cons b' bs =>
          obtain ⟨rfl, hrest⟩ := ha b _ _ (by simpa [List.intercalate_cons_cons] using heq)
          exact absurd (List.cons.inj hrest).1 hcomma
      | cons a' as =>
        cases bs with
        | nil =>
          obtain ⟨rfl, hrest⟩ := ha b _ _ (by simpa [List.intercalate_cons_cons] using heq)
          exact absurd (List.cons.inj hrest).1.symm hcomma
        | cons b' bs =>
          obtain ⟨rfl, hrest⟩ := ha b _ _ (by simpa [List.intercalate_cons_cons] using heq)
          obtain ⟨htail, hr⟩ := ih (fun x hx => h x (List.mem_cons_of_mem _ hx)) (b' :: bs)
            (List.cons.inj hrest).2
          exact ⟨by rw [htail], hr⟩

end

/-- **Tokens are unambiguous**: no tokens start with those of two values. -/
theorem cancels_tokens (v : Json) : Cancels tokens v := by
  induction v using nested_induction with
  | null =>
    intro w r s h
    cases w <;> simp_all [tokens, bracketed]
  | bool b =>
    intro w r s h
    cases w <;> simp_all [tokens, bracketed]
  | number n =>
    intro w r s h
    cases w with
    | number m =>
      obtain ⟨htoken, hrest⟩ := List.cons.inj h
      exact ⟨congrArg number (NumberText.ofNat_injective (Token.number.inj htoken)), hrest⟩
    | _ => simp [tokens, bracketed] at h
  | text t =>
    intro w r s h
    cases w <;> simp_all [tokens, bracketed]
  | list vs ih =>
    intro w r s h
    cases w with
    | list ws =>
      have hstart : ∀ v r, (tokens v ++ r).head? ≠ some .closeList := by
        intro v r
        cases v <;> simp [tokens, bracketed]
      rw [tokens_list, tokens_list] at h
      obtain ⟨rfl, hrest⟩ := cancels_separated (by simp) hstart ih ws r s (List.cons.inj h).2
      exact ⟨rfl, hrest⟩
    | _ => simp [tokens, bracketed] at h
  | object ms ih =>
    intro w r s h
    cases w with
    | object ws =>
      have hmember : ∀ m ∈ ms,
          Cancels (fun m : String × Json => .text (.ok m.1) :: .colon :: m.2.tokens) m := by
        intro m hm m' r s heq
        simp only [List.cons_append, List.cons.injEq, Token.text.injEq, Except.ok.injEq, true_and] at heq
        obtain ⟨hvalue, hrest⟩ := ih m hm m'.2 r s heq.2
        exact ⟨Prod.ext heq.1 hvalue, hrest⟩
      rw [tokens_object, tokens_object] at h
      obtain ⟨rfl, hrest⟩ := cancels_separated (by simp) (by simp) hmember ws r s (List.cons.inj h).2
      exact ⟨rfl, hrest⟩
    | _ => simp [tokens, bracketed] at h

/-- A text stands for one value at most. -/
theorem Denotes.unique {text : String} {v w : Json} (hv : Denotes text v) (hw : Denotes text w) : v = w := by
  have htokens : v.tokens ++ [] = w.tokens ++ [] := by rw [← hv.ofChars_eq, ← hw.ofChars_eq]
  exact (cancels_tokens v w [] [] htokens).1

/-! ## The indented form -/

/-- The characters write the tokens in front of everything that does not go on
with a number. -/
def LexesTo (cs : List Char) (ts : List Token) : Prop :=
  ∀ rest us, Stops goesOn rest → Lexes rest us → Lexes (cs ++ rest) (ts ++ us)

theorem LexesTo.spelled {cs : List Char} {t : Token} (h : Spelled cs t) : LexesTo cs [t] := by
  intro rest us hstop hrest
  have ends : t.EndsBefore rest := by
    cases t with
    | number n => exact hstop
    | _ => trivial
  exact .cons h ends hrest

theorem spaces_newline (level : Nat) : Spaces (newline level) := by
  intro c hc
  simp only [newline, List.mem_cons, List.mem_replicate] at hc
  rcases hc with rfl | ⟨-, rfl⟩
  all_goals decide

theorem stops_newline (level : Nat) (cs : List Char) : Stops goesOn (newline level ++ cs) :=
  .cons (by decide)

section

variable {α : Type} {form : α → List Char} {code : α → List Token} {right : Char} {r : Token}

theorem lexes_separated (hright : ofMark? right = some r) (inner outer : Nat) {as : List α}
    (h : ∀ a ∈ as, LexesTo (form a) (code a)) {rest : List Char} {us : List Token} (hrest : Lexes rest us) :
    Lexes ([','].intercalate (as.map fun a => newline inner ++ form a) ++ (newline outer ++ right :: rest))
      ([.comma].intercalate (as.map code) ++ r :: us) := by
  have hclose := (hrest.mark hright).gap (spaces_newline outer)
  induction as with
  | nil => exact hclose
  | cons a as ih =>
    have ha := h a (by simp)
    cases as with
    | nil =>
      simp only [List.map_cons, List.map_nil, List.intercalate_singleton, List.append_assoc]
      exact (ha _ _ (stops_newline outer _) hclose).gap (spaces_newline inner)
    | cons b as =>
      have hmore := (ih fun x hx => h x (List.mem_cons_of_mem _ hx)).mark (show ofMark? ',' = some .comma from rfl)
      simp only [List.map_cons, List.intercalate_cons_cons, List.append_assoc, List.singleton_append]
        at hmore ⊢
      exact (ha _ _ (.cons (by decide)) hmore).gap (spaces_newline inner)

/-- Enclosed items write their tokens between the tokens of the brackets. -/
theorem lexesTo_enclose {left : Char} {l : Token} (hleft : ofMark? left = some l)
    (hright : ofMark? right = some r) (level : Nat) {as : List α}
    (h : ∀ a ∈ as, LexesTo (form a) (code a)) :
    LexesTo (enclose level left right (as.map form)) (bracketed l r (as.map code)) := by
  intro rest us hstop hrest
  cases as with
  | nil => exact (hrest.mark hright).mark hleft
  | cons a as =>
    have hitems := (lexes_separated hright (level + 1) level h hrest).mark hleft
    simpa [enclose, bracketed, Function.comp_def] using hitems

end

theorem write_list (level : Nat) (vs : List Json) :
    (list vs).write level = enclose level '[' ']' (vs.map (write (level + 1))) := by
  have h : ∀ n, writeElements n vs = vs.map (write n) := by
    intro n
    induction vs with
    | nil => rfl
    | cons v vs ih => rw [writeElements, ih, List.map_cons]
  rw [write, h]

theorem write_object (level : Nat) (ms : List (String × Json)) :
    (object ms).write level =
      enclose level '\x7b' '\x7d' (ms.map fun m => member m.1 (m.2.write (level + 1))) := by
  have h : ∀ n, writeMembers n ms = ms.map fun m => member m.1 (m.2.write n) := by
    intro n
    induction ms with
    | nil => rfl
    | cons m ms ih => rw [writeMembers, ih, List.map_cons]
  rw [write, h]

theorem lexesTo_quoteChars (s : String) : LexesTo (Text.quoteChars s.toList) [.text (.ok s)] := by
  have h := LexesTo.spelled (.text (escaped_flatMap_escape s.toList))
  rwa [String.ofList_toList] at h

theorem lexesTo_member {key : String} {cs : List Char} {ts : List Token} (h : LexesTo cs ts) :
    LexesTo (member key cs) (.text (.ok key) :: .colon :: ts) := by
  intro rest us hstop hrest
  have hvalue : Lexes ([' '] ++ (cs ++ rest)) (ts ++ us) := (h _ _ hstop hrest).gap (by simp [Spaces]; decide)
  have hcolon := hvalue.mark (show ofMark? ':' = some .colon from rfl)
  have hkey := lexesTo_quoteChars key _ _ (.cons (by decide)) hcolon
  simpa [member] using hkey

theorem lexesTo_write (v : Json) (level : Nat) : LexesTo (v.write level) v.tokens := by
  induction v using nested_induction generalizing level with
  | null => exact LexesTo.spelled (show Spelled ('n' :: "ull".toList) .null from .literal rfl)
  | bool b =>
    cases b with
    | true => exact LexesTo.spelled (show Spelled ('t' :: "rue".toList) (.bool true) from .literal rfl)
    | false => exact LexesTo.spelled (show Spelled ('f' :: "alse".toList) (.bool false) from .literal rfl)
  | number n => exact LexesTo.spelled (.number (NumberText.form_ofNat n))
  | text s => exact lexesTo_quoteChars s
  | list vs ih =>
    rw [write_list, tokens_list]
    exact lexesTo_enclose rfl rfl level fun v hv => ih v hv (level + 1)
  | object ms ih =>
    rw [write_object, tokens_object]
    exact lexesTo_enclose rfl rfl level fun m hm => lexesTo_member (ih m hm (level + 1))

/-- **The indented form of a value stands for it.** -/
theorem denotes_pretty (v : Json) : Denotes v.pretty v := by
  have hend : Lexes [] [] := .done (by simp [Spaces])
  have h := lexesTo_write v 0 _ _ .nil hend
  simpa [Denotes, pretty] using h

end MessageSchema.Json
