/-
The grammar of JSON, character by character, with no value in mind: what a text,
a list, an object and a value look like, with any spaces between their parts.
Escapes of four digits need not pair up, and numbers may have any size.

The tokens of a list or object are those of its items, between brackets and with
commas (`Enclosed.readsAs`), whatever stands behind it.
-/
import MessageSchema.Proofs.Json.Document

namespace MessageSchema.Json

open Text (Stops)
open NumberText (goesOn)
open Token (Spelled ofMark? ofChars)
open TextScan (unescape? unitOfHex? scan)

/-! ## Texts, lists and objects -/

/-- What may stand between the quotes of a text. -/
inductive Literal : List Char → Prop where
  | nil : Literal []
  | plain {c : Char} {cs : List Char} (printable : 0x20 ≤ c.toNat) (quote : c ≠ '"') (backslash : c ≠ '\\')
      (rest : Literal cs) : Literal (c :: cs)
  | short {e c : Char} {cs : List Char} (escape : unescape? e = some c) (rest : Literal cs) :
      Literal ('\\' :: e :: cs)
  | unit {a b c d : Char} {n : Nat} {cs : List Char} (digits : unitOfHex? a b c d = some n)
      (rest : Literal cs) : Literal ('\\' :: 'u' :: a :: b :: c :: d :: cs)

/-- What stands between quotes, with the quotes. -/
def quoted (cs : List Char) : List Char := '"' :: (cs ++ ['"'])

/-- Items with commas between them and any spaces around each. -/
inductive Separated : List (List Char) → List Char → Prop where
  | last {before item after : List Char} (spaces : Spaces before) (spaces' : Spaces after) :
      Separated [item] (before ++ (item ++ after))
  | more {before item after text : List Char} {items : List (List Char)} (spaces : Spaces before)
      (spaces' : Spaces after) (rest : Separated items text) :
      Separated (item :: items) (before ++ (item ++ (after ++ ',' :: text)))

/-- Items between brackets. -/
inductive Enclosed (left right : Char) : List (List Char) → List Char → Prop where
  | empty {gap : List Char} (spaces : Spaces gap) : Enclosed left right [] (left :: (gap ++ [right]))
  | items {items : List (List Char)} {text : List Char} (separated : Separated items text) :
      Enclosed left right items (left :: (text ++ [right]))

/-- A member of an object, with what stands between the quotes of its key and
with its value. -/
inductive MemberText : List Char → List Char × List Char → Prop where
  | intro {key before after value : List Char} (spaces : Spaces before) (spaces' : Spaces after) :
      MemberText (quoted key ++ (before ++ ':' :: (after ++ value))) (key, value)

/-- The texts that write a JSON value. -/
inductive ValueText : List Char → Prop where
  | word {word : String} (known : word ∈ ["null", "true", "false"]) : ValueText word.toList
  | number {cs : List Char} {n : NumberText} (form : NumberText.Form cs n) : ValueText cs
  | text {cs : List Char} (literal : Literal cs) : ValueText (quoted cs)
  | list {items : List (List Char)} {cs : List Char} (enclosed : Enclosed '[' ']' items cs)
      (values : ∀ item ∈ items, ValueText item) : ValueText cs
  | object {items : List (List Char)} {members : List (List Char × List Char)} {cs : List Char}
      (enclosed : Enclosed '\x7b' '\x7d' items cs) (written : List.Forall₂ MemberText items members)
      (keys : ∀ m ∈ members, Literal m.1) (values : ∀ m ∈ members, ValueText m.2) : ValueText cs

/-- The characters are a text literal that stands for the text. -/
def WritesText (cs : List Char) (s : String) : Prop :=
  ∃ literal, cs = quoted literal ∧ Escaped literal s.toList

/-- The characters are a list of text literals that stand for the texts. -/
def WritesTexts (cs : List Char) (ss : List String) : Prop :=
  ∃ items, Enclosed '[' ']' items cs ∧ List.Forall₂ WritesText items ss

/-- The text is a JSON object with the members, in their order: the text that
each key stands for, and the characters that write its value. -/
inductive ObjectText : String → List (String × List Char) → Prop where
  | intro {before after object : List Char} {items : List (List Char)} {members : List (String × List Char)}
      (spaces : Spaces before) (spaces' : Spaces after) (enclosed : Enclosed '\x7b' '\x7d' items object)
      (written : List.Forall₂
        (fun item m => ∃ key, MemberText item (key, m.2) ∧ Escaped key m.1.toList) items members)
      (values : ∀ m ∈ members, ValueText m.2) :
      ObjectText (String.ofList (before ++ (object ++ after))) members

theorem Escaped.literal {cs text : List Char} (h : Escaped cs text) : Literal cs := by
  induction h with
  | nil => exact .nil
  | plain printable quote backslash _ ih => exact .plain printable quote backslash ih
  | short escape _ ih => exact .short escape ih
  | unit digits _ _ ih => exact .unit digits ih
  | pair digits digits' _ _ _ ih => exact .unit digits (.unit digits' ih)

/-! ## Their tokens -/

/-- The characters are read as the tokens in front of everything that does not go
on with a number. -/
def ReadsAs (cs : List Char) (ts : List Token) : Prop :=
  ∀ rest, Stops goesOn rest → ofChars (cs ++ rest) = ts ++ ofChars rest

theorem ofChars_of_dropWhile {cs body : List Char} {c : Char} (h : cs.dropWhile Token.isSpace = c :: body) :
    ofChars cs = (Token.read c body).1 :: ((Token.read c body).2.elim [] ofChars) := by
  rw [ofChars]
  split
  · next heq => rw [h] at heq; cases heq
  · next c' body' heq =>
    rw [h] at heq
    cases heq
    split
    · next hr => rw [hr]; rfl
    · next hr => rw [hr]; rfl

/-- Spaces in front make no difference. -/
theorem ofChars_gap {gap : List Char} (spaces : Spaces gap) (rest : List Char) :
    ofChars (gap ++ rest) = ofChars rest := by
  have hdrop : (gap ++ rest).dropWhile Token.isSpace = rest.dropWhile Token.isSpace :=
    List.dropWhile_append_of_pos spaces
  cases hrest : rest.dropWhile Token.isSpace with
  | nil =>
    have hspaces : ∀ cs : List Char, cs.dropWhile Token.isSpace = [] → ofChars cs = [] := fun cs h =>
      (Lexes.done (List.dropWhile_eq_nil_iff.1 h)).ofChars_eq
    rw [hspaces _ hrest, hspaces _ (hdrop.trans hrest)]
  | cons c body => rw [ofChars_of_dropWhile hrest, ofChars_of_dropWhile (hdrop.trans hrest)]

theorem ofChars_spelled {cs rest : List Char} {t : Token} (h : Spelled cs t) (ends : t.EndsBefore rest) :
    ofChars (cs ++ rest) = t :: ofChars rest := by
  obtain ⟨c, body, rfl, hspace, hread⟩ := h.read ends
  have spaces : Spaces [] := by simp [Spaces]
  exact ofChars_token spaces hspace hread

theorem ofChars_mark {c : Char} {t : Token} (hmark : ofMark? c = some t) (rest : List Char) :
    ofChars (c :: rest) = t :: ofChars rest := by
  have ends : t.EndsBefore rest := by
    unfold ofMark? at hmark
    split at hmark
    all_goals
      cases hmark
      try trivial
  exact ofChars_spelled (.mark hmark) ends

theorem Token.Spelled.readsAs {cs : List Char} {t : Token} (h : Spelled cs t) : ReadsAs cs [t] := by
  intro rest hstop
  have ends : t.EndsBefore rest := by
    cases t with
    | number n => exact hstop
    | _ => trivial
  exact ofChars_spelled h ends

theorem Escaped.readsAs {cs text : List Char} (h : Escaped cs text) :
    ReadsAs (quoted cs) [.text (.ok (String.ofList text))] :=
  (Spelled.text h).readsAs

/-- Whatever the escapes stand for, a text ends at its closing quote. -/
theorem Literal.scan {cs : List Char} (h : Literal cs) :
    ∃ units, ∀ rest, TextScan.scan (cs ++ '"' :: rest) = ⟨units, .ok rest⟩ := by
  induction h with
  | nil => exact ⟨[], fun _ => rfl⟩
  | @plain c _ printable quote backslash _ ih =>
    obtain ⟨units, hscan⟩ := ih
    refine ⟨.char c :: units, fun rest => ?_⟩
    rw [List.cons_append, scan_plain printable quote backslash, hscan, TextScan.cons]
  | @short _ c _ escape _ ih =>
    obtain ⟨units, hscan⟩ := ih
    refine ⟨.char c :: units, fun rest => ?_⟩
    rw [List.cons_append, List.cons_append, scan_short escape, hscan, TextScan.cons]
  | @unit _ _ _ _ n _ digits _ ih =>
    obtain ⟨units, hscan⟩ := ih
    refine ⟨.unit n :: units, fun rest => ?_⟩
    simp only [List.cons_append, scan_unit digits, hscan, TextScan.cons]

theorem Literal.readsAs {cs : List Char} (h : Literal cs) : ∃ value, ReadsAs (quoted cs) [.text value] := by
  obtain ⟨units, hscan⟩ := h.scan
  refine ⟨(TextScan.decode none units).map String.ofList, fun rest _ => ?_⟩
  have hread : Token.read '"' (cs ++ '"' :: rest) =
      (.text ((TextScan.decode none units).map String.ofList), some rest) := by
    change Token.readText (cs ++ '"' :: rest) = _
    simp only [Token.readText, hscan, TextScan.value]
  have hquoted : quoted cs ++ rest = '"' :: (cs ++ '"' :: rest) := by simp [quoted]
  have hdrop : (quoted cs ++ rest).dropWhile Token.isSpace = '"' :: (cs ++ '"' :: rest) := by
    rw [hquoted]
    exact List.dropWhile_cons_of_neg (by decide)
  rw [ofChars_of_dropWhile hdrop, hread]
  rfl

section

variable {item cs : List Char} {items : List (List Char)} {ts : List Token} {tss : List (List Token)}

theorem ofMark?_comma : ofMark? ',' = some .comma := rfl

theorem ofMark?_colon : ofMark? ':' = some .colon := rfl

theorem stops_of_mark {c : Char} {t : Token} (hmark : ofMark? c = some t) (rest : List Char) :
    Stops goesOn (c :: rest) := by
  refine .cons ?_
  unfold ofMark? at hmark
  split at hmark
  all_goals first
    | decide
    | cases hmark

theorem stops_of_spaces {gap rest : List Char} (spaces : Spaces gap) (h : Stops goesOn rest) :
    Stops goesOn (gap ++ rest) := by
  cases gap with
  | nil => exact h
  | cons c gap =>
    refine .cons ?_
    have hc := spaces c (by simp)
    simp only [Token.isSpace, Bool.or_eq_true, beq_iff_eq] at hc
    rcases hc with ((rfl | rfl) | rfl) | rfl
    all_goals decide

/-- An item with spaces around it. -/
theorem ReadsAs.spaced {before after rest : List Char} (h : ReadsAs item ts) (spaces : Spaces before)
    (spaces' : Spaces after) (hstop : Stops goesOn rest) :
    ofChars (before ++ (item ++ (after ++ rest))) = ts ++ ofChars rest := by
  rw [ofChars_gap spaces, h _ (stops_of_spaces spaces' hstop), ofChars_gap spaces']

theorem forall₂_readsAs {α : Type} {R : List Char → α → Prop} {code : α → List Token} {as : List α}
    (h : List.Forall₂ R items as) (hcode : ∀ item, ∀ a ∈ as, R item a → ReadsAs item (code a)) :
    List.Forall₂ ReadsAs items (as.map code) := by
  induction h with
  | nil => exact .nil
  | cons hitem _ ih =>
    exact .cons (hcode _ _ (by simp) hitem) (ih fun item a ha => hcode item a (List.mem_cons_of_mem _ ha))

theorem Separated.readsAs (h : Separated items cs) (hitems : List.Forall₂ ReadsAs items tss) :
    ReadsAs cs ([.comma].intercalate tss) := by
  induction h generalizing tss with
  | last spaces spaces' =>
    cases hitems with
    | cons hitem hnil =>
      cases hnil
      intro rest hstop
      rw [List.append_assoc, List.append_assoc, hitem.spaced spaces spaces' hstop, List.intercalate_singleton]
  | @more _ _ _ text _ spaces spaces' more ih =>
    cases hitems with
    | @cons _ ts _ tss hitem hitems =>
      intro rest hstop
      obtain ⟨ts', tss, rfl⟩ : ∃ ts' tss', tss = ts' :: tss' := by
        cases more <;> cases hitems <;> exact ⟨_, _, rfl⟩
      have hcomma := hitem.spaced spaces spaces' (stops_of_mark ofMark?_comma (text ++ rest))
      simp only [List.append_assoc, List.cons_append, List.intercalate_cons_cons, List.nil_append]
      rw [hcomma, ofChars_mark ofMark?_comma, ih hitems _ hstop]

/-- **A list or object has the tokens of its items**, between those of the
brackets. -/
theorem Enclosed.readsAs {left right : Char} {l r : Token} (hleft : ofMark? left = some l)
    (hright : ofMark? right = some r) (h : Enclosed left right items cs)
    (hitems : List.Forall₂ ReadsAs items tss) : ReadsAs cs (bracketed l r tss) := by
  intro rest hstop
  cases h with
  | empty spaces =>
    cases hitems
    simp only [List.cons_append, List.append_assoc]
    rw [ofChars_mark hleft, ofChars_gap spaces, ofChars_mark hright]
    rfl
  | items separated =>
    simp only [List.cons_append, List.append_assoc, List.nil_append]
    rw [ofChars_mark hleft, separated.readsAs hitems _ (stops_of_mark hright rest), ofChars_mark hright]
    simp [bracketed]

/-- A key, a colon and the tokens of a value. -/
def keyed (name : Except Fault String) (value : List Token) : List Token :=
  .text name :: .colon :: value

theorem MemberText.readsAs {key value : List Char} {name : Except Fault String}
    (h : MemberText item (key, value)) (hkey : ReadsAs (quoted key) [.text name]) (hvalue : ReadsAs value ts) :
    ReadsAs item (keyed name ts) := by
  intro rest hstop
  cases h with
  | intro spaces spaces' =>
    have hcolon := stops_of_mark ofMark?_colon
    simp only [List.append_assoc, List.cons_append]
    rw [hkey _ (stops_of_spaces spaces (hcolon _)), ofChars_gap spaces,
      ofChars_mark ofMark?_colon, ofChars_gap spaces', hvalue _ hstop]
    rfl

end

theorem WritesText.readsAs {cs : List Char} {s : String} (h : WritesText cs s) :
    ReadsAs cs [.text (.ok s)] := by
  obtain ⟨literal, rfl, hescaped⟩ := h
  have hreads := hescaped.readsAs
  rwa [String.ofList_toList] at hreads

theorem WritesTexts.readsAs {cs : List Char} {ss : List String} (h : WritesTexts cs ss) :
    ReadsAs cs (bracketed .openList .closeList (ss.map fun s => [.text (.ok s)])) := by
  obtain ⟨items, henclosed, hwritten⟩ := h
  exact henclosed.readsAs rfl rfl (forall₂_readsAs hwritten fun _ _ _ hitem => hitem.readsAs)

theorem ObjectText.values {text : String} {members : List (String × List Char)} (h : ObjectText text members) :
    ∀ m ∈ members, ValueText m.2 := by
  cases h
  assumption

/-- The tokens of an object, from those of its values. -/
theorem ObjectText.ofString_eq {text : String} {members : List (String × List Char)}
    {tokens : String × List Char → List Token} (h : ObjectText text members)
    (hvalues : ∀ m ∈ members, ReadsAs m.2 (tokens m)) :
    Token.ofString text =
      bracketed .openObject .closeObject (members.map fun m => keyed (.ok m.1) (tokens m)) := by
  obtain @⟨before, after, object, items, members, spaces, spaces', enclosed, written, -⟩ := h
  have hitems : List.Forall₂ ReadsAs items (members.map fun m => keyed (.ok m.1) (tokens m)) := by
    refine forall₂_readsAs written fun item m hm hmember => ?_
    obtain ⟨key, hitem, hescaped⟩ := hmember
    have hkey := hescaped.readsAs
    rw [String.ofList_toList] at hkey
    exact hitem.readsAs hkey (hvalues m hm)
  have hobject := (enclosed.readsAs rfl rfl hitems).spaced spaces spaces' .nil
  have hend : ofChars [] = [] := (Lexes.done (by simp [Spaces])).ofChars_eq
  simpa [Token.ofString, hend] using hobject

end MessageSchema.Json
