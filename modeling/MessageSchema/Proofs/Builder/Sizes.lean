/-
Sizes and bounds in a line. In whatever state it is read, a line that declares
a field by a type with a marker, perhaps a bound, and a name gives just the
array kind and the bound that its digits write, however long they are and of
whatever script; where they write no size, the line is refused with these
digits, those of the marker before those of the bound.
-/
import MessageSchema.Proofs.Field.Rendering

namespace MessageSchema

open Text

/-- The declaration of a field by its type with a marker, a bound and its
name. -/
def FieldDecl.sized (type : String) (marker : Option ArrayMarker) (bound : Option String) (name : String) :
    FieldDecl :=
  ⟨⟨none, type, marker⟩, bound, name, none, none⟩

/-- The line that declares a field by its type with a marker, a bound and its
name; marker and bound may be left out. -/
def sizedLine (type : String) (marker : Option ArrayMarker) (bound : Option String) (name : String) : String :=
  String.ofList (FieldDecl.sized type marker bound name).chars

example : sizedLine "string" (some ⟨true, "5"⟩) (some "10") "names" = "string[<=5]<=10 names" := rfl

section

variable {type name : String} {marker : Option ArrayMarker} {bound : Option String}

theorem FieldDecl.writable_sized (htype : Word type.toList) (hname : Word name.toList)
    (hmarker : ∀ m, marker = some m → Digits m.size.toList)
    (hbound : ∀ digits, bound = some digits → Digits digits.toList) :
    (sized type marker bound name).Writable where
  type := ⟨by simp [sized], htype, hmarker⟩
  bound := hbound
  name := hname
  default := by simp [sized]
  equals := by simp [sized]
  comment := rfl

/-- A line with a kind's own marker writes the kind. -/
theorem sizedLine_marker (type name : String) (array : ArrayKind) :
    sizedLine type array.marker none name = type ++ array.text ++ " " ++ name := by
  refine String.toList_inj.1 ?_
  simp [sizedLine, FieldDecl.sized, FieldDecl.chars, FieldDecl.boundChars, FieldDecl.defaultChars,
    DeclaredType.chars, DeclaredType.packageChars, ArrayKind.toList_text]

end

namespace Builder

/-! ## Faults of sizes -/

variable {b : Builder} {line : Nat} {text : String} {decl : FieldDecl}

theorem readSize_of_not_size {digits : String} (h : ¬ ∃ n, WritesSize digits n) :
    readSize line digits = .error (.invalidSize line digits) := by
  rw [readSize, readSize?_eq_none_iff.2 h]

theorem field_of_not_marked {m : ArrayMarker} (hmarker : decl.type.marker = some m)
    (h : ¬ ∃ array, ArrayKind.Marked decl.type.marker array) :
    b.field line text decl = .error (.invalidSize line m.size) := by
  cases hread : ArrayKind.ofMarker line decl.type.marker with
  | ok array => exact absurd ⟨array, ArrayKind.ofMarker_eq_ok_iff.1 hread⟩ h
  | error e =>
    obtain ⟨m', hm', rfl⟩ := ofMarker_eq_error hread
    rw [hmarker] at hm'
    cases hm'
    rw [field, hread]
    rfl

theorem field_of_not_bound {digits : String} (hbound : decl.stringBound = some digits)
    (htextual : isTextualName decl.type.name = true)
    (hmarked : ∃ array, ArrayKind.Marked decl.type.marker array) (h : ¬ ∃ n, WritesSize digits n) :
    b.field line text decl = .error (.invalidSize line digits) := by
  obtain ⟨array, harray⟩ := hmarked
  have hrefused : stringBound line text decl = .error (.invalidSize line digits) := by
    simp only [stringBound, hbound, if_pos htextual, readSize_of_not_size h]
    rfl
  rw [field, ArrayKind.ofMarker_eq_ok_iff.2 harray, hrefused]
  rfl

/-! ## Lines -/

/-- The line is read as a field of the given type and name, with this array
kind and this bound. -/
def Declares (b : Builder) (line : Nat) (text type name : String) (array : ArrayKind)
    (bound : Option Nat) : Prop :=
  ∃ f b', b.read line text = .ok (.field f, b') ∧ f.typeToken = type ∧ f.name = name ∧
    f.array = array ∧ f.stringBound = bound

theorem declares_iff (content : LineContent.of (trimmed text) = .declaration (.field decl))
    (htextual : decl.stringBound ≠ none → isTextualName decl.type.name = true)
    {array : ArrayKind} {bound : Option Nat} :
    b.Declares line text decl.type.name decl.name array bound ↔
      ArrayKind.Marked decl.type.marker array ∧ Option.Rel WritesSize decl.stringBound bound := by
  constructor
  · intro h
    obtain ⟨f, b', hread, -, -, rfl, rfl⟩ := h
    obtain ⟨decl', content', built⟩ := read_eq_field hread
    rw [content] at content'
    cases content'
    obtain ⟨array, bound, harray, hbound, rfl⟩ := field_eq_ok_iff.1 built
    exact ⟨ArrayKind.ofMarker_eq_ok_iff.1 harray, (stringBound_eq_ok_iff.1 hbound).1⟩
  · intro h
    obtain ⟨harray, hbound⟩ := h
    have hmarker : ArrayKind.ofMarker line decl.type.marker = .ok array := ArrayKind.ofMarker_eq_ok_iff.2 harray
    have hlimit : stringBound line (trimmed text) decl = .ok bound :=
      stringBound_eq_ok_iff.2 ⟨hbound, htextual⟩
    exact ⟨_, _, read_of_field content (field_eq_ok_iff.2 ⟨array, bound, hmarker, hlimit, rfl⟩), rfl, rfl, rfl, rfl⟩

/-- **Sizes and bounds are exact.** A line gives an array kind and a bound when
they are what its digits write, ASCII digits of a number below the limit, and
then the kind is given again by its own marker. Else the fault names the
digits: those of the marker if they write no size, and otherwise those of the
bound. -/
theorem read_sizedLine (b : Builder) (line : Nat) {type name : String} {marker : Option ArrayMarker}
    {bound : Option String} (htype : Word type.toList) (hname : Word name.toList)
    (hmarker : ∀ m, marker = some m → Digits m.size.toList)
    (hbound : ∀ digits, bound = some digits → Digits digits.toList ∧ isTextualName type = true) :
    let text := sizedLine type marker bound name
    (∀ array limit, b.Declares line text type name array limit ↔
      ArrayKind.Marked marker array ∧ Option.Rel WritesSize bound limit) ∧
    (∀ m, marker = some m → (¬ ∃ array, ArrayKind.Marked marker array) →
      b.read line text = .error (.invalidSize line m.size)) ∧
    (∀ digits, bound = some digits → (∃ array, ArrayKind.Marked marker array) →
      (¬ ∃ n, WritesSize digits n) → b.read line text = .error (.invalidSize line digits)) ∧
    ∀ array, ArrayKind.Marked marker array →
      b.Declares line (type ++ array.text ++ " " ++ name) type name array none := by
  have content : LineContent.of (trimmed (sizedLine type marker bound name)) =
      .declaration (.field (.sized type marker bound name)) :=
    (FieldDecl.writable_sized htype hname hmarker fun digits h => (hbound digits h).1).content
      String.toList_ofList
  have htextual : bound ≠ none → isTextualName type = true := by
    intro hne
    obtain ⟨digits, hdigits⟩ := Option.ne_none_iff_exists'.1 hne
    exact (hbound digits hdigits).2
  refine ⟨fun array limit => ?_, fun m hm h => ?_, fun digits hdigits hmarked h => ?_, fun array harray => ?_⟩
  · exact declares_iff content htextual
  · exact read_eq_error content (field_of_not_marked hm h)
  · exact read_eq_error content (field_of_not_bound hdigits (hbound digits hdigits).2 hmarked h)
  · have hagain : LineContent.of (trimmed (sizedLine type array.marker none name)) =
        .declaration (.field (.sized type array.marker none name)) :=
      (FieldDecl.writable_sized htype hname array.digits_marker (by simp)).content String.toList_ofList
    rw [← sizedLine_marker]
    exact (declares_iff hagain (absurd rfl)).2 ⟨ArrayKind.marked_marker harray.sized, .none⟩

/-- Leading zeros in a marker with a bound behind it; the first number that is
no size, in a bound behind a marker that is one; and digits of other scripts in
both, of which those of the marker are named. -/
theorem read_sizedLine_scripts :
    let b := start .standard (.message "p" "M")
    b.Declares 1 "string[<=007]<=10 s" "string" "s" (.bounded 7) (some 10) ∧
    b.Declares 1 "string[<=7] s" "string" "s" (.bounded 7) none ∧
    b.read 2 "string[]<=18446744073709551616 s" = .error (.invalidSize 2 "18446744073709551616") ∧
    b.read 3 "string[٣]<=४ s" = .error (.invalidSize 3 "٣") := by
  have htype : Word "string".toList := ⟨by decide, List.all_eq_true.1 rfl⟩
  have hname : Word "s".toList := ⟨by decide, List.all_eq_true.1 rfl⟩
  have hmarker (isBounded : Bool) (digits : String) (h : digits.toList.all isDecimalDigit = true) :
      ∀ m, some (ArrayMarker.mk isBounded digits) = some m → Digits m.size.toList := by
    intro m hm
    cases hm
    exact List.all_eq_true.1 h
  have hbound (digits : String) (h : digits.toList.all isDecimalDigit = true) :
      ∀ d, some digits = some d → Digits d.toList ∧ isTextualName "string" = true := by
    intro d hd
    cases hd
    exact ⟨List.all_eq_true.1 h, rfl⟩
  have hseven : ArrayKind.Marked (some ⟨true, "007"⟩) (.bounded 7) :=
    .bounded (readSize?_eq_some_iff.1 rfl)
  obtain ⟨hzeros, -, -, hagain⟩ := read_sizedLine (start .standard (.message "p" "M")) 1 htype hname
    (hmarker true "007" rfl) (hbound "10" rfl)
  obtain ⟨-, -, hlarge, -⟩ := read_sizedLine (start .standard (.message "p" "M")) 2 htype hname
    (hmarker false "" rfl) (hbound "18446744073709551616" rfl)
  obtain ⟨-, hscript, -, -⟩ := read_sizedLine (start .standard (.message "p" "M")) 3 htype hname
    (hmarker false "٣" rfl) (hbound "४" rfl)
  refine ⟨?_, ?_, ?_, ?_⟩
  · exact (hzeros _ _).2 ⟨hseven, .some (readSize?_eq_some_iff.1 rfl)⟩
  · have hline : "string" ++ (ArrayKind.bounded 7).text ++ " " ++ "s" = "string[<=7] s" := rfl
    rw [← hline]
    exact hagain _ hseven
  · exact hlarge _ rfl ⟨_, .unbounded⟩ (readSize?_eq_none_iff.1 rfl)
  · refine hscript _ rfl fun ⟨array, harray⟩ => ?_
    have hread : ArrayKind.ofMarker 3 (some ⟨false, "٣"⟩) = .ok array := ArrayKind.ofMarker_eq_ok_iff.2 harray
    cases hread

end Builder

end MessageSchema
