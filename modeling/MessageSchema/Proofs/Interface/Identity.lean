/-
The identity that a path names. It is given by the last three parts of the path
(`ofPath_named`): the first of them is the package, whatever it is if not the
top, and the last one a name with the extension of its kind. So what stands in
front of three parts, slashes and dots that count for nothing, and a slash at
the end make no difference to the identity.

The package is an ordinary name unless the part is a dot in front or two dots;
`ofPath_package` says where a path has these.
-/
import MessageSchema.Proofs.Interface.Path

namespace MessageSchema

open Text (Stops)
open PathPart (Written Ordinary)

/-- The extension of the files of a kind. -/
def InterfaceKind.extension : InterfaceKind → String
  | message => "msg"
  | service => "srv"

theorem InterfaceKind.ofExtension?_eq_some_iff {extension : String} {kind : InterfaceKind} :
    ofExtension? extension = some kind ↔ extension = kind.extension := by
  unfold ofExtension?
  split_ifs with hmsg hsrv
  · cases kind <;> simp [InterfaceKind.extension, hmsg]
  · cases kind <;> simp [InterfaceKind.extension, hsrv]
  · cases kind <;> simp [InterfaceKind.extension, hmsg, hsrv]

theorem InterfaceKind.dot_not_mem_extension (kind : InterfaceKind) : '.' ∉ kind.extension.toList := by
  cases kind with
  | message => decide
  | service => decide

namespace InterfaceId

/-- The last three parts name the identity: a package, a folder, and a file with
the extension of the kind. -/
inductive Named : List PathPart → InterfaceId → Prop where
  | intro (lead : List PathPart) {package : PathPart} (folder : PathPart) {name : String}
      {kind : InterfaceKind} (top : package ≠ .top) (stem : name ≠ "") :
      Named (lead ++ [package, folder, .name (name ++ "." ++ kind.extension)]) ⟨package.text, name, kind⟩

/-! ## File names -/

theorem splitExtension?_of_dot {file : String} {stem extension : List Char}
    (h : file.toList = stem ++ '.' :: extension) (hlast : '.' ∉ extension) :
    splitExtension? file =
      if stem = [] then none else some (String.ofList stem, String.ofList extension) := by
  have hreverse : file.toList.reverse = extension.reverse ++ '.' :: stem.reverse := by
    rw [h]
    simp
  have hdots : ∀ c ∈ extension.reverse, decide (c ≠ '.') = true := by
    intro c hc
    simp only [decide_eq_true_eq]
    rintro rfl
    exact hlast (List.mem_reverse.1 hc)
  obtain ⟨htake, hdrop⟩ := Text.span_eq_iff.2 ⟨hreverse, hdots, .cons (by decide)⟩
  simp only [splitExtension?, htake, hdrop, List.reverse_reverse, List.drop_one, List.tail_cons]

theorem splitExtension?_of_no_dot {file : String} (h : '.' ∉ file.toList) :
    splitExtension? file = none := by
  have hdots : ∀ c ∈ file.toList.reverse, decide (c ≠ '.') = true := by
    intro c hc
    simp only [decide_eq_true_eq]
    rintro rfl
    exact h (List.mem_reverse.1 hc)
  simp only [splitExtension?, List.dropWhile_eq_nil_iff.2 hdots, List.drop_nil, List.reverse_nil, if_true]

/-- A file name divides at its last dot, if something stands in front of it. -/
theorem splitExtension?_eq_some_iff {file name extension : String} :
    splitExtension? file = some (name, extension) ↔
      file = name ++ "." ++ extension ∧ name ≠ "" ∧ '.' ∉ extension.toList := by
  constructor
  · intro h
    by_cases hdot : '.' ∈ file.toList
    · obtain ⟨behind, front, hfile, hlast⟩ := List.eq_append_cons_of_mem (List.mem_reverse.2 hdot)
      have hsplit : file.toList = front.reverse ++ '.' :: behind.reverse := by
        rw [← List.reverse_reverse file.toList, hfile]
        simp
      rw [splitExtension?_of_dot hsplit (by simpa using hlast)] at h
      split at h
      · cases h
      · next hstem =>
        cases h
        refine ⟨?_, by simpa [String.ofList_eq_empty_iff] using hstem, by simpa using hlast⟩
        rw [← String.toList_inj, hsplit]
        simp
    · rw [splitExtension?_of_no_dot hdot] at h
      cases h
  · rintro ⟨rfl, hname, hlast⟩
    have hsplit : (name ++ "." ++ extension).toList = name.toList ++ '.' :: extension.toList := by simp
    rw [splitExtension?_of_dot hsplit hlast]
    simp [hname]

/-! ## The last three parts -/

theorem ofReversedParts?_eq_some_iff {parts : List PathPart} {id : InterfaceId} :
    ofReversedParts? parts.reverse = some id ↔ Named parts id := by
  constructor
  · intro h
    generalize hreversed : parts.reverse = reversed at h
    unfold ofReversedParts? at h
    split at h
    · next file folder package rest =>
      split at h
      · next name extension hsplit =>
        split at h
        · next kind hkind =>
          split at h
          · cases h
          · next htop =>
            cases h
            obtain ⟨rfl, hstem, -⟩ := splitExtension?_eq_some_iff.1 hsplit
            have hparts := List.reverse_eq_iff.1 hreversed
            rw [InterfaceKind.ofExtension?_eq_some_iff.1 hkind] at hparts
            rw [hparts]
            simpa using Named.intro rest.reverse folder htop hstem
        · cases h
      · cases h
    · cases h
  · intro h
    cases h with
    | @intro lead package folder name kind top stem =>
      have hsplit := splitExtension?_eq_some_iff.2 ⟨rfl, stem, kind.dot_not_mem_extension⟩
      simp [ofReversedParts?, hsplit, InterfaceKind.ofExtension?_eq_some_iff.2 rfl, top]

theorem ofReversedParts?_append {parts : List PathPart} (h : 3 ≤ parts.length) (lead : List PathPart) :
    ofReversedParts? (lead ++ parts).reverse = ofReversedParts? parts.reverse := by
  rw [List.reverse_append]
  rw [← List.length_reverse] at h
  match parts.reverse, h with
  | file :: folder :: package :: rest, _ =>
    cases file with
    | name file => rfl
    | _ => rfl

theorem toOption_ofPath (path : String) : (ofPath path).toOption = ofPath? path := by
  unfold ofPath
  cases ofPath? path with
  | some id => rfl
  | none => rfl

theorem ofPath_eq_ok_iff {path : String} {id : InterfaceId} :
    ofPath path = .ok id ↔ Named (PathPart.ofPath path) id := by
  rw [← ofReversedParts?_eq_some_iff, ofPath, ofPath?]
  cases ofReversedParts? (PathPart.ofPath path).reverse with
  | some id' => simp
  | none => simp

theorem eq_invalidPath_of_ofPath {path : String} {e : FileError} (h : ofPath path = .error e) :
    e = .invalidPath path := by
  unfold ofPath at h
  split at h
  · cases h
  · cases h
    rfl

theorem toOption_ofPath_congr {path path' : String} (h : PathPart.ofPath path = PathPart.ofPath path') :
    (ofPath path).toOption = (ofPath path').toOption := by
  rw [toOption_ofPath, toOption_ofPath, ofPath?, ofPath?, h]

/-! ## What makes no difference -/

theorem toOption_ofPath_between (piece : String) (h : PathPart.behind piece.toList = []) (a b : String) :
    (ofPath (a ++ ("/" ++ piece ++ "/") ++ b)).toOption = (ofPath (a ++ "/" ++ b)).toOption := by
  have hpiece : (a ++ ("/" ++ piece ++ "/") ++ b).toList =
      a.toList ++ '/' :: (piece.toList ++ '/' :: b.toList) := by simp
  have hslash : (a ++ "/" ++ b).toList = a.toList ++ '/' :: b.toList := by simp
  refine toOption_ofPath_congr ?_
  rw [PathPart.ofPath_eq, PathPart.ofPath_eq, hpiece, hslash, PathPart.ofChars_between h]

theorem toOption_ofPath_trailing (path : String) :
    (ofPath (path ++ "/")).toOption = (ofPath path).toOption := by
  rcases eq_or_ne path "" with rfl | hne
  · decide
  · have hslash : (path ++ "/").toList = path.toList ++ ['/'] := by simp
    refine toOption_ofPath_congr ?_
    rw [PathPart.ofPath_eq, PathPart.ofPath_eq, hslash, PathPart.ofChars_trailing (by simpa using hne)]

theorem toOption_ofPath_lead {path a b c : String}
    (h : [.name a, .name b, .name c].Sublist (PathPart.ofPath path)) (lead : String) :
    (ofPath (lead ++ "/" ++ path)).toOption = (ofPath path).toOption := by
  rw [PathPart.ofPath_eq] at h
  have h : [a, b, c].length ≤ (PathPart.behind path.toList).length := PathPart.length_behind_of_names h
  have hlead : (lead ++ "/" ++ path).toList = lead.toList ++ '/' :: path.toList := by simp
  rw [toOption_ofPath, toOption_ofPath, ofPath?, ofPath?, PathPart.ofPath_eq, PathPart.ofPath_eq, hlead,
    PathPart.ofChars_slash, ofReversedParts?_append h, PathPart.ofChars, ofReversedParts?_append h]

/-- **An identity is given by the last three parts of the path.** Every path has
one list of parts. It names an identity just if there are three parts at least,
the last is a name with an extension, and the third from the end is not the top;
what stands in front of a path with three names makes no difference, nor do a
doubled slash, a dot between two slashes and a slash at the end. A path that
names none is the one the fault tells. -/
theorem ofPath_named :
    (∀ path : String, ∃! parts, Written path.toList parts) ∧
    (∀ (path : String) (parts : List PathPart), Written path.toList parts →
      (∀ id, ofPath path = .ok id ↔ Named parts id) ∧
      ∀ a b c lead, [.name a, .name b, .name c].Sublist parts →
        (ofPath (lead ++ "/" ++ path)).toOption = (ofPath path).toOption) ∧
    (∀ a b, (ofPath (a ++ "//" ++ b)).toOption = (ofPath (a ++ "/" ++ b)).toOption) ∧
    (∀ a b, (ofPath (a ++ "/./" ++ b)).toOption = (ofPath (a ++ "/" ++ b)).toOption) ∧
    (∀ path, (ofPath (path ++ "/")).toOption = (ofPath path).toOption) ∧
    ∀ path e, ofPath path = .error e → e = .invalidPath path := by
  refine ⟨fun path => ?_, fun path parts hparts => ?_, ?_, ?_, toOption_ofPath_trailing,
    fun path e => eq_invalidPath_of_ofPath⟩
  · exact ⟨_, PathPart.written_iff.2 rfl, fun parts h => (PathPart.written_iff.1 h).symm⟩
  · obtain rfl := PathPart.written_iff.1 hparts
    exact ⟨fun id => ofPath_eq_ok_iff, fun a b c lead h => toOption_ofPath_lead h lead⟩
  · exact toOption_ofPath_between "" (by decide)
  · exact toOption_ofPath_between "." (by decide)

/-- A path with a dot in front, a doubled slash and a dot between slashes. -/
theorem ofPath_named_redundant :
    Written "./rcl//b.c/./srv/Get.v2.srv".toList
      [.here, .name "rcl", .name "b.c", .name "srv", .name "Get.v2.srv"] ∧
    ofPath "./rcl//b.c/./srv/Get.v2.srv" = .ok ⟨"b.c", "Get.v2", .service⟩ ∧
    [PathPart.name "rcl", .name "b.c", .name "srv"].Sublist
      [.here, .name "rcl", .name "b.c", .name "srv", .name "Get.v2.srv"] ∧
    (ofPath ("/opt/share" ++ "/" ++ "./rcl//b.c/./srv/Get.v2.srv")).toOption =
      (ofPath "./rcl//b.c/./srv/Get.v2.srv").toOption ∧
    ofPath "/srv/Get.srv" = .error (.invalidPath "/srv/Get.srv") := by
  obtain ⟨-, hparts, -, -, -, hfault⟩ := ofPath_named
  have hwritten : Written "./rcl//b.c/./srv/Get.v2.srv".toList
      [.here, .name "rcl", .name "b.c", .name "srv", .name "Get.v2.srv"] :=
    PathPart.written_iff.2 (by decide)
  have hnames : [PathPart.name "rcl", .name "b.c", .name "srv"].Sublist
      [.here, .name "rcl", .name "b.c", .name "srv", .name "Get.v2.srv"] := by decide
  obtain ⟨hnamed, hlead⟩ := hparts _ _ hwritten
  refine ⟨hwritten, (hnamed _).2 ?_, hnames, hlead _ _ _ _ hnames, ?_⟩
  · exact @Named.intro [.here, .name "rcl"] (.name "b.c") (.name "srv") "Get.v2" .service (by decide)
      (by decide)
  · have hnone : (ofPath "/srv/Get.srv").toOption = none := by decide
    cases h : ofPath "/srv/Get.srv" with
    | ok id =>
      rw [h] at hnone
      cases hnone
    | error e => rw [hfault _ _ h]

/-! ## The package -/

/-- **The package of an identity** is never empty and holds no slash. It is a
single dot just for a path of three parts with a dot in front, and two dots just
where two dots are the third part from the end; otherwise it is an ordinary
name. -/
theorem ofPath_package {path : String} {id : InterfaceId} (h : ofPath path = .ok id) :
    id.package ≠ "" ∧ '/' ∉ id.package.toList ∧
    (id.package = "." ↔ ∃ folder file, Written path.toList [.here, folder, file]) ∧
    (id.package = ".." ↔ ∃ lead folder file, Written path.toList (lead ++ [.parent, folder, file])) := by
  have hnamed := ofPath_eq_ok_iff.1 h
  have hwritten : Written path.toList (PathPart.ofPath path) := PathPart.written_iff.2 rfl
  generalize hparts : PathPart.ofPath path = parts at hnamed hwritten
  cases hnamed with
  | @intro lead package folder name kind top stem =>
    have hthird : ∀ lead' package' folder' file', Written path.toList (lead' ++ [package', folder', file']) →
        lead = lead' ∧ package = package' := by
      intro lead' package' folder' file' hother
      obtain ⟨hlead, hlast⟩ := List.append_inj' (hparts.symm.trans (PathPart.written_iff.1 hother)) rfl
      exact ⟨hlead, (List.cons.inj hlast).1⟩
    have hhere : (∃ folder file, Written path.toList [.here, folder, file]) ↔ package = .here ∧ lead = [] := by
      constructor
      · rintro ⟨folder', file', hother⟩
        obtain ⟨hlead, hpackage⟩ := hthird [] _ _ _ hother
        exact ⟨hpackage, hlead⟩
      · rintro ⟨rfl, rfl⟩
        exact ⟨_, _, hwritten⟩
    have hparent : (∃ lead folder file, Written path.toList (lead ++ [.parent, folder, file])) ↔
        package = .parent := by
      constructor
      · rintro ⟨lead', folder', file', hother⟩
        exact (hthird _ _ _ _ hother).2
      · rintro rfl
        exact ⟨_, _, _, hwritten⟩
    rw [hhere, hparent]
    rcases hwritten.part_cases with ⟨rfl | rfl, rfl⟩ | rfl | ⟨piece, ordinary, rfl⟩
    · exact absurd rfl top
    · simp [PathPart.text]
    · simp [PathPart.text]
    · simp only [PathPart.text, String.toList_ofList]
      refine ⟨by simpa using ordinary.ne_nil, ordinary.slash, ?_, ?_⟩
      · simpa [← String.toList_inj] using ordinary.ne_here
      · simpa [← String.toList_inj] using ordinary.ne_parent

/-- Two dots that stand for a package, behind a name. -/
theorem ofPath_package_parent :
    ofPath "a/../msg/Pose.msg" = .ok ⟨"..", "Pose", .message⟩ ∧
      ∃ lead folder file, Written "a/../msg/Pose.msg".toList (lead ++ [.parent, folder, file]) := by
  have h : ofPath "a/../msg/Pose.msg" = .ok ⟨"..", "Pose", .message⟩ := rfl
  exact ⟨h, (ofPath_package h).2.2.2.1 rfl⟩

/-- A dot in front and two dots pass for packages, though they name none. -/
theorem ofPath_package_not_ordinary :
    ofPath "./msg/Header.msg" = .ok ⟨".", "Header", .message⟩ ∧ ¬ Ordinary ".".toList ∧
    ofPath "../msg/Header.msg" = .ok ⟨"..", "Header", .message⟩ ∧ ¬ Ordinary "..".toList :=
  ⟨rfl, fun h => h.ne_here rfl, rfl, fun h => h.ne_parent rfl⟩

end InterfaceId

end MessageSchema
