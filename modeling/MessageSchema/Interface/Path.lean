/-
Interface paths. A path names its interface by its last three parts:
`package/folder/Name.msg` for a message, `package/folder/Name.srv` for a
service. What the middle folder is called does not matter.

Paths fall into parts at slashes. Empty parts and single dots count for
nothing, except that a slash or a dot in front says where the path starts.
-/
import MessageSchema.Error
import MessageSchema.Metadata

namespace MessageSchema

/-- A part of a path. -/
inductive PathPart where
  /-- The slash in front. -/
  | top
  /-- The dot in front. -/
  | here
  /-- Two dots. -/
  | parent
  | name (text : String)
deriving DecidableEq, Repr

namespace PathPart

/-- The part as written. -/
def text : PathPart → String
  | top => "/"
  | here => "."
  | parent => ".."
  | name t => t

/-- The part that a piece between slashes stands for, when it is not the
first. -/
def ofPiece? (piece : List Char) : Option PathPart :=
  if piece = [] ∨ piece = ['.'] then none
  else if piece = ['.', '.'] then some parent
  else some (name (String.ofList piece))

/-- The parts of a path. -/
def ofPath (path : String) : List PathPart :=
  match path.toList.splitOn '/' with
  | [] => []
  | first :: pieces =>
    let parts := pieces.filterMap ofPiece?
    if first = [] then (if pieces = [] then [] else top :: parts)
    else if first = ['.'] then here :: parts
    else (ofPiece? first).toList ++ parts

end PathPart

/-- The kinds of interface. -/
inductive InterfaceKind where
  | message
  | service
deriving DecidableEq, Repr

namespace InterfaceKind

/-- The name of the kind. -/
def label : InterfaceKind → String
  | message => "message"
  | service => "service"

/-- The kind of the files with a given extension. -/
def ofExtension? (extension : String) : Option InterfaceKind :=
  if extension = "msg" then some message
  else if extension = "srv" then some service
  else none

end InterfaceKind

/-- The identity of an interface. -/
structure InterfaceId where
  package : String
  name : String
  kind : InterfaceKind
deriving DecidableEq, Repr

namespace InterfaceId

/-- Divides a file name at its last dot into stem and extension. A name whose
only dot stands in front has no extension. -/
def splitExtension? (file : String) : Option (String × String) :=
  let cs := file.toList
  let extension := (cs.reverse.takeWhile (· ≠ '.')).reverse
  let stem := ((cs.reverse.dropWhile (· ≠ '.')).drop 1).reverse
  if stem = [] then none else some (String.ofList stem, String.ofList extension)

/-- The identity that the parts of a path name, given from the last to the
first. -/
def ofReversedParts? : List PathPart → Option InterfaceId
  | .name file :: _ :: package :: _ =>
    match splitExtension? file with
    | some (name, extension) =>
      match InterfaceKind.ofExtension? extension with
      | some kind => if package = .top then none else some ⟨package.text, name, kind⟩
      | none => none
    | none => none
  | _ => none

/-- The identity that a path names. -/
def ofPath? (path : String) : Option InterfaceId :=
  ofReversedParts? (PathPart.ofPath path).reverse

/-- The identity that a path names; a path that names none is at fault. -/
def ofPath (path : String) : Except FileError InterfaceId :=
  match ofPath? path with
  | some id => .ok id
  | none => .error (.invalidPath path)

/-- The identity of the message that bears the name of the interface. -/
def message (id : InterfaceId) : Metadata :=
  .message id.package id.name

end InterfaceId

end MessageSchema
