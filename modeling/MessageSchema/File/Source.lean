/-
Files as texts. A file source answers, for every path, with the text there
or with the reason why there is none. A file tree is one held in memory:
files and folders under a top, where relative paths start. What lies
outside the top is unknown and holds no files.
-/
import MessageSchema.Error

namespace MessageSchema

/-- The text at each path. -/
abbrev FileSource := String → Except ReadError String

/-- What stands under a name. -/
inductive FileEntry where
  | file (content : ByteArray)
  | folder

/-- Files and folders, each with the names that lead to it from the top.
Folders that lead to an entry need no entry of their own. -/
structure FileTree where
  entries : List (List String × FileEntry)

namespace FileTree

/-- The pieces of a path between its slashes. -/
def pieces (path : String) : List String :=
  (path.toList.splitOn '/').map String.ofList

/-- The tree of files with the given paths and contents. A path that ends in
a slash is a folder. -/
def ofFiles (files : List (String × ByteArray)) : FileTree where
  entries := files.map fun (path, content) =>
    let names := (pieces path).filter fun piece => piece ≠ "" ∧ piece ≠ "."
    (names, if path.toList.getLast? = some '/' then .folder else .file content)

/-- What stands under the given names. -/
def entry? (tree : FileTree) (names : List String) : Option FileEntry :=
  if names = [] then some .folder
  else
    match tree.entries.lookup names with
    | some entry => some entry
    | none => if tree.entries.any fun e => names.isPrefixOf e.1 then some .folder else none

/-- A point that a path has led to. -/
inductive Position where
  | inside (names : List String)
  | outside
deriving DecidableEq, Repr

/-- Where the next piece of a path leads from a folder. -/
def Position.go (position : Position) (piece : String) : Except ReadError Position :=
  if piece = "" ∨ piece = "." then .ok position
  else
    match position with
    | .outside => if piece = ".." then .ok .outside else .error .notFound
    | .inside names =>
      if piece = ".." then .ok (if names = [] then .outside else .inside names.dropLast)
      else .ok (.inside (names ++ [piece]))

/-- Follows one more piece of a path. -/
def follow (tree : FileTree) (position : Position) (piece : String) : Except ReadError Position :=
  match position with
  | .outside => position.go piece
  | .inside names =>
    match tree.entry? names with
    | none => .error .notFound
    | some (.file _) => .error .notDirectory
    | some .folder => position.go piece

/-- The text at a point. -/
def textAt (tree : FileTree) : Position → Except ReadError String
  | .outside => .error .isDirectory
  | .inside names =>
    match tree.entry? names with
    | none => .error .notFound
    | some .folder => .error .isDirectory
    | some (.file content) =>
      match String.fromUTF8? content with
      | some text => .ok text
      | none => .error .notText

/-- The text at a path. -/
def read (tree : FileTree) : FileSource := fun path =>
  if path = "" then .error .notFound
  else if '\x00' ∈ path.toList then .error .nullInPath
  else
    let start : Position := if path.toList.head? = some '/' then .outside else .inside []
    match (pieces path).foldlM tree.follow start with
    | .ok position => tree.textAt position
    | .error e => .error e

end FileTree

end MessageSchema
