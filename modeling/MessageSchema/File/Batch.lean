/-
Interface files, one by one and in batches. The path is checked before the
file is looked at. In a batch every file is read, whatever becomes of the
others.
-/
import MessageSchema.File.Source
import MessageSchema.Interface

namespace MessageSchema

/-- Reads an interface file. -/
def Interface.ofFile (files : FileSource) (config : Config) (path : String) :
    Except (Failure FileError Interface) Interface :=
  match InterfaceId.ofPath? path with
  | none => .error (.fatal (.invalidPath path))
  | some id =>
    match files path with
    | .error e => .error (.fatal (.read e))
    | .ok text =>
      match Interface.ofText config id text with
      | .ok interface => .ok interface
      | .error failure => .error (failure.mapCause .line)

/-- The outcome of a batch: the interfaces read, and the paths that failed
with their faults, each in the order of the batch. -/
structure Batch where
  parsed : List Interface
  failures : List (String × FileError)
deriving DecidableEq

namespace Batch

/-- Whether no file failed. -/
def isOk (b : Batch) : Bool :=
  b.failures.isEmpty

/-- Puts the outcome of one file in front. -/
def cons (path : String) (outcome : Except (Failure FileError Interface) Interface) (b : Batch) :
    Batch :=
  match outcome with
  | .ok interface => { b with parsed := interface :: b.parsed }
  | .error failure => { b with failures := (path, failure.cause) :: b.failures }

/-- Reads the files of a batch. -/
def ofFiles (files : FileSource) (config : Config) : List String → Batch
  | [] => ⟨[], []⟩
  | path :: paths => cons path (Interface.ofFile files config path) (ofFiles files config paths)

end Batch

end MessageSchema
