/-
Settings from a file.
-/
import MessageSchema.Config.Reader
import MessageSchema.File.Source

namespace MessageSchema

/-- Why a file gave no settings. -/
inductive ConfigError where
  | read (error : ReadError)
  | json (fault : Json.Fault)
deriving DecidableEq, Repr

/-- Reads a document of settings. -/
def Config.ofDocument (text : String) : Except ConfigError Config :=
  (Config.ofJson text).mapError .json

/-- Reads a file of settings. -/
def Config.ofFile (files : FileSource) (path : String) : Except ConfigError Config :=
  match files path with
  | .error e => .error (.read e)
  | .ok text => Config.ofDocument text

end MessageSchema
