/-
What a reader of interface sources may be told from outside: where
unqualified vocabulary types live, which names the generated language
reserves, and how import aliases are formed.
-/
import MessageSchema.Primitive

namespace MessageSchema

/-- The keywords of the generated language. -/
def reservedWords : List String :=
  ["break", "default", "func", "interface", "select", "case", "defer", "go", "map", "struct", "chan",
   "else", "goto", "package", "switch", "const", "fallthrough", "if", "range", "type", "continue",
   "for", "import", "return", "var"]

/-- The settings of a reader; each has a built-in value. -/
structure Config where
  /-- The package of the unqualified vocabulary types. -/
  commonPackage : String := MessageSchema.commonPackage
  commonTypes : List String := MessageSchema.commonTypes
  reservedWords : List String := MessageSchema.reservedWords
  /-- What follows the package name in an import alias. -/
  importSuffix : String := "_msg"
deriving DecidableEq, Repr

namespace Config

/-- The built-in settings. -/
def standard : Config := {}

instance : Inhabited Config := ⟨standard⟩

/-- Whether a type belongs to the configured vocabulary. -/
def isCommonType (config : Config) (name : String) : Bool :=
  config.commonTypes.contains name

/-- Whether a name collides with a reserved word. -/
def isReserved (config : Config) (name : String) : Bool :=
  config.reservedWords.contains name

/-- The alias under which the messages of a package are imported. -/
def importAlias (config : Config) (package : String) : String :=
  package ++ config.importSuffix

/-- The name of a field in the native struct: a reserved word gets an
underscore in front. -/
def nativeName (config : Config) (name : String) : String :=
  if config.isReserved name then "_" ++ name else name

end Config

end MessageSchema
