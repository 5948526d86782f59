/-
The scalar types of the interface language, and the vocabulary of message
types that every package may use unqualified.

A scalar is known by its keyword. Texts, times and characters have no
generated sequence handlers; texts and times also need a support package.
-/

namespace MessageSchema

/-- The support package of the text types. -/
def primitivesPackage : String := "primitives"

/-- The support package of the time types. -/
def timePackage : String := "time"

/-- A scalar type. -/
inductive Primitive where
  | string | wstring | time | duration | char
  | float32 | float64 | bool | byte
  | int8 | int16 | int32 | int64
  | uint8 | uint16 | uint32 | uint64
deriving DecidableEq, Repr

/-- Whether a type name stands for text, so that its default literals are
quoted. The wide text type counts under its keyword and under its canonical
name. -/
def isTextualName (name : String) : Bool :=
  name == "string" || name == "wstring" || name == "U16String"

namespace Primitive

/-- All scalar types, in the order of the table. -/
def all : List Primitive :=
  [string, wstring, time, duration, char, float32, float64, bool, byte,
   int8, int16, int32, int64, uint8, uint16, uint32, uint64]

/-- The keyword as written in a source. -/
def keyword : Primitive → String
  | string => "string"
  | wstring => "wstring"
  | time => "time"
  | duration => "duration"
  | char => "char"
  | float32 => "float32"
  | float64 => "float64"
  | bool => "bool"
  | byte => "byte"
  | int8 => "int8"
  | int16 => "int16"
  | int32 => "int32"
  | int64 => "int64"
  | uint8 => "uint8"
  | uint16 => "uint16"
  | uint32 => "uint32"
  | uint64 => "uint64"

/-- The name under which resolved types mention the scalar. -/
def canonical : Primitive → String
  | wstring => "U16String"
  | p => p.keyword

/-- The scalar type of the generated code. -/
def targetType : Primitive → String
  | string => "string"
  | wstring => "string"
  | time => "Time"
  | duration => "Duration"
  | char => "byte"
  | p => p.keyword

/-- The type in the native message structs. -/
def nativeType : Primitive → String
  | string => "String"
  | wstring => "U16String"
  | time => "time"
  | duration => "duration"
  | char => "uchar"
  | float32 => "float"
  | float64 => "double"
  | bool => "bool"
  | byte => "uint8_t"
  | p => p.keyword ++ "_t"

/-- The stem of the native sequence and array helpers. -/
def nativeStruct : Primitive → String
  | string => "String"
  | wstring => "U16String"
  | time => "Time"
  | duration => "Duration"
  | char => "char"
  | float32 => "float"
  | float64 => "double"
  | bool => "boolean"
  | byte => "octet"
  | p => p.keyword

/-- The support package that a field of this type imports. -/
def supportPackage : Primitive → Option String
  | string => some primitivesPackage
  | wstring => some primitivesPackage
  | time => some timePackage
  | duration => some timePackage
  | _ => none

/-- Whether sequences of this type lack generated handlers. -/
def customSerialization : Primitive → Bool
  | string => true
  | wstring => true
  | time => true
  | duration => true
  | char => true
  | _ => false

/-- The scalar with the given keyword. -/
def ofKeyword? (keyword : String) : Option Primitive :=
  all.find? fun p => p.keyword == keyword

/-- Keywords tell scalars apart. -/
theorem ofKeyword?_keyword (p : Primitive) : ofKeyword? p.keyword = some p := by
  cases p <;> rfl

theorem ofKeyword?_eq_some_iff {keyword : String} {p : Primitive} :
    ofKeyword? keyword = some p ↔ p.keyword = keyword := by
  refine ⟨fun h => ?_, fun h => h ▸ ofKeyword?_keyword p⟩
  have := List.find?_some h
  simpa using this

/-- Whether the scalar is a text. -/
def isTextual (p : Primitive) : Bool :=
  isTextualName p.canonical

end Primitive

/-! ## Common vocabulary -/

/-- The package that defines the shared utility messages. -/
def commonPackage : String := "std_msgs"

/-- The message types that every package may name without qualifier. -/
def commonTypes : List String :=
  ["Bool", "ColorRGBA", "Duration", "Empty", "Float32MultiArray", "Float32", "Float64MultiArray",
   "Float64", "Header", "Int8MultiArray", "Int8", "Int16MultiArray", "Int16", "Int32MultiArray",
   "Int32", "Int64MultiArray", "Int64", "MultiArrayDimension", "MultiArrayLayout", "String", "Time",
   "UInt8MultiArray", "UInt8", "UInt16MultiArray", "UInt16", "UInt32MultiArray", "UInt32",
   "UInt64MultiArray", "UInt64", "Char", "Byte"]

/-- Whether a type belongs to the shared vocabulary. -/
def isCommonType (name : String) : Bool :=
  commonTypes.contains name

end MessageSchema
