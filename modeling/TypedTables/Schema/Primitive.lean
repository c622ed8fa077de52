import TypedTables.Number.Range
import TypedTables.Text.AsciiCase
import TypedTables.Text.Blank

/-!
# Primitive types

The scalar types that a column can declare, with their names in sheets, in manifests and in the
generated code.
-/

namespace TypedTables.Schema

open TypedTables.Text TypedTables.Number

/-- A built-in scalar type. -/
inductive Primitive
  | int8
  | int16
  | int32
  | int64
  | uint8
  | uint16
  | uint32
  | uint64
  | float32
  | float64
  | bool
  | string
  deriving Repr, DecidableEq, Inhabited

namespace Primitive

/-- The names under which a sheet may declare a type, beside its own name. -/
def aliases : List (String × Primitive) := [
  ("int8", int8), ("sbyte", int8), ("int16", int16), ("short", int16), ("int32", int32),
  ("int", int32), ("int64", int64), ("long", int64), ("uint8", uint8), ("byte", uint8),
  ("uint16", uint16), ("ushort", uint16), ("uint32", uint32), ("uint", uint32),
  ("uint64", uint64), ("ulong", uint64), ("float32", float32), ("float", float32),
  ("float64", float64), ("double", float64), ("bool", bool), ("boolean", bool),
  ("string", string)]

/-- The type that a sheet declares by a name, in any case and with white space around it. -/
def ofName? (name : String) : Option Primitive :=
  aliases.lookup (asciiLower (trim name))

/-- The name of a type in schemas and messages. -/
def name : Primitive → String
  | int8 => "int8"
  | int16 => "int16"
  | int32 => "int32"
  | int64 => "int64"
  | uint8 => "uint8"
  | uint16 => "uint16"
  | uint32 => "uint32"
  | uint64 => "uint64"
  | float32 => "float32"
  | float64 => "float64"
  | bool => "bool"
  | string => "string"

def manifestName : Primitive → String
  | uint8 => "u_int8"
  | uint16 => "u_int16"
  | uint32 => "u_int32"
  | uint64 => "u_int64"
  | other => other.name

def all : List Primitive :=
  [int8, int16, int32, int64, uint8, uint16, uint32, uint64, float32, float64, bool, string]

def ofManifestName? (text : String) : Option Primitive :=
  all.find? (·.manifestName == text)

def codeName : Primitive → String
  | int8 => "i8"
  | int16 => "i16"
  | int32 => "i32"
  | int64 => "i64"
  | uint8 => "u8"
  | uint16 => "u16"
  | uint32 => "u32"
  | uint64 => "u64"
  | float32 => "f32"
  | float64 => "f64"
  | bool => "bool"
  | string => "String"

def isSigned : Primitive → Bool
  | int8 | int16 | int32 | int64 => true
  | _ => false

def isUnsigned : Primitive → Bool
  | uint8 | uint16 | uint32 | uint64 => true
  | _ => false

def isFloat : Primitive → Bool
  | float32 | float64 => true
  | _ => false

/-- Whether the generated code can use the type as the key of a map. -/
def isHashable (primitive : Primitive) : Bool :=
  !primitive.isFloat

/-- The values of an integer type; zero alone for other types. -/
def range : Primitive → IntRange
  | int8 => .signed 8
  | int16 => .signed 16
  | int32 => .signed 32
  | int64 => .signed 64
  | uint8 => .unsigned 8
  | uint16 => .unsigned 16
  | uint32 => .unsigned 32
  | uint64 => .unsigned 64
  | _ => ⟨0, 0⟩

end Primitive

end TypedTables.Schema
