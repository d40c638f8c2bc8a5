/-!
The fixed type literals. A type string that equals one of them is primitive and never consults
the declared names.
-/

namespace InterfaceSchema

set_option autoImplicit false

inductive ArrayItem where
  | bool
  | string
  | uint16
  | uint32
  | uint64
  | usize
  | int16
  | int32
  | float32
  | float64
  deriving DecidableEq, Repr

inductive Primitive where
  | cVoid
  | bool
  | nullableString
  | stringWithDefaultEmpty
  | outString
  | uint16
  | uint32
  | uint64
  | usize
  | int16
  | int32
  | float32
  | float64
  | array (item : ArrayItem)
  deriving DecidableEq, Repr

namespace ArrayItem

def all : List ArrayItem :=
  [bool, string, uint16, uint32, uint64, usize, int16, int32, float32, float64]

def text : ArrayItem → String
  | bool => "array<bool>"
  | string => "array<string>"
  | uint16 => "array<uint16>"
  | uint32 => "array<uint32>"
  | uint64 => "array<uint64>"
  | usize => "array<usize>"
  | int16 => "array<int16>"
  | int32 => "array<int32>"
  | float32 => "array<float32>"
  | float64 => "array<float64>"

end ArrayItem

namespace Primitive

def all : List Primitive :=
  [cVoid, bool, nullableString, stringWithDefaultEmpty, outString, uint16, uint32, uint64, usize,
    int16, int32, float32, float64] ++ ArrayItem.all.map array

def text : Primitive → String
  | cVoid => "c_void"
  | bool => "bool"
  | nullableString => "nullable_string"
  | stringWithDefaultEmpty => "string_with_default_empty"
  | outString => "out_string"
  | uint16 => "uint16"
  | uint32 => "uint32"
  | uint64 => "uint64"
  | usize => "usize"
  | int16 => "int16"
  | int32 => "int32"
  | float32 => "float32"
  | float64 => "float64"
  | array item => item.text

def parse? (literal : String) : Option Primitive :=
  all.find? (fun candidate => candidate.text == literal)

def isArray : Primitive → Bool
  | array _ => true
  | _ => false

/-- Ownership and pointer qualifiers may stand on arrays and on the void pointee; every other
primitive is a plain scalar. -/
def acceptsQualifiers : Primitive → Bool
  | cVoid => true
  | array _ => true
  | _ => false

end Primitive

end InterfaceSchema
