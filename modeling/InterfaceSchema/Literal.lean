/-!
64-bit values as a document writes them: an integer, or one of three symbols that stand for the
largest value of a machine type. A symbol gets its number from the pointer width of the target.
-/

namespace InterfaceSchema

set_option autoImplicit false

inductive MaxSymbol where
  | usizeMax
  | uint32Max
  | uint64Max
  deriving DecidableEq, Repr

namespace MaxSymbol

def all : List MaxSymbol := [usizeMax, uint32Max, uint64Max]

def text : MaxSymbol → String
  | usizeMax => "usize_max"
  | uint32Max => "uint32_max"
  | uint64Max => "uint64_max"

end MaxSymbol

/-- The word whose lowest bits are set, as many as asked for and never more than 64. -/
def lowBits (count : Nat) : UInt64 := UInt64.ofNat ((1 <<< min count 64) - 1)

/-- A value as written. Negative integers are kept, so that they can be reported where they are
used instead of making the document unreadable. -/
inductive Literal where
  | unsigned (value : UInt64)
  | signed (value : Int64)
  | symbol (name : MaxSymbol)
  deriving DecidableEq, Repr

namespace Literal

/-- The number meant for a target of the given pointer width; a negative integer is handed back
as the offender. -/
def resolve (pointerWidth : UInt32) : Literal → Except Int64 UInt64
  | unsigned value => .ok value
  | signed value => if 0 ≤ value then .ok value.toUInt64 else .error value
  | symbol .uint32Max => .ok (lowBits 32)
  | symbol .uint64Max => .ok (lowBits 64)
  | symbol .usizeMax => .ok (lowBits pointerWidth.toNat)

def text : Literal → String
  | unsigned value => toString value.toNat
  | signed value => toString value.toInt
  | symbol name => name.text

end Literal

end InterfaceSchema
