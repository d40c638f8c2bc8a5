import InterfaceSchema.Decimal.Basic

/-!
JSON values. A number written without fraction and exponent that fits a 64-bit word, signed or
unsigned, is an integer; every other number stays the decimal that was written.
-/

namespace InterfaceSchema

set_option autoImplicit false

inductive Json where
  | null
  | bool (value : Bool)
  | integer (value : Int)
  | decimal (value : Decimal)
  | string (value : String)
  | array (elements : List Json)
  | object (members : List (String × Json))
  deriving Repr

namespace Json

def member? (key : String) : Json → Option Json
  | object members => members.lookup key
  | _ => none

def ofText? : Option String → Json
  | some value => string value
  | none => null

def ofNat? : Option Nat → Json
  | some value => integer value
  | none => null

def ofNat (value : Nat) : Json := integer value

def ofTexts (values : List String) : Json := array (values.map string)

end Json

end InterfaceSchema
