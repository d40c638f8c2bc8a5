/-!
Decimal numbers as a text writes them: a sign, the digits as one number, and a power of ten.
-/

namespace InterfaceSchema

set_option autoImplicit false

/-- The number with the given digits times ten to the exponent, negated if so marked. A negative
zero is a value of its own. -/
structure Decimal where
  negative : Bool
  digits : Nat
  exponent : Int
  deriving DecidableEq, Repr

end InterfaceSchema
