/-!
The part a struct plays in chaining: bases root a chain, extensions attach to a base of a fitting
direction, standalone structs take no part.
-/

namespace InterfaceSchema

set_option autoImplicit false

inductive Direction where
  | into
  | out
  | both
  deriving DecidableEq, Repr

namespace Direction

/-- A base takes an extension of its own direction, and either side may be open to both. -/
def accepts (base extension : Direction) : Bool :=
  base == both || extension == both || base == extension

end Direction

inductive StructRole where
  | base (direction : Direction)
  | extension (direction : Direction)
  | standalone
  deriving DecidableEq, Repr

namespace StructRole

def all : List StructRole :=
  [base .into, base .out, base .both, extension .into, extension .out, extension .both, standalone]

def text : StructRole → String
  | base .into => "base_in"
  | base .out => "base_out"
  | base .both => "base_in_or_out"
  | extension .into => "extension_in"
  | extension .out => "extension_out"
  | extension .both => "extension_in_or_out"
  | standalone => "standalone"

def isExtension : StructRole → Bool
  | extension _ => true
  | _ => false

end StructRole

end InterfaceSchema
