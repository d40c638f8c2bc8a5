/-!
Hexadecimal digits and the numbers that they write.
-/

namespace InterfaceSchema

set_option autoImplicit false

namespace Text

def hexDigit? (character : Char) : Option Nat :=
  if '0' ≤ character ∧ character ≤ '9' then some (character.toNat - '0'.toNat)
  else if 'a' ≤ character ∧ character ≤ 'f' then some (character.toNat - 'a'.toNat + 10)
  else if 'A' ≤ character ∧ character ≤ 'F' then some (character.toNat - 'A'.toNat + 10)
  else none

/-- The number that the digits write after a number that was read before them; nothing if one of
them is no digit. -/
def hexNumber? (before : Nat) : List Char → Option Nat
  | [] => some before
  | character :: rest =>
      match hexDigit? character with
      | some digit => hexNumber? (before * 16 + digit) rest
      | none => none

end Text

end InterfaceSchema
