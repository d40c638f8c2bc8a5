import InterfaceSchema.Text.Hexadecimal

/-!
The 16-bit block in which the enum values of a document live, written as a hexadecimal number.
-/

namespace InterfaceSchema

set_option autoImplicit false

namespace EnumBlock

/-- A number may carry a plus sign, but it has at least one digit. -/
def unsignedDigits : List Char → List Char
  | '+' :: digits => digits
  | digits => digits

/-- The block that a text writes: `0x` or `0X`, an optional plus sign and hexadecimal digits of a
number below two to the sixteenth. -/
def parse? (text : String) : Option UInt16 :=
  let digits? := match text.toList with
    | '0' :: 'x' :: rest => some (unsignedDigits rest)
    | '0' :: 'X' :: rest => some (unsignedDigits rest)
    | _ => none
  match digits? with
  | none => none
  | some [] => none
  | some digits =>
      match Text.hexNumber? 0 digits with
      | some number => if number < UInt16.size then some (UInt16.ofNat number) else none
      | none => none

end EnumBlock

end InterfaceSchema
