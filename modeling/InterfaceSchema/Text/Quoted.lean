import InterfaceSchema.Text.Unprintable

/-!
A text as messages show it: between quotes, with everything escaped that would not show as itself.
-/

namespace InterfaceSchema

set_option autoImplicit false

namespace Text

def codeEscape (character : Char) : List Char :=
  '\\' :: 'u' :: '{' :: Nat.toDigits 16 character.toNat ++ ['}']

def escapeShown (character : Char) : List Char :=
  if character = '\x00' then ['\\', '0']
  else if character = '\t' then ['\\', 't']
  else if character = '\n' then ['\\', 'n']
  else if character = '\r' then ['\\', 'r']
  else if character = '"' then ['\\', '"']
  else if character = '\\' then ['\\', '\\']
  else if isUnprintable character then codeEscape character
  else [character]

def quoted (text : String) : String :=
  String.ofList ('"' :: text.toList.flatMap escapeShown ++ ['"'])

end Text

end InterfaceSchema
