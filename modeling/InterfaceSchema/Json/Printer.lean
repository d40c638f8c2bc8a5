import InterfaceSchema.Decimal.Shortest
import InterfaceSchema.Json.Basic

/-!
Two texts of a JSON value: the compact one without blanks, and the one laid out in lines with two
blanks for each level. Members keep their order. In a string only the quote, the backslash and
the control characters below the blank are escaped.
-/

namespace InterfaceSchema

set_option autoImplicit false

namespace Json

/-- A character inside a string. Five control characters have a letter of their own, the others
are written as four hexadecimal digits. -/
def escape (character : Char) : List Char :=
  if character = '"' then ['\\', '"']
  else if character = '\\' then ['\\', '\\']
  else if character = '\x08' then ['\\', 'b']
  else if character = '\t' then ['\\', 't']
  else if character = '\n' then ['\\', 'n']
  else if character = '\x0c' then ['\\', 'f']
  else if character = '\r' then ['\\', 'r']
  else if character.toNat < 32 then
    ['\\', 'u', '0', '0', Nat.digitChar (character.toNat / 16),
      Nat.digitChar (character.toNat % 16)]
  else [character]

def quote (text : String) : List Char :=
  '"' :: text.toList.flatMap escape ++ ['"']

/-- The text of a value without parts; nothing for an array or an object. -/
def atom : Json → List Char
  | null => ['n', 'u', 'l', 'l']
  | bool true => ['t', 'r', 'u', 'e']
  | bool false => ['f', 'a', 'l', 's', 'e']
  | integer value => (toString value).toList
  | decimal value => value.shortestText.toList
  | string value => quote value
  | array _ => []
  | object _ => []

mutual

def compactChars : Json → List Char
  | array [] => ['[', ']']
  | array (element :: rest) => '[' :: compactChars element ++ compactElements rest
  | object [] => ['{', '}']
  | object ((key, value) :: rest) =>
      '{' :: quote key ++ ':' :: compactChars value ++ compactMembers rest
  | value => atom value

/-- The elements after the first one, up to the closing bracket. -/
def compactElements : List Json → List Char
  | [] => [']']
  | element :: rest => ',' :: compactChars element ++ compactElements rest

def compactMembers : List (String × Json) → List Char
  | [] => ['}']
  | (key, value) :: rest => ',' :: quote key ++ ':' :: compactChars value ++ compactMembers rest

end

def newline (level : Nat) : List Char := '\n' :: List.replicate (2 * level) ' '

mutual

def prettyChars (level : Nat) : Json → List Char
  | array [] => ['[', ']']
  | array (element :: rest) =>
      '[' :: newline (level + 1) ++ prettyChars (level + 1) element ++ prettyElements level rest
  | object [] => ['{', '}']
  | object ((key, value) :: rest) =>
      '{' :: newline (level + 1) ++ quote key ++ ':' :: ' ' :: prettyChars (level + 1) value ++
        prettyMembers level rest
  | value => atom value

/-- The elements after the first one, up to the closing bracket on a line of its own. -/
def prettyElements (level : Nat) : List Json → List Char
  | [] => newline level ++ [']']
  | element :: rest =>
      ',' :: newline (level + 1) ++ prettyChars (level + 1) element ++ prettyElements level rest

def prettyMembers (level : Nat) : List (String × Json) → List Char
  | [] => newline level ++ ['}']
  | (key, value) :: rest =>
      ',' :: newline (level + 1) ++ quote key ++ ':' :: ' ' :: prettyChars (level + 1) value ++
        prettyMembers level rest

end

def compact (value : Json) : String := String.ofList (compactChars value)

def pretty (value : Json) : String := String.ofList (prettyChars 0 value)

end Json

end InterfaceSchema
