import InterfaceSchema.Json.Basic
import InterfaceSchema.Text.Hexadecimal

/-!
Reading a JSON text. The text holds one value and nothing else but blanks; a key that an object
repeats keeps its last value.
-/

namespace InterfaceSchema

set_option autoImplicit false

namespace Json

def isBlank (character : Char) : Bool :=
  character == ' ' || character == '\n' || character == '\t' || character == '\r'

def skipBlanks (input : List Char) : List Char := input.dropWhile isBlank

def escaped? (letter : Char) : Option Char :=
  [('"', '"'), ('\\', '\\'), ('/', '/'), ('b', '\x08'), ('f', '\x0c'), ('n', '\n'), ('r', '\r'),
    ('t', '\t')].lookup letter

def isHighSurrogate (unit : Nat) : Bool := 0xd800 ≤ unit && unit < 0xdc00

def isLowSurrogate (unit : Nat) : Bool := 0xdc00 ≤ unit && unit < 0xe000

/-- Reads a string after its opening quote; the characters read so far come last first. A high
surrogate has to be followed by a low one, and the two make one character. -/
def readString (taken : List Char) : List Char → Option (String × List Char)
  | [] => none
  | '"' :: rest => some (String.ofList taken.reverse, rest)
  | '\\' :: 'u' :: first :: second :: third :: fourth :: rest =>
      match Text.hexNumber? 0 [first, second, third, fourth] with
      | none => none
      | some unit =>
          if isHighSurrogate unit then
            match rest with
            | '\\' :: 'u' :: fifth :: sixth :: seventh :: eighth :: rest =>
                match Text.hexNumber? 0 [fifth, sixth, seventh, eighth] with
                | none => none
                | some low =>
                    if isLowSurrogate low then
                      let code := 0x10000 + (unit - 0xd800) * 0x400 + (low - 0xdc00)
                      readString (Char.ofNat code :: taken) rest
                    else none
            | _ => none
          else if isLowSurrogate unit then none
          else readString (Char.ofNat unit :: taken) rest
  | '\\' :: letter :: rest =>
      match escaped? letter with
      | some character => readString (character :: taken) rest
      | none => none
  | character :: rest =>
      if character.toNat < 32 then none else readString (character :: taken) rest

def readDigits (input : List Char) : Option (List Char × List Char) :=
  match input.takeWhile Char.isDigit with
  | [] => none
  | digits => some (digits, input.dropWhile Char.isDigit)

def digitsValue (digits : List Char) : Nat := Nat.ofDigitChars 10 digits 0

def readFraction : List Char → Option (List Char × List Char)
  | '.' :: rest => readDigits rest
  | rest => some ([], rest)

def readPower : List Char → Option (Int × List Char)
  | '+' :: rest => (readDigits rest).map fun (digits, rest) => ((digitsValue digits : Int), rest)
  | '-' :: rest => (readDigits rest).map fun (digits, rest) => (-(digitsValue digits : Int), rest)
  | rest => (readDigits rest).map fun (digits, rest) => ((digitsValue digits : Int), rest)

def readExponent : List Char → Option (Option Int × List Char)
  | 'e' :: rest => (readPower rest).map fun (power, rest) => (some power, rest)
  | 'E' :: rest => (readPower rest).map fun (power, rest) => (some power, rest)
  | rest => some (none, rest)

/-- A number is an integer if nothing follows its digits and it fits a 64-bit word; minus zero is
not an integer. -/
def number (negative : Bool) (whole fraction : List Char) (power : Option Int) : Json :=
  let digits := digitsValue (whole ++ fraction)
  let written : Decimal := ⟨negative, digits, power.getD 0 - fraction.length⟩
  if fraction.isEmpty ∧ power.isNone then
    if negative then
      if digits ≠ 0 ∧ Int64.minValue.toInt ≤ -digits then integer (-digits) else decimal written
    else if digits < UInt64.size then integer digits
    else decimal written
  else decimal written

def readUnsigned (negative : Bool) (input : List Char) : Option (Json × List Char) := do
  let (whole, rest) ← readDigits input
  if whole.head? = some '0' ∧ 1 < whole.length then none
  let (fraction, rest) ← readFraction rest
  let (power, rest) ← readExponent rest
  return (number negative whole fraction power, rest)

def readNumber : List Char → Option (Json × List Char)
  | '-' :: rest => readUnsigned true rest
  | rest => readUnsigned false rest

/-- Sets a key, in the place of an earlier one of the same name. -/
def putMember (members : List (String × Json)) (key : String) (value : Json) :
    List (String × Json) :=
  if members.any (fun member => member.1 == key) then
    members.map fun member => if member.1 == key then (key, value) else member
  else (key, value) :: members

mutual

def readValue : Nat → List Char → Option (Json × List Char)
  | 0, _ => none
  | fuel + 1, input =>
      match skipBlanks input with
      | 'n' :: 'u' :: 'l' :: 'l' :: rest => some (null, rest)
      | 't' :: 'r' :: 'u' :: 'e' :: rest => some (bool true, rest)
      | 'f' :: 'a' :: 'l' :: 's' :: 'e' :: rest => some (bool false, rest)
      | '"' :: rest => (readString [] rest).map fun (text, rest) => (string text, rest)
      | '[' :: rest =>
          match skipBlanks rest with
          | ']' :: rest => some (array [], rest)
          | rest => readElements fuel [] rest
      | '{' :: rest =>
          match skipBlanks rest with
          | '}' :: rest => some (object [], rest)
          | rest => readMembers fuel [] rest
      | rest => readNumber rest

/-- Reads elements up to the closing bracket; those read so far come last first. -/
def readElements : Nat → List Json → List Char → Option (Json × List Char)
  | 0, _, _ => none
  | fuel + 1, elements, input =>
      match readValue fuel input with
      | none => none
      | some (element, rest) =>
          match skipBlanks rest with
          | ',' :: rest => readElements fuel (element :: elements) rest
          | ']' :: rest => some (array (element :: elements).reverse, rest)
          | _ => none

def readMembers : Nat → List (String × Json) → List Char → Option (Json × List Char)
  | 0, _, _ => none
  | fuel + 1, members, input =>
      match skipBlanks input with
      | '"' :: rest =>
          match readString [] rest with
          | none => none
          | some (key, rest) =>
              match skipBlanks rest with
              | ':' :: rest =>
                  match readValue fuel rest with
                  | none => none
                  | some (value, rest) =>
                      let members := putMember members key value
                      match skipBlanks rest with
                      | ',' :: rest => readMembers fuel members rest
                      | '}' :: rest => some (object members.reverse, rest)
                      | _ => none
              | _ => none
      | _ => none

end

/-- The value that a text holds. Every level of the value takes two steps and at least one
character, so twice the length is fuel enough. -/
def parse? (text : String) : Option Json :=
  let input := text.toList
  match readValue (2 * input.length + 2) input with
  | some (value, rest) => if (skipBlanks rest).isEmpty then some value else none
  | none => none

end Json

end InterfaceSchema
