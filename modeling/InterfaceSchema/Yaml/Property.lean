import InterfaceSchema.Text.Hexadecimal
import InterfaceSchema.Yaml.Text

/-!
What may be written beside the content of a document: anchors and tags before a node, and the
directives before the document.
-/

namespace InterfaceSchema

set_option autoImplicit false

namespace Yaml

def readAnchor (cursor : Cursor) : Option (String × Cursor) :=
  let name := cursor.rest.takeWhile isWord
  let after := cursor.drop name.length
  let ends := atGap after.rest ||
    (after.rest.head?.map ['?', ':', ',', ']', '}', '%', '@', '`'].contains) == some true
  if name.isEmpty || !ends then none else some (String.ofList name, after)

/-- Characters of the address that a tag may hold; the marks of bracketed sequences count only
where the address stands by itself. -/
def isAddress (marks : Bool) (character : Char) : Bool :=
  isWord character ||
    [';', '/', '?', ':', '@', '&', '=', '+', '$', '.', '%', '!', '~', '*', '\'', '(', ')'].contains
      character ||
    (marks && [',', '[', ']'].contains character)

abbrev Address := Option String

def Address.append (left right : Address) : Address :=
  left.bind fun left => right.map fun right => left ++ right

/-- The characters of an address, which a NUL ends whatever is behind it. -/
def addressed (characters : List (Option Char)) : List (Option Char) :=
  characters.takeWhile (· != some '\x00')

def Address.ofList (characters : List (Option Char)) : Address :=
  ((addressed characters).mapM id).map String.ofList

/-- The character that a code and its number of octets stand for. More octets than the character
needs do not stand for it. -/
def encoded? (octets code : Nat) : Option Char :=
  if code.isValidChar && (Char.ofNat code).utf8Size == octets then some (Char.ofNat code) else none

/-- How many octets follow a leading one, and the bits that it holds itself. -/
def leadingOctet? (octet : Nat) : Option (Nat × Nat) :=
  if octet < 0x80 then some (0, octet)
  else if octet < 0xc0 then none
  else if octet < 0xe0 then some (1, octet % 0x20)
  else if octet < 0xf0 then some (2, octet % 0x10)
  else if octet < 0xf8 then some (3, octet % 0x08)
  else none

/-- Replaces the octets behind percent signs by the characters that they encode. Of a character
with the given number of octets and bits, so many octets are still to come. -/
def decodeAddress (octets missing bits : Nat) : List Char → Option (List (Option Char))
  | [] => if missing = 0 then some [] else none
  | '%' :: high :: low :: rest =>
      match Text.hexNumber? 0 [high, low] with
      | none => none
      | some octet =>
          match missing with
          | 0 =>
              match leadingOctet? octet with
              | some (0, code) => (decodeAddress 0 0 0 rest).map (encoded? 1 code :: ·)
              | some (more, bits) => decodeAddress (more + 1) more bits rest
              | none => none
          | more + 1 =>
              if octet / 0x40 = 2 then
                let code := bits * 0x40 + octet % 0x40
                if more = 0 then (decodeAddress 0 0 0 rest).map (encoded? octets code :: ·)
                else decodeAddress octets more code rest
              else none
  | character :: rest =>
      if character = '%' ∨ missing ≠ 0 then none
      else (decodeAddress 0 0 0 rest).map (some character :: ·)

def readAddress (marks : Bool) (cursor : Cursor) : Option (List (Option Char) × Cursor) :=
  let written := cursor.rest.takeWhile (isAddress marks)
  (decodeAddress 0 0 0 written).map fun address => (address, cursor.drop written.length)

/-- Reads the handle of a tag: words between two exclamation marks, or what has only the first. -/
def readHandle (cursor : Cursor) : Option (List Char × Cursor) :=
  match cursor.rest with
  | '!' :: rest =>
      let words := rest.takeWhile isWord
      match rest.drop words.length with
      | '!' :: _ => some ('!' :: words ++ ['!'], cursor.drop (words.length + 2))
      | _ => some ('!' :: words, cursor.drop (words.length + 1))
  | _ => none

structure TagName where
  handle : String
  suffix : Address
  deriving DecidableEq, Repr

/-- A tag whose handle is not closed belongs to the handle of one exclamation mark. -/
def TagName.ofOpen (suffix : List (Option Char)) : TagName :=
  if (addressed suffix).isEmpty then ⟨"", some "!"⟩ else ⟨"!", Address.ofList suffix⟩

def readTagName (cursor : Cursor) : Option (TagName × Cursor) :=
  match cursor.rest with
  | '!' :: '<' :: _ =>
      match readAddress true (cursor.drop 2) with
      | some (address, after) =>
          if after.rest.head? == some '>' && !address.isEmpty then
            some (⟨"", Address.ofList address⟩, after.drop 1)
          else none
      | none => none
  | _ =>
      match readHandle cursor with
      | none => none
      | some (handle, after) =>
          match readAddress false after with
          | none => none
          | some (address, rest) =>
              if 1 < handle.length && handle.getLast? == some '!' then
                if address.isEmpty then none
                else some (⟨String.ofList handle, Address.ofList address⟩, rest)
              else some (TagName.ofOpen ((handle.drop 1).map some ++ address), rest)

def readTag (bracketed : Bool) (cursor : Cursor) : Option (TagName × Cursor) :=
  match readTagName cursor with
  | some (tag, after) =>
      if atGap after.rest || (bracketed && after.rest.head? == some ',') then some (tag, after)
      else none
  | none => none

inductive Directive where
  | version (major minor : Nat)
  | handle (handle : String) (target : Address)
  deriving DecidableEq, Repr

def readVersionNumber (cursor : Cursor) : Option (Nat × Cursor) :=
  let digits := cursor.rest.takeWhile Char.isDigit
  if digits.isEmpty || 9 < digits.length then none
  else
    some (digits.foldl (fun number digit => number * 10 + (digit.toNat - '0'.toNat)) 0,
      cursor.drop digits.length)

def readVersion (cursor : Cursor) : Option (Directive × Cursor) := do
  let (major, after) ← readVersionNumber (cursor.dropWhile isBlank)
  if after.rest.head? == some '.' then
    let (minor, rest) ← readVersionNumber (after.drop 1)
    return (.version major minor, rest)
  else none

def readHandleTarget (cursor : Cursor) : Option (Directive × Cursor) := do
  let (handle, after) ← readHandle (cursor.dropWhile isBlank)
  let closed := handle.getLast? == some '!'
  if closed && (after.rest.head?.map isBlank) == some true then
    let (target, rest) ← readAddress true (after.dropWhile isBlank)
    if target.isEmpty || !atGap rest.rest then none
    else return (.handle (String.ofList handle) (Address.ofList target), rest)
  else none

def readDirective (cursor : Cursor) : Option (Directive × Cursor) := do
  let name := cursor.rest.takeWhile isWord
  let after := cursor.drop name.length
  if !atGap after.rest then none
  else
    let (directive, rest) ← match String.ofList name with
      | "YAML" => readVersion after
      | "TAG" => readHandleTarget after
      | _ => none
    let next ← rest.nextLine?
    return (directive, next)

end Yaml

end InterfaceSchema
