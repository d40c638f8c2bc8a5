import InterfaceSchema.Text.Hexadecimal
import InterfaceSchema.Yaml.Text

/-!
Scalars that stand among other content: plain, in single quotes, or in double quotes with escapes.
They may span lines. One line break inside of them counts as a blank, and of several all but the
first are kept. What has been read is held with its last character first.
-/

namespace InterfaceSchema

set_option autoImplicit false

namespace Yaml

inductive ScalarStyle where
  | plain
  | singleQuoted
  | doubleQuoted
  | literal
  | folded
  deriving DecidableEq, Repr

structure Scalar where
  style : ScalarStyle
  text : String
  tag : Option String := none
  deriving DecidableEq, Repr

def joinGap (gap taken : List Char) : List Char :=
  match gap.count '\n' with
  | 0 => gap ++ taken
  | 1 => ' ' :: taken
  | breaks + 2 => List.replicate (breaks + 1) '\n' ++ taken

structure PlainScalar where
  text : String
  arrival : Arrival
  deriving DecidableEq, Repr

/-- Reads on in a plain scalar, up to an indicator that ends it or a line with less indentation.
A tab in the indentation of a further line makes the text unreadable, and so does, inside of
brackets, a colon right before a mark. -/
def readPlain (bracketed : Bool) (indent : Nat) (taken gap : List Char) (position : Position) :
    List Char → Option PlainScalar
  | [] => some ⟨String.ofList taken.reverse, ⟨position, []⟩, gap.contains '\n'⟩
  | character :: rest =>
      let cursor : Cursor := ⟨position, character :: rest⟩
      let ending : PlainScalar := ⟨String.ofList taken.reverse, cursor, gap.contains '\n'⟩
      let next := position.after character
      if isGap character then
        if character == '\t' && gap.contains '\n' && position.column < indent then none
        else readPlain bracketed indent taken (character :: gap) next rest
      else if !gap.isEmpty && (character == '#' || cursor.atDocumentMark ||
          (!bracketed && position.column < indent)) then
        some ending
      else if bracketed && character == ':' &&
          (rest.head?.map fun next => isFlowMark next || next == '?') == some true then none
      else if (character == ':' && atGap rest) || (bracketed && isFlowMark character) then
        some ending
      else readPlain bracketed indent (character :: joinGap gap taken) [] next rest

def isIndicator (character : Char) : Bool :=
  isFlowMark character ||
    ['#', '&', '*', '!', '|', '>', '\'', '"', '%', '@', '`'].contains character

def startsPlain (bracketed : Bool) : List Char → Bool
  | [] => false
  | character :: rest =>
      if isGap character then false
      else if character == '-' then !atGap rest
      else if character == '?' || character == ':' then !bracketed && !atGap rest
      else !isIndicator character

/-- Reads a text after its opening single quote. A quote in it is written twice. -/
def readSingleQuoted (taken gap : List Char) (position : Position) :
    List Char → Option (String × Cursor)
  | [] => none
  | '\'' :: '\'' :: rest =>
      readSingleQuoted ('\'' :: joinGap gap taken) []
        ((position.after '\'').after '\'') rest
  | character :: rest =>
      let next := position.after character
      if Cursor.atDocumentMark ⟨position, character :: rest⟩ then none
      else if isGap character then readSingleQuoted taken (character :: gap) next rest
      else if character = '\'' then
        some (String.ofList (joinGap gap taken).reverse, ⟨next, rest⟩)
      else readSingleQuoted (character :: joinGap gap taken) [] next rest

def escaped? (letter : Char) : Option Char :=
  [('0', '\x00'), ('a', '\x07'), ('b', '\x08'), ('t', '\t'), ('\t', '\t'), ('n', '\n'),
    ('v', '\x0b'), ('f', '\x0c'), ('r', '\r'), ('e', '\x1b'), (' ', ' '), ('"', '"'), ('/', '/'),
    ('\\', '\\'), ('N', '\x85'), ('_', '\xa0'), ('L', '\u2028'), ('P', '\u2029')].lookup letter

def codeLength? (letter : Char) : Option Nat := [('x', 2), ('u', 4), ('U', 8)].lookup letter

def readCode (length : Nat) (digits : List Char) : Option Char :=
  if digits.length < length then none
  else
    match Text.hexNumber? 0 (digits.take length) with
    | some code => if code.isValidChar then some (Char.ofNat code) else none
    | none => none

/-- The character that follows a backslash stands for, and the length of what writes it. -/
def readEscape (letter : Char) (rest : List Char) : Option (Char × Nat) :=
  match codeLength? letter with
  | some length => (readCode length rest).map fun character => (character, length + 1)
  | none => (escaped? letter).map fun character => (character, 1)

/-- Puts a gap after what has been taken. Behind an escaped line break only further ones count. -/
def joinEscaped (escaped : Bool) (gap taken : List Char) : List Char :=
  if escaped then List.replicate (gap.count '\n') '\n' ++ taken else joinGap gap taken

/-- Reads a text after its opening double quote. The given number of characters has been read
already; the gap may follow an escaped line break. -/
def readDoubleQuoted (skipped : Nat) (escaped : Bool) (taken gap : List Char)
    (position : Position) : List Char → Option (String × Cursor)
  | [] => none
  | character :: rest =>
      let next := position.after character
      let joined := joinEscaped escaped gap taken
      match skipped with
      | more + 1 => readDoubleQuoted more escaped taken gap next rest
      | 0 =>
          if Cursor.atDocumentMark ⟨position, character :: rest⟩ then none
          else if isGap character then
            readDoubleQuoted 0 escaped taken (character :: gap) next rest
          else if character = '"' then some (String.ofList joined.reverse, ⟨next, rest⟩)
          else if character = '\\' then
            match rest with
            | [] => none
            | '\n' :: _ => readDoubleQuoted 1 true joined [] next rest
            | letter :: digits =>
                match readEscape letter digits with
                | some (character, length) =>
                    readDoubleQuoted length false (character :: joined) [] next rest
                | none => none
          else readDoubleQuoted 0 false (character :: joined) [] next rest

end Yaml

end InterfaceSchema
