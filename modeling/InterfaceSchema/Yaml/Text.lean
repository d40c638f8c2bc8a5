/-!
Characters of a YAML text: what may occur, what breaks a line, where a character stands, and what
may stand between the parts of a document.
-/

namespace InterfaceSchema

set_option autoImplicit false

namespace Yaml

def isAllowed (character : Char) : Bool :=
  let code := character.toNat
  code == 0x09 || code == 0x0a || code == 0x0d || (0x20 ≤ code && code ≤ 0x7e) || code == 0x85 ||
    (0xa0 ≤ code && code ≤ 0xd7ff) || (0xe000 ≤ code && code ≤ 0xfffd) || 0x10000 ≤ code

/-- Writes every line break as one line feed. -/
def unifyBreaks : List Char → List Char
  | [] => []
  | '\r' :: '\n' :: rest => '\n' :: unifyBreaks rest
  | character :: rest =>
      if character = '\r' ∨ character = '\x85' ∨ character = '\u2028' ∨ character = '\u2029' then
        '\n' :: unifyBreaks rest
      else character :: unifyBreaks rest

def isWhiteSpace (character : Char) : Bool :=
  let code := character.toNat
  (0x09 ≤ code && code ≤ 0x0d) || code == 0x20 || code == 0x85 || code == 0xa0 ||
    code == 0x1680 || (0x2000 ≤ code && code ≤ 0x200a) || code == 0x2028 || code == 0x2029 ||
    code == 0x202f || code == 0x205f || code == 0x3000

def isBlank (character : Char) : Bool := character == ' ' || character == '\t'

def isGap (character : Char) : Bool := isBlank character || character == '\n'

/-- Letters, digits and dashes, as in the name of an anchor. -/
def isWord (character : Char) : Bool :=
  character.isAlphanum || character == '_' || character == '-'

def isFlowMark (character : Char) : Bool := [',', '[', ']', '{', '}'].contains character

def atGap : List Char → Bool
  | [] => true
  | character :: _ => isGap character

structure Position where
  line : Nat := 0
  column : Nat := 0
  /-- How many bytes come before it on its line. -/
  offset : Nat := 0
  deriving DecidableEq, Repr

def Position.after (position : Position) (character : Char) : Position :=
  if character = '\n' then ⟨position.line + 1, 0, 0⟩
  else ⟨position.line, position.column + 1, position.offset + character.utf8Size⟩

structure Cursor where
  position : Position
  rest : List Char
  deriving DecidableEq, Repr

namespace Cursor

def column (cursor : Cursor) : Nat := cursor.position.column

def drop (cursor : Cursor) (count : Nat) : Cursor :=
  ⟨(cursor.rest.take count).foldl Position.after cursor.position, cursor.rest.drop count⟩

def dropWhile (cursor : Cursor) (condition : Char → Bool) : Cursor :=
  cursor.drop (cursor.rest.takeWhile condition).length

def atMarker (cursor : Cursor) (mark : Char) : Bool :=
  cursor.column == 0 &&
    match [mark, mark, mark].isPrefixOf? cursor.rest with
    | some rest => atGap rest
    | none => false

def atDocumentMark (cursor : Cursor) : Bool := cursor.atMarker '-' || cursor.atMarker '.'

/-- The start of the next line, if nothing but blanks and a comment comes before it. -/
def nextLine? (cursor : Cursor) : Option Cursor :=
  let content := cursor.dropWhile isBlank
  let ending :=
    if content.rest.head? == some '#' then content.dropWhile fun character => character != '\n'
    else content
  match ending.rest with
  | [] => some ending
  | '\n' :: _ => some (ending.drop 1)
  | _ => none

end Cursor

/-- Where something starts, and whether a line break was passed on the way. -/
structure Arrival where
  cursor : Cursor
  onNewLine : Bool
  deriving DecidableEq, Repr

/-- Passes blanks, line breaks and comments. Tabs are passed only where they cannot be taken for
indentation: after a line break they stay, unless the text is inside of brackets. A mark of the
byte order may start a line; it is no content, but takes a column. -/
def arrive (bracketed tabs comment onNewLine : Bool) (position : Position) :
    List Char → Arrival
  | [] => ⟨⟨position, []⟩, onNewLine⟩
  | character :: rest =>
      let next := position.after character
      if character = '\n' then arrive bracketed bracketed false true next rest
      else if comment || character == ' ' || (character == '\t' && tabs) ||
          (character == '\ufeff' && position.column == 0) then
        arrive bracketed tabs comment onNewLine next rest
      else if character = '#' then arrive bracketed tabs true onNewLine next rest
      else ⟨⟨position, character :: rest⟩, onNewLine⟩

def Cursor.ofText (text : String) : Cursor := ⟨{}, unifyBreaks text.toList⟩

end Yaml

end InterfaceSchema
