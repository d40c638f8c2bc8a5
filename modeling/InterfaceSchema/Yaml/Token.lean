import InterfaceSchema.Yaml.Block
import InterfaceSchema.Yaml.Property

/-!
Tokens of a YAML text. Indentation becomes tokens that open and close blocks. A key is known by
the colon behind it, so its token is put before content that has been read already: the content
must stand on one line and within 1024 bytes of its colon.
-/

namespace InterfaceSchema

set_option autoImplicit false

namespace Yaml

inductive Token where
  | directive (directive : Directive)
  | documentStart
  | documentEnd
  | blockSequence
  | blockMapping
  | blockEnd
  | openBracket
  | closeBracket
  | openBrace
  | closeBrace
  /-- The dash before an item of a block sequence. -/
  | dash
  | comma
  | key
  | value
  | anchor (name : String)
  /-- What an anchor of the given name marks. -/
  | reference (name : String)
  | tag (name : TagName)
  | scalar (style : ScalarStyle) (text : String)
  deriving DecidableEq, Repr

/-- Content that is a key if a colon follows. -/
structure PendingKey where
  /-- Whether nothing but a key may stand there. -/
  required : Bool
  place : Nat
  position : Position
  deriving DecidableEq, Repr

/-- Whether a colon at the given position still makes it a key. -/
def PendingKey.reaches (pending : PendingKey) (colon : Position) : Bool :=
  pending.position.line == colon.line && colon.offset ≤ pending.position.offset + 1024

structure Lexer where
  cursor : Cursor
  tokens : List Token := []
  /-- The columns of the open blocks, the innermost one first. -/
  blocks : List Nat := []
  keyAllowed : Bool := true
  pending : Option PendingKey := none
  /-- For each open bracket the key that was pending before it, the innermost one first. -/
  outer : List (Option PendingKey) := []
  deriving DecidableEq, Repr

namespace Lexer

def bracketed (lexer : Lexer) : Bool := !lexer.outer.isEmpty

def position (lexer : Lexer) : Position := lexer.cursor.position

def add (lexer : Lexer) (token : Token) : Lexer :=
  { lexer with tokens := token :: lexer.tokens }

def insert (lexer : Lexer) (place : Nat) (token : Token) : Lexer :=
  let later := lexer.tokens.length - place
  { lexer with tokens := lexer.tokens.take later ++ token :: lexer.tokens.drop later }

/-- Closes the blocks that the condition on their columns holds of, from the innermost one on. -/
def closeBlocks (lexer : Lexer) (condition : Nat → Bool) : Lexer :=
  if lexer.bracketed then lexer
  else
    let closed := lexer.blocks.takeWhile condition
    { lexer with
      blocks := lexer.blocks.drop closed.length
      tokens := closed.map (fun _ => Token.blockEnd) ++ lexer.tokens }

/-- Opens a block in a column, behind so many tokens, unless one is open there. -/
def openBlock (lexer : Lexer) (column place : Nat) (token : Token) : Lexer :=
  let deeper := match lexer.blocks with
    | [] => true
    | innermost :: _ => decide (innermost < column)
  if lexer.bracketed || !deeper then lexer
  else { lexer with blocks := column :: lexer.blocks }.insert place token

def dropKey (lexer : Lexer) : Option Lexer :=
  if (lexer.pending.map PendingKey.required) == some true then none
  else some { lexer with pending := none }

def markKey (lexer : Lexer) : Option Lexer :=
  if !lexer.keyAllowed then some lexer
  else
    lexer.dropKey.map fun cleared =>
      { cleared with
        pending := some
          ⟨!lexer.bracketed && lexer.blocks.head? == some lexer.position.column,
            lexer.tokens.length, lexer.position⟩ }

def take (lexer : Lexer) (token : Token) (length : Nat) : Lexer :=
  { lexer.add token with cursor := lexer.cursor.drop length }

def accept (lexer : Lexer) (token : Token) (cursor : Cursor) : Lexer :=
  { lexer.add token with cursor := cursor }

def allowKey (lexer : Lexer) (allowed : Bool) : Lexer := { lexer with keyAllowed := allowed }

def readDirective (lexer : Lexer) : Option Lexer := do
  let cleared ← (lexer.closeBlocks fun _ => true).dropKey
  let (directive, after) ← Yaml.readDirective (lexer.cursor.drop 1)
  return (cleared.accept (.directive directive) after).allowKey false

def readDocumentMark (lexer : Lexer) (token : Token) : Option Lexer :=
  (lexer.closeBlocks fun _ => true).dropKey.map fun cleared =>
    (cleared.take token 3).allowKey false

def readOpening (lexer : Lexer) (token : Token) : Option Lexer :=
  lexer.markKey.map fun marked =>
    { (marked.take token 1).allowKey true with
      pending := none
      outer := marked.pending :: marked.outer }

def readClosing (lexer : Lexer) (token : Token) : Option Lexer :=
  lexer.dropKey.map fun cleared =>
    { (cleared.take token 1).allowKey false with
      pending := cleared.outer.head?.join
      outer := cleared.outer.tail }

def readComma (lexer : Lexer) : Option Lexer :=
  lexer.dropKey.map fun cleared => (cleared.take .comma 1).allowKey true

/-- Opens a block for an indicator, which outside of brackets must stand where a key may. -/
def openFor (lexer : Lexer) (token : Token) : Option Lexer :=
  if lexer.bracketed || lexer.keyAllowed then
    some (lexer.openBlock lexer.position.column lexer.tokens.length token)
  else none

def readDash (lexer : Lexer) : Option Lexer := do
  let cleared ← (← lexer.openFor .blockSequence).dropKey
  return (cleared.take .dash 1).allowKey true

def readQuestion (lexer : Lexer) : Option Lexer := do
  let cleared ← (← lexer.openFor .blockMapping).dropKey
  return (cleared.take .key 1).allowKey (!lexer.bracketed)

/-- The pending key, if a colon here makes it one; nothing at all if it must be one but cannot. -/
def pendingKey? (lexer : Lexer) : Option (Option PendingKey) :=
  match lexer.pending with
  | none => some none
  | some pending =>
      if pending.reaches lexer.position then some (some pending)
      else if pending.required then none
      else some none

def readColon (lexer : Lexer) : Option Lexer := do
  match ← lexer.pendingKey? with
  | some pending =>
      let opened := (lexer.insert pending.place .key).openBlock pending.position.column
        pending.place .blockMapping
      return ({ opened with pending := none }.take .value 1).allowKey false
  | none =>
      let opened ← lexer.openFor .blockMapping
      return ({ opened with pending := none }.take .value 1).allowKey (!lexer.bracketed)

def readContent (lexer : Lexer) (read : Option (Token × Cursor)) : Option Lexer := do
  let marked ← lexer.markKey
  let (token, after) ← read
  return (marked.accept token after).allowKey false

/-- Reads a plain scalar. A key may follow if it ends on a line of its own. -/
def readPlain (lexer : Lexer) : Option Lexer := do
  let marked ← lexer.markKey
  let indent := (lexer.blocks.head?.map Nat.succ).getD 0
  let scalar ← Yaml.readPlain lexer.bracketed indent [] [] lexer.position lexer.cursor.rest
  return (marked.accept (.scalar .plain scalar.text) scalar.arrival.cursor).allowKey
    scalar.arrival.onNewLine

def readBlock (lexer : Lexer) (folded : Bool) : Option Lexer := do
  let cleared ← lexer.dropKey
  let (text, after) ← readBlockScalar folded lexer.blocks.head? (lexer.cursor.drop 1)
  return (cleared.accept (.scalar (if folded then .folded else .literal) text) after).allowKey true

def scalarToken (style : ScalarStyle) (read : Option (String × Cursor)) :
    Option (Token × Cursor) :=
  read.map fun (text, after) => (.scalar style text, after)

def readFrom (lexer : Lexer) (character : Char) (rest : List Char) : Option Lexer :=
  let next := lexer.cursor.drop 1
  let separate := lexer.bracketed || atGap rest
  if character = '[' then lexer.readOpening .openBracket
  else if character = '{' then lexer.readOpening .openBrace
  else if character = ']' then lexer.readClosing .closeBracket
  else if character = '}' then lexer.readClosing .closeBrace
  else if character = ',' then lexer.readComma
  else if character == '-' && atGap rest then lexer.readDash
  else if character == '?' && separate then lexer.readQuestion
  else if character == ':' && separate then lexer.readColon
  else if character = '*' then
    lexer.readContent ((readAnchor next).map fun (name, after) => (.reference name, after))
  else if character = '&' then
    lexer.readContent ((readAnchor next).map fun (name, after) => (.anchor name, after))
  else if character = '!' then
    lexer.readContent
      ((readTag lexer.bracketed lexer.cursor).map fun (name, after) => (.tag name, after))
  else if character == '|' && !lexer.bracketed then lexer.readBlock false
  else if character == '>' && !lexer.bracketed then lexer.readBlock true
  else if character = '\'' then
    lexer.readContent (scalarToken .singleQuoted (readSingleQuoted [] [] next.position next.rest))
  else if character = '"' then
    lexer.readContent
      (scalarToken .doubleQuoted (readDoubleQuoted 0 false [] [] next.position next.rest))
  else if startsPlain lexer.bracketed (character :: rest) then lexer.readPlain
  else none

/-- Passes what separates tokens, and closes the blocks that do not reach as far as what follows. -/
def approach (lexer : Lexer) : Lexer :=
  let arrival := arrive lexer.bracketed (lexer.bracketed || !lexer.keyAllowed) false false
    lexer.position lexer.cursor.rest
  let allowed := lexer.keyAllowed || (arrival.onNewLine && !lexer.bracketed)
  ({ lexer with cursor := arrival.cursor }.allowKey allowed).closeBlocks fun column =>
    arrival.cursor.column < column

def step (lexer : Lexer) : Option Lexer :=
  if lexer.position.column == 0 && lexer.cursor.rest.head? == some '%' then lexer.readDirective
  else if lexer.cursor.atMarker '-' then lexer.readDocumentMark .documentStart
  else if lexer.cursor.atMarker '.' then lexer.readDocumentMark .documentEnd
  else
    match lexer.cursor.rest with
    | character :: rest => lexer.readFrom character rest
    | [] => none

/-- The tokens of a text that has been read to its end. -/
def finish (lexer : Lexer) : Option (List Token) :=
  (lexer.closeBlocks fun _ => true).dropKey.map fun cleared => cleared.tokens.reverse

/-- Reads all that is left. A step reads at least one character. -/
def run (lexer : Lexer) : Option (List Token) :=
  let ready := lexer.approach
  if ready.cursor.rest.isEmpty then ready.finish
  else
    match ready.step with
    | some next =>
        if next.cursor.rest.length < lexer.cursor.rest.length then next.run else none
    | none => none
termination_by lexer.cursor.rest.length

end Lexer

def Token.ofText? (text : String) : Option (List Token) :=
  if text.toList.all isAllowed then Lexer.run { cursor := Cursor.ofText text } else none

end Yaml

end InterfaceSchema
