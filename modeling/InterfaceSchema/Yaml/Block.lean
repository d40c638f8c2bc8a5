import InterfaceSchema.Yaml.Scalar

/-!
Scalars that are written as a block of indented lines. A header says whether the lines are folded,
what becomes of the breaks at the end, and possibly how far the lines are indented; otherwise the
first line with content decides.
-/

namespace InterfaceSchema

set_option autoImplicit false

namespace Yaml

inductive Chomping where
  | clip
  | strip
  | keep
  deriving DecidableEq, Repr

structure BlockHeader where
  chomping : Chomping
  /-- How much further than its surroundings the block is indented, if that is written. -/
  indentation : Option Nat
  length : Nat
  deriving DecidableEq, Repr

def chomping? : List Char → Option Chomping
  | '+' :: _ => some .keep
  | '-' :: _ => some .strip
  | _ => none

def indentationDigit? : List Char → Option Nat
  | character :: _ => if character.isDigit then some (character.toNat - '0'.toNat) else none
  | [] => none

def readBlockHeader (rest : List Char) : Option BlockHeader :=
  match chomping? rest, indentationDigit? rest with
  | some chomping, _ =>
      match indentationDigit? (rest.drop 1) with
      | some 0 => none
      | some digit => some ⟨chomping, some digit, 2⟩
      | none => some ⟨chomping, none, 1⟩
  | none, some 0 => none
  | none, some digit =>
      match chomping? (rest.drop 1) with
      | some chomping => some ⟨chomping, some digit, 2⟩
      | none => some ⟨.clip, some digit, 1⟩
  | none, none => some ⟨.clip, none, 0⟩

/-- What comes before the content of a block: blank lines, and the widest indentation met. -/
structure BlockLead where
  breaks : Nat
  widest : Nat
  cursor : Cursor
  deriving DecidableEq, Repr

def readBlockLead (breaks widest : Nat) (position : Position) : List Char → Option BlockLead
  | [] => some ⟨breaks, max widest position.column, position, []⟩
  | character :: rest =>
      let next := position.after character
      let widest := max widest position.column
      if character = ' ' then readBlockLead breaks widest next rest
      else if character = '\t' then none
      else if character = '\n' then readBlockLead (breaks + 1) widest next rest
      else some ⟨breaks, widest, position, character :: rest⟩

structure BlockText where
  /-- The last character comes first. -/
  taken : List Char
  ended : Bool
  breaks : Nat
  indented : Bool
  deriving DecidableEq, Repr

namespace BlockText

/-- Goes on with a line that starts with the given character. Between two lines that do not start
with a blank a folded break counts as a blank. -/
def newLine (folded : Bool) (text : BlockText) (character : Char) : BlockText :=
  let fold := folded && text.ended && !text.indented && !isBlank character
  let joined :=
    if fold then if text.breaks = 0 then ' ' :: text.taken else text.taken
    else if text.ended then '\n' :: text.taken
    else text.taken
  ⟨character :: (List.replicate text.breaks '\n' ++ joined), false, 0, isBlank character⟩

def add (text : BlockText) (character : Char) : BlockText :=
  { text with taken := character :: text.taken }

def finish (text : BlockText) (chomping : Chomping) : String :=
  let breaks := match chomping with
    | .strip => 0
    | .clip => if text.ended then 1 else 0
    | .keep => (if text.ended then 1 else 0) + text.breaks
  String.ofList (List.replicate breaks '\n' ++ text.taken).reverse

end BlockText

def readBlockLines (folded : Bool) (indent : Nat) (inLine : Bool) (text : BlockText)
    (position : Position) : List Char → Option (BlockText × Cursor)
  | [] => some (text, ⟨position, []⟩)
  | character :: rest =>
      let next := position.after character
      if inLine then
        if character = '\n' then
          readBlockLines folded indent false { text with ended := true, breaks := 0 } next rest
        else readBlockLines folded indent true (text.add character) next rest
      else if character = '\n' then
        readBlockLines folded indent false { text with breaks := text.breaks + 1 } next rest
      else if position.column < indent then
        if character = ' ' then readBlockLines folded indent false text next rest
        else if character = '\t' then none
        else some (text, ⟨position, character :: rest⟩)
      else if position.column = indent then
        readBlockLines folded indent true (text.newLine folded character) next rest
      else some (text, ⟨position, character :: rest⟩)

/-- Reads a block after its indicator. Its surroundings are indented up to the given column. -/
def readBlockScalar (folded : Bool) (outer : Option Nat) (cursor : Cursor) :
    Option (String × Cursor) := do
  let header ← readBlockHeader cursor.rest
  let start ← (cursor.drop header.length).nextLine?
  let lead ← match header.indentation with
    | some _ => some ⟨0, 0, start⟩
    | none => readBlockLead 0 0 start.position start.rest
  let indent := match header.indentation with
    | some indentation => outer.getD 0 + indentation
    | none => max lead.widest (max 1 ((outer.map Nat.succ).getD 0))
  let (text, rest) ← readBlockLines folded indent false ⟨[], false, lead.breaks, false⟩
    lead.cursor.position lead.cursor.rest
  return (text.finish header.chomping, rest)

end Yaml

end InterfaceSchema
