import InterfaceSchema.Document.Basic
import InterfaceSchema.Problem

/-!
The entries of a merged bit mask set as a graph. An entry is a literal, a combination of other
entries, or neither; a part of a combination stands for the first entry of its name.
-/

namespace InterfaceSchema

set_option autoImplicit false

inductive MaskNode where
  /-- A written value; nothing if it is negative. -/
  | literal (value : Option UInt64)
  /-- The entries whose masks are joined, by index. -/
  | combination (parts : List Nat)
  | unresolvable
  deriving DecidableEq, Repr

namespace MaskNode

/-- The entries that an entry waits for, with repetitions. -/
def parts : MaskNode → List Nat
  | combination parts => parts
  | _ => []

def indexOf? (entries : List BitflagEntry) (name : String) : Option Nat :=
  entries.findIdx? fun entry => entry.name == name

def missingParts (entries : List BitflagEntry) (parts : List String) : List String :=
  parts.filter fun part => (indexOf? entries part).isNone

/-- The node of an entry. Exactly one source has to be written, and a combination needs a part;
a combination with an unknown part is given up. -/
def ofEntry (entries : List BitflagEntry) (pointerWidth : UInt32) (entry : BitflagEntry) :
    MaskNode :=
  match entry.value, entry.combination with
  | some value, none => literal (value.resolve pointerWidth).toOption
  | none, some (part :: rest) =>
      if (missingParts entries (part :: rest)).isEmpty then
        combination ((part :: rest).filterMap (indexOf? entries))
      else unresolvable
  | _, _ => unresolvable

def problems (bitflag : String) (entries : List BitflagEntry) (pointerWidth : UInt32)
    (entry : BitflagEntry) : List Problem :=
  match entry.value, entry.combination with
  | some value, none =>
      match value.resolve pointerWidth with
      | .ok _ => []
      | .error negative =>
          [.invalidValue ("bitflag " ++ bitflag ++ " entry " ++ entry.name)
            (toString negative.toInt) "bitflag values must be non-negative"]
  | none, some (part :: rest) =>
      (missingParts entries (part :: rest)).map fun missing =>
        .unknownCombinationEntry bitflag entry.name missing
  | _, _ => [.malformedBitflagEntry bitflag entry.name]

def graph (entries : List BitflagEntry) (pointerWidth : UInt32) : List MaskNode :=
  entries.map (ofEntry entries pointerWidth)

end MaskNode

end InterfaceSchema
