import InterfaceSchema.Yaml.Token

/-!
Documents of a YAML text as nodes: scalars, sequences and mappings, in blocks or in brackets. A
node may be marked with an anchor and then be referred to in other places; of a collection that is
marked only its kind is remembered, so that it may contain a reference to itself.
-/

namespace InterfaceSchema

set_option autoImplicit false

namespace Yaml

inductive Node where
  | scalar (scalar : Scalar)
  | sequence (items : List Node)
  | mapping (entries : List (Node × Node))
  | reference (number : Nat)
  deriving Repr

def Node.empty : Node := .scalar ⟨.plain, "", none⟩

structure Properties where
  anchor : Option String := none
  tag : Option Address := none
  deriving DecidableEq, Repr

/-- What is left to read, and the nodes that have been marked. An anchor stands for a number, and
the last node that is marked with the number counts. -/
structure Feed where
  tokens : List Token
  /-- The numbers of the anchors met so far, each anchor once. -/
  anchors : List (String × Nat) := []
  marked : List (Nat × Node) := []
  deriving Repr

namespace Feed

def resume (feed : Feed) (tokens : List Token) : Feed := { feed with tokens := tokens }

/-- Marks a node, if it has an anchor. The anchor gets the number of anchors met before, also if
it is one of them; the next new anchor then shares its number. -/
def mark (feed : Feed) (properties : Properties) (node : Node) : Feed :=
  match properties.anchor with
  | some name =>
      let number := feed.anchors.length
      { feed with
        anchors := (name, number) :: feed.anchors.filter fun anchor => anchor.1 != name
        marked := (number, node) :: feed.marked }
  | none => feed

end Feed

abbrev Handles := List (String × Address)

def standardHandles : Handles := [("!", some "!"), ("!!", some "tag:yaml.org,2002:")]

def TagName.resolve? (handles : Handles) (name : TagName) : Option Address :=
  if name.handle.isEmpty then some name.suffix
  else (handles.lookup name.handle).map fun target => target.append name.suffix

def readProperties (handles : Handles) : List Token → Option (Properties × List Token)
  | .anchor anchor :: .tag name :: rest =>
      (name.resolve? handles).map fun tag => (⟨some anchor, some tag⟩, rest)
  | .tag name :: .anchor anchor :: rest =>
      (name.resolve? handles).map fun tag => (⟨some anchor, some tag⟩, rest)
  | .anchor anchor :: rest => some (⟨some anchor, none⟩, rest)
  | .tag name :: rest => (name.resolve? handles).map fun tag => (⟨none, some tag⟩, rest)
  | tokens => some ({}, tokens)

/-- Reads a comma, except before the first part of a bracketed collection. -/
def readSeparator (first : Bool) : List Token → Option (List Token)
  | .comma :: rest => if first then some (.comma :: rest) else some rest
  | tokens => if first then some tokens else none

mutual

/-- Reads a node. Blocks are allowed outside of brackets only; a sequence without indentation of
its own is allowed as part of an entry. -/
def readNode (handles : Handles) : Nat → Bool → Bool → Feed → Option (Node × Feed)
  | 0, _, _, _ => none
  | fuel + 1, block, flush, feed =>
      match feed.tokens with
      | .reference name :: rest =>
          (feed.anchors.lookup name).map fun number => (.reference number, feed.resume rest)
      | tokens =>
          match readProperties handles tokens with
          | none => none
          | some (properties, tokens) =>
              let sequence := (feed.resume (tokens.drop 1)).mark properties (.sequence [])
              let mapping := (feed.resume (tokens.drop 1)).mark properties (.mapping [])
              let missing : Option (Node × Feed) :=
                if properties == {} then none
                else
                  let node := Node.scalar ⟨.plain, "", properties.tag.join⟩
                  some (node, (feed.resume tokens).mark properties node)
              match tokens with
              | .scalar style text :: rest =>
                  let node := Node.scalar ⟨style, text, properties.tag.join⟩
                  some (node, (feed.resume rest).mark properties node)
              | .openBracket :: _ => readItems handles fuel true [] sequence
              | .openBrace :: _ => readEntries handles fuel true [] mapping
              | .dash :: _ =>
                  if flush then readFlushItems handles fuel [] (sequence.resume tokens) else missing
              | .blockSequence :: _ =>
                  if block then readBlockItems handles fuel [] sequence else missing
              | .blockMapping :: _ =>
                  if block then readBlockEntries handles fuel [] mapping else missing
              | _ => missing

def readOptional (handles : Handles) :
    Nat → Bool → Bool → List Token → Feed → Option (Node × Feed)
  | 0, _, _, _, _ => none
  | fuel + 1, block, flush, stops, feed =>
      if (feed.tokens.head?.map stops.contains) == some true then some (Node.empty, feed)
      else readNode handles fuel block flush feed

/-- Reads the items of a block sequence; those read so far come last first. -/
def readBlockItems (handles : Handles) : Nat → List Node → Feed → Option (Node × Feed)
  | 0, _, _ => none
  | fuel + 1, items, feed =>
      match feed.tokens with
      | .dash :: rest =>
          match readOptional handles fuel true false [.dash, .blockEnd] (feed.resume rest) with
          | some (item, next) => readBlockItems handles fuel (item :: items) next
          | none => none
      | .blockEnd :: rest => some (.sequence items.reverse, feed.resume rest)
      | _ => none

def readFlushItems (handles : Handles) : Nat → List Node → Feed → Option (Node × Feed)
  | 0, _, _ => none
  | fuel + 1, items, feed =>
      match feed.tokens with
      | .dash :: rest =>
          match readOptional handles fuel true false [.dash, .key, .value, .blockEnd]
            (feed.resume rest) with
          | some (item, next) => readFlushItems handles fuel (item :: items) next
          | none => none
      | _ => some (.sequence items.reverse, feed)

/-- Reads the value of an entry that has been named by a key; without a colon it has none. -/
def readValue (handles : Handles) :
    Nat → Bool → List Token → Feed → Option (Node × Feed)
  | 0, _, _, _ => none
  | fuel + 1, block, stops, feed =>
      match feed.tokens with
      | .value :: rest => readOptional handles fuel block block stops (feed.resume rest)
      | _ => some (Node.empty, feed)

def readBlockEntries (handles : Handles) :
    Nat → List (Node × Node) → Feed → Option (Node × Feed)
  | 0, _, _ => none
  | fuel + 1, entries, feed =>
      match feed.tokens with
      | .key :: rest =>
          let stops : List Token := [.key, .value, .blockEnd]
          match readOptional handles fuel true true stops (feed.resume rest) with
          | none => none
          | some (key, next) =>
              match readValue handles fuel true stops next with
              | some (value, next) => readBlockEntries handles fuel ((key, value) :: entries) next
              | none => none
      | .blockEnd :: rest => some (.mapping entries.reverse, feed.resume rest)
      | _ => none

/-- Reads an item that is an entry of its own. What stands in the place of a missing key is passed
over with it. -/
def readPair (handles : Handles) : Nat → Feed → Option (Node × Feed)
  | 0, _ => none
  | fuel + 1, feed =>
      let stops : List Token := [.value, .comma, .closeBracket]
      match readOptional handles fuel false false stops feed with
      | none => none
      | some (key, next) =>
          let missing := (feed.tokens.head?.map stops.contains) == some true
          let next := if missing then next.resume (next.tokens.drop 1) else next
          (readValue handles fuel false [.comma, .closeBracket] next).map fun (value, next) =>
            (.mapping [(key, value)], next)

def readItems (handles : Handles) : Nat → Bool → List Node → Feed → Option (Node × Feed)
  | 0, _, _, _ => none
  | fuel + 1, first, items, feed =>
      match feed.tokens with
      | .closeBracket :: rest => some (.sequence items.reverse, feed.resume rest)
      | tokens =>
          match readSeparator first tokens with
          | none => none
          | some (.closeBracket :: rest) => some (.sequence items.reverse, feed.resume rest)
          | some tokens =>
              let read := match tokens with
                | .key :: rest => readPair handles fuel (feed.resume rest)
                | _ => readNode handles fuel false false (feed.resume tokens)
              match read with
              | some (item, next) => readItems handles fuel false (item :: items) next
              | none => none

/-- Reads the entries up to a closing brace; those read so far come last first. What is no key is
an entry without a value. -/
def readEntries (handles : Handles) :
    Nat → Bool → List (Node × Node) → Feed → Option (Node × Feed)
  | 0, _, _, _ => none
  | fuel + 1, first, entries, feed =>
      match feed.tokens with
      | .closeBrace :: rest => some (.mapping entries.reverse, feed.resume rest)
      | tokens =>
          match readSeparator first tokens with
          | none => none
          | some (.closeBrace :: rest) => some (.mapping entries.reverse, feed.resume rest)
          | some (.key :: rest) =>
              match readOptional handles fuel false false [.value, .comma, .closeBrace]
                (feed.resume rest) with
              | none => none
              | some (key, next) =>
                  match readValue handles fuel false [.comma, .closeBrace] next with
                  | some (value, next) =>
                      readEntries handles fuel false ((key, value) :: entries) next
                  | none => none
          | some tokens =>
              match readNode handles fuel false false (feed.resume tokens) with
              | some (key, next) =>
                  readEntries handles fuel false ((key, Node.empty) :: entries) next
              | none => none

end

structure Prologue where
  hasVersion : Bool := false
  handles : Handles := []
  deriving DecidableEq, Repr

/-- Adds a directive. There is one version at most, 1.1 or 1.2, and one target for a handle. -/
def Prologue.add (prologue : Prologue) : Directive → Option Prologue
  | .version major minor =>
      if prologue.hasVersion || major != 1 || !(minor == 1 || minor == 2) then none
      else some { prologue with hasVersion := true }
  | .handle handle target =>
      if (prologue.handles.lookup handle).isSome then none
      else some { prologue with handles := (handle, target) :: prologue.handles }

def readPrologue (prologue : Prologue) : List Token → Option (Prologue × List Token)
  | .directive directive :: rest =>
      match prologue.add directive with
      | some larger => readPrologue larger rest
      | none => none
  | tokens => some (prologue, tokens)

def endsDocument : List Token → Bool
  | [] => true
  | .directive _ :: _ => true
  | token :: _ => token == .documentStart || token == .documentEnd

structure Document where
  root : Node
  marked : List (Nat × Node) := []
  deriving Repr

def Document.follow (document : Document) : Node → Node
  | .reference number => (document.marked.lookup number).getD (.reference number)
  | node => node

/-- Reads the first document. Only the start marker may follow directives; without either of them
the document needs content, unless the text has none at all. -/
def readDocument (tokens : List Token) : Option (Document × List Token) :=
  match readPrologue {} tokens with
  | none => none
  | some (prologue, rest) =>
      let read (tokens : List Token) : Option (Document × List Token) :=
        (readNode (prologue.handles ++ standardHandles) (4 * tokens.length + 4) true false
          { tokens := tokens }).map fun (node, feed) => (⟨node, feed.marked⟩, feed.tokens)
      match rest with
      | .documentStart :: content =>
          if endsDocument content then some (⟨Node.empty, []⟩, content) else read content
      | _ =>
          if tokens.isEmpty then some (⟨Node.empty, []⟩, [])
          else if tokens == rest then read rest
          else none

def Document.ofText? (text : String) : Option Document :=
  match (Token.ofText? text).bind readDocument with
  | some (document, rest) => if rest.all (· == .documentEnd) then some document else none
  | none => none

end Yaml

end InterfaceSchema
