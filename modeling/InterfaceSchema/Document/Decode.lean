import InterfaceSchema.Document.Basic
import InterfaceSchema.Json.Shape
import InterfaceSchema.Primitive

/-!
Reading a document from its JSON form. Each record names its fields in their fixed order, judges
all values that are written, and only then asks for the fields that may not be left out.
-/

namespace InterfaceSchema

set_option autoImplicit false

open WrittenRecord (problem)

def CallbackStyle.ofJson : Json → Except ShapeError CallbackStyle := Json.readVariant all text

def Ownership.ofJson : Json → Except ShapeError Ownership := Json.readVariant all text

def Pointer.ofJson : Json → Except ShapeError Pointer := Json.readVariant all text

def StructRole.ofJson : Json → Except ShapeError StructRole := Json.readVariant all text

def Primitive.ofJson : Json → Except ShapeError Primitive := Json.readVariant all text

def MaxSymbol.ofJson : Json → Except ShapeError MaxSymbol := Json.readVariant all text

/-- An integer that fits an unsigned word is taken as one, else as a signed word, else the value
has to name a symbol. Whatever fails, the answer is the same. -/
def Literal.ofJson : Json → Except ShapeError Literal
  | .integer value =>
      if 0 ≤ value ∧ value < UInt64.size then .ok (unsigned (UInt64.ofNat value.toNat))
      else if Int64.minValue.toInt ≤ value ∧ value < 0 then .ok (signed (Int64.ofInt value))
      else .error .notLiteral
  | other =>
      match MaxSymbol.ofJson other with
      | .ok name => .ok (symbol name)
      | .error _ => .error .notLiteral

def ConstantDecl.ofJson (json : Json) : Except ShapeError ConstantDecl := do
  let written ← WrittenRecord.ofJson "Constant" ["name", "value", "doc"] json
  let name := written.field "name" Json.readText
  let value := written.field "value" Literal.ofJson
  let doc := written.field "doc" Json.readText
  written.check [("name", problem name), ("value", problem value), ("doc", problem doc)]
  return {
    name := ← written.require "name" name
    value := ← written.require "value" value
    doc := (← doc).getD "" }

def TypedefDecl.ofJson (json : Json) : Except ShapeError TypedefDecl := do
  let written ← WrittenRecord.ofJson "Typedef" ["name", "doc", "type"] json
  let name := written.field "name" Json.readText
  let doc := written.field "doc" Json.readText
  let target := written.field "type" Json.readText
  written.check [("name", problem name), ("doc", problem doc), ("type", problem target)]
  return {
    name := ← written.require "name" name
    doc := (← doc).getD ""
    target := ← written.require "type" target }

def EnumEntry.ofJson (json : Json) : Except ShapeError EnumEntry := do
  let written ← WrittenRecord.ofJson "EnumEntry" ["name", "doc", "value"] json
  let name := written.field "name" Json.readText
  let doc := written.field "doc" Json.readText
  let value := written.field "value" (Json.readOption Json.readInt64)
  written.check [("name", problem name), ("doc", problem doc), ("value", problem value)]
  return {
    name := ← written.require "name" name
    doc := (← doc).getD ""
    value := (← value).join }

def EnumDecl.ofJson (json : Json) : Except ShapeError EnumDecl := do
  let written ← WrittenRecord.ofJson "Enum" ["name", "doc", "extended", "entries"] json
  let name := written.field "name" Json.readText
  let doc := written.field "doc" Json.readText
  let extended := written.field "extended" Json.readBool
  let slots := written.field "entries" (Json.readList (Json.readOption EnumEntry.ofJson))
  written.check [("name", problem name), ("doc", problem doc), ("extended", problem extended),
    ("entries", problem slots)]
  return {
    name := ← written.require "name" name
    doc := (← doc).getD ""
    extended := (← extended).getD false
    slots := (← slots).getD [] }

def BitflagEntry.ofJson (json : Json) : Except ShapeError BitflagEntry := do
  let written ←
    WrittenRecord.ofJson "BitflagEntry" ["name", "doc", "value", "value_combination"] json
  let name := written.field "name" Json.readText
  let doc := written.field "doc" Json.readText
  let value := written.field "value" (Json.readOption Literal.ofJson)
  let combination :=
    written.field "value_combination" (Json.readOption (Json.readList Json.readText))
  written.check [("name", problem name), ("doc", problem doc), ("value", problem value),
    ("value_combination", problem combination)]
  return {
    name := ← written.require "name" name
    doc := (← doc).getD ""
    value := (← value).join
    combination := (← combination).join }

def BitflagDecl.ofJson (json : Json) : Except ShapeError BitflagDecl := do
  let written ← WrittenRecord.ofJson "Bitflag" ["name", "doc", "extended", "entries"] json
  let name := written.field "name" Json.readText
  let doc := written.field "doc" Json.readText
  let extended := written.field "extended" Json.readBool
  let entries := written.field "entries" (Json.readList BitflagEntry.ofJson)
  written.check [("name", problem name), ("doc", problem doc), ("extended", problem extended),
    ("entries", problem entries)]
  return {
    name := ← written.require "name" name
    doc := (← doc).getD ""
    extended := (← extended).getD false
    entries := (← entries).getD [] }

def Parameter.ofJson (json : Json) : Except ShapeError Parameter := do
  let written ← WrittenRecord.ofJson "ParameterType"
    ["name", "doc", "type", "ownership", "pointer", "optional", "namespace"] json
  let name := written.field "name" Json.readText
  let doc := written.field "doc" Json.readText
  let type := written.field "type" Json.readText
  let ownership := written.field "ownership" (Json.readOption Ownership.ofJson)
  let pointer := written.field "pointer" (Json.readOption Pointer.ofJson)
  let optional := written.field "optional" Json.readBool
  let space := written.field "namespace" (Json.readOption Json.readText)
  written.check [("name", problem name), ("doc", problem doc), ("type", problem type),
    ("ownership", problem ownership), ("pointer", problem pointer),
    ("optional", problem optional), ("namespace", problem space)]
  return {
    name := ← written.require "name" name
    doc := (← doc).getD ""
    type := ← written.require "type" type
    ownership := (← ownership).join
    pointer := (← pointer).join
    optional := (← optional).getD false
    space := (← space).join }

def CallbackDecl.ofJson (json : Json) : Except ShapeError CallbackDecl := do
  let written ← WrittenRecord.ofJson "Callback" ["name", "doc", "style", "args"] json
  let name := written.field "name" Json.readText
  let doc := written.field "doc" Json.readText
  let style := written.field "style" CallbackStyle.ofJson
  let arguments := written.field "args" (Json.readList Parameter.ofJson)
  written.check [("name", problem name), ("doc", problem doc), ("style", problem style),
    ("args", problem arguments)]
  return {
    name := ← written.require "name" name
    doc := (← doc).getD ""
    style := (← style).getD .callbackMode
    arguments := (← arguments).getD [] }

def StructDecl.ofJson (json : Json) : Except ShapeError StructDecl := do
  let written ← WrittenRecord.ofJson "Struct"
    ["name", "doc", "type", "extends", "free_members", "members"] json
  let name := written.field "name" Json.readText
  let doc := written.field "doc" Json.readText
  let role := written.field "type" StructRole.ofJson
  let bases := written.field "extends" (Json.readList Json.readText)
  let freeMembers := written.field "free_members" Json.readBool
  let members := written.field "members" (Json.readList Parameter.ofJson)
  written.check [("name", problem name), ("doc", problem doc), ("type", problem role),
    ("extends", problem bases), ("free_members", problem freeMembers),
    ("members", problem members)]
  return {
    name := ← written.require "name" name
    doc := (← doc).getD ""
    role := ← written.require "type" role
    bases := (← bases).getD []
    freeMembers := (← freeMembers).getD false
    members := (← members).getD [] }

def ReturnValue.ofJson (json : Json) : Except ShapeError ReturnValue := do
  let written ← WrittenRecord.ofJson "FunctionReturn"
    ["doc", "type", "passed_with_ownership", "pointer"] json
  let doc := written.field "doc" Json.readText
  let type := written.field "type" Json.readText
  let passesOwnership := written.field "passed_with_ownership" (Json.readOption Json.readBool)
  let pointer := written.field "pointer" (Json.readOption Pointer.ofJson)
  written.check [("doc", problem doc), ("type", problem type),
    ("passed_with_ownership", problem passesOwnership), ("pointer", problem pointer)]
  return {
    doc := (← doc).getD ""
    type := ← written.require "type" type
    passesOwnership := (← passesOwnership).join
    pointer := (← pointer).join }

def FunctionDecl.ofJson (json : Json) : Except ShapeError FunctionDecl := do
  let written ← WrittenRecord.ofJson "Function" ["name", "doc", "returns", "callback", "args"] json
  let name := written.field "name" Json.readText
  let doc := written.field "doc" Json.readText
  let returns := written.field "returns" (Json.readOption ReturnValue.ofJson)
  let completion := written.field "callback" (Json.readOption Json.readText)
  let arguments := written.field "args" (Json.readList Parameter.ofJson)
  written.check [("name", problem name), ("doc", problem doc), ("returns", problem returns),
    ("callback", problem completion), ("args", problem arguments)]
  return {
    name := ← written.require "name" name
    doc := (← doc).getD ""
    returns := (← returns).join
    completion := (← completion).join
    arguments := (← arguments).getD [] }

def ObjectDecl.ofJson (json : Json) : Except ShapeError ObjectDecl := do
  let written ← WrittenRecord.ofJson "Object"
    ["name", "doc", "extended", "namespace", "methods"] json
  let name := written.field "name" Json.readText
  let doc := written.field "doc" Json.readText
  let extended := written.field "extended" Json.readBool
  let space := written.field "namespace" (Json.readOption Json.readText)
  let methods := written.field "methods" (Json.readList FunctionDecl.ofJson)
  written.check [("name", problem name), ("doc", problem doc), ("extended", problem extended),
    ("namespace", problem space), ("methods", problem methods)]
  return {
    name := ← written.require "name" name
    doc := (← doc).getD ""
    extended := (← extended).getD false
    space := (← space).join
    methods := (← methods).getD [] }

def Document.ofJson (json : Json) : Except ShapeError Document := do
  let written ← WrittenRecord.ofJson "Schema"
    ["copyright", "name", "enum_prefix", "constants", "typedefs", "enums", "bitflags", "callbacks",
      "structs", "functions", "objects"] json
  let copyright := written.field "copyright" Json.readText
  let name := written.field "name" Json.readText
  let block := written.field "enum_prefix" Json.readText
  let constants := written.field "constants" (Json.readList ConstantDecl.ofJson)
  let typedefs := written.field "typedefs" (Json.readList TypedefDecl.ofJson)
  let enums := written.field "enums" (Json.readList EnumDecl.ofJson)
  let bitflags := written.field "bitflags" (Json.readList BitflagDecl.ofJson)
  let callbacks := written.field "callbacks" (Json.readList CallbackDecl.ofJson)
  let structs := written.field "structs" (Json.readList StructDecl.ofJson)
  let functions := written.field "functions" (Json.readList FunctionDecl.ofJson)
  let objects := written.field "objects" (Json.readList ObjectDecl.ofJson)
  written.check [("copyright", problem copyright), ("name", problem name),
    ("enum_prefix", problem block), ("constants", problem constants),
    ("typedefs", problem typedefs), ("enums", problem enums), ("bitflags", problem bitflags),
    ("callbacks", problem callbacks), ("structs", problem structs),
    ("functions", problem functions), ("objects", problem objects)]
  return {
    copyright := (← copyright).getD ""
    name := ← written.require "name" name
    block := ← written.require "enum_prefix" block
    constants := (← constants).getD []
    typedefs := (← typedefs).getD []
    enums := (← enums).getD []
    bitflags := (← bitflags).getD []
    callbacks := (← callbacks).getD []
    structs := (← structs).getD []
    functions := (← functions).getD []
    objects := (← objects).getD [] }

end InterfaceSchema
