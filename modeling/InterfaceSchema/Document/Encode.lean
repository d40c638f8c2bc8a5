import InterfaceSchema.Document.Basic
import InterfaceSchema.Json.Basic

/-!
The JSON form of a document. Every field is written in its fixed order, defaults included; only an
absent optional field is left out.
-/

namespace InterfaceSchema

set_option autoImplicit false

namespace Json

def optionalMember {α : Type} (key : String) (encode : α → Json) :
    Option α → List (String × Json)
  | some value => [(key, encode value)]
  | none => []

def ofList {α : Type} (encode : α → Json) (values : List α) : Json := array (values.map encode)

end Json

def Literal.toJson : Literal → Json
  | unsigned value => .integer value.toNat
  | signed value => .integer value.toInt
  | symbol name => .string name.text

def ConstantDecl.toJson (decl : ConstantDecl) : Json :=
  .object [("name", .string decl.name), ("value", decl.value.toJson), ("doc", .string decl.doc)]

def TypedefDecl.toJson (decl : TypedefDecl) : Json :=
  .object [("name", .string decl.name), ("doc", .string decl.doc), ("type", .string decl.target)]

def EnumEntry.toJson (entry : EnumEntry) : Json :=
  .object ([("name", .string entry.name), ("doc", .string entry.doc)] ++
    Json.optionalMember "value" (fun (value : Int64) => .integer value.toInt) entry.value)

/-- A gap is written as null. -/
def EnumEntry.slotToJson : Option EnumEntry → Json
  | some entry => entry.toJson
  | none => .null

def EnumDecl.toJson (decl : EnumDecl) : Json :=
  .object [("name", .string decl.name), ("doc", .string decl.doc),
    ("extended", .bool decl.extended), ("entries", Json.ofList EnumEntry.slotToJson decl.slots)]

def BitflagEntry.toJson (entry : BitflagEntry) : Json :=
  .object ([("name", .string entry.name), ("doc", .string entry.doc)] ++
    Json.optionalMember "value" Literal.toJson entry.value ++
    Json.optionalMember "value_combination" Json.ofTexts entry.combination)

def BitflagDecl.toJson (decl : BitflagDecl) : Json :=
  .object [("name", .string decl.name), ("doc", .string decl.doc),
    ("extended", .bool decl.extended), ("entries", Json.ofList BitflagEntry.toJson decl.entries)]

def Parameter.toJson (parameter : Parameter) : Json :=
  .object ([("name", .string parameter.name), ("doc", .string parameter.doc),
      ("type", .string parameter.type)] ++
    Json.optionalMember "ownership" (fun value => .string value.text) parameter.ownership ++
    Json.optionalMember "pointer" (fun value => .string value.text) parameter.pointer ++
    [("optional", .bool parameter.optional)] ++
    Json.optionalMember "namespace" Json.string parameter.space)

def CallbackDecl.toJson (decl : CallbackDecl) : Json :=
  .object [("name", .string decl.name), ("doc", .string decl.doc),
    ("style", .string decl.style.text), ("args", Json.ofList Parameter.toJson decl.arguments)]

def StructDecl.toJson (decl : StructDecl) : Json :=
  .object [("name", .string decl.name), ("doc", .string decl.doc),
    ("type", .string decl.role.text), ("extends", Json.ofTexts decl.bases),
    ("free_members", .bool decl.freeMembers),
    ("members", Json.ofList Parameter.toJson decl.members)]

def ReturnValue.toJson (value : ReturnValue) : Json :=
  .object ([("doc", .string value.doc), ("type", .string value.type)] ++
    Json.optionalMember "passed_with_ownership" Json.bool value.passesOwnership ++
    Json.optionalMember "pointer" (fun pointer => .string pointer.text) value.pointer)

def FunctionDecl.toJson (decl : FunctionDecl) : Json :=
  .object ([("name", .string decl.name), ("doc", .string decl.doc)] ++
    Json.optionalMember "returns" ReturnValue.toJson decl.returns ++
    Json.optionalMember "callback" Json.string decl.completion ++
    [("args", Json.ofList Parameter.toJson decl.arguments)])

def ObjectDecl.toJson (decl : ObjectDecl) : Json :=
  .object ([("name", .string decl.name), ("doc", .string decl.doc),
      ("extended", .bool decl.extended)] ++
    Json.optionalMember "namespace" Json.string decl.space ++
    [("methods", Json.ofList FunctionDecl.toJson decl.methods)])

def Document.toJson (document : Document) : Json :=
  .object [("copyright", .string document.copyright), ("name", .string document.name),
    ("enum_prefix", .string document.block),
    ("constants", Json.ofList ConstantDecl.toJson document.constants),
    ("typedefs", Json.ofList TypedefDecl.toJson document.typedefs),
    ("enums", Json.ofList EnumDecl.toJson document.enums),
    ("bitflags", Json.ofList BitflagDecl.toJson document.bitflags),
    ("callbacks", Json.ofList CallbackDecl.toJson document.callbacks),
    ("structs", Json.ofList StructDecl.toJson document.structs),
    ("functions", Json.ofList FunctionDecl.toJson document.functions),
    ("objects", Json.ofList ObjectDecl.toJson document.objects)]

end InterfaceSchema
