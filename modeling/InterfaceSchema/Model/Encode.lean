import InterfaceSchema.Document.Encode
import InterfaceSchema.Json.Printer
import InterfaceSchema.Model.Basic

/-!
The JSON form of a model. Every field is written; what could not be resolved is null.
-/

namespace InterfaceSchema

set_option autoImplicit false

def DeclRef.toJson (decl : DeclRef) : Json :=
  .object [("kind", .string decl.kind.text), ("index", .integer decl.index)]

def TypeTarget.toJson : TypeTarget → Json
  | primitive literal => .object [("primitive", .string literal.text)]
  | declared decl => .object [("declared", decl.toJson)]
  | arrayOf item => .object [("array_of", item.toJson)]

def Universe.toJson (declared : Universe) : Json :=
  .object [("names", .object (declared.entries.map fun (name, decl) => (name, decl.toJson)))]

def ResolvedConstant.toJson (constant : ResolvedConstant) : Json :=
  .object [("name", .string constant.name), ("doc", .string constant.doc),
    ("value", constant.value.toJson),
    ("resolved", Json.ofNat? (constant.resolved.map UInt64.toNat))]

def ResolvedSlot.toJson (slot : ResolvedSlot) : Json :=
  .object [("name", Json.ofText? slot.name), ("doc", .string slot.doc),
    ("value", Json.ofNat? (slot.value.map UInt16.toNat)),
    ("qualified_value", Json.ofNat? (slot.qualified.map UInt32.toNat))]

def ResolvedEnum.toJson (enum : ResolvedEnum) : Json :=
  .object [("name", .string enum.name), ("doc", .string enum.doc),
    ("entries", Json.ofList ResolvedSlot.toJson enum.slots)]

def ResolvedMask.toJson (mask : ResolvedMask) : Json :=
  .object [("name", .string mask.name), ("doc", .string mask.doc),
    ("value", Json.ofNat? (mask.value.map UInt64.toNat)),
    ("combination", Json.ofTexts mask.combination)]

def ResolvedBitflag.toJson (bitflag : ResolvedBitflag) : Json :=
  .object [("name", .string bitflag.name), ("doc", .string bitflag.doc),
    ("entries", Json.ofList ResolvedMask.toJson bitflag.masks)]

def Reference.toJson (reference : Reference) : Json :=
  .object [("site", .string reference.site), ("type_name", .string reference.type),
    ("target", reference.target.toJson)]

def Attachments.toJson (attachments : Attachments) : Json :=
  .object [("bases", Json.ofList (Json.ofList Json.ofNat) attachments.bases),
    ("extensions", Json.ofList (Json.ofList Json.ofNat) attachments.extensions)]

def Declaration.toJson : Declaration → Json
  | primitive literal => .string literal.text
  | typedef decl => decl.toJson
  | enum decl => decl.toJson
  | bitflag decl => decl.toJson
  | callback decl => decl.toJson
  | struct decl => decl.toJson
  | object decl => decl.toJson

def Model.toJson (model : Model) : Json :=
  .object [("name", .string model.name), ("copyright", .string model.copyright),
    ("universe", model.declared.toJson),
    ("constants", Json.ofList ResolvedConstant.toJson model.constants),
    ("typedefs", Json.ofList TypedefDecl.toJson model.typedefs),
    ("enums", Json.ofList ResolvedEnum.toJson model.enums),
    ("bitflags", Json.ofList ResolvedBitflag.toJson model.bitflags),
    ("callbacks", Json.ofList CallbackDecl.toJson model.callbacks),
    ("structs", Json.ofList StructDecl.toJson model.structs),
    ("functions", Json.ofList FunctionDecl.toJson model.functions),
    ("objects", Json.ofList ObjectDecl.toJson model.objects),
    ("references", Json.ofList Reference.toJson model.references),
    ("chains", model.attachments.toJson)]

def Model.snapshot (model : Model) : String := model.toJson.pretty

end InterfaceSchema
