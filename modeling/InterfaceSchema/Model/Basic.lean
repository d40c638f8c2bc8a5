import InterfaceSchema.Attachment
import InterfaceSchema.Bitflag.Resolve
import InterfaceSchema.Numbering
import InterfaceSchema.Reference.Resolve

/-!
The resolved model: merged declarations by kind, the names of all types, the references with their
targets and the attachments of structs. Questions are asked by name and answered from the first
declaration that holds it.
-/

namespace InterfaceSchema

set_option autoImplicit false

structure ResolvedConstant where
  name : String
  doc : String
  value : Literal
  /-- The number meant, unless what is written is invalid. -/
  resolved : Option UInt64
  deriving DecidableEq, Repr

structure Model where
  name : String
  copyright : String
  declared : Universe
  constants : List ResolvedConstant
  typedefs : List TypedefDecl
  enums : List ResolvedEnum
  bitflags : List ResolvedBitflag
  callbacks : List CallbackDecl
  structs : List StructDecl
  functions : List FunctionDecl
  objects : List ObjectDecl
  references : List Reference
  attachments : Attachments
  /-- Whether type strings are classified with their qualified forms. -/
  qualified : Bool
  deriving DecidableEq, Repr

inductive Declaration where
  | primitive (literal : Primitive)
  | typedef (decl : TypedefDecl)
  | enum (decl : ResolvedEnum)
  | bitflag (decl : ResolvedBitflag)
  | callback (decl : CallbackDecl)
  | struct (decl : StructDecl)
  | object (decl : ObjectDecl)
  deriving DecidableEq, Repr

namespace Declaration

def kind? : Declaration → Option TypeKind
  | primitive _ => none
  | typedef _ => some .typedef
  | enum _ => some .enum
  | bitflag _ => some .bitflag
  | callback _ => some .callback
  | struct _ => some .struct
  | object _ => some .object

end Declaration

/-- What several declarations of one name contribute together. -/
inductive MergedEntries where
  | slots (entries : List ResolvedSlot)
  | masks (entries : List ResolvedMask)
  | methods (entries : List FunctionDecl)
  deriving DecidableEq, Repr

namespace MergedEntries

/-- The names in order; a gap has none. -/
def names : MergedEntries → List String
  | slots entries => entries.filterMap ResolvedSlot.name
  | masks entries => entries.map ResolvedMask.name
  | methods entries => entries.map FunctionDecl.name

def size : MergedEntries → Nat
  | slots entries => entries.length
  | masks entries => entries.length
  | methods entries => entries.length

end MergedEntries

namespace Model

def declaration? (model : Model) (decl : DeclRef) : Option Declaration :=
  match decl.kind with
  | .typedef => model.typedefs[decl.index]?.map .typedef
  | .enum => model.enums[decl.index]?.map .enum
  | .bitflag => model.bitflags[decl.index]?.map .bitflag
  | .callback => model.callbacks[decl.index]?.map .callback
  | .struct => model.structs[decl.index]?.map .struct
  | .object => model.objects[decl.index]?.map .object

/-- A primitive literal stands for itself, every other name for its declaration. -/
def lookup (model : Model) (name : String) : Option Declaration :=
  match Primitive.parse? name with
  | some literal => some (.primitive literal)
  | none => (model.declared.get? name).bind model.declaration?

/-- The meaning of a type string, by the rules that the references were resolved by. -/
def classify (model : Model) (type : String) : Option TypeTarget :=
  (Classification.ofType model.declared model.qualified type).target?

def structIndex? (model : Model) (name : String) : Option Nat :=
  (model.declared.get? name).bind fun decl =>
    if decl.kind = .struct then some decl.index else none

def members? (model : Model) (struct : String) : Option (List Parameter) :=
  (model.structIndex? struct).bind fun index =>
    model.structs[index]?.map StructDecl.members

def bitflag? (model : Model) (name : String) : Option ResolvedBitflag :=
  match model.lookup name with
  | some (.bitflag decl) => some decl
  | _ => none

def enum? (model : Model) (name : String) : Option ResolvedEnum :=
  match model.lookup name with
  | some (.enum decl) => some decl
  | _ => none

def maskValue? (model : Model) (bitflag entry : String) : Option UInt64 :=
  (model.bitflag? bitflag).bind fun decl => decl.valueOf? entry

def mergedEntries? (model : Model) (name : String) : Option MergedEntries :=
  match model.lookup name with
  | some (.enum decl) => some (.slots decl.slots)
  | some (.bitflag decl) => some (.masks decl.masks)
  | some (.object decl) => some (.methods decl.methods)
  | _ => none

def constantValue? (model : Model) (name : String) : Option UInt64 :=
  (model.constants.find? fun constant => constant.name == name).bind ResolvedConstant.resolved

def enumSlot? (model : Model) (enum entry : String) : Option ResolvedSlot :=
  (model.enum? enum).bind fun decl => decl.entry? entry

def enumValue? (model : Model) (enum entry : String) : Option UInt16 :=
  (model.enumSlot? enum entry).bind ResolvedSlot.value

def qualifiedEnumValue? (model : Model) (enum entry : String) : Option UInt32 :=
  (model.enumSlot? enum entry).bind ResolvedSlot.qualified

def structNames (model : Model) (indices : List Nat) : List String :=
  indices.filterMap fun index => model.structs[index]?.map StructDecl.name

def legalBases (model : Model) (extension : String) : List String :=
  match model.structIndex? extension with
  | some index => model.structNames (model.attachments.basesOf index)
  | none => []

def chainableExtensions (model : Model) (base : String) : List String :=
  match model.structIndex? base with
  | some index => model.structNames (model.attachments.extensionsOf index)
  | none => []

end Model

end InterfaceSchema
