import InterfaceSchema.Model.Basic

/-!
Resolution of an ordered list of documents. Every stage works with what the stages before it could
resolve and tells its problems on its own; the report is the problems of all stages, one after the
other.
-/

namespace InterfaceSchema

set_option autoImplicit false

/-- The documents of a run as the stages see them: same-named enums, bit mask sets and objects in
groups, everything else in the order in which it is written. -/
structure Declared where
  blocks : List (Option UInt16)
  enums : List (Group EnumDecl)
  bitflags : List (Group BitflagDecl)
  objectGroups : List (Group ObjectDecl)
  constants : List ConstantDecl
  typedefs : List TypedefDecl
  callbacks : List CallbackDecl
  structs : List StructDecl
  functions : List FunctionDecl
  deriving DecidableEq, Repr

namespace Declared

def located {α : Type} (select : Document → List α) (documents : List Document) :
    List (Located α) :=
  documents.zipIdx.flatMap fun (document, fragment) =>
    (select document).map fun decl => ⟨fragment, decl⟩

def ofDocuments (documents : List Document) : Declared :=
  { blocks := documents.map fun document => EnumBlock.parse? document.block
    enums := Group.gather (located Document.enums documents)
    bitflags := Group.gather (located Document.bitflags documents)
    objectGroups := Group.gather (located Document.objects documents)
    constants := documents.flatMap Document.constants
    typedefs := documents.flatMap Document.typedefs
    callbacks := documents.flatMap Document.callbacks
    structs := documents.flatMap Document.structs
    functions := documents.flatMap Document.functions }

def objects (declared : Declared) : List ObjectDecl := declared.objectGroups.map ObjectDecl.merge

/-- The names of all types in the order of their registration: kind by kind. -/
def typeNames (declared : Declared) : List (String × DeclRef) :=
  Universe.declarations .typedef (declared.typedefs.map TypedefDecl.name) ++
    Universe.declarations .enum (declared.enums.map Group.name) ++
    Universe.declarations .bitflag (declared.bitflags.map Group.name) ++
    Universe.declarations .callback (declared.callbacks.map CallbackDecl.name) ++
    Universe.declarations .struct (declared.structs.map StructDecl.name) ++
    Universe.declarations .object (declared.objects.map ObjectDecl.name)

def typeFields (declared : Declared) : List TypeField :=
  TypeField.all declared.typedefs declared.callbacks declared.structs declared.functions
    declared.objects

end Declared

namespace Resolver

def blockProblems (documents : List Document) : List Problem :=
  (documents.filter fun document => (EnumBlock.parse? document.block).isNone).map fun document =>
    .invalidEnumBlock document.name document.block

def mergeProblems (declared : Declared) : List Problem :=
  declared.enums.flatMap Group.problems ++ declared.bitflags.flatMap Group.problems ++
    declared.objectGroups.flatMap Group.problems

def argumentProblems (scope : String) (arguments : List Parameter) : List Problem :=
  Uniqueness.problems .argument (some scope) (arguments.map Parameter.name)

/-- Names used twice in an object: its methods, then the arguments of each method. -/
def objectNameProblems (object : ObjectDecl) : List Problem :=
  Uniqueness.problems .method (some object.name) (object.methods.map FunctionDecl.name) ++
    object.methods.flatMap fun method =>
      argumentProblems (object.name ++ "." ++ method.name) method.arguments

/-- Names used twice in one scope, apart from the names of types. -/
def nameProblems (declared : Declared) : List Problem :=
  Uniqueness.problems .constant none (declared.constants.map ConstantDecl.name) ++
    Uniqueness.problems .function none (declared.functions.map FunctionDecl.name) ++
    declared.callbacks.flatMap (fun callback =>
      argumentProblems callback.name callback.arguments) ++
    declared.structs.flatMap (fun struct =>
      Uniqueness.problems .member (some struct.name) (struct.members.map Parameter.name)) ++
    declared.functions.flatMap (fun function =>
      argumentProblems function.name function.arguments) ++
    declared.objects.flatMap objectNameProblems

def resolveConstant (pointerWidth : UInt32) (constant : ConstantDecl) : ResolvedConstant :=
  { name := constant.name
    doc := constant.doc
    value := constant.value
    resolved := (constant.value.resolve pointerWidth).toOption }

def constantProblems (pointerWidth : UInt32) (constant : ConstantDecl) : List Problem :=
  match constant.value.resolve pointerWidth with
  | .ok _ => []
  | .error negative =>
      [.invalidValue ("constant " ++ constant.name) (toString negative.toInt)
        "constants must be non-negative"]

end Resolver

structure Resolution where
  partialModel : Model
  report : Report
  deriving DecidableEq, Repr

namespace Resolution

def isClean (resolution : Resolution) : Bool := resolution.report.isEmpty

/-- The model of a report without errors; warnings do not matter. -/
def model? (resolution : Resolution) : Option Model :=
  if resolution.report.hasErrors then none else some resolution.partialModel

def result (resolution : Resolution) : Except Report Model :=
  if resolution.report.hasErrors then .error resolution.report else .ok resolution.partialModel

end Resolution

open Resolver in
/-- Resolves documents in their order as one set of declarations. The first document gives the
model its name and copyright. -/
def resolve (config : Config) (documents : List Document) : Resolution :=
  let declared := Declared.ofDocuments documents
  let (types, typeProblems) := ({} : Universe).register declared.typeNames
  let scope : TypeScope := ⟨types, declared.typedefs, config.qualified⟩
  let fields := declared.typeFields
  let (attachments, attachmentProblems) := Attachments.resolve declared.structs types
  let bitflags := declared.bitflags.map (BitflagDecl.resolve config)
  let enums := declared.enums.map (Numbering.resolve declared.blocks)
  let first := documents.head?
  { partialModel :=
      { name := (first.map Document.name).getD ""
        copyright := (first.map Document.copyright).getD ""
        declared := types
        constants := declared.constants.map (resolveConstant config.pointerWidth)
        typedefs := declared.typedefs
        enums := enums.map Prod.fst
        bitflags := bitflags.map Prod.fst
        callbacks := declared.callbacks
        structs := declared.structs
        functions := declared.functions
        objects := declared.objects
        references := fields.filterMap (TypeField.reference? scope)
        attachments := attachments
        qualified := config.qualified }
    report := ⟨
      (blockProblems documents ++ mergeProblems declared ++ typeProblems ++
        nameProblems declared ++ fields.flatMap (TypeField.problems scope) ++
        attachmentProblems).map .error ++
      bitflags.flatMap Prod.snd ++
      (enums.flatMap Prod.snd ++
        declared.constants.flatMap (constantProblems config.pointerWidth)).map .error⟩ }

def validate (document : Document) : Report := (resolve {} [document]).report

end InterfaceSchema
