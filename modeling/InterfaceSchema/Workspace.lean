import InterfaceSchema.Document.Encode
import InterfaceSchema.Resolver

/-!
A workspace: documents under construction, the settings, and the outcome of the last resolution.
Later changes of documents or settings leave that outcome as it is.
-/

namespace InterfaceSchema

set_option autoImplicit false

inductive AnyDecl where
  | constant (decl : ConstantDecl)
  | typedef (decl : TypedefDecl)
  | enum (decl : EnumDecl)
  | bitflag (decl : BitflagDecl)
  | callback (decl : CallbackDecl)
  | struct (decl : StructDecl)
  | function (decl : FunctionDecl)
  | object (decl : ObjectDecl)
  deriving DecidableEq, Repr

def AnyDecl.toJson : AnyDecl → Json
  | constant decl => decl.toJson
  | typedef decl => decl.toJson
  | enum decl => decl.toJson
  | bitflag decl => decl.toJson
  | callback decl => decl.toJson
  | struct decl => decl.toJson
  | function decl => decl.toJson
  | object decl => decl.toJson

def Document.declare (document : Document) : AnyDecl → Document
  | .constant decl => { document with constants := document.constants ++ [decl] }
  | .typedef decl => { document with typedefs := document.typedefs ++ [decl] }
  | .enum decl => { document with enums := document.enums ++ [decl] }
  | .bitflag decl => { document with bitflags := document.bitflags ++ [decl] }
  | .callback decl => { document with callbacks := document.callbacks ++ [decl] }
  | .struct decl => { document with structs := document.structs ++ [decl] }
  | .function decl => { document with functions := document.functions ++ [decl] }
  | .object decl => { document with objects := document.objects ++ [decl] }

/-- The last document is the current one. -/
structure Workspace where
  documents : List Document := []
  config : Config := {}
  last : Option Resolution := none
  deriving DecidableEq, Repr

namespace Workspace

def current? (workspace : Workspace) : Option Document := workspace.documents.getLast?

def push (workspace : Workspace) (document : Document) : Workspace :=
  { workspace with documents := workspace.documents ++ [document] }

def drop (workspace : Workspace) : Workspace :=
  { workspace with documents := workspace.documents.dropLast }

def reverse (workspace : Workspace) : Workspace :=
  { workspace with documents := workspace.documents.reverse }

def configure (workspace : Workspace) (config : Config) : Workspace :=
  { workspace with config := config }

def declare (workspace : Workspace) (decl : AnyDecl) : Workspace :=
  match workspace.current? with
  | some document => workspace.drop.push (document.declare decl)
  | none => workspace

/-- Resolves all documents and keeps the outcome. -/
def resolve (workspace : Workspace) : Workspace :=
  { workspace with last := some (InterfaceSchema.resolve workspace.config workspace.documents) }

end Workspace

end InterfaceSchema
