import InterfaceSchema.Literal
import InterfaceSchema.StructRole

/-!
Schema documents: the declarations of one fragment of an interface, as they are written. Every
type is still a string here.
-/

namespace InterfaceSchema

set_option autoImplicit false

inductive CallbackStyle where
  /-- Called later, through a registered handle. -/
  | callbackMode
  /-- Called before the triggering call returns. -/
  | immediate
  deriving DecidableEq, Repr

namespace CallbackStyle

def all : List CallbackStyle := [callbackMode, immediate]

def text : CallbackStyle → String
  | callbackMode => "callback_mode"
  | immediate => "immediate"

end CallbackStyle

/-- Whether the receiver of a reference takes ownership. -/
inductive Ownership where
  | taken
  | borrowed
  deriving DecidableEq, Repr

namespace Ownership

def all : List Ownership := [taken, borrowed]

def text : Ownership → String
  | taken => "with"
  | borrowed => "without"

end Ownership

inductive Pointer where
  | immutable
  | mutable
  deriving DecidableEq, Repr

namespace Pointer

def all : List Pointer := [immutable, mutable]

def text : Pointer → String
  | immutable => "immutable"
  | mutable => "mutable"

end Pointer

structure ConstantDecl where
  name : String
  value : Literal
  doc : String := ""
  deriving DecidableEq, Repr

/-- An alias; its target has to be a primitive literal. -/
structure TypedefDecl where
  name : String
  doc : String := ""
  target : String
  deriving DecidableEq, Repr

/-- A named value of an enum, numbered automatically where no value is written. -/
structure EnumEntry where
  name : String
  doc : String := ""
  value : Option Int64 := none
  deriving DecidableEq, Repr

/-- An enum lists slots; a slot without an entry is a gap, which takes up a number. -/
structure EnumDecl where
  name : String
  doc : String := ""
  extended : Bool := false
  slots : List (Option EnumEntry) := []
  deriving DecidableEq, Repr

/-- A mask, written as a literal or as the names of the entries that it combines. -/
structure BitflagEntry where
  name : String
  doc : String := ""
  value : Option Literal := none
  combination : Option (List String) := none
  deriving DecidableEq, Repr

structure BitflagDecl where
  name : String
  doc : String := ""
  extended : Bool := false
  entries : List BitflagEntry := []
  deriving DecidableEq, Repr

structure Parameter where
  name : String
  doc : String := ""
  type : String
  ownership : Option Ownership := none
  pointer : Option Pointer := none
  optional : Bool := false
  space : Option String := none
  deriving DecidableEq, Repr

structure CallbackDecl where
  name : String
  doc : String := ""
  style : CallbackStyle := .callbackMode
  arguments : List Parameter := []
  deriving DecidableEq, Repr

structure StructDecl where
  name : String
  doc : String := ""
  role : StructRole
  bases : List String := []
  freeMembers : Bool := false
  members : List Parameter := []
  deriving DecidableEq, Repr

structure ReturnValue where
  doc : String := ""
  type : String
  passesOwnership : Option Bool := none
  pointer : Option Pointer := none
  deriving DecidableEq, Repr

structure FunctionDecl where
  name : String
  doc : String := ""
  returns : Option ReturnValue := none
  completion : Option String := none
  arguments : List Parameter := []
  deriving DecidableEq, Repr

structure ObjectDecl where
  name : String
  doc : String := ""
  extended : Bool := false
  space : Option String := none
  methods : List FunctionDecl := []
  deriving DecidableEq, Repr

/-- One document. Its enum values live in the block that `block` writes in hexadecimal. -/
structure Document where
  copyright : String := ""
  name : String
  block : String := "0x0000"
  constants : List ConstantDecl := []
  typedefs : List TypedefDecl := []
  enums : List EnumDecl := []
  bitflags : List BitflagDecl := []
  callbacks : List CallbackDecl := []
  structs : List StructDecl := []
  functions : List FunctionDecl := []
  objects : List ObjectDecl := []
  deriving DecidableEq, Repr

namespace Document

def declarationCount (document : Document) : Nat :=
  document.constants.length + document.typedefs.length + document.enums.length +
    document.bitflags.length + document.callbacks.length + document.structs.length +
    document.functions.length + document.objects.length

end Document

end InterfaceSchema
