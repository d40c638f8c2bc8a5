import InterfaceSchema.Document.Basic

/-!
The fields of declarations that hold a type string, in the order in which they are resolved:
typedef targets, callback arguments, struct members, and for each function its arguments, its
return value and its completion callback.
-/

namespace InterfaceSchema

set_option autoImplicit false

/-- What a type string is there for, which decides what it may refer to. -/
inductive TypeUse where
  /-- The target of the typedef of the given name. -/
  | alias (typedef : String)
  /-- A parameter or a return value with the qualifiers that are written beside it. -/
  | value (qualifiers : List String)
  | completion
  deriving DecidableEq, Repr

structure TypeField where
  site : String
  type : String
  use : TypeUse
  deriving DecidableEq, Repr

namespace TypeField

def qualifier {α : Type} (name : String) : Option α → List String
  | some _ => [name]
  | none => []

def ofTypedef (typedef : TypedefDecl) : TypeField :=
  ⟨"typedef " ++ typedef.name, typedef.target, .alias typedef.name⟩

/-- A parameter of an owner, whose word tells arguments from members. -/
def ofParameter (owner word : String) (parameter : Parameter) : TypeField :=
  ⟨owner ++ " " ++ word ++ " " ++ parameter.name, parameter.type,
    .value (qualifier "ownership" parameter.ownership ++ qualifier "pointer" parameter.pointer)⟩

def ofCallback (callback : CallbackDecl) : List TypeField :=
  callback.arguments.map (ofParameter ("callback " ++ callback.name) "arg")

def ofStruct (struct : StructDecl) : List TypeField :=
  struct.members.map (ofParameter ("struct " ++ struct.name) "member")

def ofReturn (owner : String) (value : ReturnValue) : TypeField :=
  ⟨owner ++ " returns", value.type,
    .value (qualifier "pointer" value.pointer ++
      qualifier "passed_with_ownership" value.passesOwnership)⟩

def ofCompletion (owner callback : String) : TypeField :=
  ⟨owner ++ " callback", callback, .completion⟩

def ofCallable (owner : String) (function : FunctionDecl) : List TypeField :=
  function.arguments.map (ofParameter owner "arg") ++
    function.returns.toList.map (ofReturn owner) ++
    function.completion.toList.map (ofCompletion owner)

def ofFunction (function : FunctionDecl) : List TypeField :=
  ofCallable ("function " ++ function.name) function

def ofObject (object : ObjectDecl) : List TypeField :=
  object.methods.flatMap fun method =>
    ofCallable ("object " ++ object.name ++ " method " ++ method.name) method

def all (typedefs : List TypedefDecl) (callbacks : List CallbackDecl) (structs : List StructDecl)
    (functions : List FunctionDecl) (objects : List ObjectDecl) : List TypeField :=
  typedefs.map ofTypedef ++ callbacks.flatMap ofCallback ++ structs.flatMap ofStruct ++
    functions.flatMap ofFunction ++ objects.flatMap ofObject

end TypeField

end InterfaceSchema
