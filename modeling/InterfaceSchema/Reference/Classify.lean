import InterfaceSchema.Universe

/-!
The meaning of a type string. It is a primitive literal or the name of a declared type; where
qualified forms are allowed, a name may follow its kind and a dot, and either form may stand
between the brackets of an array.
-/

namespace InterfaceSchema

set_option autoImplicit false

inductive TypeTarget where
  | primitive (literal : Primitive)
  | declared (decl : DeclRef)
  | arrayOf (item : DeclRef)
  deriving DecidableEq, Repr

namespace TypeTarget

def kind? : TypeTarget → Option TypeKind
  | primitive _ => none
  | declared decl => some decl.kind
  | arrayOf item => some item.kind

def isPrimitive : TypeTarget → Bool
  | primitive _ => true
  | _ => false

end TypeTarget

inductive Classification where
  | resolved (target : TypeTarget)
  | unknown
  /-- The name is declared, but not under the kind that is written before it. -/
  | kindMismatch (name : String) (expected found : TypeKind)
  deriving DecidableEq, Repr

namespace Classification

def target? : Classification → Option TypeTarget
  | resolved target => some target
  | _ => none

/-- The kind and the name of a qualified form. The first dot decides. -/
def splitKind? (type : String) : Option (TypeKind × String) :=
  let characters := type.toList
  match characters.dropWhile (fun character => character != '.') with
  | _ :: bare =>
      (TypeKind.ofText?
        (String.ofList (characters.takeWhile fun character => character != '.'))).map
          fun kind => (kind, String.ofList bare)
  | [] => none

def arrayItem? (type : String) : Option String :=
  match "array<".toList.isPrefixOf? type.toList with
  | some rest => ([ '>' ].isSuffixOf? rest).map String.ofList
  | none => none

/-- A name, or a kind and a name. A kind before the dot binds: the whole string is then not tried
as a name. -/
def ofName (declared : Universe) (qualified : Bool) (name : String) : Classification :=
  match if qualified then splitKind? name else none with
  | some (expected, bare) =>
      match declared.get? bare with
      | some decl =>
          if decl.kind = expected then resolved (.declared decl)
          else kindMismatch bare expected decl.kind
      | none => unknown
  | none =>
      match declared.get? name with
      | some decl => resolved (.declared decl)
      | none => unknown

def ofType (declared : Universe) (qualified : Bool) (type : String) : Classification :=
  match Primitive.parse? type with
  | some literal => resolved (.primitive literal)
  | none =>
      match if qualified then arrayItem? type else none with
      | some item =>
          match ofName declared true item with
          | resolved (.declared decl) => resolved (.arrayOf decl)
          | resolved _ => unknown
          | other => other
      | none => ofName declared qualified type

end Classification

end InterfaceSchema
