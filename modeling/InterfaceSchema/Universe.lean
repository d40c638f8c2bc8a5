import InterfaceSchema.Primitive
import InterfaceSchema.Problem

/-!
The one namespace of all declared types. It maps a name to the kind of its declaration and to the
place among the declarations of that kind. Names are kept in the order of their code points; of
several declarations of one name the first one counts.
-/

namespace InterfaceSchema

set_option autoImplicit false

structure DeclRef where
  kind : TypeKind
  index : Nat
  deriving DecidableEq, Repr

structure Universe where
  entries : List (String × DeclRef) := []
  deriving DecidableEq, Repr

namespace Universe

def get? (declared : Universe) (name : String) : Option DeclRef := declared.entries.lookup name

def contains (declared : Universe) (name : String) : Bool := (declared.get? name).isSome

def size (declared : Universe) : Nat := declared.entries.length

/-- Puts an entry before the first one with a greater name. -/
def insert (name : String) (decl : DeclRef) : List (String × DeclRef) → List (String × DeclRef)
  | [] => [(name, decl)]
  | (other, otherDecl) :: rest =>
      if name < other then (name, decl) :: (other, otherDecl) :: rest
      else (other, otherDecl) :: insert name decl rest

/-- Adds a declaration, unless its name is a primitive literal or taken. -/
def add (declared : Universe) (name : String) (decl : DeclRef) : Except Problem Universe :=
  match Primitive.parse? name with
  | some _ => .error (.shadowsPrimitive (.ofType decl.kind) name)
  | none =>
      match declared.get? name with
      | some existing =>
          if existing.kind = decl.kind then .error (.duplicateName (.ofType decl.kind) name)
          else .error (.nameCollision name existing.kind decl.kind)
      | none => .ok ⟨insert name decl declared.entries⟩

/-- Adds declarations in order and tells what was refused. -/
def register (declared : Universe) : List (String × DeclRef) → Universe × List Problem
  | [] => (declared, [])
  | (name, decl) :: rest =>
      match declared.add name decl with
      | .ok larger => larger.register rest
      | .error problem =>
          let (final, problems) := declared.register rest
          (final, problem :: problems)

def declarations (kind : TypeKind) (names : List String) : List (String × DeclRef) :=
  names.zipIdx.map fun (name, index) => (name, ⟨kind, index⟩)

end Universe

end InterfaceSchema
