import InterfaceSchema.Uniqueness
import InterfaceSchema.Universe
import InterfaceSchema.Document.Basic

/-!
Attachment of extension structs to base structs. Members never move along an attachment; only the
legal pairs are recorded, by index, once from the side of the extension and once from the side of
the base.
-/

namespace InterfaceSchema

set_option autoImplicit false

structure Attachments where
  /-- For each struct its bases, in the order in which it names them. -/
  bases : List (List Nat)
  /-- For each struct its extensions, in the order of their declarations. -/
  extensions : List (List Nat)
  deriving DecidableEq, Repr

namespace Attachments

def basesOf (attachments : Attachments) (index : Nat) : List Nat :=
  (attachments.bases[index]?).getD []

def extensionsOf (attachments : Attachments) (index : Nat) : List Nat :=
  (attachments.extensions[index]?).getD []

def edgeCount (attachments : Attachments) : Nat := attachments.bases.flatten.length

def baseIndex? (declared : Universe) (name : String) : Option Nat :=
  match declared.get? name with
  | some decl => if decl.kind = .struct then some decl.index else none
  | none => none

def fits (role : StructRole) (direction : Direction) : Bool :=
  match role with
  | .base own => own.accepts direction
  | _ => false

inductive Link where
  | attached (base : Nat)
  | refused (problem : Problem)
  /-- A struct of this name lost it to another declaration, which is told elsewhere. -/
  | lost
  deriving DecidableEq, Repr

def link (structs : List StructDecl) (declared : Universe) (extension : StructDecl)
    (direction : Direction) (name : String) : Link :=
  let target? := (baseIndex? declared name).bind fun index =>
    structs[index]?.map fun base => (index, base)
  match target? with
  | some (index, base) =>
      if fits base.role direction then .attached index
      else
        .refused (.incompatibleChainDirection extension.name extension.role base.name base.role)
  | none =>
      if structs.any fun struct => struct.name == name then .lost
      else .refused (.unknownBaseStruct extension.name name)

def Link.base? : Link → Option Nat
  | attached base => some base
  | _ => none

def Link.problem? : Link → Option Problem
  | refused problem => some problem
  | _ => none

/-- What becomes of the base names of a struct; nothing if it may not have any. -/
def links (structs : List StructDecl) (declared : Universe) (struct : StructDecl) : List Link :=
  match struct.role with
  | .extension direction => struct.bases.map (link structs declared struct direction)
  | _ => []

/-- An extension has to name a base, and nothing else may. -/
def placement (struct : StructDecl) : List Problem :=
  if struct.role.isExtension then
    if struct.bases.isEmpty then [.missingExtends struct.name struct.role] else []
  else if struct.bases.isEmpty then []
  else [.unexpectedExtends struct.name struct.role]

def problemsOfStruct (structs : List StructDecl) (declared : Universe) (struct : StructDecl) :
    List Problem :=
  Uniqueness.problems .base (some struct.name) struct.bases ++ placement struct ++
    (links structs declared struct).filterMap Link.problem?

def empty (count : Nat) : Attachments := ⟨List.replicate count [], List.replicate count []⟩

/-- Records a legal pair on both sides, unless it is recorded already. -/
def attach (attachments : Attachments) (extension base : Nat) : Attachments :=
  if base ∈ attachments.basesOf extension then attachments
  else
    { bases := attachments.bases.modify extension fun row => row ++ [base]
      extensions := attachments.extensions.modify base fun row => row ++ [extension] }

def attachEach (attachments : Attachments) (extension : Nat) : List Nat → Attachments
  | [] => attachments
  | base :: rest => (attachments.attach extension base).attachEach extension rest

def attachFrom (structs : List StructDecl) (declared : Universe) (attachments : Attachments)
    (index : Nat) : List StructDecl → Attachments
  | [] => attachments
  | struct :: rest =>
      let bases := (links structs declared struct).filterMap Link.base?
      attachFrom structs declared (attachments.attachEach index bases) (index + 1) rest

def resolve (structs : List StructDecl) (declared : Universe) : Attachments × List Problem :=
  (attachFrom structs declared (empty structs.length) 0 structs,
    structs.flatMap (problemsOfStruct structs declared))

end Attachments

end InterfaceSchema
