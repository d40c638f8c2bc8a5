import InterfaceSchema.Document.Basic
import InterfaceSchema.Problem

/-!
Groups of enums, bit mask sets and objects that share a name. A group starts with a base, and its
extensions follow; whatever the order, all its declarations contribute in the order in which they
are written.
-/

namespace InterfaceSchema

set_option autoImplicit false

class Mergeable (α : Type) where
  kind : TypeKind
  name : α → String
  extended : α → Bool

instance : Mergeable EnumDecl := ⟨.enum, EnumDecl.name, EnumDecl.extended⟩

instance : Mergeable BitflagDecl := ⟨.bitflag, BitflagDecl.name, BitflagDecl.extended⟩

instance : Mergeable ObjectDecl := ⟨.object, ObjectDecl.name, ObjectDecl.extended⟩

structure Located (α : Type) where
  fragment : Nat
  decl : α
  deriving DecidableEq, Repr

/-- The declarations of one name, of which there is at least one. -/
structure Group (α : Type) where
  first : Located α
  others : List (Located α)
  deriving DecidableEq, Repr

namespace Group

variable {α : Type} [Mergeable α]

def parts (group : Group α) : List (Located α) := group.first :: group.others

def name (group : Group α) : String := Mergeable.name group.first.decl

/-- One group for each name, in the order in which the names occur first. -/
def gather : List (Located α) → List (Group α)
  | [] => []
  | located :: rest =>
      let groups := gather rest
      let same := groups.filter fun group => group.name == Mergeable.name located.decl
      let different := groups.filter fun group => group.name != Mergeable.name located.decl
      ⟨located, same.flatMap parts⟩ :: different

/-- What is wrong with the order of a group. An extension without a base before it is told once,
and so is every base after the first one. -/
def faults (seenBase toldEarly : Bool) : List (Located α) → List MergeFault
  | [] => []
  | part :: rest =>
      if Mergeable.extended part.decl then
        if seenBase || toldEarly then faults seenBase toldEarly rest
        else if rest.any fun later => !Mergeable.extended later.decl then
          .extendedBeforeBase :: faults seenBase true rest
        else .missingBase :: faults seenBase true rest
      else if seenBase then .duplicateBase :: faults true toldEarly rest
      else faults true toldEarly rest

def problems (group : Group α) : List Problem :=
  (faults false false group.parts).map fun fault =>
    .mergeOrder (Mergeable.kind α) group.name fault

end Group

/-- The methods of all declarations, under the first one's doc and namespace. -/
def ObjectDecl.merge (group : Group ObjectDecl) : ObjectDecl :=
  { name := group.name
    doc := group.first.decl.doc
    space := group.first.decl.space
    methods := group.parts.flatMap fun part => part.decl.methods }

end InterfaceSchema
