import InterfaceSchema.Reference.Classify
import InterfaceSchema.Reference.Field

/-!
Resolution of the fields that hold a type string. A field gives a reference or a problem that
tells why it has none; a field with a reference may still carry a qualifier that does not fit or,
as a completion, lead to something that is no callback.
-/

namespace InterfaceSchema

set_option autoImplicit false

structure Reference where
  site : String
  type : String
  target : TypeTarget
  deriving DecidableEq, Repr

structure TypeScope where
  declared : Universe
  typedefs : List TypedefDecl
  qualified : Bool

namespace TypeScope

def classify (scope : TypeScope) (type : String) : Classification :=
  Classification.ofType scope.declared scope.qualified type

/-- A typedef takes the qualifiers of its target; one whose target is no primitive takes any. -/
def acceptsQualifiers (scope : TypeScope) : TypeTarget → Bool
  | .primitive literal => literal.acceptsQualifiers
  | .declared ⟨.typedef, index⟩ =>
      match scope.typedefs[index]?.bind fun typedef => Primitive.parse? typedef.target with
      | some literal => literal.acceptsQualifiers
      | none => true
  | .declared _ => true
  | .arrayOf _ => true

end TypeScope

namespace TypeField

/-- What the type string of a field means. A typedef may only name a primitive literal. -/
def classify (scope : TypeScope) (field : TypeField) : Classification :=
  match field.use with
  | .alias _ =>
      match Primitive.parse? field.type with
      | some literal => .resolved (.primitive literal)
      | none => .unknown
  | _ => scope.classify field.type

def reference? (scope : TypeScope) (field : TypeField) : Option Reference :=
  (field.classify scope).target?.map fun target => ⟨field.site, field.type, target⟩

def failure? (scope : TypeScope) (field : TypeField) : Option Problem :=
  match field.classify scope with
  | .resolved _ => none
  | .unknown =>
      match field.use with
      | .alias typedef => some (.invalidTypedef typedef field.type)
      | _ => some (.unknownTypeReference field.type field.site)
  | .kindMismatch name expected found =>
      some (.typeKindMismatch name field.site expected found)

def misuse? (scope : TypeScope) (field : TypeField) (target : TypeTarget) : Option Problem :=
  match field.use with
  | .alias _ => none
  | .value qualifiers =>
      if qualifiers.isEmpty || scope.acceptsQualifiers target then none
      else
        some (.misplacedQualifier field.site field.type (" and ".intercalate qualifiers))
  | .completion =>
      match target.kind? with
      | some .callback => none
      | some found => some (.typeKindMismatch field.type field.site .callback found)
      | none => some (.unknownTypeReference field.type field.site)

def problems (scope : TypeScope) (field : TypeField) : List Problem :=
  match (field.classify scope).target? with
  | some target => (field.misuse? scope target).toList
  | none => (field.failure? scope).toList

end TypeField

end InterfaceSchema
