import InterfaceSchema.Problem

/-!
Uniqueness of names within one scope. Every occurrence of a name after its first one is a problem
of its own.
-/

namespace InterfaceSchema

set_option autoImplicit false

namespace Uniqueness

/-- The occurrences of names that were seen before, in order. -/
def repeated (seen : List String) : List String → List String
  | [] => []
  | name :: rest =>
      if name ∈ seen then name :: repeated seen rest else repeated (name :: seen) rest

/-- One problem for each repeated name; the name is told together with its scope. -/
def problems (kind : NameKind) (scope : Option String) (names : List String) : List Problem :=
  (repeated [] names).map fun name =>
    .duplicateName kind (match scope with
      | some scope => scope ++ "." ++ name
      | none => name)

end Uniqueness

end InterfaceSchema
