import InterfaceSchema.Proofs.Reference.Meaning

/-!
Type strings under two sets of declared names. Where every name that stands for a declaration stands
for a related one of the same kind, every type string that has a meaning keeps its form, and a field
of which nothing is told stays so.
-/

namespace InterfaceSchema

set_option autoImplicit false

/-- Targets of one form: the same literal, or related declarations. -/
inductive TypeTarget.Corresponds (related : DeclRef → DeclRef → Prop) :
    TypeTarget → TypeTarget → Prop
  | primitive (literal : Primitive) :
      Corresponds related (.primitive literal) (.primitive literal)
  | declared {decl other : DeclRef} (declarations : related decl other) :
      Corresponds related (.declared decl) (.declared other)
  | arrayOf {decl other : DeclRef} (items : related decl other) :
      Corresponds related (.arrayOf decl) (.arrayOf other)

def Universe.Corresponds (related : DeclRef → DeclRef → Prop) (declared other : Universe) : Prop :=
  ∀ name decl, declared.get? name = some decl →
    ∃ counterpart, other.get? name = some counterpart ∧ counterpart.kind = decl.kind ∧
      related decl counterpart

namespace Classification

variable {related : DeclRef → DeclRef → Prop} {declared other : Universe} {qualified : Bool}

theorem Names.corresponding {name : String} {decl : DeclRef}
    (names : Names declared qualified name decl) (alike : declared.Corresponds related other) :
    ∃ counterpart, Names other qualified name counterpart ∧ counterpart.kind = decl.kind ∧
      related decl counterpart := by
  cases names with
  | bare plain registered =>
      obtain ⟨counterpart, known, kind, same⟩ := alike _ _ registered
      exact ⟨counterpart, .bare plain known, kind, same⟩
  | ofKind own split registered =>
      obtain ⟨counterpart, known, kind, same⟩ := alike _ _ registered
      exact ⟨counterpart, .ofKind own (kind ▸ split) known, kind, same⟩

theorem Means.corresponding {type : String} {target : TypeTarget}
    (means : Means declared qualified type target) (alike : declared.Corresponds related other) :
    ∃ counterpart, Means other qualified type counterpart ∧
      counterpart.kind? = target.kind? ∧ target.Corresponds related counterpart := by
  cases means with
  | primitive parsed => exact ⟨_, .primitive parsed, rfl, .primitive _⟩
  | declared ordinary plain names =>
      obtain ⟨counterpart, known, kind, same⟩ := names.corresponding alike
      exact ⟨_, .declared ordinary plain known, congrArg some kind, .declared same⟩
  | arrayOf item ordinary brackets names =>
      obtain ⟨counterpart, known, kind, same⟩ := names.corresponding alike
      exact ⟨_, .arrayOf item ordinary brackets known, congrArg some kind, .arrayOf same⟩

end Classification

namespace TypeField

open Classification

variable {scope other : TypeScope} {field : TypeField}

theorem problems_eq_nil_iff :
    field.problems scope = [] ↔
      ∃ target, field.classify scope = .resolved target ∧ field.misuse? scope target = none := by
  constructor
  · intro quiet
    obtain ⟨reference, known, _⟩ := reference_of_no_problem quiet
    obtain ⟨classified, _, _⟩ := reference_eq_some_iff.mp known
    refine ⟨reference.target, classified, ?_⟩
    simpa [problems, classified, Classification.target?] using quiet
  · rintro ⟨target, classified, fits⟩
    simp [problems, classified, Classification.target?, fits]

/-- Typedefs of one target are related; other declarations are so whatever they are. -/
def SameAlias (scope other : TypeScope) (decl counterpart : DeclRef) : Prop :=
  counterpart.kind = decl.kind ∧
    (decl.kind = .typedef → other.typedefs[counterpart.index]? = scope.typedefs[decl.index]?)

theorem accepts_qualifiers_of_corresponds {target counterpart : TypeTarget}
    (same : target.Corresponds (SameAlias scope other) counterpart) :
    other.acceptsQualifiers counterpart = scope.acceptsQualifiers target := by
  cases same with
  | primitive literal => rfl
  | arrayOf items => rfl
  | @declared decl counterpart declarations =>
      rcases decl with ⟨kind, index⟩
      rcases counterpart with ⟨otherKind, place⟩
      obtain ⟨sameKind, typedefs⟩ := declarations
      cases sameKind
      cases kind with
      | typedef => simp only [TypeScope.acceptsQualifiers, typedefs rfl]
      | _ => rfl

theorem misuse_of_corresponds {target counterpart : TypeTarget}
    (same : target.Corresponds (SameAlias scope other) counterpart)
    (kind : counterpart.kind? = target.kind?) :
    field.misuse? other counterpart = field.misuse? scope target := by
  simp only [misuse?, accepts_qualifiers_of_corresponds same, kind]

theorem problems_of_corresponds (forms : other.qualified = scope.qualified)
    (alike : scope.declared.Corresponds (SameAlias scope other) other.declared)
    (quiet : field.problems scope = []) : field.problems other = [] := by
  obtain ⟨target, classified, fits⟩ := problems_eq_nil_iff.mp quiet
  obtain ⟨counterpart, means, kind, same⟩ :=
    (means_of_type (classify_resolved classified)).corresponding alike
  rw [problems_eq_nil_iff]
  have known : other.classify field.type = .resolved counterpart := by
    unfold TypeScope.classify
    rw [forms]
    exact of_type_of_means means
  refine ⟨counterpart, classify_of_type classified known, ?_⟩
  rw [misuse_of_corresponds same kind, fits]

end TypeField

end InterfaceSchema
