import InterfaceSchema.Proofs.Universe
import InterfaceSchema.Reference.Resolve

/-!
What a type string that is classified stands for. A target that is no primitive always comes from
a registered name, and it stays the same when further names are registered.
-/

namespace InterfaceSchema

set_option autoImplicit false

namespace Classification

variable {declared : Universe} {qualified : Bool}

theorem target_eq_some_iff {classification : Classification} {target : TypeTarget} :
    classification.target? = some target ↔ classification = resolved target := by
  cases classification <;> simp [target?]

/-- A name stands for a registered declaration. Where a kind is written before it, this is the
kind of the declaration, and what follows the dot is the registered name. -/
inductive Names (declared : Universe) (qualified : Bool) (name : String) (decl : DeclRef) : Prop
  | bare (plain : (if qualified then splitKind? name else none) = none)
      (registered : declared.get? name = some decl)
  | ofKind (own : String)
      (split : (if qualified then splitKind? name else none) = some (decl.kind, own))
      (registered : declared.get? own = some decl)

theorem names_of_name {name : String} {target : TypeTarget}
    (known : ofName declared qualified name = resolved target) :
    ∃ decl, target = .declared decl ∧ Names declared qualified name decl := by
  unfold ofName at known
  split at known
  · rename_i expected own split
    cases registered : declared.get? own with
    | none => simp [registered] at known
    | some decl =>
        by_cases agrees : decl.kind = expected
        · rw [registered] at known
          simp only [agrees, if_pos, resolved.injEq] at known
          subst agrees
          exact ⟨decl, known.symm, .ofKind own split registered⟩
        · simp [registered, agrees] at known
  · rename_i plain
    cases registered : declared.get? name with
    | none => simp [registered] at known
    | some decl =>
        rw [registered] at known
        simp only [resolved.injEq] at known
        exact ⟨decl, known.symm, .bare plain registered⟩

theorem of_name_of_names {name : String} {decl : DeclRef}
    (names : Names declared qualified name decl) :
    ofName declared qualified name = resolved (.declared decl) := by
  cases names with
  | bare plain registered => simp only [ofName, plain, registered]
  | ofKind own split registered => simp only [ofName, split, registered, if_pos]

theorem Names.registered {name : String} {decl : DeclRef}
    (names : Names declared qualified name decl) : ∃ own, declared.get? own = some decl := by
  cases names with
  | bare _ registered => exact ⟨name, registered⟩
  | ofKind own _ registered => exact ⟨own, registered⟩

theorem Names.within {larger : Universe} {name : String} {decl : DeclRef}
    (names : Names declared qualified name decl) (within : declared.Within larger) :
    Names larger qualified name decl := by
  cases names with
  | bare plain registered => exact .bare plain (within _ _ registered)
  | ofKind own split registered => exact .ofKind own split (within _ _ registered)

inductive Means (declared : Universe) (qualified : Bool) (type : String) : TypeTarget → Prop
  | primitive {literal : Primitive} (parsed : Primitive.parse? type = some literal) :
      Means declared qualified type (.primitive literal)
  | declared {decl : DeclRef} (ordinary : Primitive.parse? type = none)
      (plain : (if qualified then arrayItem? type else none) = none)
      (names : Names declared qualified type decl) :
      Means declared qualified type (.declared decl)
  | arrayOf {decl : DeclRef} (item : String) (ordinary : Primitive.parse? type = none)
      (brackets : (if qualified then arrayItem? type else none) = some item)
      (names : Names declared true item decl) :
      Means declared qualified type (.arrayOf decl)

theorem means_of_type {type : String} {target : TypeTarget}
    (known : ofType declared qualified type = resolved target) :
    Means declared qualified type target := by
  unfold ofType at known
  split at known
  · rename_i literal parsed
    cases known
    exact .primitive parsed
  · rename_i ordinary
    split at known
    · rename_i item brackets
      cases named : ofName declared true item with
      | resolved held =>
          obtain ⟨decl, rfl, names⟩ := names_of_name named
          simp only [named, resolved.injEq] at known
          exact known ▸ .arrayOf item ordinary brackets names
      | unknown => simp [named] at known
      | kindMismatch name expected found => simp [named] at known
    · rename_i plain
      obtain ⟨decl, rfl, names⟩ := names_of_name known
      exact .declared ordinary plain names

theorem of_type_of_means {type : String} {target : TypeTarget}
    (means : Means declared qualified type target) :
    ofType declared qualified type = resolved target := by
  cases means with
  | primitive parsed => simp only [ofType, parsed]
  | declared ordinary plain names => simp only [ofType, ordinary, plain, of_name_of_names names]
  | arrayOf item ordinary brackets names =>
      simp only [ofType, ordinary, brackets, of_name_of_names names]

theorem Means.registered {type : String} {target : TypeTarget}
    (means : Means declared qualified type target) {decl : DeclRef}
    (leads : target = .declared decl ∨ target = .arrayOf decl) :
    ∃ own, declared.get? own = some decl := by
  cases means with
  | primitive parsed => simp at leads
  | declared ordinary plain names =>
      simp only [TypeTarget.declared.injEq, reduceCtorEq, or_false] at leads
      exact leads ▸ names.registered
  | arrayOf item ordinary brackets names =>
      simp only [TypeTarget.arrayOf.injEq, reduceCtorEq, false_or] at leads
      exact leads ▸ names.registered

theorem Means.within {larger : Universe} {type : String} {target : TypeTarget}
    (means : Means declared qualified type target) (within : declared.Within larger) :
    Means larger qualified type target := by
  cases means with
  | primitive parsed => exact .primitive parsed
  | declared ordinary plain names => exact .declared ordinary plain (names.within within)
  | arrayOf item ordinary brackets names =>
      exact .arrayOf item ordinary brackets (names.within within)

end Classification

namespace TypeField

open Classification

variable {scope : TypeScope} {field : TypeField}

/-- A field with a target means by it what its type string means anywhere. -/
theorem classify_resolved {target : TypeTarget}
    (known : field.classify scope = .resolved target) :
    scope.classify field.type = .resolved target := by
  rcases field with ⟨site, type, use⟩
  cases use with
  | value qualifiers => exact known
  | completion => exact known
  | «alias» typedef =>
      simp only [classify] at known
      cases parsed : Primitive.parse? type with
      | none => simp [parsed] at known
      | some literal =>
          simp only [parsed] at known
          rw [← known]
          exact of_type_of_means (.primitive parsed)

/-- A field has a target where it had one and its type string has it. -/
theorem classify_of_type {other : TypeScope} {target counterpart : TypeTarget}
    (known : field.classify scope = .resolved target)
    (means : other.classify field.type = .resolved counterpart) :
    field.classify other = .resolved counterpart := by
  rcases field with ⟨site, type, use⟩
  cases use with
  | value qualifiers => exact means
  | completion => exact means
  | «alias» typedef =>
      -- The target of a typedef is a literal, which no declared name can change.
      simp only [classify] at known ⊢
      cases parsed : Primitive.parse? type with
      | none => simp [parsed] at known
      | some literal =>
          have literalTarget : ofType other.declared other.qualified type =
              .resolved (.primitive literal) := of_type_of_means (.primitive parsed)
          rw [TypeScope.classify, literalTarget] at means
          exact means

/-- The target of a field stays the same among more names. -/
theorem classify_within {larger : TypeScope} {target : TypeTarget}
    (within : scope.declared.Within larger.declared) (forms : larger.qualified = scope.qualified)
    (known : field.classify scope = .resolved target) :
    field.classify larger = .resolved target := by
  have means := means_of_type (classify_resolved known)
  have kept : larger.classify field.type = .resolved target := by
    unfold TypeScope.classify
    rw [forms]
    exact of_type_of_means (means.within within)
  exact classify_of_type known kept

theorem reference_eq_some_iff {reference : Reference} :
    field.reference? scope = some reference ↔
      field.classify scope = .resolved reference.target ∧ reference.site = field.site ∧
        reference.type = field.type := by
  rcases reference with ⟨site, type, target⟩
  simp only [reference?, Option.map_eq_some_iff, target_eq_some_iff, Reference.mk.injEq]
  constructor
  · rintro ⟨_, known, rfl, rfl, rfl⟩
    exact ⟨known, rfl, rfl⟩
  · rintro ⟨known, rfl, rfl⟩
    exact ⟨target, known, rfl, rfl, rfl⟩

theorem reference_of_no_problem (quiet : field.problems scope = []) :
    ∃ reference, field.reference? scope = some reference ∧ reference.type = field.type := by
  cases known : field.classify scope with
  | resolved target =>
      refine ⟨⟨field.site, field.type, target⟩, ?_, rfl⟩
      exact reference_eq_some_iff.mpr ⟨known, rfl, rfl⟩
  | unknown =>
      cases use : field.use <;>
        simp [problems, failure?, known, use, Classification.target?] at quiet
  | kindMismatch name expected found =>
      simp [problems, failure?, known, Classification.target?] at quiet

end TypeField

end InterfaceSchema
