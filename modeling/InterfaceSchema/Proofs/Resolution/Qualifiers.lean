import InterfaceSchema.Proofs.Declared
import InterfaceSchema.Proofs.Reference.Walk
import InterfaceSchema.Proofs.Resolution.Stages

/-!
Qualifiers beside type strings. Parameters and return values may carry some, each of them its own.
Qualifiers beside a type string that comes down to a scalar, directly or through a typedef, are told
once, all of them together, and nothing is told of them anywhere else.
-/

namespace InterfaceSchema

set_option autoImplicit false

namespace Primitive

def IsScalar (literal : Primitive) : Prop := literal ≠ .cVoid ∧ literal.isArray = false

instance (literal : Primitive) : Decidable literal.IsScalar :=
  inferInstanceAs (Decidable (_ ∧ _))

theorem accepts_no_qualifiers_iff (literal : Primitive) :
    literal.acceptsQualifiers = false ↔ literal.IsScalar := by
  cases literal <;> simp [acceptsQualifiers, IsScalar, isArray]

end Primitive

namespace Model

/-- The literal that a target comes down to: itself, or the one that a declared typedef stands
for. -/
def literalOf? (model : Model) : TypeTarget → Option Primitive
  | .primitive literal => some literal
  | .declared decl =>
      match model.declaration? decl with
      | some (.typedef typedef) => Primitive.parse? typedef.target
      | _ => none
  | .arrayOf _ => none

def NamesScalar (model : Model) (type : String) : Prop :=
  ∃ literal ∈ (model.classify type).bind model.literalOf?, literal.IsScalar

instance (model : Model) (type : String) : Decidable (model.NamesScalar type) :=
  inferInstanceAs (Decidable (∃ literal ∈ (model.classify type).bind model.literalOf?, _))

/-- Targets that take no qualifiers: scalars, and typedefs that stand for one. -/
inductive Scalar (model : Model) : TypeTarget → Prop
  | literal {literal : Primitive} (scalar : literal.IsScalar) : Scalar model (.primitive literal)
  | typedef {decl : DeclRef} {typedef : TypedefDecl} {literal : Primitive}
      (declared : model.declaration? decl = some (.typedef typedef))
      (target : typedef.target = literal.text) (scalar : literal.IsScalar) :
      Scalar model (.declared decl)

/-- Type strings beside which every qualifier may stand, as far as they have no scalar. -/
inductive TakesAny (model : Model) (type : String) : Prop
  | unknown (judged : model.classify type = none)
  | array {item : DeclRef} (judged : model.classify type = some (.arrayOf item))
  | otherKind {decl : DeclRef} (judged : model.classify type = some (.declared decl))
      (other : decl.kind ≠ .typedef)
  | invalidTypedef {decl : DeclRef} {typedef : TypedefDecl}
      (judged : model.classify type = some (.declared decl))
      (declared : model.declaration? decl = some (.typedef typedef))
      (invalid : ∀ literal : Primitive, typedef.target ≠ literal.text)

section Scalars

variable {model : Model} {type : String} {target : TypeTarget}

/-- Of all kinds of declarations only typedefs stand for literals. -/
theorem kind_of_literal {decl : DeclRef} {literal : Primitive}
    (known : model.literalOf? (.declared decl) = some literal) : decl.kind = .typedef := by
  cases found : model.declaration? decl with
  | none => simp [literalOf?, found] at known
  | some declaration =>
      have kind := kind_of_declaration found
      cases declaration with
      | typedef typedef => exact (Option.some.inj kind).symm
      | _ => simp [literalOf?, found] at known

theorem scalar_iff :
    model.Scalar target ↔ ∃ literal ∈ model.literalOf? target, literal.IsScalar := by
  constructor
  · rintro (⟨scalar⟩ | ⟨declared, written, scalar⟩)
    · exact ⟨_, rfl, scalar⟩
    · refine ⟨_, ?_, scalar⟩
      simp [literalOf?, declared, written, Primitive.parse_text]
  · rintro ⟨literal, known, scalar⟩
    cases target with
    | primitive own =>
        cases known
        exact .literal scalar
    | declared decl =>
        cases found : model.declaration? decl with
        | none => simp [literalOf?, found] at known
        | some declaration =>
            cases declaration with
            | typedef typedef =>
                have parsed : Primitive.parse? typedef.target = some literal := by
                  simpa [literalOf?, found] using known
                exact .typedef found (Primitive.parse_eq_some_iff.mp parsed) scalar
            | _ => simp [literalOf?, found] at known
    | arrayOf item => cases known

theorem names_scalar_iff :
    model.NamesScalar type ↔
      ∃ target, model.classify type = some target ∧ model.Scalar target := by
  simp only [NamesScalar, scalar_iff, Option.mem_def, Option.bind_eq_some_iff]
  constructor
  · rintro ⟨literal, ⟨target, judged, known⟩, scalar⟩
    exact ⟨target, judged, literal, known, scalar⟩
  · rintro ⟨target, judged, literal, known, scalar⟩
    exact ⟨literal, ⟨target, judged, known⟩, scalar⟩

theorem TakesAny.not_scalar (takes : model.TakesAny type) : ¬ model.NamesScalar type := by
  rw [names_scalar_iff]
  rintro ⟨target, judged, scalar⟩
  cases takes with
  | unknown unknown =>
      rw [unknown] at judged
      cases judged
  | array array =>
      rw [array] at judged
      cases judged
      cases scalar
  | otherKind declared other =>
      rw [declared] at judged
      cases judged
      cases scalar with
      | typedef found _ _ => exact other (Option.some.inj (kind_of_declaration found)).symm
  | invalidTypedef declared found invalid =>
      rw [declared] at judged
      cases judged
      cases scalar with
      | typedef own written _ =>
          rw [found] at own
          cases own
          exact invalid _ written

end Scalars

end Model

structure QualifiedValue where
  site : String
  type : String
  qualifiers : List String

namespace QualifiedValue

open TypeField (qualifier)

def ofParameter (owner word : String) (parameter : Parameter) : QualifiedValue :=
  ⟨owner ++ " " ++ word ++ " " ++ parameter.name, parameter.type,
    qualifier "ownership" parameter.ownership ++ qualifier "pointer" parameter.pointer⟩

def ofReturn (owner : String) (value : ReturnValue) : QualifiedValue :=
  ⟨owner ++ " returns", value.type,
    qualifier "pointer" value.pointer ++ qualifier "passed_with_ownership" value.passesOwnership⟩

def ofCallable (owner : String) (function : FunctionDecl) : List QualifiedValue :=
  function.arguments.map (ofParameter owner "arg") ++ function.returns.toList.map (ofReturn owner)

def all (declared : Declared) : List QualifiedValue :=
  declared.callbacks.flatMap (fun callback =>
      callback.arguments.map (ofParameter ("callback " ++ callback.name) "arg")) ++
    declared.structs.flatMap (fun struct =>
      struct.members.map (ofParameter ("struct " ++ struct.name) "member")) ++
    declared.functions.flatMap (fun function =>
      ofCallable ("function " ++ function.name) function) ++
    declared.objects.flatMap fun object => object.methods.flatMap fun method =>
      ofCallable ("object " ++ object.name ++ " method " ++ method.name) method

def Misplaced (model : Model) (value : QualifiedValue) : Prop :=
  value.qualifiers ≠ [] ∧ model.NamesScalar value.type

instance (model : Model) (value : QualifiedValue) : Decidable (Misplaced model value) :=
  inferInstanceAs (Decidable (_ ∧ _))

def problem (value : QualifiedValue) : Problem :=
  .misplacedQualifier value.site value.type (" and ".intercalate value.qualifiers)

/-- The value of a field; typedefs and completions take no qualifiers. -/
def ofField? (field : TypeField) : Option QualifiedValue :=
  match field.use with
  | .value qualifiers => some ⟨field.site, field.type, qualifiers⟩
  | _ => none

theorem of_parameters (owner word : String) (parameters : List Parameter) :
    (parameters.map (TypeField.ofParameter owner word)).filterMap ofField? =
      parameters.map (ofParameter owner word) := by
  have kept : ofField? ∘ TypeField.ofParameter owner word = some ∘ ofParameter owner word := rfl
  rw [List.filterMap_map, kept, List.filterMap_eq_map]

theorem of_callable (owner : String) (function : FunctionDecl) :
    (TypeField.ofCallable owner function).filterMap ofField? = ofCallable owner function := by
  rw [TypeField.ofCallable, List.filterMap_append, List.filterMap_append, of_parameters]
  rcases function with ⟨name, doc, returns, completion, arguments⟩
  cases returns <;> cases completion <;>
    simp [ofCallable, ofField?, TypeField.ofReturn, TypeField.ofCompletion, ofReturn]

theorem of_type_fields (declared : Declared) :
    declared.typeFields.filterMap ofField? = all declared := by
  have typedefs : (declared.typedefs.map TypeField.ofTypedef).filterMap ofField? = [] := by
    rw [List.filterMap_map]
    exact List.filterMap_eq_nil_iff.mpr fun _ _ => rfl
  simp only [Declared.typeFields, TypeField.all, all, List.filterMap_append, typedefs,
    List.filterMap_flatMap, TypeField.ofCallback, TypeField.ofStruct, TypeField.ofFunction,
    TypeField.ofObject, of_parameters, of_callable, List.nil_append]

end QualifiedValue

namespace Resolver

open Declared QualifiedValue

variable (config : Config) (documents : List Document)

theorem accepts_no_qualifiers_iff (target : TypeTarget) :
    (scopeOf config documents).acceptsQualifiers target = false ↔
      (resolve config documents).partialModel.Scalar target := by
  rw [Model.scalar_iff]
  cases target with
  | primitive literal =>
      simp [TypeScope.acceptsQualifiers, Model.literalOf?, Primitive.accepts_no_qualifiers_iff]
  | arrayOf item => simp [TypeScope.acceptsQualifiers, Model.literalOf?]
  | declared decl =>
      rcases decl with ⟨kind, index⟩
      by_cases own : kind = .typedef
      · subst own
        have declared : (resolve config documents).partialModel.declaration? ⟨.typedef, index⟩ =
            ((ofDocuments documents).typedefs[index]?).map .typedef := rfl
        cases found : (ofDocuments documents).typedefs[index]? with
        | none => simp [TypeScope.acceptsQualifiers, Model.literalOf?, declared, scopeOf, found]
        | some typedef =>
            cases parsed : Primitive.parse? typedef.target <;>
              simp [TypeScope.acceptsQualifiers, Model.literalOf?, declared, scopeOf, found, parsed,
                Primitive.accepts_no_qualifiers_iff]
      · have spared :
            (scopeOf config documents).acceptsQualifiers (.declared ⟨kind, index⟩) = true := by
          cases kind with
          | typedef => exact absurd rfl own
          | _ => rfl
        rw [spared]
        constructor
        · intro refused
          cases refused
        · rintro ⟨literal, known, _⟩
          exact absurd (Model.kind_of_literal known) own

theorem misplaced_iff (field : TypeField) (problem : Problem) :
    field.further? (scopeOf config documents) = some problem ∧
        problem.kind = .misplacedQualifier ↔
      ∃ value ∈ ofField? field, Misplaced (resolve config documents).partialModel value ∧
        value.problem = problem := by
  rw [TypeField.further_iff]
  simp only [Misplaced, Model.names_scalar_iff, ← accepts_no_qualifiers_iff, resolve_classify,
    Classification.target_eq_some_iff]
  constructor
  · rintro ⟨⟨target, refers, misfits⟩, about⟩
    cases misfits with
    | qualifiers use present plain =>
        have known := TypeField.refers_iff.mp refers
        rw [TypeField.classify_of_other_use (by simp [use])] at known
        exact ⟨⟨field.site, field.type, _⟩, by simp [ofField?, use],
          ⟨present, target, known, plain⟩, rfl⟩
    | completion use kind other => cases about
    | literal use kind => cases about
  · rintro ⟨value, own, ⟨present, target, known, plain⟩, rfl⟩
    cases use : field.use with
    | value written =>
        have same : ⟨field.site, field.type, written⟩ = value := by simpa [ofField?, use] using own
        subst same
        have refers : field.Refers (scopeOf config documents) target :=
          .meaning (by simp [use]) known
        exact ⟨⟨target, refers, .qualifiers use present plain⟩, rfl⟩
    | «alias» name => simp [ofField?, use] at own
    | completion => simp [ofField?, use] at own

theorem failure_not_misplaced {scope : TypeScope} {field : TypeField} {problem : Problem}
    (failed : field.failure? scope = some problem) : problem.kind ≠ .misplacedQualifier := by
  rcases TypeField.fails_iff.mpr failed with ⟨_, _⟩ | ⟨_, _⟩ | ⟨_, _⟩ <;> simp [Problem.kind]

theorem misplaced_of_field (field : TypeField) :
    (field.problems (scopeOf config documents)).filter
        (fun problem => problem.kind == .misplacedQualifier) =
      (((ofField? field).filter (Misplaced (resolve config documents).partialModel ·)).map
        QualifiedValue.problem).toList := by
  have failures : (field.failure? (scopeOf config documents)).toList.filter
      (fun problem => problem.kind == .misplacedQualifier) = [] := by
    rw [List.filter_eq_nil_iff]
    intro problem told
    simpa using failure_not_misplaced (Option.mem_toList.mp told)
  have further : (field.further? (scopeOf config documents)).filter
      (fun problem => problem.kind == .misplacedQualifier) =
      ((ofField? field).filter (Misplaced (resolve config documents).partialModel ·)).map
        QualifiedValue.problem := by
    ext problem
    have same := misplaced_iff config documents field problem
    simp only [Option.filter_eq_some_iff, Option.map_eq_some_iff, beq_iff_eq, decide_eq_true_eq]
    rw [same]
    simp only [Option.mem_def, and_assoc]
  rw [TypeField.problems_eq, List.filter_append, failures, List.nil_append, ← further,
    Option.toList_filter]

theorem misplaced_in_references (diagnostic : Diagnostic)
    (about : diagnostic.problem.kind = .misplacedQualifier) :
    diagnostic.pass = .references := by
  rcases diagnostic with ⟨severity, problem⟩
  cases problem <;> simp_all [Problem.kind, Diagnostic.pass, Problem.stage, Stage.pass]

theorem misplaced_of_fields (fields : List TypeField) :
    (fields.flatMap (TypeField.problems (scopeOf config documents))).filter
        (fun problem => problem.kind == .misplacedQualifier) =
      ((fields.filterMap ofField?).filter
        (Misplaced (resolve config documents).partialModel ·)).map QualifiedValue.problem := by
  have each := List.flatMap_congr fun field (_ : field ∈ fields) =>
    misplaced_of_field config documents field
  rw [List.filter_flatMap, each, ← List.filterMap_eq_flatMap_toList, List.filter_filterMap,
    List.map_filterMap]

theorem misplaced_eq :
    (resolve config documents).report.diagnostics.filter
        (fun diagnostic => diagnostic.problem.kind == .misplacedQualifier) =
      ((all (ofDocuments documents)).filter
        (Misplaced (resolve config documents).partialModel ·)).map
          fun value => .error value.problem := by
  calc (resolve config documents).report.diagnostics.filter
        (fun diagnostic => diagnostic.problem.kind == .misplacedQualifier)
      = (((ofDocuments documents).typeFields.flatMap
          (TypeField.problems (scopeOf config documents))).filter
            fun problem => problem.kind == .misplacedQualifier).map .error := by
        rw [report_of_kind config documents misplaced_in_references, passDiagnostics,
          List.filter_map]
        rfl
    _ = ((all (ofDocuments documents)).filter
        (Misplaced (resolve config documents).partialModel ·)).map
          fun value => .error value.problem := by
        rw [misplaced_of_fields, of_type_fields, List.map_map]
        rfl

/-- Qualifiers beside a typedef of a scalar, the void pointee, an array and an unknown type. -/
def qualifyingDocument : Document :=
  { name := "core"
    typedefs := [{ name := "Size", target := "uint64" }]
    functions :=
      [{ name := "write"
         arguments :=
           [{ name := "size", type := "typedef.Size", ownership := some .taken,
              pointer := some .mutable },
            { name := "data", type := "c_void", pointer := some .immutable },
            { name := "sizes", type := "array<Size>", pointer := some .immutable },
            { name := "other", type := "Other", pointer := some .immutable }]
         returns := some { type := "bool", passesOwnership := some false } }] }

example : (resolve {} [qualifyingDocument]).report.diagnostics.map Diagnostic.problem =
    [.misplacedQualifier "function write arg size" "typedef.Size" "ownership and pointer",
      .unknownTypeReference "Other" "function write arg other",
      .misplacedQualifier "function write returns" "bool" "passed_with_ownership"] := by
  decide

end Resolver

end InterfaceSchema
