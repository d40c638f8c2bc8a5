import InterfaceSchema.Proofs.Reference.Forms

/-!
The walk over all fields that hold a type string, as nested loops over declarations which add to the
references and to the problems gathered so far. Every field is visited once, in the order of the
declarations; it adds one reference or one failure, never both and never neither, and whatever it
adds, the walk goes on. Beside that only a qualifier that does not fit is told, or a completion that
leads to no callback.
-/

namespace InterfaceSchema

set_option autoImplicit false

structure Gathered where
  references : List Reference := []
  problems : List Problem := []

abbrev Walk : Type → Type := StateM Gathered

namespace TypeField

/-- What a field refers to: the literal that a typedef stands for, and anywhere else whatever its
type string means. -/
inductive Refers (scope : TypeScope) (field : TypeField) : TypeTarget → Prop
  | typedef {name : String} {literal : Primitive} (use : field.use = .alias name)
      (written : field.type = literal.text) : Refers scope field (.primitive literal)
  | meaning {target : TypeTarget} (use : ∀ name, field.use ≠ .alias name)
      (known : scope.classify field.type = .resolved target) : Refers scope field target

inductive Fails (scope : TypeScope) (field : TypeField) : Problem → Prop
  | typedef {name : String} (use : field.use = .alias name)
      (other : ∀ literal : Primitive, field.type ≠ literal.text) :
      Fails scope field (.invalidTypedef name field.type)
  | unknown (use : ∀ name, field.use ≠ .alias name)
      (judged : scope.classify field.type = .unknown) :
      Fails scope field (.unknownTypeReference field.type field.site)
  | mismatch {name : String} {expected found : TypeKind} (use : ∀ name, field.use ≠ .alias name)
      (judged : scope.classify field.type = .kindMismatch name expected found) :
      Fails scope field (.typeKindMismatch name field.site expected found)

/-- What does not fit to the target of a field: qualifiers that it does not take, or a completion
that is of another kind than callbacks or of none. -/
inductive Misfits (scope : TypeScope) (field : TypeField) (target : TypeTarget) : Problem → Prop
  | qualifiers {written : List String} (use : field.use = .value written) (present : written ≠ [])
      (plain : scope.acceptsQualifiers target = false) :
      Misfits scope field target
        (.misplacedQualifier field.site field.type (" and ".intercalate written))
  | completion {found : TypeKind} (use : field.use = .completion)
      (kind : target.kind? = some found) (other : found ≠ .callback) :
      Misfits scope field target (.typeKindMismatch field.type field.site .callback found)
  | literal (use : field.use = .completion) (kind : target.kind? = none) :
      Misfits scope field target (.unknownTypeReference field.type field.site)

def further? (scope : TypeScope) (field : TypeField) : Option Problem :=
  (field.classify scope).target?.bind (field.misuse? scope)

section Judged

variable {scope : TypeScope} {field : TypeField}

theorem classify_of_other_use (other : ∀ name, field.use ≠ .alias name) :
    field.classify scope = scope.classify field.type := by
  unfold classify
  cases use : field.use with
  | «alias» name => exact absurd use (other name)
  | value qualifiers => rfl
  | completion => rfl

theorem classify_of_typedef {name : String} (use : field.use = .alias name) :
    field.classify scope =
      match Primitive.parse? field.type with
      | some literal => .resolved (.primitive literal)
      | none => .unknown := by
  cases parsed : Primitive.parse? field.type <;> simp [classify, use, parsed]

theorem refers_iff {target : TypeTarget} :
    field.Refers scope target ↔ field.classify scope = .resolved target := by
  constructor
  · rintro (⟨use, written⟩ | ⟨use, known⟩)
    · rw [classify_of_typedef use, Primitive.parse_eq_some_iff.mpr written]
    · rw [classify_of_other_use use, known]
  · intro known
    cases use : field.use with
    | «alias» name =>
        rw [classify_of_typedef use] at known
        cases parsed : Primitive.parse? field.type with
        | none => simp [parsed] at known
        | some literal =>
            rw [parsed] at known
            cases known
            exact .typedef use (Primitive.parse_eq_some_iff.mp parsed)
    | value | completion =>
        have other : ∀ name, field.use ≠ .alias name := by simp [use]
        exact .meaning other (classify_of_other_use other ▸ known)

theorem fails_iff {problem : Problem} :
    field.Fails scope problem ↔ field.failure? scope = some problem := by
  constructor
  · rintro (⟨use, other⟩ | ⟨use, judged⟩ | ⟨use, judged⟩)
    · have ordinary := Primitive.parse_eq_none_iff.mpr other
      simp only [failure?, classify_of_typedef use, ordinary, use]
    · simp only [failure?, classify_of_other_use use, judged]
    · simp only [failure?, classify_of_other_use use, judged]
  · intro failed
    cases use : field.use with
    | «alias» name =>
        cases parsed : Primitive.parse? field.type with
        | some literal => simp [failure?, classify_of_typedef use, parsed] at failed
        | none =>
            simp only [failure?, classify_of_typedef use, parsed, use, Option.some.injEq] at failed
            subst failed
            exact .typedef use (Primitive.parse_eq_none_iff.mp parsed)
    | value | completion =>
        have other : ∀ name, field.use ≠ .alias name := by simp [use]
        cases judged : scope.classify field.type with
        | resolved target => simp [failure?, classify_of_other_use other, judged] at failed
        | unknown =>
            simp only [failure?, classify_of_other_use other, judged, use, Option.some.injEq]
              at failed
            exact failed ▸ .unknown other judged
        | kindMismatch name expected found =>
            simp only [failure?, classify_of_other_use other, judged, Option.some.injEq] at failed
            exact failed ▸ .mismatch other judged

theorem misfits_iff {target : TypeTarget} {problem : Problem} :
    field.Misfits scope target problem ↔ field.misuse? scope target = some problem := by
  constructor
  · rintro (⟨use, present, plain⟩ | ⟨use, kind, other⟩ | ⟨use, kind⟩)
    · simp [misuse?, use, present, plain]
    · rename_i found
      cases found <;> simp_all [misuse?]
    · simp [misuse?, use, kind]
  · intro told
    cases use : field.use with
    | «alias» name => simp [misuse?, use] at told
    | value written =>
        simp only [misuse?, use] at told
        split at told
        · cases told
        · rename_i misplaced
          cases told
          simp only [Bool.or_eq_true, List.isEmpty_iff, not_or, Bool.not_eq_true] at misplaced
          exact .qualifiers use misplaced.1 misplaced.2
    | completion =>
        simp only [misuse?, use] at told
        split at told
        · cases told
        · rename_i found other kind
          cases told
          exact .completion use kind other
        · rename_i kind
          cases told
          exact .literal use kind

theorem Refers.outcome {target : TypeTarget} (refers : field.Refers scope target) :
    field.reference? scope = some ⟨field.site, field.type, target⟩ ∧
      field.failure? scope = none ∧ field.further? scope = field.misuse? scope target ∧
      field.problems scope = (field.misuse? scope target).toList := by
  have known := refers_iff.mp refers
  simp [reference?, failure?, further?, problems, known, Classification.target?]

theorem Fails.outcome {problem : Problem} (fails : field.Fails scope problem) :
    field.reference? scope = none ∧ field.failure? scope = some problem ∧
      field.further? scope = none ∧ field.problems scope = [problem] := by
  have failed := fails_iff.mp fails
  have unresolved : (field.classify scope).target? = none := by
    cases judged : field.classify scope with
    | resolved target => simp [failure?, judged] at failed
    | unknown | kindMismatch => rfl
  simp [reference?, further?, problems, failed, unresolved]

theorem refers_or_fails (scope : TypeScope) (field : TypeField) :
    (∃ target, field.Refers scope target) ∨ ∃ problem, field.Fails scope problem := by
  cases judged : field.classify scope with
  | resolved target => exact Or.inl ⟨target, refers_iff.mpr judged⟩
  | unknown =>
      have failed : (field.failure? scope).isSome = true := by
        simp only [failure?, judged]
        split <;> rfl
      obtain ⟨problem, told⟩ := Option.isSome_iff_exists.mp failed
      exact Or.inr ⟨problem, fails_iff.mpr told⟩
  | kindMismatch name expected found =>
      have told : field.failure? scope =
          some (.typeKindMismatch name field.site expected found) := by
        simp only [failure?, judged]
      exact Or.inr ⟨_, fails_iff.mpr told⟩

end Judged

end TypeField

namespace Walk

def refer (reference : Reference) : Walk Unit :=
  modify fun gathered => { gathered with references := gathered.references ++ [reference] }

def tell (problem : Problem) : Walk Unit :=
  modify fun gathered => { gathered with problems := gathered.problems ++ [problem] }

@[simp] theorem refer_run (reference : Reference) (gathered : Gathered) :
    (refer reference).run gathered =
      ((), { gathered with references := gathered.references ++ [reference] }) := rfl

@[simp] theorem tell_run (problem : Problem) (gathered : Gathered) :
    (tell problem).run gathered =
      ((), { gathered with problems := gathered.problems ++ [problem] }) := rfl

@[simp] theorem return_run (gathered : Gathered) :
    (return : Walk Unit).run gathered = ((), gathered) := rfl

section Fields

variable (scope : TypeScope)

/-- The target of a typedef has to be a primitive literal. -/
def typedef (decl : TypedefDecl) : Walk Unit :=
  match Primitive.parse? decl.target with
  | some literal => refer ⟨"typedef " ++ decl.name, decl.target, .primitive literal⟩
  | none => tell (.invalidTypedef decl.name decl.target)

/-- Refers to what a type string means, which is then judged, or tells that it means nothing. -/
def type (site written : String) (judge : TypeTarget → Walk Unit) : Walk Unit :=
  match scope.classify written with
  | .resolved target => do
      refer ⟨site, written, target⟩
      judge target
  | .unknown => tell (.unknownTypeReference written site)
  | .kindMismatch name expected found => tell (.typeKindMismatch name site expected found)

def judgeQualifiers (site written : String) (qualifiers : List String) (target : TypeTarget) :
    Walk Unit :=
  if qualifiers.isEmpty || scope.acceptsQualifiers target then return
  else tell (.misplacedQualifier site written (" and ".intercalate qualifiers))

def judgeCompletion (site written : String) (target : TypeTarget) : Walk Unit :=
  match target.kind? with
  | some .callback => return
  | some found => tell (.typeKindMismatch written site .callback found)
  | none => tell (.unknownTypeReference written site)

def value (site written : String) (qualifiers : List String) : Walk Unit :=
  type scope site written (judgeQualifiers scope site written qualifiers)

def parameter (owner word : String) (decl : Parameter) : Walk Unit :=
  value scope (owner ++ " " ++ word ++ " " ++ decl.name) decl.type
    (TypeField.qualifier "ownership" decl.ownership ++ TypeField.qualifier "pointer" decl.pointer)

def returned (owner : String) (decl : ReturnValue) : Walk Unit :=
  value scope (owner ++ " returns") decl.type
    (TypeField.qualifier "pointer" decl.pointer ++
      TypeField.qualifier "passed_with_ownership" decl.passesOwnership)

def completion (owner callback : String) : Walk Unit :=
  type scope (owner ++ " callback") callback (judgeCompletion (owner ++ " callback") callback)

/-- A function or a method: its arguments, its return value, its completion. -/
def callable (owner : String) (function : FunctionDecl) : Walk Unit := do
  function.arguments.forM (parameter scope owner "arg")
  function.returns.forM (returned scope owner)
  function.completion.forM (completion scope owner)

def callback (decl : CallbackDecl) : Walk Unit :=
  decl.arguments.forM (parameter scope ("callback " ++ decl.name) "arg")

def struct (decl : StructDecl) : Walk Unit :=
  decl.members.forM (parameter scope ("struct " ++ decl.name) "member")

def function (decl : FunctionDecl) : Walk Unit := callable scope ("function " ++ decl.name) decl

def object (decl : ObjectDecl) : Walk Unit :=
  decl.methods.forM fun method =>
    callable scope ("object " ++ decl.name ++ " method " ++ method.name) method

def throughout (callbacks : List CallbackDecl) (structs : List StructDecl)
    (functions : List FunctionDecl) (objects : List ObjectDecl) : Walk Unit := do
  scope.typedefs.forM typedef
  callbacks.forM (callback scope)
  structs.forM (struct scope)
  functions.forM (function scope)
  objects.forM (object scope)

end Fields

/-- A walk covers fields if it adds their references and their problems to what is gathered already,
whatever that may be. -/
def Covers (scope : TypeScope) (walk : Walk Unit) (fields : List TypeField) : Prop :=
  ∀ gathered : Gathered,
    walk.run gathered =
      ((), { references := gathered.references ++ fields.filterMap (TypeField.reference? scope)
             problems := gathered.problems ++ fields.flatMap (TypeField.problems scope) })

section Loops

variable {scope : TypeScope} {Item : Type}

theorem covers_nothing : Covers scope (return) [] := by
  intro gathered
  rw [List.filterMap_nil, List.flatMap_nil, List.append_nil, List.append_nil]
  rfl

theorem Covers.after {first second : Walk Unit} {fields more : List TypeField}
    (start : Covers scope first fields) (rest : Covers scope second more) :
    Covers scope (do first; second) (fields ++ more) := by
  intro gathered
  calc (do first; second : Walk Unit).run gathered
      = second.run (first.run gathered).2 := rfl
    _ = _ := by rw [start gathered, rest, List.filterMap_append, List.flatMap_append,
          List.append_assoc, List.append_assoc]

/-- A loop covers the fields of its items in their order. -/
theorem covers_each {visit : Item → Walk Unit} {fields : Item → List TypeField} {items : List Item}
    (each : ∀ item, Covers scope (visit item) (fields item)) :
    Covers scope (items.forM visit) (items.flatMap fields) := by
  induction items with
  | nil => exact covers_nothing
  | cons item rest ih => exact (each item).after ih

theorem covers_each_field {visit : Item → Walk Unit} {field : Item → TypeField} {items : List Item}
    (each : ∀ item, Covers scope (visit item) [field item]) :
    Covers scope (items.forM visit) (items.map field) := by
  rw [List.map_eq_flatMap]
  exact covers_each each

theorem covers_optional {visit : Item → Walk Unit} {field : Item → TypeField} {item? : Option Item}
    (each : ∀ item, Covers scope (visit item) [field item]) :
    Covers scope (item?.forM visit) (item?.toList.map field) := by
  cases item? with
  | none => exact covers_nothing
  | some item => exact each item

end Loops

section Visits

variable (scope : TypeScope)

theorem covers_referred {field : TypeField} {target : TypeTarget} {walk : Walk Unit}
    (refers : field.Refers scope target)
    (adds : ∀ gathered : Gathered, walk.run gathered =
      ((), { references := gathered.references ++ [⟨field.site, field.type, target⟩]
             problems := gathered.problems ++ (field.misuse? scope target).toList })) :
    Covers scope walk [field] := by
  obtain ⟨reference, _, _, told⟩ := refers.outcome
  intro gathered
  simp [adds gathered, reference, told]

theorem covers_failed {field : TypeField} {problem : Problem}
    (fails : field.Fails scope problem) : Covers scope (tell problem) [field] := by
  obtain ⟨unresolved, _, _, told⟩ := fails.outcome
  intro gathered
  simp [unresolved, told]

theorem covers_typedef (decl : TypedefDecl) :
    Covers scope (typedef decl) [TypeField.ofTypedef decl] := by
  unfold typedef
  cases parsed : Primitive.parse? decl.target with
  | some literal =>
      have refers : (TypeField.ofTypedef decl).Refers scope (.primitive literal) :=
        .typedef rfl (Primitive.parse_eq_some_iff.mp parsed)
      apply covers_referred scope refers
      intro gathered
      simp [TypeField.misuse?, TypeField.ofTypedef]
  | none =>
      have fails : (TypeField.ofTypedef decl).Fails scope (.invalidTypedef decl.name decl.target) :=
        .typedef rfl (Primitive.parse_eq_none_iff.mp parsed)
      exact covers_failed scope fails

/-- A type string that is judged as its use demands. -/
theorem covers_type (field : TypeField) {judge : TypeTarget → Walk Unit}
    (other : ∀ name, field.use ≠ .alias name)
    (judges : ∀ target (gathered : Gathered), (judge target).run gathered =
      ((), { gathered with
             problems := gathered.problems ++ (field.misuse? scope target).toList })) :
    Covers scope (type scope field.site field.type judge) [field] := by
  unfold type
  cases judged : scope.classify field.type with
  | resolved target =>
      apply covers_referred scope (.meaning other judged)
      intro gathered
      exact judges target _
  | unknown => exact covers_failed scope (.unknown other judged)
  | kindMismatch name expected found => exact covers_failed scope (.mismatch other judged)

theorem covers_value (site written : String) (qualifiers : List String) :
    Covers scope (value scope site written qualifiers) [⟨site, written, .value qualifiers⟩] := by
  apply covers_type scope ⟨site, written, .value qualifiers⟩
  · intro name
    simp
  · intro target gathered
    simp only [judgeQualifiers, TypeField.misuse?]
    split
    · rw [return_run, Option.toList_none, List.append_nil]
    · rw [tell_run, Option.toList_some]

theorem covers_parameter (owner word : String) (decl : Parameter) :
    Covers scope (parameter scope owner word decl) [TypeField.ofParameter owner word decl] :=
  covers_value scope _ _ _

theorem covers_returned (owner : String) (decl : ReturnValue) :
    Covers scope (returned scope owner decl) [TypeField.ofReturn owner decl] :=
  covers_value scope _ _ _

theorem covers_completion (owner callback : String) :
    Covers scope (completion scope owner callback) [TypeField.ofCompletion owner callback] := by
  apply covers_type scope (TypeField.ofCompletion owner callback)
  · intro name
    simp [TypeField.ofCompletion]
  · intro target gathered
    simp only [judgeCompletion, TypeField.misuse?, TypeField.ofCompletion]
    rcases target.kind? with _ | kind
    · rw [tell_run, Option.toList_some]
    · cases kind with
      | callback => rw [return_run, Option.toList_none, List.append_nil]
      | _ => rw [tell_run, Option.toList_some]

theorem covers_callable (owner : String) (function : FunctionDecl) :
    Covers scope (callable scope owner function) (TypeField.ofCallable owner function) := by
  rw [TypeField.ofCallable, List.append_assoc]
  exact (covers_each_field (covers_parameter scope owner "arg")).after
    ((covers_optional (covers_returned scope owner)).after
      (covers_optional (covers_completion scope owner)))

theorem covers_callback (decl : CallbackDecl) :
    Covers scope (callback scope decl) (TypeField.ofCallback decl) :=
  covers_each_field (covers_parameter scope ("callback " ++ decl.name) "arg")

theorem covers_struct (decl : StructDecl) :
    Covers scope (struct scope decl) (TypeField.ofStruct decl) :=
  covers_each_field (covers_parameter scope ("struct " ++ decl.name) "member")

theorem covers_function (decl : FunctionDecl) :
    Covers scope (function scope decl) (TypeField.ofFunction decl) :=
  covers_callable scope ("function " ++ decl.name) decl

theorem covers_object (decl : ObjectDecl) :
    Covers scope (object scope decl) (TypeField.ofObject decl) :=
  covers_each fun method =>
    covers_callable scope ("object " ++ decl.name ++ " method " ++ method.name) method

theorem covers_throughout (callbacks : List CallbackDecl) (structs : List StructDecl)
    (functions : List FunctionDecl) (objects : List ObjectDecl) :
    Covers scope (throughout scope callbacks structs functions objects)
      (TypeField.all scope.typedefs callbacks structs functions objects) := by
  simp only [TypeField.all, List.append_assoc]
  exact (covers_each_field (covers_typedef scope)).after <|
    (covers_each (covers_callback scope)).after <|
    (covers_each (covers_struct scope)).after <|
    (covers_each (covers_function scope)).after <|
    covers_each (covers_object scope)

end Visits

end Walk

structure Accounts (scope : TypeScope) (fields : List TypeField) (gathered : Gathered) :
    Prop where
  /-- A field gives one reference or one failure, and not both. -/
  each : ∀ field ∈ fields,
    (∃ target, field.Refers scope target ∧
        field.reference? scope = some ⟨field.site, field.type, target⟩ ∧
        field.failure? scope = none) ∨
      ∃ problem, field.Fails scope problem ∧ field.reference? scope = none ∧
        field.failure? scope = some problem
  references : gathered.references = fields.filterMap (TypeField.reference? scope)
  problems : gathered.problems =
    fields.flatMap fun field => (field.failure? scope).toList ++ (field.further? scope).toList
  count : gathered.references.length + (fields.filterMap (TypeField.failure? scope)).length =
    fields.length
  /-- Beside references and failures only what does not fit to a target is told, once a field. -/
  further : ∀ field ∈ fields, ∀ problem,
    field.further? scope = some problem ↔
      ∃ target, field.Refers scope target ∧ field.Misfits scope target problem

namespace TypeField

variable {scope : TypeScope}

theorem problems_eq (field : TypeField) :
    field.problems scope = (field.failure? scope).toList ++ (field.further? scope).toList := by
  rcases refers_or_fails scope field with ⟨target, refers⟩ | ⟨problem, fails⟩
  · obtain ⟨_, resolved, further, told⟩ := refers.outcome
    rw [told, resolved, further, Option.toList_none, List.nil_append]
  · obtain ⟨_, failed, further, told⟩ := fails.outcome
    rw [told, failed, further, Option.toList_none, Option.toList_some, List.append_nil]

theorem outcome_count (fields : List TypeField) :
    (fields.filterMap (reference? scope)).length + (fields.filterMap (failure? scope)).length =
      fields.length := by
  induction fields with
  | nil => rfl
  | cons field rest ih =>
      rcases refers_or_fails scope field with ⟨target, refers⟩ | ⟨problem, fails⟩
      · obtain ⟨reference, resolved, _⟩ := refers.outcome
        rw [List.filterMap_cons_some reference, List.filterMap_cons_none resolved,
          List.length_cons, List.length_cons]
        omega
      · obtain ⟨unresolved, failed, _⟩ := fails.outcome
        rw [List.filterMap_cons_none unresolved, List.filterMap_cons_some failed,
          List.length_cons, List.length_cons]
        omega

theorem further_iff {field : TypeField} {problem : Problem} :
    field.further? scope = some problem ↔
      ∃ target, field.Refers scope target ∧ field.Misfits scope target problem := by
  simp only [further?, Option.bind_eq_some_iff, Classification.target_eq_some_iff, refers_iff,
    misfits_iff]

end TypeField

/-- The walk visits all fields in the order of the declarations, whatever was gathered before, and
each of them accounts for one reference or one failure. What it gathers is what the fields give one
by one. -/
theorem fields_accounted (scope : TypeScope) (callbacks : List CallbackDecl)
    (structs : List StructDecl) (functions : List FunctionDecl) (objects : List ObjectDecl) :
    Walk.Covers scope (Walk.throughout scope callbacks structs functions objects)
        (TypeField.all scope.typedefs callbacks structs functions objects) ∧
      Accounts scope (TypeField.all scope.typedefs callbacks structs functions objects)
        ((Walk.throughout scope callbacks structs functions objects).run {}).2 := by
  have covers := Walk.covers_throughout scope callbacks structs functions objects
  have gathered := congrArg Prod.snd (covers {})
  refine ⟨covers, ?_⟩
  constructor
  · intro field _
    rcases TypeField.refers_or_fails scope field with ⟨target, refers⟩ | ⟨problem, fails⟩
    · obtain ⟨reference, resolved, _⟩ := refers.outcome
      exact Or.inl ⟨target, refers, reference, resolved⟩
    · obtain ⟨unresolved, failed, _⟩ := fails.outcome
      exact Or.inr ⟨problem, fails, unresolved, failed⟩
  · rw [gathered, List.nil_append]
  · rw [gathered, List.nil_append]
    exact List.flatMap_congr fun field _ => field.problems_eq
  · rw [gathered, List.nil_append]
    exact TypeField.outcome_count _
  · intro field _ problem
    exact TypeField.further_iff

end InterfaceSchema
