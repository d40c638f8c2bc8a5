import InterfaceSchema.Resolver

/-!
Reports without errors. Such a report leaves each stage without a problem of its own, apart from
the masks held twice, which may be told as warnings.
-/

namespace InterfaceSchema

set_option autoImplicit false

theorem Report.has_errors_eq_false_iff (report : Report) :
    report.hasErrors = false ↔ ∀ diagnostic ∈ report.diagnostics, diagnostic.isError = false := by
  unfold Report.hasErrors Report.errorCount
  rw [decide_eq_false_iff_not, Nat.not_lt, Nat.le_zero, List.countP_eq_zero]
  simp only [Bool.not_eq_true]

theorem Diagnostic.error_is_error (problem : Problem) :
    (Diagnostic.error problem).isError = true := rfl

theorem Resolution.model_of_no_errors {resolution : Resolution}
    (quiet : resolution.report.hasErrors = false) :
    resolution.model? = some resolution.partialModel := by
  simp [model?, quiet]

namespace Resolver

/-- The names that the documents declare. -/
def declaredTypes (documents : List Document) : Universe :=
  (({} : Universe).register (Declared.ofDocuments documents).typeNames).1

def registrationProblems (documents : List Document) : List Problem :=
  (({} : Universe).register (Declared.ofDocuments documents).typeNames).2

/-- What the type strings of the documents are resolved against. -/
def scopeOf (config : Config) (documents : List Document) : TypeScope :=
  ⟨declaredTypes documents, (Declared.ofDocuments documents).typedefs, config.qualified⟩

section Stages

variable (config : Config) (documents : List Document)

theorem resolve_declared :
    (resolve config documents).partialModel.declared = declaredTypes documents := rfl

theorem resolve_structs :
    (resolve config documents).partialModel.structs = (Declared.ofDocuments documents).structs :=
  rfl

theorem resolve_enums :
    (resolve config documents).partialModel.enums =
      (Declared.ofDocuments documents).enums.map fun group =>
        (Numbering.resolve (Declared.ofDocuments documents).blocks group).1 := by
  simp only [resolve, List.map_map, Function.comp_def]

theorem resolve_bitflags :
    (resolve config documents).partialModel.bitflags =
      (Declared.ofDocuments documents).bitflags.map fun group =>
        (BitflagDecl.resolve config group).1 := by
  simp only [resolve, List.map_map, Function.comp_def]

theorem resolve_references :
    (resolve config documents).partialModel.references =
      (Declared.ofDocuments documents).typeFields.filterMap
        (TypeField.reference? (scopeOf config documents)) := rfl

theorem resolve_attachments :
    (resolve config documents).partialModel.attachments =
      (Attachments.resolve (Declared.ofDocuments documents).structs
        (declaredTypes documents)).1 := rfl

theorem resolve_classify (type : String) :
    (resolve config documents).partialModel.classify type =
      ((scopeOf config documents).classify type).target? := rfl

end Stages

/-- No stage tells an error. -/
structure Clean (config : Config) (documents : List Document) : Prop where
  blocks : blockProblems documents = []
  merges : mergeProblems (Declared.ofDocuments documents) = []
  registration : registrationProblems documents = []
  names : nameProblems (Declared.ofDocuments documents) = []
  fields : ∀ field ∈ (Declared.ofDocuments documents).typeFields,
    field.problems (scopeOf config documents) = []
  attachments : (Attachments.resolve (Declared.ofDocuments documents).structs
    (declaredTypes documents)).2 = []
  bitflags : ∀ group ∈ (Declared.ofDocuments documents).bitflags,
    ∀ diagnostic ∈ (BitflagDecl.resolve config group).2, diagnostic.isError = false
  enums : ∀ group ∈ (Declared.ofDocuments documents).enums,
    (Numbering.resolve (Declared.ofDocuments documents).blocks group).2 = []
  constants : ∀ constant ∈ (Declared.ofDocuments documents).constants,
    constantProblems config.pointerWidth constant = []

theorem no_error_iff (problems : List Problem) :
    (∀ diagnostic ∈ problems.map Diagnostic.error, diagnostic.isError = false) ↔
      problems = [] := by
  cases problems with
  | nil => simp
  | cons problem rest => simp [Diagnostic.error_is_error]

/-- The report tells the stages one after the other. -/
theorem report_diagnostics (config : Config) (documents : List Document) :
    (resolve config documents).report.diagnostics =
      (blockProblems documents ++ mergeProblems (Declared.ofDocuments documents) ++
          registrationProblems documents ++ nameProblems (Declared.ofDocuments documents) ++
          (Declared.ofDocuments documents).typeFields.flatMap
            (TypeField.problems (scopeOf config documents)) ++
          (Attachments.resolve (Declared.ofDocuments documents).structs
            (declaredTypes documents)).2).map .error ++
        ((Declared.ofDocuments documents).bitflags.map
          (BitflagDecl.resolve config)).flatMap Prod.snd ++
        (((Declared.ofDocuments documents).enums.map
            (Numbering.resolve (Declared.ofDocuments documents).blocks)).flatMap Prod.snd ++
          (Declared.ofDocuments documents).constants.flatMap
            (constantProblems config.pointerWidth)).map .error := rfl

theorem clean_of_no_errors {config : Config} {documents : List Document}
    (quiet : (resolve config documents).report.hasErrors = false) : Clean config documents := by
  rw [Report.has_errors_eq_false_iff, report_diagnostics] at quiet
  rw [List.forall_mem_append, List.forall_mem_append, no_error_iff, no_error_iff] at quiet
  obtain ⟨⟨first, bitflags⟩, last⟩ := quiet
  simp only [List.append_eq_nil_iff, List.flatMap_eq_nil_iff] at first last
  obtain ⟨⟨⟨⟨⟨blocks, merges⟩, registration⟩, names⟩, fields⟩, attachments⟩ := first
  refine ⟨blocks, merges, registration, names, fields, attachments, ?_, ?_, last.2⟩
  · intro group member diagnostic told
    exact bitflags diagnostic (List.mem_flatMap.mpr ⟨_, List.mem_map_of_mem member, told⟩)
  · intro group member
    exact last.1 _ (List.mem_map_of_mem member)

theorem no_errors_iff_clean {config : Config} {documents : List Document} :
    (resolve config documents).report.hasErrors = false ↔ Clean config documents := by
  constructor
  · exact clean_of_no_errors
  · intro clean
    rw [Report.has_errors_eq_false_iff, report_diagnostics, List.forall_mem_append,
      List.forall_mem_append, no_error_iff, no_error_iff]
    refine ⟨⟨?_, ?_⟩, ?_⟩
    · simp only [List.append_eq_nil_iff, List.flatMap_eq_nil_iff]
      exact ⟨⟨⟨⟨⟨clean.blocks, clean.merges⟩, clean.registration⟩, clean.names⟩, clean.fields⟩,
        clean.attachments⟩
    · intro diagnostic told
      obtain ⟨_, resolved, among⟩ := List.mem_flatMap.mp told
      obtain ⟨group, member, rfl⟩ := List.mem_map.mp resolved
      exact clean.bitflags group member diagnostic among
    · rw [List.append_eq_nil_iff, List.flatMap_eq_nil_iff, List.flatMap_eq_nil_iff,
        List.forall_mem_map]
      exact ⟨clean.enums, clean.constants⟩

end Resolver

end InterfaceSchema
