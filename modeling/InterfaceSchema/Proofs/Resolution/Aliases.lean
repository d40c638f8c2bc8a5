import InterfaceSchema.Proofs.Resolution.Clean
import InterfaceSchema.Proofs.Stage
import Mathlib.Data.List.Basic

/-!
The policy for masks that are held twice. It decides whether such a mask is told at all, and
whether as a warning or as an error; the model and all else that is told are the same under every
policy.
-/

namespace InterfaceSchema

set_option autoImplicit false

namespace Config

def under (config : Config) (policy : AliasPolicy) : Config := { config with aliases := policy }

end Config

namespace Diagnostic

/-- Whether a mask held twice is told. -/
def isAlias (diagnostic : Diagnostic) : Bool :=
  diagnostic.problem.kind == .duplicateBitflagValue

/-- What a diagnostic becomes where aliases are denied. -/
def denied (diagnostic : Diagnostic) : Diagnostic :=
  if diagnostic.isAlias then error diagnostic.problem else diagnostic

theorem is_alias_iff (diagnostic : Diagnostic) :
    diagnostic.isAlias = true ↔ diagnostic.problem.stage = .aliases := by
  rw [isAlias, beq_iff_eq, Problem.stage_eq_aliases_iff]

theorem plain_errors {problems : List Problem}
    (elsewhere : ∀ problem ∈ problems, problem.stage ≠ .aliases) :
    ∀ diagnostic ∈ problems.map error, diagnostic.isError = true ∧ diagnostic.isAlias = false := by
  rw [List.forall_mem_map]
  intro problem told
  refine ⟨rfl, Bool.eq_false_iff.mpr fun held => ?_⟩
  exact elsewhere problem told ((is_alias_iff _).mp held)

theorem errors_kept {problems : List Problem}
    (elsewhere : ∀ problem ∈ problems, problem.stage ≠ .aliases) :
    (problems.map error).filter (fun diagnostic => !diagnostic.isAlias) = problems.map error := by
  apply List.filter_eq_self.mpr
  intro diagnostic told
  rw [(plain_errors elsewhere diagnostic told).2]
  rfl

theorem errors_denied (problems : List Problem) :
    (problems.map error).map denied = problems.map error := by
  rw [List.map_map]
  apply List.map_congr_left
  intro problem _
  exact ite_self _

theorem warnings_denied {problems : List Problem} (tells : Stage.aliases.Tells problems) :
    (problems.map warning).map denied = problems.map error := by
  rw [List.map_map]
  apply List.map_congr_left
  intro problem told
  have held : (warning problem).isAlias = true :=
    (is_alias_iff _).mpr (tells problem told)
  simp only [Function.comp_apply, denied, held, if_true]
  rfl

end Diagnostic

def Report.withoutAliases (report : Report) : List Diagnostic :=
  report.diagnostics.filter fun diagnostic => !diagnostic.isAlias

theorem ResolvedBitflag.problem_of_alias {policy : AliasPolicy} {problems : List Problem}
    {diagnostic : Diagnostic} (told : diagnostic ∈ aliasDiagnostics policy problems) :
    diagnostic.problem ∈ problems := by
  cases policy with
  | allow => cases told
  | warn | deny =>
      obtain ⟨problem, member, rfl⟩ := List.mem_map.mp told
      exact member

/-- Whatever the policy is, of masks held twice nothing else is told. -/
theorem ResolvedBitflag.aliases_dropped (policy : AliasPolicy) {problems : List Problem}
    (tells : Stage.aliases.Tells problems) :
    (aliasDiagnostics policy problems).filter (fun diagnostic => !diagnostic.isAlias) = [] := by
  rw [List.filter_eq_nil_iff]
  intro diagnostic told
  have held : diagnostic.isAlias = true :=
    diagnostic.is_alias_iff.mpr (tells _ (problem_of_alias told))
  simp [held]

theorem ResolvedBitflag.alias_diagnostics_filter (policy : AliasPolicy) (keep : Problem → Bool)
    (problems : List Problem) :
    (aliasDiagnostics policy problems).filter (fun diagnostic => keep diagnostic.problem) =
      aliasDiagnostics policy (problems.filter keep) := by
  cases policy with
  | allow => rfl
  | warn | deny => exact List.filter_map

namespace BitflagDecl

def ownProblems (config : Config) (group : Group BitflagDecl) : List Problem :=
  let entries := mergedEntries group
  let nodes := MaskNode.graph entries config.pointerWidth
  Uniqueness.problems .bitflagEntry (some group.name) (entries.map BitflagEntry.name) ++
    entries.flatMap (MaskNode.problems group.name entries config.pointerWidth) ++
    MaskCycle.problems group.name entries nodes (MaskProgress.evaluate nodes)

def aliasProblems (config : Config) (group : Group BitflagDecl) : List Problem :=
  let entries := mergedEntries group
  let nodes := MaskNode.graph entries config.pointerWidth
  ResolvedBitflag.duplicates group.name []
    ((entries.map BitflagEntry.name).zip (MaskProgress.evaluate nodes).masks)

theorem resolve_diagnostics (config : Config) (group : Group BitflagDecl) :
    (resolve config group).2 = (ownProblems config group).map .error ++
      ResolvedBitflag.aliasDiagnostics config.aliases (aliasProblems config group) := rfl

theorem diagnostics_filter (config : Config) (group : Group BitflagDecl)
    (keep : Problem → Bool) :
    (resolve config group).2.filter (fun diagnostic => keep diagnostic.problem) =
      ((ownProblems config group).filter keep).map .error ++
        ResolvedBitflag.aliasDiagnostics config.aliases
          ((aliasProblems config group).filter keep) := by
  rw [resolve_diagnostics, List.filter_append, ResolvedBitflag.alias_diagnostics_filter,
    List.filter_map]
  rfl

theorem own_problems_told (config : Config) (group : Group BitflagDecl) :
    Stage.masks.Tells (ownProblems config group) := by
  simp only [ownProblems, Stage.tells_append]
  refine ⟨⟨Uniqueness.problems_told .bitflagEntry _ _, ?_⟩, MaskCycle.problems_told _ _ _ _⟩
  exact Stage.tells_flat_map fun entry _ => MaskNode.problems_told _ _ _ entry

theorem own_problems_elsewhere (config : Config) (group : Group BitflagDecl) :
    ∀ problem ∈ ownProblems config group, problem.stage ≠ .aliases :=
  (own_problems_told config group).elsewhere (by decide)

theorem alias_problems_told (config : Config) (group : Group BitflagDecl) :
    Stage.aliases.Tells (aliasProblems config group) :=
  ResolvedBitflag.duplicates_told _ _ _

end BitflagDecl

namespace Resolver

open Declared

def earlierProblems (config : Config) (documents : List Document) : List Problem :=
  blockProblems documents ++ mergeProblems (ofDocuments documents) ++
    registrationProblems documents ++ nameProblems (ofDocuments documents) ++
    (ofDocuments documents).typeFields.flatMap (TypeField.problems (scopeOf config documents)) ++
    (Attachments.resolve (ofDocuments documents).structs (declaredTypes documents)).2

def laterProblems (config : Config) (documents : List Document) : List Problem :=
  ((ofDocuments documents).enums.map (Numbering.resolve (ofDocuments documents).blocks)).flatMap
      Prod.snd ++
    (ofDocuments documents).constants.flatMap (constantProblems config.pointerWidth)

section Report

variable (config : Config) (documents : List Document)

theorem report_around_masks :
    (resolve config documents).report.diagnostics =
      (earlierProblems config documents).map .error ++
        (ofDocuments documents).bitflags.flatMap (fun group =>
          (BitflagDecl.ownProblems config group).map .error ++
            ResolvedBitflag.aliasDiagnostics config.aliases
              (BitflagDecl.aliasProblems config group)) ++
        (laterProblems config documents).map .error := by
  rw [report_diagnostics, List.flatMap_map]
  rfl

theorem earlier_problems_elsewhere :
    ∀ problem ∈ earlierProblems config documents, problem.stage ≠ .aliases := by
  simp only [earlierProblems, mergeProblems, List.forall_mem_append]
  refine ⟨⟨⟨⟨⟨?_, ⟨?_, ?_⟩, ?_⟩, ?_⟩, ?_⟩, ?_⟩, ?_⟩
  · exact (block_problems_told documents).elsewhere (by decide)
  · exact (Stage.tells_flat_map fun group _ => group.problems_told).elsewhere (by decide)
  · exact (Stage.tells_flat_map fun group _ => group.problems_told).elsewhere (by decide)
  · exact (Stage.tells_flat_map fun group _ => group.problems_told).elsewhere (by decide)
  · exact (Universe.register_told {} _).elsewhere (by decide)
  · exact (name_problems_told _).elsewhere (by decide)
  · exact (Stage.tells_flat_map fun field _ => field.problems_told _).elsewhere (by decide)
  · exact (Stage.tells_flat_map fun struct _ =>
      Attachments.problems_of_struct_told _ _ struct).elsewhere (by decide)

theorem later_problems_elsewhere :
    ∀ problem ∈ laterProblems config documents, problem.stage ≠ .aliases := by
  simp only [laterProblems, List.flatMap_map, List.forall_mem_append]
  refine ⟨?_, ?_⟩
  · exact (Stage.tells_flat_map fun group _ => Numbering.resolve_told _ group).elsewhere
      (by decide)
  · exact (Stage.tells_flat_map fun constant _ =>
      constant_problems_told _ constant).elsewhere (by decide)

/-- Without the masks that are held twice, the report does not depend on the policy. -/
theorem report_without_aliases :
    (resolve config documents).report.withoutAliases =
      (earlierProblems config documents).map .error ++
        (ofDocuments documents).bitflags.flatMap (fun group =>
          (BitflagDecl.ownProblems config group).map .error) ++
        (laterProblems config documents).map .error := by
  rw [Report.withoutAliases, report_around_masks, List.filter_append, List.filter_append,
    List.filter_flatMap, Diagnostic.errors_kept (earlier_problems_elsewhere config documents),
    Diagnostic.errors_kept (later_problems_elsewhere config documents)]
  congr 2
  apply List.flatMap_congr
  intro group _
  rw [List.filter_append,
    Diagnostic.errors_kept (BitflagDecl.own_problems_elsewhere config group),
    ResolvedBitflag.aliases_dropped _ (BitflagDecl.alias_problems_told config group),
    List.append_nil]

end Report

section Policies

variable (config : Config) (documents : List Document)

/-- Whatever does not tell a mask that is held twice is an error. -/
theorem error_or_alias {diagnostic : Diagnostic}
    (told : diagnostic ∈ (resolve config documents).report.diagnostics) :
    (diagnostic.isError = true ∧ diagnostic.isAlias = false) ∨
      ∃ group ∈ (ofDocuments documents).bitflags,
        diagnostic ∈ ResolvedBitflag.aliasDiagnostics config.aliases
          (BitflagDecl.aliasProblems config group) := by
  rw [report_around_masks, List.mem_append, List.mem_append, List.mem_flatMap] at told
  rcases told with (earlier | ⟨group, member, ofGroup⟩) | later
  · have elsewhere := earlier_problems_elsewhere config documents
    exact Or.inl (Diagnostic.plain_errors elsewhere _ earlier)
  · rcases List.mem_append.mp ofGroup with own | held
    · have elsewhere := BitflagDecl.own_problems_elsewhere config group
      exact Or.inl (Diagnostic.plain_errors elsewhere _ own)
    · exact Or.inr ⟨group, member, held⟩
  · have elsewhere := later_problems_elsewhere config documents
    exact Or.inl (Diagnostic.plain_errors elsewhere _ later)

theorem warning_iff {diagnostic : Diagnostic}
    (told : diagnostic ∈ (resolve config documents).report.diagnostics) :
    diagnostic.isError = false ↔ config.aliases = .warn ∧ diagnostic.isAlias = true := by
  rcases error_or_alias config documents told with ⟨isError, other⟩ | ⟨group, _, held⟩
  · simp [isError, other]
  · have isAlias : diagnostic.isAlias = true :=
      diagnostic.is_alias_iff.mpr
        (BitflagDecl.alias_problems_told config group _ (ResolvedBitflag.problem_of_alias held))
    cases policy : config.aliases with
    | allow =>
        rw [policy] at held
        cases held
    | warn =>
        rw [policy] at held
        obtain ⟨problem, _, rfl⟩ := List.mem_map.mp held
        exact ⟨fun _ => ⟨rfl, isAlias⟩, fun _ => rfl⟩
    | deny =>
        rw [policy] at held
        obtain ⟨problem, _, rfl⟩ := List.mem_map.mp held
        constructor
        · intro warned
          cases warned
        · rintro ⟨same, _⟩
          cases same

theorem model_under (policy : AliasPolicy) :
    (resolve (config.under policy) documents).partialModel =
      (resolve config documents).partialModel := by
  simp only [resolve, List.map_map]
  rfl

theorem report_denied :
    (resolve (config.under .deny) documents).report.diagnostics =
      (resolve (config.under .warn) documents).report.diagnostics.map Diagnostic.denied := by
  rw [report_around_masks, report_around_masks, List.map_append, List.map_append,
    List.map_flatMap, Diagnostic.errors_denied, Diagnostic.errors_denied]
  congr 2
  apply List.flatMap_congr
  intro group _
  rw [List.map_append, Diagnostic.errors_denied]
  exact congrArg (_ ++ ·)
    (Diagnostic.warnings_denied (BitflagDecl.alias_problems_told config group)).symm

theorem report_allowed :
    (resolve (config.under .allow) documents).report.diagnostics =
      (resolve (config.under .warn) documents).report.withoutAliases := by
  rw [report_without_aliases, report_around_masks]
  congr 2
  apply List.flatMap_congr
  intro group _
  exact List.append_nil _

theorem no_errors_warned
    (quiet : (resolve (config.under .deny) documents).report.hasErrors = false) :
    (resolve (config.under .warn) documents).report.hasErrors = false := by
  rw [Report.has_errors_eq_false_iff, report_denied, List.forall_mem_map] at quiet
  rw [Report.has_errors_eq_false_iff]
  intro diagnostic told
  have denied := quiet diagnostic told
  unfold Diagnostic.denied at denied
  split at denied
  · cases denied
  · exact denied

theorem no_errors_allowed_iff :
    (resolve (config.under .allow) documents).report.hasErrors = false ↔
      (resolve (config.under .warn) documents).report.hasErrors = false := by
  rw [Report.has_errors_eq_false_iff, Report.has_errors_eq_false_iff, report_allowed,
    Report.withoutAliases]
  simp only [List.mem_filter, Bool.not_eq_true']
  -- What is left out under one policy is a warning under the other.
  constructor
  · intro quiet diagnostic told
    cases held : diagnostic.isAlias with
    | true => exact (warning_iff (config.under .warn) documents told).mpr ⟨rfl, held⟩
    | false => exact quiet diagnostic ⟨told, held⟩
  · intro quiet diagnostic kept
    exact quiet diagnostic kept.1

/-- The policy for masks held twice governs nothing but how they are told. -/
theorem policy_governs_diagnostics :
    (∀ policy, (resolve (config.under policy) documents).partialModel =
        (resolve config documents).partialModel) ∧
      (resolve (config.under .deny) documents).report.diagnostics =
        (resolve (config.under .warn) documents).report.diagnostics.map Diagnostic.denied ∧
      (resolve (config.under .allow) documents).report.diagnostics =
        (resolve (config.under .warn) documents).report.withoutAliases ∧
      (∀ policy, ∀ diagnostic ∈ (resolve (config.under policy) documents).report.diagnostics,
        diagnostic.isError = false ↔ policy = .warn ∧ diagnostic.isAlias = true) ∧
      (∀ model, (resolve (config.under .deny) documents).model? = some model →
        (resolve (config.under .warn) documents).model? = some model) ∧
      (resolve (config.under .allow) documents).model? =
        (resolve (config.under .warn) documents).model? := by
  refine ⟨model_under config documents, report_denied config documents,
    report_allowed config documents, ?_, ?_, ?_⟩
  · intro policy diagnostic told
    exact warning_iff (config.under policy) documents told
  · intro model available
    rw [Resolution.model?] at available
    split at available
    · cases available
    · rename_i quiet
      rw [Resolution.model_of_no_errors
        (no_errors_warned config documents (Bool.eq_false_iff.mpr quiet)), model_under]
      rwa [model_under] at available
  · have same := Bool.eq_iff_iff.mpr
      (not_iff_not.mp (by simpa using no_errors_allowed_iff config documents))
    rw [Resolution.model?, Resolution.model?, same, model_under, model_under]

/-- A mask held twice, and another mask that only one entry has. -/
def aliasedDocuments : List Document :=
  [{ name := "core"
     bitflags := [{ name := "Usage"
                    entries := [{ name := "read", value := some (.unsigned 1) },
                      { name := "load", combination := some ["read"] },
                      { name := "write", value := some (.unsigned 2) }] }] }]

def distinctDocuments : List Document :=
  [{ name := "core"
     bitflags := [{ name := "Usage"
                    entries := [{ name := "read", value := some (.unsigned 1) },
                      { name := "write", value := some (.unsigned 2) }] }] }]

theorem aliased_documents_differ_in_telling :
    Diagnostic.warning (.duplicateBitflagValue "Usage" "read" "load" 1) ∈
        (resolve (Config.under {} .warn) aliasedDocuments).report.diagnostics ∧
      Diagnostic.error (.duplicateBitflagValue "Usage" "read" "load" 1) ∈
        (resolve (Config.under {} .deny) aliasedDocuments).report.diagnostics ∧
      (resolve (Config.under {} .allow) aliasedDocuments).report.diagnostics = [] ∧
      (resolve (Config.under {} .warn) distinctDocuments).model?.isSome = true := by
  have governed := policy_governs_diagnostics {} aliasedDocuments
  have told : Diagnostic.warning (.duplicateBitflagValue "Usage" "read" "load" 1) ∈
      (resolve (Config.under {} .warn) aliasedDocuments).report.diagnostics := by decide
  refine ⟨told, ?_, ?_, ?_⟩
  · rw [governed.2.1]
    exact List.mem_map_of_mem told
  · rw [governed.2.2.1]
    decide
  · have available := (policy_governs_diagnostics {} distinctDocuments).2.2.2.2.1 _
      (Resolution.model_of_no_errors (by decide))
    exact Option.isSome_of_eq_some available

end Policies

end Resolver

end InterfaceSchema
