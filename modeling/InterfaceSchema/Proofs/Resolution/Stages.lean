import InterfaceSchema.Proofs.Recorder.Values
import Mathlib.Data.List.Pairwise

/-!
A run as one computation that hands its report from stage to stage. It gives the model and the
report of the documents; every stage adds to the report what it would record on its own, and the
diagnostics of a report show by themselves in which order the stages came.
-/

namespace InterfaceSchema

set_option autoImplicit false

inductive Pass where
  | blocks
  | mergeEnums
  | mergeBitflags
  | mergeObjects
  | registration
  | names
  | references
  | attachments
  | masks
  | numbers
  | constants
  deriving DecidableEq, Repr

namespace Pass

def order : List Pass :=
  [blocks, mergeEnums, mergeBitflags, mergeObjects, registration, names, references, attachments,
    masks, numbers, constants]

def rank (pass : Pass) : Nat := order.idxOf pass

end Pass

/-- The pass that tells the problems of a stage. Masks that are held twice are told set by set, in
the pass that evaluates the sets. -/
def Stage.pass : Stage → Pass
  | blocks => .blocks
  | merging .enum => .mergeEnums
  | merging .bitflag => .mergeBitflags
  | merging _ => .mergeObjects
  | registration => .registration
  | names => .names
  | references => .references
  | attachments => .attachments
  | masks | aliases => .masks
  | numbers => .numbers
  | constants => .constants

def Diagnostic.pass (diagnostic : Diagnostic) : Pass := diagnostic.problem.stage.pass

theorem Diagnostic.errors_in_pass {stage : Stage} {problems : List Problem}
    (tells : stage.Tells problems) :
    ∀ diagnostic ∈ problems.map error, diagnostic.pass = stage.pass := by
  rw [List.forall_mem_map]
  intro problem told
  exact congrArg Stage.pass (tells problem told)

namespace Recorder

open Declared

/-- The whole run on one report. -/
def throughout (config : Config) (documents : List Document) : Recorder Model := do
  let blocks ← blocks documents
  let enumGroups ← merge (located Document.enums documents)
  let bitflagGroups ← merge (located Document.bitflags documents)
  let objectGroups ← merge (located Document.objects documents)
  let declared : Declared :=
    { blocks := blocks
      enums := enumGroups
      bitflags := bitflagGroups
      objectGroups := objectGroups
      constants := documents.flatMap Document.constants
      typedefs := documents.flatMap Document.typedefs
      callbacks := documents.flatMap Document.callbacks
      structs := documents.flatMap Document.structs
      functions := documents.flatMap Document.functions }
  let types ← register {} declared.typeNames
  names declared
  let references ← references ⟨types, declared.typedefs, config.qualified⟩ declared.typeFields
  let attachments ←
    attach declared.structs types 0 (.empty declared.structs.length) declared.structs
  let bitflags ← declared.bitflags.mapM (masks config)
  let enums ← declared.enums.mapM (numbers declared.blocks)
  let constants ← declared.constants.mapM (constant config.pointerWidth)
  return {
    name := (documents.head?.map Document.name).getD ""
    copyright := (documents.head?.map Document.copyright).getD ""
    declared := types
    constants := constants
    typedefs := declared.typedefs
    enums := enums
    bitflags := bitflags
    callbacks := declared.callbacks
    structs := declared.structs
    functions := declared.functions
    objects := declared.objects
    references := references
    attachments := attachments
    qualified := config.qualified }

def quiet {Value : Type} (action : Recorder Value) : Recorder Unit := do
  let _ ← action
  return ()

theorem Records.quiet {Value : Type} {action : Recorder Value} {value : Value}
    {told : List Diagnostic} (records : Records action value told) :
    Records (Recorder.quiet action) () told :=
  records.map_value fun _ => ()

end Recorder

namespace Resolver

open Declared Recorder

section Passes

variable (config : Config) (documents : List Document)

/-- One pass on its own, with what the passes before it hand on. -/
def perform (pass : Pass) : Recorder Unit :=
  let declared := ofDocuments documents
  match pass with
  | .blocks => quiet (Recorder.blocks documents)
  | .mergeEnums => quiet (Recorder.merge (located Document.enums documents))
  | .mergeBitflags => quiet (Recorder.merge (located Document.bitflags documents))
  | .mergeObjects => quiet (Recorder.merge (located Document.objects documents))
  | .registration => quiet (Recorder.register {} declared.typeNames)
  | .names => Recorder.names declared
  | .references => quiet (Recorder.references (scopeOf config documents) declared.typeFields)
  | .attachments => quiet
      (Recorder.attach declared.structs (declaredTypes documents) 0
        (.empty declared.structs.length) declared.structs)
  | .masks => quiet (declared.bitflags.mapM (Recorder.masks config))
  | .numbers => quiet (declared.enums.mapM (Recorder.numbers declared.blocks))
  | .constants => quiet (declared.constants.mapM (Recorder.constant config.pointerWidth))

def toldAlone (pass : Pass) : List Diagnostic :=
  ((perform config documents pass).run {}).2.diagnostics

def passDiagnostics (pass : Pass) : List Diagnostic :=
  let declared := ofDocuments documents
  match pass with
  | .blocks => (blockProblems documents).map .error
  | .mergeEnums => (declared.enums.flatMap Group.problems).map .error
  | .mergeBitflags => (declared.bitflags.flatMap Group.problems).map .error
  | .mergeObjects => (declared.objectGroups.flatMap Group.problems).map .error
  | .registration => (registrationProblems documents).map .error
  | .names => (nameProblems declared).map .error
  | .references =>
      (declared.typeFields.flatMap (TypeField.problems (scopeOf config documents))).map .error
  | .attachments =>
      (declared.structs.flatMap (Attachments.problemsOfStruct declared.structs
        (declaredTypes documents))).map .error
  | .masks => declared.bitflags.flatMap fun group => (BitflagDecl.resolve config group).2
  | .numbers => declared.enums.flatMap fun group =>
      (Numbering.resolve declared.blocks group).2.map .error
  | .constants => declared.constants.flatMap fun constant =>
      (constantProblems config.pointerWidth constant).map .error

theorem records_perform (pass : Pass) :
    Records (perform config documents pass) () (passDiagnostics config documents pass) := by
  cases pass with
  | blocks => exact (records_blocks documents).quiet
  | mergeEnums | mergeBitflags | mergeObjects => exact (records_merge _).quiet
  | registration => exact (records_register {} _).quiet
  | names => exact records_names _
  | references => exact (records_references _ _).quiet
  | attachments => exact (records_attach _ _ 0 _ _).quiet
  | masks => exact (records_map fun group _ => records_masks config group).quiet
  | numbers => exact (records_map fun group _ => records_numbers _ group).quiet
  | constants => exact (records_map fun constant _ => records_constant _ constant).quiet

theorem told_alone_eq (pass : Pass) :
    toldAlone config documents pass = passDiagnostics config documents pass :=
  (records_perform config documents pass).of_empty

theorem report_by_passes :
    (resolve config documents).report.diagnostics =
      Pass.order.flatMap (passDiagnostics config documents) := by
  rw [report_diagnostics]
  simp only [Pass.order, List.flatMap_cons, List.flatMap_nil, List.append_nil, passDiagnostics,
    mergeProblems, Attachments.resolve, List.map_append, List.map_flatMap, List.flatMap_map,
    List.append_assoc]

theorem model_by_declaration :
    (resolve config documents).partialModel =
      { (resolve config documents).partialModel with
        bitflags := (ofDocuments documents).bitflags.map fun group =>
          (BitflagDecl.resolve config group).1
        enums := (ofDocuments documents).enums.map fun group =>
          (Numbering.resolve (ofDocuments documents).blocks group).1 } := by
  simp only [resolve, List.map_map, Function.comp_def]

theorem records_throughout :
    Records (throughout config documents) (resolve config documents).partialModel
      (resolve config documents).report.diagnostics := by
  rw [report_by_passes, model_by_declaration]
  refine (records_blocks documents).bind ?_
  refine (records_merge _).bind ?_
  refine (records_merge _).bind ?_
  refine (records_merge _).bind ?_
  refine (records_register {} _).bind ?_
  refine (records_names _).after ?_
  refine (records_references _ _).bind ?_
  refine (records_attach _ _ 0 _ _).bind ?_
  refine (records_map fun group _ => records_masks config group).bind ?_
  refine (records_map fun group _ => records_numbers _ group).bind ?_
  refine (records_map fun constant _ => records_constant _ constant).bind ?_
  exact records_pure _

theorem told_in_pass (pass : Pass) :
    ∀ diagnostic ∈ passDiagnostics config documents pass, diagnostic.pass = pass := by
  let declared := ofDocuments documents
  cases pass with
  | blocks => exact Diagnostic.errors_in_pass (block_problems_told documents)
  | mergeEnums =>
      have tells := Stage.tells_flat_map fun group (_ : group ∈ declared.enums) =>
        group.problems_told
      exact Diagnostic.errors_in_pass tells
  | mergeBitflags =>
      have tells := Stage.tells_flat_map fun group (_ : group ∈ declared.bitflags) =>
        group.problems_told
      exact Diagnostic.errors_in_pass tells
  | mergeObjects =>
      have tells := Stage.tells_flat_map fun group (_ : group ∈ declared.objectGroups) =>
        group.problems_told
      exact Diagnostic.errors_in_pass tells
  | registration => exact Diagnostic.errors_in_pass (Universe.register_told {} _)
  | names => exact Diagnostic.errors_in_pass (name_problems_told _)
  | references =>
      have tells := Stage.tells_flat_map fun field (_ : field ∈ declared.typeFields) =>
        field.problems_told (scopeOf config documents)
      exact Diagnostic.errors_in_pass tells
  | attachments =>
      have tells := Stage.tells_flat_map fun struct (_ : struct ∈ declared.structs) =>
        Attachments.problems_of_struct_told declared.structs (declaredTypes documents) struct
      exact Diagnostic.errors_in_pass tells
  | masks =>
      intro diagnostic told
      obtain ⟨group, _, among⟩ := List.mem_flatMap.mp told
      rw [BitflagDecl.resolve_diagnostics, List.mem_append] at among
      rcases among with own | held
      · exact Diagnostic.errors_in_pass (BitflagDecl.own_problems_told config group) _ own
      · have among := ResolvedBitflag.problem_of_alias held
        exact congrArg Stage.pass (BitflagDecl.alias_problems_told config group _ among)
  | numbers =>
      intro diagnostic told
      obtain ⟨group, _, among⟩ := List.mem_flatMap.mp told
      exact Diagnostic.errors_in_pass (Numbering.resolve_told _ group) _ among
  | constants =>
      intro diagnostic told
      obtain ⟨constant, _, among⟩ := List.mem_flatMap.mp told
      exact Diagnostic.errors_in_pass (constant_problems_told _ constant) _ among

theorem report_of_pass (pass : Pass) :
    (resolve config documents).report.diagnostics.filter
        (fun diagnostic => diagnostic.pass = pass) =
      passDiagnostics config documents pass := by
  have sieved (other : Pass) :
      (passDiagnostics config documents other).filter (fun diagnostic => diagnostic.pass = pass) =
        if other = pass then passDiagnostics config documents other else [] := by
    have shows := told_in_pass config documents other
    split
    · rename_i same
      rw [List.filter_eq_self]
      intro diagnostic told
      exact decide_eq_true ((shows diagnostic told).trans same)
    · rename_i different
      rw [List.filter_eq_nil_iff]
      intro diagnostic told same
      exact different ((shows diagnostic told).symm.trans (of_decide_eq_true same))
  rw [report_by_passes, List.filter_flatMap, List.flatMap_congr fun other _ => sieved other]
  cases pass <;> simp [Pass.order]

theorem report_of_kind {kind : ProblemKind} {pass : Pass}
    (shows : ∀ diagnostic : Diagnostic, diagnostic.problem.kind = kind → diagnostic.pass = pass) :
    (resolve config documents).report.diagnostics.filter
        (fun diagnostic => diagnostic.problem.kind == kind) =
      (passDiagnostics config documents pass).filter
        fun diagnostic => diagnostic.problem.kind == kind := by
  rw [← report_of_pass, List.filter_filter]
  apply List.filter_congr
  intro diagnostic _
  by_cases about : diagnostic.problem.kind = kind
  · simp [about, shows diagnostic about]
  · simp [about]

theorem passes_never_decrease :
    (resolve config documents).report.diagnostics.Pairwise fun earlier later =>
      earlier.pass.rank ≤ later.pass.rank := by
  rw [report_by_passes]
  apply List.pairwise_flatMap.mpr
  constructor
  · intro pass _
    apply List.pairwise_of_forall_mem_list
    intro earlier toldEarlier later toldLater
    have first := told_in_pass config documents pass earlier toldEarlier
    have second := told_in_pass config documents pass later toldLater
    exact Nat.le_of_eq (congrArg Pass.rank (first.trans second.symm))
  · have ordered : Pass.order.Pairwise fun before after => before.rank ≤ after.rank := by decide
    apply ordered.imp
    intro before after below earlier toldEarlier later toldLater
    rw [told_in_pass config documents before earlier toldEarlier,
      told_in_pass config documents after later toldLater]
    exact below

end Passes

structure ReportsInOrder (config : Config) (documents : List Document) : Prop where
  /-- The whole run leaves what is recorded already as it is, and gives the model and the report of
  the documents whatever that may be. -/
  whole : ∀ report : Report,
    (throughout config documents).run report =
      ((resolve config documents).partialModel,
        ⟨report.diagnostics ++ (resolve config documents).report.diagnostics⟩)
  segments : (resolve config documents).report.diagnostics =
    Pass.order.flatMap (toldAlone config documents)
  independent : ∀ (pass : Pass) (report : Report),
    (perform config documents pass).run report =
      ((), ⟨report.diagnostics ++ toldAlone config documents pass⟩)
  shown : ∀ pass : Pass,
    (resolve config documents).report.diagnostics.filter
      (fun diagnostic => diagnostic.pass = pass) = toldAlone config documents pass
  ordered : (resolve config documents).report.diagnostics.Pairwise fun earlier later =>
    earlier.pass.rank ≤ later.pass.rank

theorem reports_in_order (config : Config) (documents : List Document) :
    ReportsInOrder config documents where
  whole := records_throughout config documents
  segments := by
    rw [report_by_passes]
    exact List.flatMap_congr fun pass _ => (told_alone_eq config documents pass).symm
  independent := by
    intro pass report
    rw [told_alone_eq]
    exact records_perform config documents pass report
  shown := by
    intro pass
    rw [told_alone_eq]
    exact report_of_pass config documents pass
  ordered := passes_never_decrease config documents

/-- A document with a fault in each of four passes. -/
def faultyDocument : Document :=
  { name := "faulty"
    block := "0x10000"
    constants := [⟨"low", .signed (-1), ""⟩, ⟨"low", .unsigned 2, ""⟩]
    callbacks := [⟨"done", "", .immediate, [{ name := "status", type := "enum.status" }]⟩] }

example : (resolve {} [faultyDocument]).report.diagnostics.map Diagnostic.pass =
    [.blocks, .names, .references, .constants] := by
  decide

end Resolver

end InterfaceSchema
