import InterfaceSchema.Proofs.Resolution.Aliases
import InterfaceSchema.Proofs.Resolution.Merging
import InterfaceSchema.Proofs.Uniqueness
import Mathlib.Algebra.GroupWithZero.Nat

/-!
Names within one scope. Each kind of local name has its scopes: the documents together, a callable,
a struct, or what all declarations of a name contribute to an object, a bit mask set or an enum.
In each scope every occurrence of a name after its first one is told, once and with the scope that
it belongs to, and nothing else is told of names of this kind.
-/

namespace InterfaceSchema

set_option autoImplicit false

/-- Names that have to differ from each other; what is told of one of them carries the qualifier. -/
structure NameScope where
  qualifier : Option String
  names : List String

namespace NameScope

def spell (scope : NameScope) (name : String) : String :=
  match scope.qualifier with
  | some qualifier => qualifier ++ "." ++ name
  | none => name

/-- The names that occur again, spelled with their scope. -/
def repetitions (scope : NameScope) : List String :=
  (Uniqueness.furtherOccurrences scope.names).map scope.spell

def surplus (scope : NameScope) : Nat := scope.names.length - scope.names.toFinset.card

theorem repetitions_length (scope : NameScope) : scope.repetitions.length = scope.surplus := by
  have counted := Uniqueness.repeated_length [] scope.names
  rw [List.toFinset_nil, Finset.sdiff_empty, Uniqueness.repeated_eq] at counted
  rw [repetitions, List.length_map, surplus]
  omega

theorem problems_eq (kind : NameKind) (scope : NameScope) :
    Uniqueness.problems kind scope.qualifier scope.names =
      scope.repetitions.map (.duplicateName kind) := by
  rw [Uniqueness.problems, Uniqueness.repeated_eq, repetitions, List.map_map]
  cases scope with
  | mk qualifier names => cases qualifier <;> rfl

theorem nodup_of_no_repetitions {scope : NameScope} (quiet : scope.repetitions = []) :
    scope.names.Nodup := by
  apply (Uniqueness.problems_eq_nil_iff .argument scope.qualifier scope.names).mp
  rw [problems_eq, quiet]
  rfl

end NameScope

section Merged

variable {Decl Item : Type} [Mergeable Decl]

def mergedContents (items : Decl → List Item) (declarations : List Decl) :
    List (String × List Item) :=
  (declarations.map Mergeable.name).eraseDups.map fun name =>
    (name, (Mergeable.ofName name declarations).flatMap items)

theorem contents_of_groups (items : Decl → List Item) (declarations : List (Located Decl)) :
    mergedContents items (declarations.map Located.decl) =
      (Group.gather declarations).map fun group =>
        (group.name, group.parts.flatMap fun part => items part.decl) := by
  have names : (declarations.map Located.decl).map Mergeable.name =
      declarations.map Group.nameOf := by
    rw [List.map_map]
    rfl
  rw [mergedContents, names, ← Group.names_of_gather, List.map_map]
  apply List.map_congr_left
  intro group member
  rw [Function.comp_apply, declarations_of_group member, List.flatMap_map]

end Merged

/-- Whether names of a kind are compared within a scope, and not as names of types. -/
def NameKind.isLocal (kind : NameKind) : Bool := Stage.ofNames kind != .registration

namespace NameScope

def ofArguments (owner : String) (arguments : List Parameter) : NameScope :=
  ⟨some owner, arguments.map Parameter.name⟩

def ofKind (documents : List Document) : NameKind → List NameScope
  | .constant => [⟨none, (documents.flatMap Document.constants).map ConstantDecl.name⟩]
  | .function => [⟨none, (documents.flatMap Document.functions).map FunctionDecl.name⟩]
  | .argument =>
      (documents.flatMap Document.callbacks).map (fun callback =>
        ofArguments callback.name callback.arguments) ++
      (documents.flatMap Document.functions).map (fun function =>
        ofArguments function.name function.arguments) ++
      (mergedContents ObjectDecl.methods (documents.flatMap Document.objects)).flatMap
        fun (object, methods) => methods.map fun method =>
          ofArguments (object ++ "." ++ method.name) method.arguments
  | .member =>
      (documents.flatMap Document.structs).map fun struct =>
        ⟨some struct.name, struct.members.map Parameter.name⟩
  | .method =>
      (mergedContents ObjectDecl.methods (documents.flatMap Document.objects)).map
        fun (object, methods) => ⟨some object, methods.map FunctionDecl.name⟩
  | .bitflagEntry =>
      (mergedContents BitflagDecl.entries (documents.flatMap Document.bitflags)).map
        fun (bitflag, entries) => ⟨some bitflag, entries.map BitflagEntry.name⟩
  | .enumEntry =>
      (mergedContents EnumDecl.slots (documents.flatMap Document.enums)).map
        fun (enum, slots) => ⟨some enum, slots.filterMap fun slot => slot.map EnumEntry.name⟩
  | .base =>
      (documents.flatMap Document.structs).map fun struct => ⟨some struct.name, struct.bases⟩
  | .typedef | .enum | .bitflag | .callback | .struct | .object => []

end NameScope

def Problem.repeats (kind : NameKind) : Problem → Bool
  | duplicateName other _ => other == kind
  | _ => false

/-- A stage that does not compare names of a kind tells none of them. -/
theorem Stage.Tells.none_repeated {stage : Stage} {problems : List Problem}
    (tells : stage.Tells problems) {kind : NameKind} (other : Stage.ofNames kind ≠ stage) :
    problems.filter (Problem.repeats kind) = [] := by
  rw [List.filter_eq_nil_iff]
  intro problem told held
  cases problem with
  | duplicateName own name =>
      have same : own = kind := eq_of_beq held
      exact other (same ▸ tells _ told)
  | _ => cases held

def Problem.Plain (problems : List Problem) : Prop :=
  ∀ problem ∈ problems, problem.kind ≠ .duplicateName

theorem Problem.none_repeated {problems : List Problem} (plain : Plain problems)
    {kind : NameKind} : problems.filter (repeats kind) = [] := by
  rw [List.filter_eq_nil_iff]
  intro problem told held
  cases problem with
  | duplicateName own name => exact plain _ told rfl
  | _ => cases held

theorem Attachments.placement_plain (struct : StructDecl) : Problem.Plain (placement struct) := by
  unfold placement Problem.Plain
  split
  · split <;> simp [Problem.kind]
  · split <;> simp [Problem.kind]

theorem Attachments.links_plain (structs : List StructDecl) (declared : Universe)
    (struct : StructDecl) :
    Problem.Plain ((links structs declared struct).filterMap Link.problem?) := by
  intro problem told
  rcases refused_of_links told with ⟨base, role, rfl⟩ | ⟨name, rfl⟩
  · simp [Problem.kind]
  · simp [Problem.kind]

theorem MaskNode.problems_plain (bitflag : String) (entries : List BitflagEntry)
    (pointerWidth : UInt32) (entry : BitflagEntry) :
    Problem.Plain (problems bitflag entries pointerWidth entry) := by
  unfold problems Problem.Plain
  split
  · split <;> simp [Problem.kind]
  · simp [Problem.kind]
  · simp [Problem.kind]

theorem MaskCycle.problems_plain (bitflag : String) (entries : List BitflagEntry)
    (nodes : List MaskNode) (progress : MaskProgress) :
    Problem.Plain (problems bitflag entries nodes progress) := by
  unfold problems Problem.Plain
  simp [Problem.kind]

theorem Numbering.problems_plain (enum : String) (taken : List (UInt32 × String))
    (slots : List (ResolvedSlot × Int)) : Problem.Plain (problems enum taken slots) := by
  unfold Problem.Plain
  induction slots generalizing taken with
  | nil => simp [problems]
  | cons slot rest ih =>
      simp only [problems]
      split
      · exact List.forall_mem_cons.mpr ⟨by simp [Problem.kind], ih _⟩
      · exact ih _
      · split
        · exact List.forall_mem_cons.mpr ⟨by simp [Problem.kind], ih _⟩
        · exact ih _

theorem Uniqueness.problems_repeated (own kind : NameKind) (scope : Option String)
    (names : List String) :
    (problems own scope names).filter (Problem.repeats kind) =
      if own = kind then problems own scope names else [] := by
  split
  · rename_i same
    apply List.filter_eq_self.mpr
    intro problem told
    obtain ⟨name, _, rfl⟩ := List.mem_map.mp told
    exact beq_iff_eq.mpr same
  · rename_i different
    rw [List.filter_eq_nil_iff]
    intro problem told held
    obtain ⟨name, _, rfl⟩ := List.mem_map.mp told
    exact different (eq_of_beq held)

namespace Resolver

open Declared

section Documents

variable (documents : List Document)

theorem merged_objects :
    mergedContents ObjectDecl.methods (documents.flatMap Document.objects) =
      (ofDocuments documents).objects.map fun object => (object.name, object.methods) := by
  rw [← located_decls, contents_of_groups, objects, List.map_map]
  rfl

theorem merged_bitflags :
    mergedContents BitflagDecl.entries (documents.flatMap Document.bitflags) =
      (ofDocuments documents).bitflags.map fun group =>
        (group.name, BitflagDecl.mergedEntries group) := by
  rw [← located_decls, contents_of_groups]
  rfl

theorem merged_enums :
    mergedContents EnumDecl.slots (documents.flatMap Document.enums) =
      (ofDocuments documents).enums.map fun group =>
        (group.name, group.parts.flatMap fun part => part.decl.slots) := by
  rw [← located_decls, contents_of_groups]
  rfl

def repetitionProblems (kind : NameKind) : List Problem :=
  (NameScope.ofKind documents kind).flatMap fun scope =>
    Uniqueness.problems kind scope.qualifier scope.names

theorem flat_map_nothing {Item Result : Type} (items : List Item) :
    items.flatMap (fun _ => ([] : List Result)) = [] :=
  List.flatMap_eq_nil_iff.mpr fun _ _ => rfl

theorem argument_scopes :
    NameScope.ofKind documents .argument =
      (ofDocuments documents).callbacks.map (fun callback =>
        .ofArguments callback.name callback.arguments) ++
      (ofDocuments documents).functions.map (fun function =>
        .ofArguments function.name function.arguments) ++
      (ofDocuments documents).objects.flatMap fun object => object.methods.map fun method =>
        .ofArguments (object.name ++ "." ++ method.name) method.arguments := by
  rw [NameScope.ofKind, merged_objects, List.flatMap_map]
  rfl

theorem names_repeated {kind : NameKind} (compared : Stage.ofNames kind = .names) :
    (nameProblems (ofDocuments documents)).filter (Problem.repeats kind) =
      repetitionProblems documents kind := by
  simp only [nameProblems, argumentProblems, objectNameProblems, List.filter_append,
    List.filter_flatMap, Uniqueness.problems_repeated]
  unfold repetitionProblems
  cases kind with
  | argument =>
      simp only [argument_scopes, NameScope.ofArguments, List.flatMap_append, List.flatMap_map,
        List.flatMap_assoc, reduceCtorEq, if_true, if_false, flat_map_nothing, List.nil_append,
        List.append_nil]
  | method =>
      simp only [NameScope.ofKind, merged_objects, List.flatMap_map, reduceCtorEq, if_true,
        if_false, flat_map_nothing, List.nil_append, List.append_nil]
  | constant | function | member =>
      simp only [NameScope.ofKind, List.flatMap_singleton, List.flatMap_map, reduceCtorEq,
        if_true, if_false, flat_map_nothing, List.nil_append, List.append_nil]
      rfl
  | _ => cases compared

theorem bases_repeated (types : Universe) :
    (Attachments.resolve (ofDocuments documents).structs types).2.filter
      (Problem.repeats .base) = repetitionProblems documents .base := by
  simp only [Attachments.resolve, repetitionProblems, NameScope.ofKind, List.filter_flatMap,
    List.flatMap_map]
  apply List.flatMap_congr
  intro struct _
  rw [Attachments.problemsOfStruct, List.filter_append, List.filter_append,
    Uniqueness.problems_repeated, if_pos rfl, Problem.none_repeated (Attachments.placement_plain _),
    Problem.none_repeated (Attachments.links_plain _ _ _), List.append_nil, List.append_nil]

theorem masks_repeated (config : Config) :
    ((ofDocuments documents).bitflags.flatMap (BitflagDecl.ownProblems config)).filter
      (Problem.repeats .bitflagEntry) = repetitionProblems documents .bitflagEntry := by
  simp only [repetitionProblems, NameScope.ofKind, merged_bitflags, List.filter_flatMap,
    List.flatMap_map]
  apply List.flatMap_congr
  intro group _
  rw [BitflagDecl.ownProblems, List.filter_append, List.filter_append, List.filter_flatMap,
    Uniqueness.problems_repeated, if_pos rfl]
  simp only [Problem.none_repeated (MaskNode.problems_plain _ _ _ _), flat_map_nothing,
    Problem.none_repeated (MaskCycle.problems_plain _ _ _ _), List.append_nil]

theorem slots_repeated :
    ((ofDocuments documents).enums.flatMap fun group =>
        (Numbering.resolve (ofDocuments documents).blocks group).2).filter
      (Problem.repeats .enumEntry) = repetitionProblems documents .enumEntry := by
  simp only [repetitionProblems, NameScope.ofKind, merged_enums, List.filter_flatMap,
    List.flatMap_map]
  apply List.flatMap_congr
  intro group _
  rw [Numbering.resolve, List.filter_append, Uniqueness.problems_repeated, if_pos rfl,
    Problem.none_repeated (Numbering.problems_plain _ _ _), List.append_nil,
    Numbering.entryNames, ← Numbering.placed_entries (ofDocuments documents).blocks,
    List.filterMap_map]
  rfl

end Documents

section Report

variable (config : Config) (documents : List Document)

theorem errors_repeated (kind : NameKind) (problems : List Problem) :
    (problems.map Diagnostic.error).filter (fun diagnostic => diagnostic.problem.repeats kind) =
      (problems.filter (Problem.repeats kind)).map .error := by
  rw [List.filter_map]
  rfl

theorem aliases_repeated (kind : NameKind) (group : Group BitflagDecl) :
    (ResolvedBitflag.aliasDiagnostics config.aliases
      (BitflagDecl.aliasProblems config group)).filter
        (fun diagnostic => diagnostic.problem.repeats kind) = [] := by
  rw [List.filter_eq_nil_iff]
  intro diagnostic told held
  have other : Stage.ofNames kind ≠ .aliases := by cases kind <;> decide
  have none : (BitflagDecl.aliasProblems config group).filter (Problem.repeats kind) = [] :=
    (BitflagDecl.alias_problems_told config group).none_repeated other
  exact List.filter_eq_nil_iff.mp none _ (ResolvedBitflag.problem_of_alias told) held

/-- Local names are told by four stages. -/
theorem report_repeated {kind : NameKind} (isLocal : kind.isLocal = true) :
    (resolve config documents).report.diagnostics.filter
        (fun diagnostic => diagnostic.problem.repeats kind) =
      ((nameProblems (ofDocuments documents)).filter (Problem.repeats kind) ++
        (Attachments.resolve (ofDocuments documents).structs
          (declaredTypes documents)).2.filter (Problem.repeats kind) ++
        ((ofDocuments documents).bitflags.flatMap
          (BitflagDecl.ownProblems config)).filter (Problem.repeats kind) ++
        ((ofDocuments documents).enums.flatMap fun group =>
          (Numbering.resolve (ofDocuments documents).blocks group).2).filter
            (Problem.repeats kind)).map .error := by
  have registration : Stage.ofNames kind ≠ .registration := by
    simpa [NameKind.isLocal] using isLocal
  have merges : (mergeProblems (ofDocuments documents)).filter (Problem.repeats kind) = [] := by
    have other : ∀ merged, Stage.ofNames kind ≠ .merging merged := by
      intro merged
      cases kind <;> simp [Stage.ofNames]
    simp only [mergeProblems, List.filter_append,
      (Stage.tells_flat_map fun group _ => Group.problems_told group).none_repeated (other _),
      List.append_nil]
  have blocks : (blockProblems documents).filter (Problem.repeats kind) = [] :=
    (block_problems_told documents).none_repeated (by cases kind <;> decide)
  have fields : ((ofDocuments documents).typeFields.flatMap
      (TypeField.problems (scopeOf config documents))).filter (Problem.repeats kind) = [] :=
    (Stage.tells_flat_map fun field _ => field.problems_told _).none_repeated
      (by cases kind <;> decide)
  have constants : ((ofDocuments documents).constants.flatMap
      (constantProblems config.pointerWidth)).filter (Problem.repeats kind) = [] :=
    (Stage.tells_flat_map fun constant _ => constant_problems_told _ constant).none_repeated
      (by cases kind <;> decide)
  have types : (registrationProblems documents).filter (Problem.repeats kind) = [] :=
    (Universe.register_told {} _).none_repeated registration
  have masks : ((ofDocuments documents).bitflags.flatMap fun group =>
      (BitflagDecl.ownProblems config group).map Diagnostic.error ++
        ResolvedBitflag.aliasDiagnostics config.aliases
          (BitflagDecl.aliasProblems config group)).filter
            (fun diagnostic => diagnostic.problem.repeats kind) =
      (((ofDocuments documents).bitflags.flatMap (BitflagDecl.ownProblems config)).filter
        (Problem.repeats kind)).map .error := by
    rw [List.filter_flatMap, List.filter_flatMap, List.map_flatMap]
    simp only [List.filter_append, errors_repeated, aliases_repeated, List.append_nil]
  rw [report_around_masks, List.filter_append, List.filter_append, masks, errors_repeated,
    errors_repeated, earlierProblems, laterProblems]
  simp only [List.filter_append, blocks, merges, types, fields, constants, List.nil_append,
    List.append_nil, List.map_append, List.flatMap_map]

theorem repetitions_told {kind : NameKind} (isLocal : kind.isLocal = true) :
    (resolve config documents).report.diagnostics.filter
        (fun diagnostic => diagnostic.problem.repeats kind) =
      (repetitionProblems documents kind).map .error := by
  have attachments : Stage.attachments.Tells (Attachments.resolve
      (ofDocuments documents).structs (declaredTypes documents)).2 :=
    Stage.tells_flat_map fun struct _ => Attachments.problems_of_struct_told _ _ struct
  have masks : Stage.masks.Tells ((ofDocuments documents).bitflags.flatMap
      (BitflagDecl.ownProblems config)) :=
    Stage.tells_flat_map fun group _ => BitflagDecl.own_problems_told config group
  have numbers : Stage.numbers.Tells ((ofDocuments documents).enums.flatMap fun group =>
      (Numbering.resolve (ofDocuments documents).blocks group).2) :=
    Stage.tells_flat_map fun group _ => Numbering.resolve_told _ group
  have names := name_problems_told (ofDocuments documents)
  rw [report_repeated config documents isLocal]
  cases kind with
  | constant | function | member | argument | method =>
      rw [names_repeated documents rfl, attachments.none_repeated (by decide),
        masks.none_repeated (by decide), numbers.none_repeated (by decide)]
      simp only [List.append_nil]
  | base =>
      rw [bases_repeated, names.none_repeated (by decide), masks.none_repeated (by decide),
        numbers.none_repeated (by decide)]
      simp only [List.append_nil, List.nil_append]
  | bitflagEntry =>
      rw [masks_repeated, names.none_repeated (by decide),
        attachments.none_repeated (by decide), numbers.none_repeated (by decide)]
      simp only [List.append_nil, List.nil_append]
  | enumEntry =>
      rw [slots_repeated, names.none_repeated (by decide),
        attachments.none_repeated (by decide), masks.none_repeated (by decide)]
      simp only [List.nil_append]
  | typedef | enum | bitflag | callback | struct | object => cases isLocal

/-- In every scope each occurrence of a name after its first one is told, with its scope, and
nothing else is told of local names. So there are as many such errors as names that are not
distinct, and in documents without errors the names of each scope differ from each other. -/
theorem local_names_told_exactly {kind : NameKind} (isLocal : kind.isLocal = true) :
    (resolve config documents).report.diagnostics.filter
        (fun diagnostic => diagnostic.problem.repeats kind) =
      (NameScope.ofKind documents kind).flatMap (fun scope =>
        scope.repetitions.map fun name => .error (.duplicateName kind name)) ∧
      ((resolve config documents).report.diagnostics.filter
        fun diagnostic => diagnostic.problem.repeats kind).length =
          ((NameScope.ofKind documents kind).map NameScope.surplus).sum ∧
      ((resolve config documents).report.hasErrors = false →
        ∀ scope ∈ NameScope.ofKind documents kind, scope.names.Nodup) := by
  have told : (resolve config documents).report.diagnostics.filter
      (fun diagnostic => diagnostic.problem.repeats kind) =
        (NameScope.ofKind documents kind).flatMap fun scope =>
          scope.repetitions.map fun name => .error (.duplicateName kind name) := by
    rw [repetitions_told config documents isLocal, repetitionProblems, List.map_flatMap]
    simp only [NameScope.problems_eq, List.map_map, Function.comp_def]
  refine ⟨told, ?_, ?_⟩
  · rw [told, List.length_flatMap]
    simp only [List.length_map, NameScope.repetitions_length]
  · intro quiet scope member
    rw [Report.has_errors_eq_false_iff] at quiet
    apply NameScope.nodup_of_no_repetitions
    rw [List.eq_nil_iff_forall_not_mem]
    intro name again
    have among : Diagnostic.error (.duplicateName kind name) ∈
        (resolve config documents).report.diagnostics := by
      apply List.mem_of_mem_filter
      rw [told]
      exact List.mem_flatMap.mpr ⟨scope, member, List.mem_map_of_mem again⟩
    cases quiet _ among

end Report

/-- An enum whose extension in another document repeats an entry, and one argument name in three
functions, twice in the last of them. -/
def repeatingDocuments : List Document :=
  [{ name := "core"
     enums := [{ name := "Status", slots := [some { name := "ok" }, none] }]
     functions := [{ name := "start", arguments := [{ name := "size", type := "uint32" }] },
       { name := "stop", arguments := [{ name := "size", type := "uint32" }] }] },
   { name := "later"
     enums := [{ name := "Status", extended := true
                 slots := [some { name := "late" }, some { name := "ok" }] }]
     objects := [{ name := "Device"
                   methods := [{ name := "reset"
                                 arguments := [{ name := "size", type := "uint32" },
                                   { name := "size", type := "uint64" }] }] }] }]

theorem repeating_documents_told :
    (resolve {} repeatingDocuments).report.diagnostics.filter
        (fun diagnostic => diagnostic.problem.repeats .enumEntry) =
      [.error (.duplicateName .enumEntry "Status.ok")] ∧
      (resolve {} repeatingDocuments).report.diagnostics.filter
        (fun diagnostic => diagnostic.problem.repeats .argument) =
      [.error (.duplicateName .argument "Device.reset.size")] ∧
      ∀ scope ∈ NameScope.ofKind (repeatingDocuments.take 1) .argument, scope.names.Nodup :=
  ⟨(local_names_told_exactly {} repeatingDocuments rfl).1.trans (by decide),
    (local_names_told_exactly {} repeatingDocuments rfl).1.trans (by decide),
    (local_names_told_exactly {} (repeatingDocuments.take 1) rfl).2.2 (by decide)⟩

end Resolver

end InterfaceSchema
