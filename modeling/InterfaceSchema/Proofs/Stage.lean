import InterfaceSchema.Resolver

/-!
The stages of a run. A problem shows by itself which stage tells it: by its variant, where names
clash by the kind of the name, and where a value is out of range by the word that its owner starts
with. No stage tells a problem of another one.
-/

namespace InterfaceSchema

set_option autoImplicit false

inductive Stage where
  | blocks
  /-- The order of bases and extensions of a kind. -/
  | merging (kind : TypeKind)
  /-- The names of types. -/
  | registration
  /-- All other names, apart from those of bases and entries. -/
  | names
  | references
  | attachments
  /-- The entries of a bit mask set and its cycles. -/
  | masks
  /-- The masks that a bit mask set holds twice. -/
  | aliases
  | numbers
  | constants
  deriving DecidableEq, Repr

namespace Stage

/-- Where names of a kind are compared with each other. -/
def ofNames : NameKind → Stage
  | .constant | .function | .member | .argument | .method => names
  | .typedef | .enum | .bitflag | .callback | .struct | .object => registration
  | .base => attachments
  | .bitflagEntry => masks
  | .enumEntry => numbers

def ownerStartsWith (word owner : String) : Bool := word.toList.isPrefixOf owner.toList

/-- Where the value of an owner is judged. -/
def ofOwner (owner : String) : Stage :=
  if ownerStartsWith "bitflag " owner then masks
  else if ownerStartsWith "enum " owner then numbers
  else constants

end Stage

def Problem.stage : Problem → Stage
  | invalidEnumBlock .. => .blocks
  | mergeOrder kind .. => .merging kind
  | duplicateName kind _ => .ofNames kind
  | nameCollision .. => .registration
  | shadowsPrimitive .. => .registration
  | unknownTypeReference .. => .references
  | typeKindMismatch .. => .references
  | misplacedQualifier .. => .references
  | invalidTypedef .. => .references
  | incompatibleChainDirection .. => .attachments
  | unknownBaseStruct .. => .attachments
  | missingExtends .. => .attachments
  | unexpectedExtends .. => .attachments
  | cyclicBitflagCombination .. => .masks
  | duplicateBitflagValue .. => .aliases
  | unknownCombinationEntry .. => .masks
  | malformedBitflagEntry .. => .masks
  | duplicateEnumValue .. => .numbers
  | invalidValue owner _ _ => .ofOwner owner

/-- The variant of a problem tells whether it is about a mask that is held twice. -/
theorem Problem.stage_eq_aliases_iff (problem : Problem) :
    problem.stage = .aliases ↔ problem.kind = .duplicateBitflagValue := by
  cases problem with
  | duplicateName named _ => cases named <;> simp [stage, kind, Stage.ofNames]
  | invalidValue owner _ _ =>
      simp only [stage, kind, Stage.ofOwner, reduceCtorEq, iff_false]
      split
      · simp
      · split <;> simp
  | _ => simp [stage, kind]

namespace Stage

/-- All problems of a list belong to a stage. -/
def Tells (stage : Stage) (problems : List Problem) : Prop :=
  ∀ problem ∈ problems, problem.stage = stage

theorem tells_append {stage : Stage} {problems more : List Problem} :
    stage.Tells (problems ++ more) ↔ stage.Tells problems ∧ stage.Tells more :=
  List.forall_mem_append

theorem tells_flat_map {Item : Type} {stage : Stage} {items : List Item}
    {problems : Item → List Problem} (each : ∀ item ∈ items, stage.Tells (problems item)) :
    stage.Tells (items.flatMap problems) := by
  intro problem told
  obtain ⟨item, member, among⟩ := List.mem_flatMap.mp told
  exact each item member problem among

theorem tells_map {Item : Type} {stage : Stage} {items : List Item} {problem : Item → Problem}
    (each : ∀ item ∈ items, (problem item).stage = stage) :
    stage.Tells (items.map problem) :=
  List.forall_mem_map.mpr each

theorem Tells.elsewhere {stage other : Stage} {problems : List Problem}
    (tells : stage.Tells problems) (different : stage ≠ other) :
    ∀ problem ∈ problems, problem.stage ≠ other := by
  intro problem told
  rw [tells problem told]
  exact different

theorem of_owner_bitflag (rest : String) : ofOwner ("bitflag " ++ rest) = masks := by
  simp [ofOwner, ownerStartsWith]

theorem of_owner_enum (rest : String) : ofOwner ("enum " ++ rest) = numbers := by
  simp [ofOwner, ownerStartsWith]

theorem of_owner_constant (rest : String) : ofOwner ("constant " ++ rest) = constants := by
  simp [ofOwner, ownerStartsWith]

theorem of_names_of_type (kind : TypeKind) : ofNames (.ofType kind) = registration := by
  cases kind <;> rfl

end Stage

open Stage

theorem Uniqueness.problems_told (kind : NameKind) (scope : Option String) (names : List String) :
    (ofNames kind).Tells (problems kind scope names) :=
  tells_map fun _ _ => rfl

theorem Group.problems_told {α : Type} [Mergeable α] (group : Group α) :
    (merging (Mergeable.kind α)).Tells group.problems :=
  tells_map fun _ _ => rfl

theorem Universe.add_told {declared : Universe} {name : String} {decl : DeclRef}
    {problem : Problem} (refused : declared.add name decl = .error problem) :
    problem.stage = registration := by
  unfold add at refused
  split at refused
  · cases refused
    rfl
  · split at refused
    · split at refused
      · cases refused
        exact of_names_of_type decl.kind
      · cases refused
        rfl
    · cases refused

theorem Universe.register_told (declared : Universe) (names : List (String × DeclRef)) :
    registration.Tells (declared.register names).2 := by
  induction names generalizing declared with
  | nil => exact List.forall_mem_nil _
  | cons entry rest ih =>
      rcases entry with ⟨name, decl⟩
      simp only [register]
      cases added : declared.add name decl with
      | ok larger => exact ih larger
      | error problem => exact List.forall_mem_cons.mpr ⟨add_told added, ih declared⟩

namespace Resolver

theorem block_problems_told (documents : List Document) :
    blocks.Tells (blockProblems documents) :=
  tells_map fun _ _ => rfl

theorem argument_problems_told (scope : String) (arguments : List Parameter) :
    names.Tells (argumentProblems scope arguments) :=
  Uniqueness.problems_told .argument _ _

theorem object_name_problems_told (object : ObjectDecl) :
    names.Tells (objectNameProblems object) :=
  tells_append.mpr ⟨Uniqueness.problems_told .method _ _,
    tells_flat_map fun _ _ => argument_problems_told _ _⟩

theorem name_problems_told (declared : Declared) : names.Tells (nameProblems declared) := by
  simp only [nameProblems, tells_append]
  refine ⟨⟨⟨⟨⟨?_, ?_⟩, ?_⟩, ?_⟩, ?_⟩, ?_⟩
  · exact Uniqueness.problems_told .constant _ _
  · exact Uniqueness.problems_told .function _ _
  · exact tells_flat_map fun _ _ => argument_problems_told _ _
  · exact tells_flat_map fun _ _ => Uniqueness.problems_told .member _ _
  · exact tells_flat_map fun _ _ => argument_problems_told _ _
  · exact tells_flat_map fun object _ => object_name_problems_told object

theorem constant_problems_told (pointerWidth : UInt32) (constant : ConstantDecl) :
    constants.Tells (constantProblems pointerWidth constant) := by
  unfold constantProblems
  split
  · exact List.forall_mem_nil _
  · exact List.forall_mem_singleton.mpr (of_owner_constant _)

end Resolver

namespace TypeField

variable (scope : TypeScope) (field : TypeField)

theorem misuse_told {target : TypeTarget} {problem : Problem}
    (told : field.misuse? scope target = some problem) : problem.stage = references := by
  unfold misuse? at told
  split at told
  · cases told
  · split at told
    · cases told
    · cases told
      rfl
  · split at told
    · cases told
    · cases told
      rfl
    · cases told
      rfl

theorem failure_told {problem : Problem} (told : field.failure? scope = some problem) :
    problem.stage = references := by
  unfold failure? at told
  split at told
  · cases told
  · split at told
    · cases told
      rfl
    · cases told
      rfl
  · cases told
    rfl

theorem problems_told : references.Tells (field.problems scope) := by
  intro problem told
  unfold problems at told
  split at told
  · exact misuse_told scope field (Option.mem_toList.mp told)
  · exact failure_told scope field (Option.mem_toList.mp told)

end TypeField

namespace Attachments

/-- A base name is told for the direction of the struct that it leads to, or because it leads to
none. -/
theorem refused_of_links {structs : List StructDecl} {declared : Universe} {struct : StructDecl}
    {problem : Problem}
    (told : problem ∈ (links structs declared struct).filterMap Link.problem?) :
    (∃ base role, problem = .incompatibleChainDirection struct.name struct.role base role) ∨
      ∃ name, problem = .unknownBaseStruct struct.name name := by
  obtain ⟨linked, member, refused⟩ := List.mem_filterMap.mp told
  unfold links at member
  split at member
  · obtain ⟨name, _, rfl⟩ := List.mem_map.mp member
    simp only [link] at refused
    split at refused
    · split at refused
      · cases refused
      · cases refused
        exact Or.inl ⟨_, _, rfl⟩
    · split at refused
      · cases refused
      · cases refused
        exact Or.inr ⟨_, rfl⟩
  · cases member

theorem placement_told (struct : StructDecl) : attachments.Tells (placement struct) := by
  unfold placement
  split
  · split
    · exact List.forall_mem_singleton.mpr rfl
    · exact List.forall_mem_nil _
  · split
    · exact List.forall_mem_nil _
    · exact List.forall_mem_singleton.mpr rfl

theorem problems_of_struct_told (structs : List StructDecl) (declared : Universe)
    (struct : StructDecl) : attachments.Tells (problemsOfStruct structs declared struct) := by
  simp only [problemsOfStruct, tells_append]
  refine ⟨⟨Uniqueness.problems_told .base _ _, placement_told struct⟩, ?_⟩
  intro problem told
  rcases refused_of_links told with ⟨base, role, rfl⟩ | ⟨name, rfl⟩
  · rfl
  · rfl

end Attachments

theorem MaskNode.problems_told (bitflag : String) (entries : List BitflagEntry)
    (pointerWidth : UInt32) (entry : BitflagEntry) :
    masks.Tells (problems bitflag entries pointerWidth entry) := by
  unfold problems
  split
  · split
    · exact List.forall_mem_nil _
    · rw [String.append_assoc, String.append_assoc]
      exact List.forall_mem_singleton.mpr (of_owner_bitflag _)
  · exact tells_map fun _ _ => rfl
  · exact List.forall_mem_singleton.mpr rfl

theorem MaskCycle.problems_told (bitflag : String) (entries : List BitflagEntry)
    (nodes : List MaskNode) (progress : MaskProgress) :
    masks.Tells (problems bitflag entries nodes progress) :=
  tells_map fun _ _ => rfl

theorem ResolvedBitflag.duplicates_told (bitflag : String) (seen : List (UInt64 × String))
    (held : List (String × Option UInt64)) : aliases.Tells (duplicates bitflag seen held) := by
  induction held generalizing seen with
  | nil => exact List.forall_mem_nil _
  | cons entry rest ih =>
      rcases entry with ⟨name, _ | value⟩
      · exact ih seen
      · simp only [duplicates]
        split
        · exact List.forall_mem_cons.mpr ⟨rfl, ih seen⟩
        · exact ih _

namespace Numbering

theorem owner_told (enum : String) (slot : ResolvedSlot) :
    ofOwner (owner enum slot) = Stage.numbers := by
  unfold owner
  split
  · rw [String.append_assoc, String.append_assoc]
    exact of_owner_enum _
  · rw [String.append_assoc]
    exact of_owner_enum _

theorem problems_told (enum : String) (taken : List (UInt32 × String))
    (slots : List (ResolvedSlot × Int)) : Stage.numbers.Tells (problems enum taken slots) := by
  induction slots generalizing taken with
  | nil => exact List.forall_mem_nil _
  | cons slot rest ih =>
      simp only [problems]
      split
      · exact List.forall_mem_cons.mpr ⟨owner_told enum _, ih _⟩
      · exact ih _
      · split
        · exact List.forall_mem_cons.mpr ⟨rfl, ih _⟩
        · exact ih _

theorem resolve_told (blocks : List (Option UInt16)) (group : Group EnumDecl) :
    Stage.numbers.Tells (resolve blocks group).2 :=
  tells_append.mpr ⟨Uniqueness.problems_told .enumEntry _ _, problems_told _ _ _⟩

end Numbering

end InterfaceSchema
