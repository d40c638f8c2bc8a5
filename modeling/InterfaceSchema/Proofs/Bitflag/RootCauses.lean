import InterfaceSchema.Proofs.Bitflag.CycleCover
import InterfaceSchema.Proofs.Bitflag.Faults
import InterfaceSchema.Proofs.Bitflag.Meaning

/-!
Why masks are missing. Apart from what entries share and from cycles, the report tells of each entry
what is wrong with it as it is written, and nothing because its parts have no mask. Every entry
without a mask leads through combinations to an entry of which something is told, or to a cycle that
is told.
-/

namespace InterfaceSchema

set_option autoImplicit false

/-- Whether a problem is about what one entry of a bit mask set writes, and not about a name or a
mask that entries share, nor about a cycle. -/
def Problem.isOwnFault (problem : Problem) : Bool :=
  problem.kind ∉ [.duplicateName, .duplicateBitflagValue, .cyclicBitflagCombination]

def Diagnostic.isOwnFault (diagnostic : Diagnostic) : Bool := diagnostic.problem.isOwnFault

theorem BitflagEntry.own_fault_of_faults {bitflag : String} {known : List String}
    {entry : BitflagEntry} :
    ∀ problem ∈ entry.faults bitflag known, problem.isOwnFault = true := by
  intro problem told
  simp only [faults, List.mem_append] at told
  rcases told with (negative | unknown) | malformed
  · obtain ⟨number, _, rfl⟩ := List.mem_map.mp negative
    rfl
  · obtain ⟨missing, _, rfl⟩ := List.mem_map.mp unknown
    rfl
  · split at malformed
    · rw [List.mem_singleton.mp malformed]
      rfl
    · cases malformed

namespace MaskDependency

open MaskNode

variable {entries : List BitflagEntry} {pointerWidth : UInt32}

theorem combines_to_sourceless {index reached : Nat} (path : Reaches entries index reached)
    (sourceless : ¬HasSource entries pointerWidth reached) :
    ∃ between, Relation.ReflTransGen (Combines entries) index between ∧
      ¬HasSource entries pointerWidth between := by
  induction path using Relation.ReflTransGen.head_induction_on with
  | refl => exact ⟨_, .refl, sourceless⟩
  | @head whole part depends _ ih =>
      by_cases source : HasSource entries pointerWidth whole
      · obtain ⟨between, onward, without⟩ := ih
        have combines := part_iff_combines.mp (part_of_depends_on source depends)
        exact ⟨between, onward.head combines, without⟩
      · exact ⟨whole, .refl, source⟩

theorem depends_on_of_combines {whole part : Nat} (combines : Combines entries whole part) :
    DependsOn entries whole part := by
  obtain ⟨entry, names, name, found, _, combined, listed, first⟩ := combines
  exact ⟨entry, names, name, found, combined, listed, first⟩

theorem reaches_of_combines {index reached : Nat}
    (path : Relation.ReflTransGen (Combines entries) index reached) :
    Reaches entries index reached :=
  Relation.ReflTransGen.mono (fun _ _ => depends_on_of_combines) _ _ path

end MaskDependency

namespace BitflagDecl

open MaskNode MaskProgress MaskDependency

variable (config : Config) (group : Group BitflagDecl)

def AtFault (index : Nat) : Prop :=
  ∃ entry, (mergedEntries group)[index]? = some entry ∧
    entry.faults group.name ((mergedEntries group).map BitflagEntry.name) ≠ []

variable {config group} in
theorem grounded_of_no_cause {index : Nat}
    (free : ∀ reached, Relation.ReflTransGen (Combines (mergedEntries group)) index reached →
      HasSource (mergedEntries group) config.pointerWidth reached ∧
        ¬OnToldCycle config group reached) :
    Grounded (mergedEntries group) config.pointerWidth index := by
  rw [grounded_iff, accessible_iff_not_stuck]
  constructor
  · -- What is reached may lie behind an unknown part, so the first entry without a source counts.
    intro reached path
    by_contra sourceless
    obtain ⟨between, onward, without⟩ := combines_to_sourceless path sourceless
    exact without (free between onward).1
  · intro stuck
    obtain ⟨reached, path, told⟩ := leads_to_told config group stuck
    exact (free reached (path_of_first_stuck path)).2 told

variable {config group} in
theorem no_cause_of_grounded {index : Nat}
    (grounded : Grounded (mergedEntries group) config.pointerWidth index) {reached : Nat}
    (path : Relation.ReflTransGen (Combines (mergedEntries group)) index reached) :
    HasSource (mergedEntries group) config.pointerWidth reached ∧
      ¬OnToldCycle config group reached := by
  obtain ⟨source, acyclic⟩ := grounded reached (reaches_of_combines path)
  refine ⟨source, ?_⟩
  intro told
  have circular := circular_of_first_stuck ((on_told_cycle_iff config group reached).mp told)
  exact acyclic (Relation.TransGen.mono (fun _ _ => depends_on_of_combines) _ _ circular)

variable {config group} in
theorem has_source_of_not_at_fault {index : Nat} (inside : index < (mergedEntries group).length)
    (faultless : ¬AtFault group index) :
    HasSource (mergedEntries group) config.pointerWidth index := by
  have found := List.getElem?_eq_getElem inside
  apply (faults_eq_nil_iff found).mp
  by_contra faults
  exact faultless ⟨_, found, faults⟩

variable {config group} in
theorem not_at_fault_of_has_source {index : Nat}
    (source : HasSource (mergedEntries group) config.pointerWidth index) :
    ¬AtFault group index := by
  rintro ⟨entry, found, faults⟩
  exact faults ((faults_eq_nil_iff found).mpr source)

variable {config group} in
theorem not_grounded_iff_cause {index : Nat} (inside : index < (mergedEntries group).length) :
    ¬Grounded (mergedEntries group) config.pointerWidth index ↔
      ∃ reached, Relation.ReflTransGen (Combines (mergedEntries group)) index reached ∧
        (AtFault group reached ∨ OnToldCycle config group reached) := by
  constructor
  · intro ungrounded
    by_contra uncaused
    apply ungrounded
    apply grounded_of_no_cause
    intro reached path
    have within := lt_length_of_reaches inside (reaches_of_combines path)
    constructor
    · apply has_source_of_not_at_fault within
      intro fault
      exact uncaused ⟨reached, path, .inl fault⟩
    · intro told
      exact uncaused ⟨reached, path, .inr told⟩
  · rintro ⟨reached, path, cause⟩ grounded
    obtain ⟨source, free⟩ := no_cause_of_grounded grounded path
    rcases cause with fault | told
    · exact not_at_fault_of_has_source source fault
    · exact free told

theorem own_problems_at_fault :
    (ownProblems config group).filter Problem.isOwnFault =
      (mergedEntries group).flatMap (BitflagEntry.faults group.name
        ((mergedEntries group).map BitflagEntry.name)) := by
  have repeated : (Uniqueness.problems .bitflagEntry (some group.name)
      ((mergedEntries group).map BitflagEntry.name)).filter Problem.isOwnFault = [] := by
    rw [Uniqueness.problems, List.filter_eq_nil_iff, List.forall_mem_map]
    exact fun _ _ told => by cases told
  have sources : ((mergedEntries group).flatMap (MaskNode.problems group.name
      (mergedEntries group) config.pointerWidth)).filter Problem.isOwnFault =
      (mergedEntries group).flatMap (BitflagEntry.faults group.name
        ((mergedEntries group).map BitflagEntry.name)) := by
    rw [funext (node_problems_eq group.name), List.filter_eq_self, List.forall_mem_flatMap]
    exact fun entry _ => BitflagEntry.own_fault_of_faults
  have cycles : (MaskCycle.problems group.name (mergedEntries group)
      (graph (mergedEntries group) config.pointerWidth)
      (evaluate (graph (mergedEntries group) config.pointerWidth))).filter
        Problem.isOwnFault = [] := by
    rw [MaskCycle.problems, List.filter_eq_nil_iff, List.forall_mem_map]
    exact fun _ _ told => by cases told
  rw [ownProblems, List.filter_append, List.filter_append, repeated, sources, cycles,
    List.append_nil, List.nil_append]

theorem no_alias_at_fault : (aliasProblems config group).filter Problem.isOwnFault = [] := by
  rw [List.filter_eq_nil_iff]
  intro problem told
  have shared := (Problem.stage_eq_aliases_iff _).mp (alias_problems_told config group problem told)
  simp [Problem.isOwnFault, shared]

theorem own_faults_eq :
    (resolve config group).2.filter Diagnostic.isOwnFault =
      ((mergedEntries group).flatMap (BitflagEntry.faults group.name
        ((mergedEntries group).map BitflagEntry.name))).map .error := by
  have told := diagnostics_filter config group Problem.isOwnFault
  rw [own_problems_at_fault, no_alias_at_fault] at told
  have nothing : ResolvedBitflag.aliasDiagnostics config.aliases [] = [] := by
    cases config.aliases <;> rfl
  rw [nothing, List.append_nil] at told
  exact told

/-- A literal, a negative number, an entry that writes nothing, one that names no entry twice, an
entry that only depends on it, a combination of itself and an entry that leads to it. -/
def brokenFlags : Group BitflagDecl :=
  { first := ⟨0,
      { name := "Flags"
        entries :=
          [{ name := "plain", value := some (.unsigned 1) },
           { name := "below", value := some (.signed (-1)) },
           { name := "empty" },
           { name := "lost", combination := some ["Gone", "plain", "Gone"] },
           { name := "follower", combination := some ["plain", "lost"] },
           { name := "looping", combination := some ["looping"] },
           { name := "after", combination := some ["plain", "looping"] }] }⟩
    others := [] }

end BitflagDecl

end InterfaceSchema
