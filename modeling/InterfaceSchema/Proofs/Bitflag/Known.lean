import InterfaceSchema.Proofs.Bitflag.CycleSearch
import InterfaceSchema.Proofs.Bitflag.Faults
import InterfaceSchema.Proofs.Bitflag.Meaning
import InterfaceSchema.Proofs.Resolution.Clean

/-!
Bit mask sets of which no error is told. Each of their masks is known: a mask is missing only where
an entry has no source, which is told with the entry, or where an entry is left unfinished, which
a cycle tells.
-/

namespace InterfaceSchema

set_option autoImplicit false

namespace MaskDependency

open MaskNode MaskProgress

variable {entries : List BitflagEntry} {pointerWidth : UInt32}

theorem has_source_of_no_problem {bitflag : String} {index : Nat} {entry : BitflagEntry}
    (found : entries[index]? = some entry)
    (quiet : MaskNode.problems bitflag entries pointerWidth entry = []) :
    HasSource entries pointerWidth index := by
  rw [node_problems_eq] at quiet
  exact (faults_eq_nil_iff found).mp quiet

theorem mask_at_of_no_problems
    (sources : ∀ index, index < entries.length → HasSource entries pointerWidth index)
    (acyclic : MaskCycle.cycles (graph entries pointerWidth)
      (evaluate (graph entries pointerWidth)) = [])
    {index : Nat} (inside : index < entries.length) :
    (evaluate (graph entries pointerWidth)).maskAt index =
      some (union (reachedLiterals entries pointerWidth index)) := by
  have bound : index < (graph entries pointerWidth).length := by simpa [graph] using inside
  have finished := MaskCycle.finished_of_no_cycle graph_parts_in_range acyclic bound
  have accessible := ((finished_iff_accessible graph_parts_in_range index).mp finished).2
  refine mask_at_of_sourced inside ?_ accessible
  intro reached path
  exact sources reached (lt_length_of_reaches inside path)

end MaskDependency

namespace BitflagDecl

open MaskNode MaskProgress MaskDependency

/-- A bit mask set of which no error is told has entries with sources only, and no cycle. -/
theorem sources_of_no_errors {config : Config} {group : Group BitflagDecl}
    (quiet : ∀ diagnostic ∈ (resolve config group).2, diagnostic.isError = false) :
    (∀ index, index < (mergedEntries group).length →
        HasSource (mergedEntries group) config.pointerWidth index) ∧
      MaskCycle.cycles (graph (mergedEntries group) config.pointerWidth)
        (evaluate (graph (mergedEntries group) config.pointerWidth)) = [] := by
  simp only [resolve] at quiet
  rw [List.forall_mem_append, Resolver.no_error_iff] at quiet
  simp only [List.append_eq_nil_iff, List.flatMap_eq_nil_iff] at quiet
  obtain ⟨⟨⟨_, perEntry⟩, perCycle⟩, _⟩ := quiet
  constructor
  · intro index inside
    exact has_source_of_no_problem (List.getElem?_eq_getElem inside)
      (perEntry _ (List.getElem_mem inside))
  · simpa [MaskCycle.problems] using perCycle

theorem masks_known_of_no_errors {config : Config} {group : Group BitflagDecl}
    (quiet : ∀ diagnostic ∈ (resolve config group).2, diagnostic.isError = false) :
    ∀ mask ∈ (resolve config group).1.masks, mask.value.isSome = true := by
  obtain ⟨sources, acyclic⟩ := sources_of_no_errors quiet
  intro mask member
  obtain ⟨index, found⟩ := List.mem_iff_getElem?.mp member
  rw [resolved_mask_at] at found
  obtain ⟨entry, written, rfl⟩ := Option.map_eq_some_iff.mp found
  have inside := (List.getElem?_eq_some_iff.mp written).1
  rw [mask_at_of_no_problems sources acyclic inside]
  rfl

end BitflagDecl

end InterfaceSchema
