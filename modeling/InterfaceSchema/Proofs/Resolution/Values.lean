import InterfaceSchema.Proofs.Bitflag.Known
import InterfaceSchema.Proofs.Declared
import InterfaceSchema.Proofs.Numbering

/-!
A report without errors leaves no value open: every mask, every number of a slot with its block
and every constant is known.
-/

namespace InterfaceSchema

set_option autoImplicit false

namespace Resolver

open Declared

theorem block_problems_eq_nil_iff {documents : List Document} :
    blockProblems documents = [] ↔
      ∀ block ∈ (ofDocuments documents).blocks, block.isSome = true := by
  rw [blockProblems, List.map_eq_nil_iff, List.filter_eq_nil_iff, ofDocuments, List.forall_mem_map]
  simp only [Option.isNone_iff_eq_none, Option.isSome_iff_ne_none]

theorem blocks_valid {documents : List Document} (quiet : blockProblems documents = []) :
    ∀ block ∈ (ofDocuments documents).blocks, block.isSome = true :=
  block_problems_eq_nil_iff.mp quiet

theorem fragments_within_blocks {documents : List Document} {group : Group EnumDecl}
    (member : group ∈ (ofDocuments documents).enums) :
    ∀ part ∈ group.parts, part.fragment < (ofDocuments documents).blocks.length := by
  intro part inGroup
  have bound := fragment_lt_of_located (Group.part_mem_of_mem_gather member inGroup)
  simpa [ofDocuments] using bound

theorem constant_of_no_problem {pointerWidth : UInt32} {constant : ConstantDecl}
    (quiet : constantProblems pointerWidth constant = []) :
    (resolveConstant pointerWidth constant).resolved.isSome = true := by
  cases resolved : constant.value.resolve pointerWidth with
  | ok word => simp [resolveConstant, resolved, Except.toOption]
  | error negative => simp [constantProblems, resolved] at quiet

/-- A report without errors hands out a model in which every value is known, whatever width
pointers have. -/
theorem values_known_of_no_errors (config : Config) (documents : List Document)
    (quiet : (resolve config documents).report.hasErrors = false) :
    ∃ model, (resolve config documents).model? = some model ∧
      (∀ bitflag ∈ model.bitflags, ∀ mask ∈ bitflag.masks, mask.value.isSome = true) ∧
      (∀ enum ∈ model.enums, ∀ slot ∈ enum.slots,
        slot.value.isSome = true ∧ slot.qualified.isSome = true) ∧
      ∀ constant ∈ model.constants, constant.resolved.isSome = true := by
  have clean := clean_of_no_errors quiet
  refine ⟨(resolve config documents).partialModel, ?_, ?_, ?_, ?_⟩
  · simp [Resolution.model?, quiet]
  · intro bitflag member
    obtain ⟨_, resolved, rfl⟩ := List.mem_map.mp member
    obtain ⟨group, written, rfl⟩ := List.mem_map.mp resolved
    exact BitflagDecl.masks_known_of_no_errors (clean.bitflags group written)
  · intro enum member
    obtain ⟨_, resolved, rfl⟩ := List.mem_map.mp member
    obtain ⟨group, written, rfl⟩ := List.mem_map.mp resolved
    exact Numbering.slots_known_of_no_problems (blocks_valid clean.blocks)
      (fragments_within_blocks written) (clean.enums group written)
  · intro constant member
    obtain ⟨written, declared, rfl⟩ := List.mem_map.mp member
    exact constant_of_no_problem (clean.constants written declared)

/-- Two documents of one enum, with a gap, a nested combination and a symbol. -/
def gappedDocuments : List Document :=
  [{ name := "core"
     enums := [{ name := "Status", slots := [some { name := "ok" }, none] }]
     bitflags := [{ name := "Usage"
                    entries := [{ name := "all", combination := some ["read", "both"] },
                      { name := "read", value := some (.unsigned 1) },
                      { name := "both", combination := some ["read", "write"] },
                      { name := "write", value := some (.unsigned 2) }] }]
     constants := [{ name := "whole", value := .symbol .usizeMax }] },
   { name := "later"
     block := "0x0001"
     enums := [{ name := "Status", extended := true, slots := [some { name := "lost" }] }] }]

theorem gapped_documents_have_values :
    (resolve {} gappedDocuments).report.hasErrors = false ∧
      ∃ model, (resolve {} gappedDocuments).model? = some model ∧
        (∀ bitflag ∈ model.bitflags, ∀ mask ∈ bitflag.masks, mask.value.isSome = true) ∧
        (∀ enum ∈ model.enums, ∀ slot ∈ enum.slots,
          slot.value.isSome = true ∧ slot.qualified.isSome = true) ∧
        ∀ constant ∈ model.constants, constant.resolved.isSome = true :=
  ⟨by decide, values_known_of_no_errors {} gappedDocuments (by decide)⟩

end Resolver

end InterfaceSchema
