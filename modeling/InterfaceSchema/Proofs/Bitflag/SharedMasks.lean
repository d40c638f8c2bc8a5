import InterfaceSchema.Proofs.Bitflag.Meaning
import InterfaceSchema.Proofs.Holders
import InterfaceSchema.Proofs.Resolution.Aliases

/-!
Masks that entries of one bit mask set share, wherever the masks come from. Every entry whose mask
an earlier entry has is told once, with the first entry of the mask, and an entry without a mask is
never told. So nothing is told if and only if the known masks differ from each other.
-/

namespace InterfaceSchema

set_option autoImplicit false

theorem ResolvedBitflag.duplicates_eq (bitflag : String) (seen : List (UInt64 × String))
    (items : List (String × Option UInt64)) :
    duplicates bitflag seen items =
      (Holders.scan seen items).map fun (first, second, value) =>
        .duplicateBitflagValue bitflag first second value := by
  induction items generalizing seen with
  | nil => rfl
  | cons item rest ih =>
      rcases item with ⟨name, _ | value⟩
      · exact ih seen
      · rw [duplicates, Holders.scan]
        cases seen.lookup value with
        | some first => exact congrArg _ (ih seen)
        | none => exact ih _

def AliasPolicy.diagnostic (policy : AliasPolicy) (problem : Problem) : Diagnostic :=
  if policy = .deny then .error problem else .warning problem

theorem ResolvedBitflag.alias_diagnostics_eq {policy : AliasPolicy} (telling : policy ≠ .allow)
    (problems : List Problem) :
    aliasDiagnostics policy problems = problems.map policy.diagnostic := by
  cases policy with
  | allow => exact absurd rfl telling
  | warn | deny => rfl

namespace BitflagDecl

open MaskNode MaskProgress

variable (config : Config) (group : Group BitflagDecl)

theorem scanned_masks_eq :
    ((mergedEntries group).map BitflagEntry.name).zip
        (evaluate (graph (mergedEntries group) config.pointerWidth)).masks =
      (resolve config group).1.masks.map fun mask => (mask.name, mask.value) := by
  simp only [resolve, List.map_zipWith, resolveMask]
  rw [List.zip_eq_zipWith, List.zipWith_map_left]

theorem alias_problems_eq :
    aliasProblems config group =
      (resolve config group).1.masks.zipIdx.filterMap fun (mask, place) =>
        mask.value.bind fun value =>
          (((resolve config group).1.masks.take place).find? fun earlier =>
            earlier.value == some value).map fun first =>
              .duplicateBitflagValue group.name first.name mask.name value := by
  rw [aliasProblems, ResolvedBitflag.duplicates_eq, Holders.scan_eq, scanned_masks_eq,
    Holders.clashes_map, List.map_filterMap]
  simp only [Option.map_bind, Option.map_map, Function.comp_def]

theorem alias_problems_eq_nil_iff :
    aliasProblems config group = [] ↔
      ((resolve config group).1.masks.filterMap ResolvedMask.value).Nodup := by
  rw [aliasProblems, ResolvedBitflag.duplicates_eq, Holders.scan_eq, scanned_masks_eq,
    List.map_eq_nil_iff, Holders.clashes_eq_nil_iff, List.filterMap_map]
  rfl

theorem alias_diagnostics_kept :
    (resolve config group).2.filter Diagnostic.isAlias =
      ResolvedBitflag.aliasDiagnostics config.aliases (aliasProblems config group) := by
  have own : (ownProblems config group).filter
      (fun problem => problem.kind == .duplicateBitflagValue) = [] := by
    rw [List.filter_eq_nil_iff]
    intro problem told
    rw [beq_iff_eq, ← Problem.stage_eq_aliases_iff]
    exact own_problems_elsewhere config group problem told
  have shared : (aliasProblems config group).filter
      (fun problem => problem.kind == .duplicateBitflagValue) = aliasProblems config group := by
    rw [List.filter_eq_self]
    intro problem told
    rw [beq_iff_eq, ← Problem.stage_eq_aliases_iff]
    exact alias_problems_told config group problem told
  have kept := diagnostics_filter config group fun problem =>
    problem.kind == .duplicateBitflagValue
  rw [own, shared, List.map_nil, List.nil_append] at kept
  exact kept

/-- Under a policy that tells shared masks, they are told exactly: for each entry whose mask an
earlier entry has, in the order of the entries, one diagnostic with the mask, the first entry of
the mask and the entry. Nothing is told if and only if the known masks differ from each other. -/
theorem shared_masks_told (telling : config.aliases ≠ .allow) :
    (resolve config group).2.filter Diagnostic.isAlias =
        ((resolve config group).1.masks.zipIdx.filterMap fun (mask, place) =>
          mask.value.bind fun value =>
            (((resolve config group).1.masks.take place).find? fun earlier =>
              earlier.value == some value).map fun first =>
                config.aliases.diagnostic
                  (.duplicateBitflagValue group.name first.name mask.name value)) ∧
      ((resolve config group).2.filter Diagnostic.isAlias = [] ↔
        ((resolve config group).1.masks.filterMap ResolvedMask.value).Nodup) := by
  rw [alias_diagnostics_kept, ResolvedBitflag.alias_diagnostics_eq telling, List.map_eq_nil_iff,
    alias_problems_eq_nil_iff]
  refine ⟨?_, Iff.rfl⟩
  rw [alias_problems_eq, List.map_filterMap]
  simp only [Option.map_bind, Option.map_map, Function.comp_def]

/-- A combination before its parts, a literal and another combination of the same mask, entries
without a mask, and two symbols that stand for one number where pointers have 32 bits. -/
def sharedFlags : Group BitflagDecl :=
  { first := ⟨0,
      { name := "Flags"
        entries :=
          [{ name := "both", combination := some ["low", "high"] },
           { name := "low", value := some (.unsigned 1) },
           { name := "high", value := some (.unsigned 2) },
           { name := "empty" },
           { name := "three", value := some (.unsigned 3) },
           { name := "lost", combination := some ["empty"] },
           { name := "again", combination := some ["three", "low"] },
           { name := "word", value := some (.symbol .uint32Max) },
           { name := "size", value := some (.symbol .usizeMax) }] }⟩
    others := [] }

/-- All entries of a mask are told with the first one, and what is shared depends on the width. -/
theorem shared_flags_told :
    (resolve { pointerWidth := 32 } sharedFlags).2.filter Diagnostic.isAlias =
        [.warning (.duplicateBitflagValue "Flags" "both" "three" 3),
         .warning (.duplicateBitflagValue "Flags" "both" "again" 3),
         .warning (.duplicateBitflagValue "Flags" "word" "size" 4294967295)] ∧
      (resolve { pointerWidth := 64, aliases := .deny } sharedFlags).2.filter Diagnostic.isAlias =
        [.error (.duplicateBitflagValue "Flags" "both" "three" 3),
         .error (.duplicateBitflagValue "Flags" "both" "again" 3)] := by
  constructor
  · exact (shared_masks_told { pointerWidth := 32 } sharedFlags (by decide)).1.trans (by decide)
  · exact (shared_masks_told { pointerWidth := 64, aliases := .deny } sharedFlags
      (by decide)).1.trans (by decide)

end BitflagDecl

end InterfaceSchema
