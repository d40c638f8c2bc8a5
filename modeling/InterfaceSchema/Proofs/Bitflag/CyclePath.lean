import InterfaceSchema.Proofs.Bitflag.Combination
import InterfaceSchema.Proofs.Resolution.Aliases

/-!
Paths of cycles as they are told. Each one leads from name to name through combinations of known
entries and comes back to the name that it starts with, without another name twice, and no two of
them have a name in common.
-/

namespace InterfaceSchema

set_option autoImplicit false

def Problem.cyclePath? : Problem → Option (List String)
  | cyclicBitflagCombination _ path => some path
  | _ => none

theorem Problem.no_path_of_aliases {problem : Problem} (held : problem.stage = .aliases) :
    problem.cyclePath? = none := by
  cases problem with
  | cyclicBitflagCombination => cases held
  | _ => rfl

namespace BitflagDecl

def toldCycles (config : Config) (group : Group BitflagDecl) : List (List String) :=
  (resolve config group).2.filterMap fun diagnostic => diagnostic.problem.cyclePath?

end BitflagDecl

namespace MaskDependency

open MaskNode MaskProgress MaskCycle

/-- The first entry of a name is a combination of known entries and lists the other name. -/
def Lists (entries : List BitflagEntry) (name other : String) : Prop :=
  ∃ index entry names, FirstOfName entries name index ∧ entries[index]? = some entry ∧
    IsCombination entries entry ∧ entry.combination = some names ∧ other ∈ names

structure CyclePath (entries : List BitflagEntry) (path : List String) : Prop where
  leaves : 2 ≤ path.length
  returns : path.getLast? = path.head?
  distinct : path.dropLast.Nodup
  steps : path.IsChain (Lists entries)

variable {entries : List BitflagEntry} {pointerWidth : UInt32}

def nameAt (entries : List BitflagEntry) (index : Nat) : String :=
  ((entries[index]?).map BitflagEntry.name).getD ""

theorem name_at_of_first {name : String} {index : Nat} (first : FirstOfName entries name index) :
    nameAt entries index = name := by
  rw [nameAt, first.1, Option.getD_some]

theorem names_eq_map {ring : List Nat}
    (first : ∀ index ∈ ring, FirstOfName entries (nameAt entries index) index) :
    names entries ring = ring.map (nameAt entries) := by
  rw [← List.filterMap_eq_map]
  apply List.filterMap_congr
  intro index member
  exact (first index member).1

section Rings

variable {ring : List Nat} (closed : Ring (graph entries pointerWidth)
  (evaluate (graph entries pointerWidth)) ring)
include closed

/-- An entry of a ring is a part of another one and so the first entry of its name. -/
theorem first_of_ring {index : Nat} (member : index ∈ ring) :
    FirstOfName entries (nameAt entries index) index := by
  obtain ⟨whole, _, step⟩ := Relation.TransGen.tail'_iff.mp (closed.reaches member member)
  obtain ⟨name, first⟩ := first_of_combines (part_iff_combines.mp (part_of_follows step).1)
  rwa [name_at_of_first first]

theorem mem_names_iff {name : String} :
    name ∈ names entries ring ↔ ∃ index ∈ ring, FirstOfName entries name index := by
  rw [names_eq_map fun _ => first_of_ring closed, List.mem_map]
  constructor
  · rintro ⟨index, member, rfl⟩
    exact ⟨index, member, first_of_ring closed member⟩
  · rintro ⟨index, member, first⟩
    exact ⟨index, member, name_at_of_first first⟩

theorem lists_of_follows {whole part : Nat} (member : whole ∈ ring)
    (step : Follows (graph entries pointerWidth) (evaluate (graph entries pointerWidth)) whole
      part) : Lists entries (nameAt entries whole) (nameAt entries part) := by
  obtain ⟨entry, names, name, written, combination, combined, listed, first⟩ :=
    part_iff_combines.mp (part_of_follows step).1
  rw [name_at_of_first first]
  exact ⟨whole, entry, names, first_of_ring closed member, written, combination, combined, listed⟩

theorem cycle_path_of_ring : CyclePath entries (names entries ring) := by
  have first : ∀ index ∈ ring, FirstOfName entries (nameAt entries index) index :=
    fun _ => first_of_ring closed
  rw [names_eq_map first]
  have steps : (ring.map (nameAt entries)).IsChain (Lists entries) := by
    rw [List.isChain_map]
    exact closed.chain.imp_of_mem_imp fun whole part member _ step =>
      lists_of_follows closed member step
  obtain ⟨start, loop, rfl, trail⟩ := closed
  rw [List.map_append, List.map_singleton] at steps ⊢
  refine ⟨by simp, List.getLast?_concat, ?_, steps⟩
  rw [List.dropLast_concat]
  apply List.Nodup.map_on _ trail.nodup
  intro index member other among same
  have own := first index (List.mem_append_left _ member)
  rw [same] at own
  exact first_of_name_unique own (first other (List.mem_append_left _ among))

end Rings

end MaskDependency

namespace BitflagDecl

open MaskNode MaskProgress MaskCycle MaskDependency

/-- The cycles are told one by one, and nothing else is told with a path. -/
theorem told_cycles_eq (config : Config) (group : Group BitflagDecl) :
    toldCycles config group =
      (cycles (graph (mergedEntries group) config.pointerWidth)
        (evaluate (graph (mergedEntries group) config.pointerWidth))).map
          (names (mergedEntries group)) := by
  have repeated : (Uniqueness.problems .bitflagEntry (some group.name)
      ((mergedEntries group).map BitflagEntry.name)).filterMap Problem.cyclePath? = [] := by
    rw [List.filterMap_eq_nil_iff, Uniqueness.problems, List.forall_mem_map]
    exact fun _ _ => rfl
  have sources : ((mergedEntries group).flatMap (MaskNode.problems group.name (mergedEntries group)
      config.pointerWidth)).filterMap Problem.cyclePath? = [] := by
    rw [List.filterMap_eq_nil_iff, List.forall_mem_flatMap]
    intro entry _
    unfold MaskNode.problems
    split
    · split <;> simp [Problem.cyclePath?]
    · simp [Problem.cyclePath?]
    · simp [Problem.cyclePath?]
  have aliases : (ResolvedBitflag.aliasDiagnostics config.aliases
      (aliasProblems config group)).filterMap
        (fun diagnostic => diagnostic.problem.cyclePath?) = [] := by
    rw [List.filterMap_eq_nil_iff]
    intro diagnostic told
    exact Problem.no_path_of_aliases
      (alias_problems_told config group _ (ResolvedBitflag.problem_of_alias told))
  rw [toldCycles, resolve_diagnostics, List.filterMap_append, aliases, List.append_nil,
    List.filterMap_map]
  change (ownProblems config group).filterMap Problem.cyclePath? = _
  rw [ownProblems, List.filterMap_append, List.filterMap_append, repeated, sources,
    List.append_nil, List.nil_append, MaskCycle.problems, List.filterMap_map,
    ← List.filterMap_eq_map]
  rfl

theorem ring_of_told {config : Config} {group : Group BitflagDecl} {path : List String}
    (told : path ∈ toldCycles config group) :
    ∃ ring ∈ cycles (graph (mergedEntries group) config.pointerWidth)
        (evaluate (graph (mergedEntries group) config.pointerWidth)),
      names (mergedEntries group) ring = path ∧
        Ring (graph (mergedEntries group) config.pointerWidth)
          (evaluate (graph (mergedEntries group) config.pointerWidth)) ring := by
  rw [told_cycles_eq] at told
  obtain ⟨ring, found, same⟩ := List.mem_map.mp told
  exact ⟨ring, found, same, ring_of_cycle graph_parts_in_range found⟩

theorem told_cycles_sound (config : Config) (group : Group BitflagDecl) :
    (∀ path ∈ toldCycles config group, CyclePath (mergedEntries group) path) ∧
      (toldCycles config group).Pairwise List.Disjoint := by
  have range : PartsInRange (graph (mergedEntries group) config.pointerWidth) :=
    graph_parts_in_range
  constructor
  · intro path told
    obtain ⟨ring, _, rfl, closed⟩ := ring_of_told told
    exact cycle_path_of_ring closed
  · rw [told_cycles_eq, List.pairwise_map]
    apply (cycles_disjoint range).imp_of_mem
    intro ring other member among disjoint name own again
    -- A name of both paths would stand for one entry, and that entry would be on both rings.
    obtain ⟨index, inRing, first⟩ := (mem_names_iff (ring_of_cycle range member)).mp own
    obtain ⟨twin, inOther, second⟩ := (mem_names_iff (ring_of_cycle range among)).mp again
    exact disjoint inRing (first_of_name_unique first second ▸ inOther)

/-- An entry that leads to two cycles, one of which leads to the other. The name of an entry on the
first cycle is taken twice. -/
def loopingFlags : Group BitflagDecl :=
  { first := ⟨0,
      { name := "Flags"
        entries :=
          [{ name := "entry", combination := some ["bit", "left", "self"] },
           { name := "bit", value := some (.unsigned 1) },
           { name := "left", combination := some ["bit", "right"] },
           { name := "right", combination := some ["left", "self"] }] }⟩
    others := [⟨1,
      { name := "Flags"
        extended := true
        entries :=
          [{ name := "left", combination := some ["self"] },
           { name := "self", combination := some ["self", "bit"] }] }⟩] }

theorem looping_flags_told :
    toldCycles {} loopingFlags = [["left", "right", "left"], ["self", "self"]] ∧
      CyclePath (mergedEntries loopingFlags) ["left", "right", "left"] ∧
      CyclePath (mergedEntries loopingFlags) ["self", "self"] ∧
      List.Disjoint ["left", "right", "left"] ["self", "self"] := by
  have told : toldCycles {} loopingFlags = [["left", "right", "left"], ["self", "self"]] := by
    decide
  obtain ⟨sound, disjoint⟩ := told_cycles_sound {} loopingFlags
  rw [told] at sound disjoint
  exact ⟨told, sound _ (by simp), sound _ (by simp), List.pairwise_pair.mp disjoint⟩

end BitflagDecl

end InterfaceSchema
