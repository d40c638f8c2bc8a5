import InterfaceSchema.Proofs.Bitflag.Meaning
import InterfaceSchema.Proofs.Group

/-!
Entries that are added to a bit mask set. A part stands for the first entry of its name, so an
entry that has a source depends on the same entries as before. A grounded entry reaches nothing
new and keeps its mask.
-/

namespace InterfaceSchema

set_option autoImplicit false

namespace MaskDependency

open MaskNode MaskProgress

variable {entries : List BitflagEntry} {pointerWidth : UInt32} (more : List BitflagEntry)

theorem first_of_name_append {name : String} (known : name ∈ entries.map BitflagEntry.name)
    (index : Nat) :
    FirstOfName (entries ++ more) name index ↔ FirstOfName entries name index := by
  obtain ⟨first, earliest⟩ := (exists_first_iff name).mpr known
  rw [first_of_name_iff] at earliest
  have kept : indexOf? (entries ++ more) name = indexOf? entries name := by
    unfold indexOf? at earliest ⊢
    rw [List.findIdx?_append, earliest, Option.some_or]
  rw [first_of_name_iff, first_of_name_iff, kept]

theorem has_source_append {index : Nat} (source : HasSource entries pointerWidth index) :
    HasSource (entries ++ more) pointerWidth index := by
  obtain ⟨entry, found, written⟩ := source
  have inside := (List.getElem?_eq_some_iff.mp found).1
  refine ⟨entry, by rw [List.getElem?_append_left inside, found], ?_⟩
  rcases written with own | ⟨valueless, names, combined, nonempty, known⟩
  · exact Or.inl own
  · refine Or.inr ⟨valueless, names, combined, nonempty, ?_⟩
    intro name member
    rw [List.map_append]
    exact List.mem_append_left _ (known name member)

theorem depends_on_append {whole : Nat} (source : HasSource entries pointerWidth whole)
    (part : Nat) : DependsOn (entries ++ more) whole part ↔ DependsOn entries whole part := by
  obtain ⟨entry, found, written⟩ := source
  have inside := (List.getElem?_eq_some_iff.mp found).1
  unfold DependsOn
  rw [List.getElem?_append_left inside, found]
  have known : ∀ names, entry.combination = some names →
      ∀ name ∈ names, name ∈ entries.map BitflagEntry.name := by
    intro names combined
    rcases written with own | ⟨_, others, same, _, known⟩
    · cases value : entry.value <;> simp [literal?, value, combined] at own
    · rw [combined] at same
      cases same
      exact known
  constructor
  · rintro ⟨other, names, name, same, combined, member, first⟩
    cases same
    rw [first_of_name_append more (known names combined name member)] at first
    exact ⟨entry, names, name, rfl, combined, member, first⟩
  · rintro ⟨other, names, name, same, combined, member, first⟩
    cases same
    rw [← first_of_name_append more (known names combined name member)] at first
    exact ⟨entry, names, name, rfl, combined, member, first⟩

theorem reaches_append {index : Nat} (sourced : Sourced entries pointerWidth index)
    (reached : Nat) : Reaches (entries ++ more) index reached ↔ Reaches entries index reached := by
  constructor
  · intro path
    induction path with
    | refl => exact Relation.ReflTransGen.refl
    | tail _ depends ih =>
        rw [depends_on_append more (sourced _ ih)] at depends
        exact ih.tail depends
  · intro path
    induction path with
    | refl => exact Relation.ReflTransGen.refl
    | tail before depends ih =>
        rw [← depends_on_append more (sourced _ before)] at depends
        exact ih.tail depends

theorem not_on_cycle_append {index : Nat} (sourced : Sourced entries pointerWidth index)
    (acyclic : ¬OnCycle entries index) : ¬OnCycle (entries ++ more) index := by
  intro cycle
  obtain ⟨part, depends, onward⟩ := Relation.TransGen.head'_iff.mp cycle
  rw [depends_on_append more (sourced index Relation.ReflTransGen.refl)] at depends
  have partSourced := sourced_of_reaches sourced (Relation.ReflTransGen.single depends)
  have back := (reaches_append more partSourced index).mp onward
  exact acyclic (Relation.TransGen.head' depends back)

theorem grounded_append {index : Nat} (grounded : Grounded entries pointerWidth index) :
    Grounded (entries ++ more) pointerWidth index := by
  have sourced : Sourced entries pointerWidth index := fun reached path => (grounded reached path).1
  intro reached path
  rw [reaches_append more sourced] at path
  exact ⟨has_source_append more (sourced reached path),
    not_on_cycle_append more (sourced_of_reaches sourced path) (grounded reached path).2⟩

theorem union_reached_append {index : Nat} (inside : index < entries.length)
    (sourced : Sourced entries pointerWidth index) :
    union (reachedLiterals (entries ++ more) pointerWidth index) =
      union (reachedLiterals entries pointerWidth index) := by
  apply union_congr (reaches_append more sourced)
  intro reached path
  unfold literalAt
  rw [List.getElem?_append_left (lt_length_of_reaches inside path)]

/-- A mask that is known stays as it is. -/
theorem mask_at_append {index : Nat} {value : UInt64} (inside : index < entries.length)
    (known : (evaluate (graph entries pointerWidth)).maskAt index = some value) :
    (evaluate (graph (entries ++ more) pointerWidth)).maskAt index = some value := by
  rw [mask_at_iff inside] at known
  have larger : index < (entries ++ more).length := by
    rw [List.length_append]
    omega
  -- The two evaluations are not compared; each is what the graph below the entry says.
  rw [mask_at_iff larger]
  obtain ⟨grounded, rfl⟩ := known
  refine ⟨grounded_append more grounded, ?_⟩
  exact (union_reached_append more inside fun reached path => (grounded reached path).1).symm

end MaskDependency

namespace BitflagDecl

open MaskNode MaskProgress MaskDependency

theorem merged_entries_extend (later : List (Located BitflagDecl)) (group : Group BitflagDecl) :
    ∃ more, mergedEntries (group.extend later) = mergedEntries group ++ more := by
  unfold mergedEntries
  rw [Group.parts_extend, List.flatMap_append]
  exact ⟨_, rfl⟩

/-- Further declarations leave the masks of a set as they are where all of them are known. -/
theorem masks_prefix (config : Config) {group : Group BitflagDecl}
    (later : List (Located BitflagDecl))
    (known : ∀ mask ∈ (resolve config group).1.masks, mask.value.isSome = true) :
    (resolve config group).1.masks <+: (resolve config (group.extend later)).1.masks := by
  obtain ⟨more, merged⟩ := merged_entries_extend later group
  rw [List.prefix_iff_getElem?]
  intro index bound
  have here := List.getElem?_eq_getElem bound
  have value := known _ (List.getElem_mem bound)
  rw [resolved_mask_at] at here
  obtain ⟨entry, found, same⟩ := Option.map_eq_some_iff.mp here
  have inside := (List.getElem?_eq_some_iff.mp found).1
  rw [← same] at value ⊢
  obtain ⟨word, mask⟩ := Option.isSome_iff_exists.mp value
  have own : (evaluate (graph (mergedEntries group) config.pointerWidth)).maskAt index =
      some word := mask
  rw [resolved_mask_at, merged, List.getElem?_append_left inside, found, Option.map_some, own,
    mask_at_append more inside own]

end BitflagDecl

end InterfaceSchema
