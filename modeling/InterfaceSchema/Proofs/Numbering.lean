import InterfaceSchema.Numbering
import InterfaceSchema.Proofs.Group
import Mathlib.Data.List.Basic

/-!
Numbers of enum slots. A slot of which nothing is told has a number, and the numbers of the slots
before it do not depend on what follows, so that further declarations of an enum only add slots.
-/

namespace InterfaceSchema

set_option autoImplicit false

namespace Numbering

theorem value_eq_some_iff {number : Int} {value : UInt16} :
    value? number = some value ↔ (value.toNat : Int) = number := by
  have bound := value.toNat_lt
  unfold value?
  constructor
  · intro fits
    split at fits
    · rename_i range
      obtain ⟨lower, upper⟩ := range
      rw [← Option.some.inj fits, UInt16.toNat_ofNat']
      have : UInt16.size = 2 ^ 16 := rfl
      omega
    · cases fits
  · rintro rfl
    have : UInt16.size = 2 ^ 16 := rfl
    rw [if_pos (by omega)]
    simp

theorem placed_entries (blocks : List (Option UInt16)) (group : Group EnumDecl) :
    (placedSlots blocks group).map PlacedSlot.entry =
      group.parts.flatMap fun part => part.decl.slots := by
  unfold placedSlots
  rw [List.map_flatMap]
  simp only [List.map_map, Function.comp_def, List.map_id']

theorem numbers_length (counters : Counters) (slots : List PlacedSlot) :
    (numbers counters slots).length = slots.length := by
  induction slots generalizing counters with
  | nil => rfl
  | cons slot rest ih => simp only [numbers, List.length_cons, ih]

theorem value_of_no_problem {enum : String} {taken : List (UInt32 × String)}
    {slots : List (ResolvedSlot × Int)} (quiet : problems enum taken slots = []) :
    ∀ slot ∈ slots, slot.1.value.isSome = true := by
  induction slots generalizing taken with
  | nil => simp
  | cons slot rest ih =>
      rcases slot with ⟨slot, number⟩
      have here : slot.value.isSome = true ∧ ∃ others, problems enum others rest = [] := by
        simp only [problems] at quiet
        cases value : slot.value with
        | none => simp [value] at quiet
        | some word =>
            refine ⟨rfl, ?_⟩
            cases qualified : slot.qualified with
            | none => exact ⟨taken, by simpa [value, qualified] using quiet⟩
            | some number =>
                cases holder : taken.lookup number with
                | none => exact ⟨_, by simpa [value, qualified, holder] using quiet⟩
                | some first => simp [value, qualified, holder] at quiet
      obtain ⟨known, others, remaining⟩ := here
      intro other member
      rcases List.mem_cons.mp member with same | later
      · exact same ▸ known
      · exact ih remaining other later

/-- The slots of a group whose documents have valid blocks lie in a block each. -/
theorem placed_blocks {blocks : List (Option UInt16)} {group : Group EnumDecl}
    (valid : ∀ block ∈ blocks, block.isSome = true)
    (within : ∀ part ∈ group.parts, part.fragment < blocks.length) :
    ∀ slot ∈ placedSlots blocks group, slot.block.isSome = true := by
  intro slot member
  obtain ⟨part, among, placed⟩ := List.mem_flatMap.mp member
  obtain ⟨entry, _, rfl⟩ := List.mem_map.mp placed
  have bound := within part among
  simpa [bound] using valid _ (List.getElem_mem bound)

theorem slots_known_of_no_problems {blocks : List (Option UInt16)} {group : Group EnumDecl}
    (valid : ∀ block ∈ blocks, block.isSome = true)
    (within : ∀ part ∈ group.parts, part.fragment < blocks.length)
    (quiet : (resolve blocks group).2 = []) :
    ∀ slot ∈ (resolve blocks group).1.slots,
      slot.value.isSome = true ∧ slot.qualified.isSome = true := by
  simp only [resolve, List.append_eq_nil_iff] at quiet
  intro slot member
  obtain ⟨index, found⟩ := List.mem_iff_getElem?.mp member
  simp only [resolve] at found
  obtain ⟨placed, number, placedAt, numberAt, same⟩ := List.getElem?_zipWith_eq_some.mp found
  have value : slot.value.isSome = true := by
    apply value_of_no_problem quiet.2 (slot, number)
    apply List.mem_iff_getElem?.mpr
    exact ⟨index, List.getElem?_zip_eq_some.mpr ⟨found, numberAt⟩⟩
  have block := placed_blocks valid within placed (List.mem_of_getElem? placedAt)
  refine ⟨value, ?_⟩
  obtain ⟨word, fits⟩ := Option.isSome_iff_exists.mp value
  obtain ⟨start, starts⟩ := Option.isSome_iff_exists.mp block
  subst same
  simp only [resolveSlot] at fits ⊢
  simp [starts, fits]

theorem numbers_append (counters : Counters) (slots more : List PlacedSlot) :
    ∃ later, numbers counters (slots ++ more) = numbers counters slots ++ later := by
  induction slots generalizing counters with
  | nil => exact ⟨numbers counters more, rfl⟩
  | cons slot rest ih =>
      simp only [List.cons_append, numbers, List.cons.injEq, true_and]
      exact ih _

theorem placed_slots_of_blocks {blocks larger : List (Option UInt16)} {group : Group EnumDecl}
    (agree : ∀ part ∈ group.parts, larger[part.fragment]? = blocks[part.fragment]?) :
    placedSlots larger group = placedSlots blocks group := by
  unfold placedSlots
  apply List.flatMap_congr
  intro part member
  rw [agree part member]

theorem placed_slots_extend (blocks : List (Option UInt16)) (later : List (Located EnumDecl))
    (group : Group EnumDecl) :
    ∃ more, placedSlots blocks (group.extend later) = placedSlots blocks group ++ more := by
  unfold placedSlots
  rw [Group.parts_extend, List.flatMap_append]
  exact ⟨_, rfl⟩

/-- Further declarations and further documents leave the slots as they are. -/
theorem slots_prefix {blocks larger : List (Option UInt16)} {group : Group EnumDecl}
    (later : List (Located EnumDecl))
    (agree : ∀ part ∈ group.parts, larger[part.fragment]? = blocks[part.fragment]?) :
    (resolve blocks group).1.slots <+: (resolve larger (group.extend later)).1.slots := by
  obtain ⟨more, placed⟩ := placed_slots_extend larger later group
  rw [placed_slots_of_blocks agree] at placed
  obtain ⟨others, numbered⟩ := numbers_append [] (placedSlots blocks group) more
  have size := numbers_length [] (placedSlots blocks group)
  simp only [resolve]
  rw [placed, numbered, List.zipWith_append size.symm]
  exact List.prefix_append _ _

end Numbering

end InterfaceSchema
