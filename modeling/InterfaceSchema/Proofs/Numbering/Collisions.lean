import InterfaceSchema.Proofs.Holders
import InterfaceSchema.Proofs.Numbering.ClosedForm

/-!
Qualified values that slots of one enum share. Every slot whose value an earlier slot holds is told
once, with the first holder of the value, whatever documents and blocks the slots come from. Packing
a block and a number into one word loses neither of them, so that nothing is told if and only if the
numbers within each block differ from each other.
-/

namespace InterfaceSchema

set_option autoImplicit false

namespace Numbering

theorem qualify_injective {block other : UInt16} {value number : UInt16}
    (same : qualify block value = qualify other number) : block = other ∧ value = number := by
  have words := congrArg UInt32.toNat same
  rw [qualify_to_nat, qualify_to_nat] at words
  have valueBound := value.toNat_lt
  have numberBound := number.toNat_lt
  constructor
  · exact UInt16.toNat_inj.mp (by omega)
  · exact UInt16.toNat_inj.mp (by omega)

/-- What the slots of an enum hold, under the labels that they are told with. -/
def heldValues (slots : List ResolvedSlot) : List (String × Option UInt32) :=
  slots.map fun slot => (slot.label, slot.qualified)

def Qualifies (slot : ResolvedSlot) : Prop := slot.value = none → slot.qualified = none

theorem qualifies_of_resolved (slot : PlacedSlot) (number : Int) :
    Qualifies (resolveSlot slot number) := by
  intro unsettled
  have outside : value? number = none := unsettled
  rw [resolveSlot, outside]
  cases slot.block <;> rfl

theorem shared_values_scanned (enum : String) (taken : List (UInt32 × String))
    (slots : List (ResolvedSlot × Int)) (qualifies : ∀ pair ∈ slots, Qualifies pair.1) :
    (problems enum taken slots).filter (fun problem => problem.kind == .duplicateEnumValue) =
      (Holders.scan taken (heldValues (slots.map Prod.fst))).map fun (first, second, value) =>
        .duplicateEnumValue enum first second value := by
  induction slots generalizing taken with
  | nil => rfl
  | cons pair rest ih =>
      rcases pair with ⟨slot, number⟩
      have own : Qualifies slot := qualifies (slot, number) List.mem_cons_self
      have later (held : List (UInt32 × String)) :=
        ih held fun other member => qualifies other (List.mem_cons_of_mem _ member)
      have values : heldValues (((slot, number) :: rest).map Prod.fst) =
          (slot.label, slot.qualified) :: heldValues (rest.map Prod.fst) := rfl
      rw [values, problems]
      cases value : slot.value with
      | none =>
          rw [own value]
          exact later taken
      | some word =>
          cases slot.qualified with
          | none => exact later taken
          | some qualified =>
              rw [Holders.scan]
              dsimp only
              cases taken.lookup qualified with
              | some first => exact congrArg _ (later taken)
              | none => exact later _

def blockNumbers (placed : List PlacedSlot) (slots : List ResolvedSlot) : List (UInt16 × UInt16) :=
  (placed.zip slots).filterMap fun (place, slot) =>
    place.block.bind fun block => slot.value.map fun value => (block, value)

theorem qualified_values (slots : List (PlacedSlot × Int)) :
    (slots.map fun pair => resolveSlot pair.1 pair.2).filterMap ResolvedSlot.qualified =
      (blockNumbers (slots.map Prod.fst) (slots.map fun pair => resolveSlot pair.1 pair.2)).map
        fun (block, value) => qualify block value := by
  rw [blockNumbers, List.zip_map', List.map_filterMap, List.filterMap_map, List.filterMap_map]
  apply List.filterMap_congr
  rintro ⟨slot, number⟩ _
  simp only [Function.comp_apply, resolveSlot]
  cases slot.block <;> cases value? number <;> rfl

theorem labels_of_slots (slots : List (PlacedSlot × Int)) :
    (slots.map fun pair => resolveSlot pair.1 pair.2).map ResolvedSlot.label =
      (slots.map Prod.fst).map fun slot => (slot.entry.map EnumEntry.name).getD "<reserved>" := by
  rw [List.map_map, List.map_map]
  rfl

def sharedValues (blocks : List (Option UInt16)) (group : Group EnumDecl) : List Problem :=
  (resolve blocks group).2.filter fun problem => problem.kind == .duplicateEnumValue

theorem shared_values_eq (blocks : List (Option UInt16)) (group : Group EnumDecl) :
    sharedValues blocks group =
      (Holders.clashes (heldValues (resolve blocks group).1.slots)).map
        fun (first, second, value) => .duplicateEnumValue group.name first second value := by
  have qualifies : ∀ pair ∈ (numbered (placedSlots blocks group)).map fun pair =>
      (resolveSlot pair.1 pair.2, pair.2), Qualifies pair.1 := by
    rw [List.forall_mem_map]
    intro pair _
    exact qualifies_of_resolved pair.1 pair.2
  rw [sharedValues, resolve_problems, List.filter_append,
    Uniqueness.problems_of_other_kind _ _ _ (by decide), List.nil_append,
    shared_values_scanned _ _ _ qualifies, List.map_map, resolve_slots, Holders.scan_eq]
  rfl

theorem held_values (slots : List ResolvedSlot) :
    (heldValues slots).filterMap Prod.snd = slots.filterMap ResolvedSlot.qualified := by
  rw [heldValues, List.filterMap_map]
  rfl

theorem shared_values_eq_nil_iff (blocks : List (Option UInt16)) (group : Group EnumDecl) :
    sharedValues blocks group = [] ↔
      ((resolve blocks group).1.slots.filterMap ResolvedSlot.qualified).Nodup := by
  rw [shared_values_eq, List.map_eq_nil_iff, Holders.clashes_eq_nil_iff, held_values]

theorem qualified_nodup_iff (blocks : List (Option UInt16)) (group : Group EnumDecl) :
    ((resolve blocks group).1.slots.filterMap ResolvedSlot.qualified).Nodup ↔
      (blockNumbers (placedSlots blocks group) (resolve blocks group).1.slots).Nodup := by
  have packed := qualified_values (numbered (placedSlots blocks group))
  rw [slots_eq, ← resolve_slots] at packed
  rw [packed, List.nodup_map_iff]
  rintro ⟨block, value⟩ ⟨other, number⟩ same
  obtain ⟨blocks, values⟩ := qualify_injective same
  rw [blocks, values]

/-- The values that slots of an enum share are told exactly: for each slot whose qualified value an
earlier slot holds, in the order of the slots, one problem with the value, the label of the first
holder and that of the slot. A gap is labelled as reserved. Nothing is told if and only if the
qualified values differ from each other, and this holds if and only if the numbers in each block
do. -/
theorem shared_values_told (blocks : List (Option UInt16)) (group : Group EnumDecl) :
    sharedValues blocks group =
        ((resolve blocks group).1.slots.zipIdx.filterMap fun (slot, place) =>
          slot.qualified.bind fun value =>
            (((resolve blocks group).1.slots.take place).find? fun earlier =>
              earlier.qualified == some value).map fun first =>
                .duplicateEnumValue group.name first.label slot.label value) ∧
      (resolve blocks group).1.slots.map ResolvedSlot.label =
        ((placedSlots blocks group).map fun slot =>
          (slot.entry.map EnumEntry.name).getD "<reserved>") ∧
      (sharedValues blocks group = [] ↔
        ((resolve blocks group).1.slots.filterMap ResolvedSlot.qualified).Nodup) ∧
      (sharedValues blocks group = [] ↔
        (blockNumbers (placedSlots blocks group) (resolve blocks group).1.slots).Nodup) := by
  have distinct := shared_values_eq_nil_iff blocks group
  refine ⟨?_, ?_, distinct, distinct.trans (qualified_nodup_iff blocks group)⟩
  · rw [shared_values_eq, heldValues, Holders.clashes_map, List.map_filterMap]
    simp only [Option.map_bind, Option.map_map, Function.comp_def]
  · rw [resolve_slots, labels_of_slots, slots_eq]

/-- A gap that takes up the number of two entries, one of them in a later document of its block. -/
def codesOfOneBlock : Group EnumDecl :=
  { first := ⟨0, { name := "Code", slots := [none, some { name := "zero", value := some 0 }] }⟩
    others :=
      [⟨1, { name := "Code", extended := true, slots := [some { name := "other" }] }⟩,
       ⟨2, { name := "Code", extended := true
             slots := [some { name := "last", value := some 0 }] }⟩] }

example : sharedValues [some 1, some 2, some 1] codesOfOneBlock =
    [.duplicateEnumValue "Code" "<reserved>" "zero" 0x10000,
      .duplicateEnumValue "Code" "<reserved>" "last" 0x10000] := by
  decide

end Numbering

end InterfaceSchema
