import InterfaceSchema.Proofs.Numbering
import InterfaceSchema.Proofs.Numbering.ClosedForm
import InterfaceSchema.Proofs.Regrouping

/-!
Numbers that are written where they would be counted. An entry without a number may write the value
that it has got: the counter of its block then takes the same number from what is written instead
of from itself, and moves on from it in the same way. So every slot behind it keeps its number, in
this block and in others.
-/

namespace InterfaceSchema

set_option autoImplicit false

def EnumEntry.unwritten (entry : EnumEntry) : EnumEntry := { entry with value := none }

def EnumDecl.unwritten (decl : EnumDecl) : EnumDecl :=
  { decl with slots := decl.slots.map (Option.map EnumEntry.unwritten) }

def Located.unwritten (part : Located EnumDecl) : Located EnumDecl :=
  { part with decl := part.decl.unwritten }

namespace Numbering

/-- What may stand for a slot that has been resolved: the slot as it is, or an entry that wrote no
number with the value that it has got. -/
inductive Pinned (resolved : ResolvedSlot) : Option EnumEntry → Option EnumEntry → Prop where
  | kept (slot : Option EnumEntry) : Pinned resolved slot slot
  | written (entry : EnumEntry) (value : UInt16) (counted : entry.value = none)
      (settled : resolved.value = some value) :
      Pinned resolved (some entry) (some { entry with value := some (Int64.ofNat value.toNat) })

theorem pinned_iff {resolved : ResolvedSlot} {slot other : Option EnumEntry} :
    Pinned resolved slot other ↔ other = slot ∨
      ∃ entry ∈ slot, entry.value = none ∧ ∃ value ∈ resolved.value,
        other = some { entry with value := some (Int64.ofNat value.toNat) } := by
  constructor
  · intro pinned
    cases pinned with
    | kept => exact Or.inl rfl
    | written entry value counted settled =>
        exact Or.inr ⟨entry, rfl, counted, value, settled, rfl⟩
  · rintro (rfl | ⟨entry, rfl, counted, value, settled, rfl⟩)
    · exact .kept _
    · exact .written entry value counted settled

instance (resolved : ResolvedSlot) (slot other : Option EnumEntry) :
    Decidable (Pinned resolved slot other) := decidable_of_iff _ pinned_iff.symm

def PinnedSlots (resolved : List ResolvedSlot) (slots others : List (Option EnumEntry)) : Prop :=
  List.Forall₂ (fun (slot, own) other => Pinned own slot other) (slots.zip resolved) others

instance (resolved : List ResolvedSlot) (slots others : List (Option EnumEntry)) :
    Decidable (PinnedSlots resolved slots others) :=
  inferInstanceAs (Decidable (List.Forall₂ _ _ _))

def PlacedSlot.unwritten (slot : PlacedSlot) : PlacedSlot :=
  { slot with entry := slot.entry.map EnumEntry.unwritten }

section Slots

variable {counters : Counters} {slots others : List PlacedSlot}

theorem number_of_pinned {slot other : PlacedSlot} (block : other.block = slot.block)
    (pinned : Pinned (resolveSlot slot (numberAt counters slot)) slot.entry other.entry) :
    numberAt counters other = numberAt counters slot := by
  rcases slot with ⟨own, slot⟩
  rcases other with ⟨_, other⟩
  cases block
  cases pinned with
  | kept => rfl
  | written entry value counted settled =>
      have number := value_eq_some_iff.mp settled
      have bound := value.toNat_lt
      rw [← number]
      exact Int64.toInt_ofNat_of_lt (by omega)

/-- The counters move over pinned slots as they did before, so every slot keeps its number. -/
theorem numbers_of_pinned (blocks : others.map PlacedSlot.block = slots.map PlacedSlot.block)
    (pinned : PinnedSlots (List.zipWith resolveSlot slots (numbers counters slots))
      (slots.map PlacedSlot.entry) (others.map PlacedSlot.entry)) :
    numbers counters others = numbers counters slots := by
  induction slots generalizing counters others with
  | nil => rw [List.map_eq_nil_iff.mp blocks]
  | cons slot rest ih =>
      cases others with
      | nil => cases blocks
      | cons other more =>
          obtain ⟨block, further⟩ := List.cons.inj blocks
          rw [numbers_cons] at pinned
          obtain ⟨own, remaining⟩ := List.forall₂_cons.mp pinned
          have number := number_of_pinned block own
          -- From here on both runs count on from the same counters.
          have same : moved counters other = moved counters slot := by
            rw [moved, moved, block, number]
          rw [numbers_cons, numbers_cons, number, same, ih further remaining]

theorem resolve_slot_unwritten (slot : PlacedSlot) (number : Int) :
    resolveSlot slot.unwritten number = resolveSlot slot number := by
  rcases slot with ⟨block, _ | entry⟩ <;> rfl

theorem resolve_slots_unwritten (slots : List PlacedSlot) (numbers : List Int) :
    List.zipWith resolveSlot (slots.map PlacedSlot.unwritten) numbers =
      List.zipWith resolveSlot slots numbers := by
  rw [List.zipWith_map_left]
  simp only [resolve_slot_unwritten]

theorem entry_names_unwritten (slots : List PlacedSlot) :
    entryNames (slots.map PlacedSlot.unwritten) = entryNames slots := by
  rw [entryNames, List.filterMap_map]
  simp only [Function.comp_def, PlacedSlot.unwritten, Option.map_map]
  rfl

theorem blocks_unwritten (slots : List PlacedSlot) :
    (slots.map PlacedSlot.unwritten).map PlacedSlot.block = slots.map PlacedSlot.block := by
  rw [List.map_map]
  rfl

end Slots

theorem placed_slots_unwritten (blocks : List (Option UInt16)) (group : Group EnumDecl) :
    (placedSlots blocks group).map PlacedSlot.unwritten =
      (group.parts.map Located.unwritten).flatMap (slotsOf blocks) := by
  rw [placedSlots, List.map_flatMap, List.flatMap_map]
  apply List.flatMap_congr
  intro part _
  simp only [slotsOf, Located.unwritten, EnumDecl.unwritten, List.map_map]
  rfl

theorem resolve_of_pinned {blocks : List (Option UInt16)} {group other : Group EnumDecl}
    (alike : other.parts.map Located.unwritten = group.parts.map Located.unwritten)
    (pinned : PinnedSlots (resolve blocks group).1.slots
      (group.parts.flatMap fun part => part.decl.slots)
      (other.parts.flatMap fun part => part.decl.slots)) :
    resolve blocks other = resolve blocks group := by
  have first : other.first.unwritten = group.first.unwritten := (List.cons.inj alike).1
  have name : other.name = group.name := congrArg (fun part => part.decl.name) first
  have doc : other.first.decl.doc = group.first.decl.doc :=
    congrArg (fun part => part.decl.doc) first
  have slots : (placedSlots blocks other).map PlacedSlot.unwritten =
      (placedSlots blocks group).map PlacedSlot.unwritten := by
    rw [placed_slots_unwritten, placed_slots_unwritten, alike]
  have names : entryNames (placedSlots blocks other) = entryNames (placedSlots blocks group) := by
    rw [← entry_names_unwritten, slots, entry_names_unwritten]
  rw [← placed_entries blocks, ← placed_entries blocks] at pinned
  have numbers : numbers [] (placedSlots blocks other) = numbers [] (placedSlots blocks group) := by
    apply numbers_of_pinned _ pinned
    rw [← blocks_unwritten, slots, blocks_unwritten]
  have resolved (list : List Int) : List.zipWith resolveSlot (placedSlots blocks other) list =
      List.zipWith resolveSlot (placedSlots blocks group) list := by
    rw [← resolve_slots_unwritten, slots, resolve_slots_unwritten]
  simp only [resolve, name, doc, names, numbers, resolved]

end Numbering

end InterfaceSchema
