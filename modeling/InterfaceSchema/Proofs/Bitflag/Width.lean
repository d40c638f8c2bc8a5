import InterfaceSchema.Proofs.Bitflag.Meaning
import InterfaceSchema.Proofs.Literal

/-!
Bit mask sets under different pointer widths. The width touches no part of a combination, so that
the same entries are finished and the same cycles are closed. The bits of a literal that a wider
pointer adds are handed on along the parts, and no other bit appears.
-/

namespace InterfaceSchema

set_option autoImplicit false

namespace MaskCycle

section SameParts

variable {nodes others : List MaskNode} {progress another : MaskProgress}

theorem next_congr (parts : nodes.map MaskNode.parts = others.map MaskNode.parts)
    (finished : progress.isFinished = another.isFinished) (index : Nat) :
    next? nodes progress index = next? others another index := by
  have here : (nodes[index]?).map MaskNode.parts = (others[index]?).map MaskNode.parts := by
    rw [← List.getElem?_map, ← List.getElem?_map, parts]
  unfold next?
  rw [finished]
  cases left : nodes[index]? with
  | none =>
      rw [left, Option.map_none, eq_comm, Option.map_eq_none_iff] at here
      rw [here]
  | some node =>
      rw [left, Option.map_some, eq_comm, Option.map_eq_some_iff] at here
      obtain ⟨other, right, same⟩ := here
      simp only [right, same]

theorem walk_congr (next : next? nodes progress = next? others another) (steps : Nat)
    (visited path : List Nat) (current : Nat) :
    walk nodes progress steps visited path current =
      walk others another steps visited path current := by
  induction steps generalizing visited path current with
  | zero => rfl
  | succ steps ih =>
      simp only [walk]
      rw [next]
      cases next? others another current with
      | none => rfl
      | some part => simp only [ih]

theorem cycles_from_congr (length : nodes.length = others.length)
    (next : next? nodes progress = next? others another)
    (finished : progress.isFinished = another.isFinished) (visited starts : List Nat) :
    cyclesFrom nodes progress visited starts = cyclesFrom others another visited starts := by
  induction starts generalizing visited with
  | nil => rfl
  | cons start rest ih => simp only [cyclesFrom, finished, length, walk_congr next, ih]

/-- The cycles depend on nothing but the parts and on what is finished. -/
theorem cycles_congr (parts : nodes.map MaskNode.parts = others.map MaskNode.parts)
    (finished : progress.isFinished = another.isFinished) :
    cycles nodes progress = cycles others another := by
  have length : nodes.length = others.length := by
    simpa using congrArg List.length parts
  unfold cycles
  rw [length]
  exact cycles_from_congr length (funext (next_congr parts finished)) finished _ _

end SameParts

end MaskCycle

namespace MaskNode

variable (entries : List BitflagEntry) (narrow wide : UInt32)

theorem parts_of_entry (entry : BitflagEntry) :
    (ofEntry entries narrow entry).parts = (ofEntry entries wide entry).parts := by
  unfold ofEntry
  split <;> rfl

theorem graph_parts :
    (graph entries narrow).map parts = (graph entries wide).map parts := by
  rw [graph, graph, List.map_map, List.map_map]
  exact List.map_congr_left fun entry _ => parts_of_entry entries narrow wide entry

theorem part_of_graph : PartOf (graph entries narrow) = PartOf (graph entries wide) := by
  funext part whole
  unfold PartOf partsAt
  rw [← List.getElem?_map, ← List.getElem?_map, graph_parts entries narrow wide]

/-- A negative number is wrong under every width. -/
theorem problems_of_width (bitflag : String) (entry : BitflagEntry) :
    problems bitflag entries narrow entry = problems bitflag entries wide entry := by
  unfold problems
  split
  · rename_i _ _ value _ _
    by_cases pointer : value = .symbol .usizeMax
    · rw [pointer]
      rfl
    · rw [Literal.resolve_of_fixed pointer narrow wide]
  · rfl
  · rfl

end MaskNode

namespace MaskDependency

open MaskNode MaskProgress

/-- An entry that writes nothing but the symbol for the largest pointer is reached. -/
def ReachesPointer (entries : List BitflagEntry) (index : Nat) : Prop :=
  ∃ reached entry, Reaches entries index reached ∧ entries[reached]? = some entry ∧
    entry.value = some (.symbol .usizeMax) ∧ entry.combination = none

section Widths

variable (entries : List BitflagEntry) (narrow wide : UInt32)

theorem finished_of_width :
    (evaluate (graph entries narrow)).isFinished = (evaluate (graph entries wide)).isFinished := by
  funext index
  -- The two evaluations are not compared step by step: both finish what ends in the graph.
  rw [Bool.eq_iff_iff, finished_iff_accessible graph_parts_in_range,
    finished_iff_accessible graph_parts_in_range, part_of_graph entries narrow wide, graph, graph,
    List.length_map, List.length_map]

theorem cycles_of_width :
    MaskCycle.cycles (graph entries narrow) (evaluate (graph entries narrow)) =
      MaskCycle.cycles (graph entries wide) (evaluate (graph entries wide)) :=
  MaskCycle.cycles_congr (graph_parts entries narrow wide) (finished_of_width entries narrow wide)

end Widths

section Widened

variable {entries : List BitflagEntry} {narrow wide : UInt32}

theorem literal_within (le : narrow ≤ wide) (entry : BitflagEntry) :
    Option.Rel BitsWithin (literal? narrow entry) (literal? wide entry) := by
  unfold literal?
  split
  · exact Literal.resolve_within le _
  · exact .none

theorem literal_at_within (le : narrow ≤ wide) {index : Nat} {word : UInt64}
    (own : literalAt entries narrow index = some word) :
    ∃ wider, literalAt entries wide index = some wider ∧ BitsWithin word wider := by
  obtain ⟨entry, found, written⟩ := Option.bind_eq_some_iff.mp own
  have within := literal_within le entry
  rw [literalAt, found, Option.bind_some]
  rw [written] at within
  generalize literal? wide entry = other at within ⊢
  cases within with
  | some bits => exact ⟨_, rfl, bits⟩

theorem literal_is_some (le : narrow ≤ wide) (entry : BitflagEntry) :
    (literal? narrow entry).isSome = (literal? wide entry).isSome := by
  have within := literal_within le entry
  generalize literal? narrow entry = left at within
  generalize literal? wide entry = right at within
  cases within with
  | some _ => rfl
  | none => rfl

theorem grounded_of_width (le : narrow ≤ wide) (index : Nat) :
    Grounded entries narrow index ↔ Grounded entries wide index := by
  simp only [Grounded, HasSource, literal_is_some le]

theorem union_within (le : narrow ≤ wide) (index : Nat) :
    BitsWithin (union (reachedLiterals entries narrow index))
      (union (reachedLiterals entries wide index)) := by
  intro bit
  rw [test_bit_reached, test_bit_reached]
  rintro ⟨reached, word, path, own, set⟩
  obtain ⟨wider, known, within⟩ := literal_at_within le own
  exact ⟨reached, wider, path, known, within bit set⟩

/-- A mask is known under both widths or under none, and the wider one keeps its bits. -/
theorem mask_at_within (le : narrow ≤ wide) {index : Nat} (inside : index < entries.length) :
    Option.Rel BitsWithin ((evaluate (graph entries narrow)).maskAt index)
      ((evaluate (graph entries wide)).maskAt index) := by
  -- Whether a mask is known is a matter of the graph, which the width does not touch.
  have known_iff : ((evaluate (graph entries narrow)).maskAt index).isSome ↔
      ((evaluate (graph entries wide)).maskAt index).isSome := by
    simp only [Option.isSome_iff_exists, mask_at_iff inside, grounded_of_width le,
      exists_and_left, exists_eq, and_true]
  cases left : (evaluate (graph entries narrow)).maskAt index with
  | none =>
      cases right : (evaluate (graph entries wide)).maskAt index with
      | none => exact .none
      | some wider =>
          rw [left, right] at known_iff
          exact absurd (known_iff.mpr rfl) (by decide)
  | some word =>
      obtain ⟨grounded, rfl⟩ := (mask_at_iff inside word).mp left
      rw [(mask_at_iff inside _).mpr ⟨(grounded_of_width le index).mp grounded, rfl⟩]
      exact .some (union_within le index)

theorem literal_at_of_fixed (narrow wide : UInt32) {index : Nat}
    (fixed : ∀ entry, entries[index]? = some entry → entry.combination = none →
      entry.value ≠ some (.symbol .usizeMax)) :
    literalAt entries narrow index = literalAt entries wide index := by
  unfold literalAt
  cases found : entries[index]? with
  | none => rfl
  | some entry =>
      rw [Option.bind_some, Option.bind_some]
      unfold literal?
      split
      · rename_i written value alone
        have plain : written ≠ .symbol .usizeMax := by
          rintro rfl
          exact fixed entry found alone value
        rw [Literal.resolve_of_fixed plain narrow wide]
      · rfl

theorem union_of_fixed (narrow wide : UInt32) {index : Nat}
    (fixed : ¬ReachesPointer entries index) :
    union (reachedLiterals entries narrow index) = union (reachedLiterals entries wide index) := by
  apply union_congr fun _ => Iff.rfl
  intro reached path
  apply literal_at_of_fixed narrow wide
  intro entry found alone pointer
  exact fixed ⟨reached, entry, path, found, pointer, alone⟩

/-- A mask that no pointer goes into does not depend on the width. -/
theorem mask_at_of_fixed (le : narrow ≤ wide) {index : Nat} (inside : index < entries.length)
    (fixed : ¬ReachesPointer entries index) :
    (evaluate (graph entries narrow)).maskAt index =
      (evaluate (graph entries wide)).maskAt index := by
  apply Option.ext
  intro value
  rw [mask_at_iff inside, mask_at_iff inside, grounded_of_width le,
    union_of_fixed narrow wide fixed]

end Widened

end MaskDependency

end InterfaceSchema
