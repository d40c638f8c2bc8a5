import InterfaceSchema.Proofs.Bitflag.Dependency

/-!
The masks of a bit mask set have their meaning in the dependency graph. An entry gets a mask if and
only if it is grounded, and the mask is then the union of the literals that it reaches. The proof
follows the chains of parts, which end for every entry that an evaluation finishes.
-/

namespace InterfaceSchema

set_option autoImplicit false

namespace MaskDependency

open MaskNode MaskProgress

variable {entries : List BitflagEntry} {pointerWidth : UInt32}

theorem test_bit_reached (index bit : Nat) :
    (union (reachedLiterals entries pointerWidth index)).toNat.testBit bit = true ↔
      ∃ reached word, Reaches entries index reached ∧
        literalAt entries pointerWidth reached = some word ∧ word.toNat.testBit bit = true := by
  rw [test_bit_union]
  simp only [reachedLiterals, List.mem_filterMap, List.mem_filter, List.mem_range,
    decide_eq_true_eq]
  constructor
  · rintro ⟨word, ⟨reached, ⟨_, path⟩, own⟩, set⟩
    exact ⟨reached, word, path, own, set⟩
  · rintro ⟨reached, word, path, own, set⟩
    obtain ⟨entry, found, _⟩ := Option.bind_eq_some_iff.mp own
    have inside : reached < entries.length := (List.getElem?_eq_some_iff.mp found).1
    exact ⟨word, ⟨reached, ⟨inside, path⟩, own⟩, set⟩

/-- The union depends on nothing but the literals that are reached. -/
theorem union_congr {others : List BitflagEntry} {width : UInt32} {index : Nat}
    (reaches : ∀ reached, Reaches others index reached ↔ Reaches entries index reached)
    (literals : ∀ reached, Reaches entries index reached →
      literalAt others width reached = literalAt entries pointerWidth reached) :
    union (reachedLiterals others width index) =
      union (reachedLiterals entries pointerWidth index) := by
  apply eq_of_test_bit
  intro bit
  rw [test_bit_reached, test_bit_reached]
  constructor
  · rintro ⟨reached, word, path, own, set⟩
    rw [reaches] at path
    exact ⟨reached, word, path, (literals reached path).symm.trans own, set⟩
  · rintro ⟨reached, word, path, own, set⟩
    exact ⟨reached, word, (reaches reached).mpr path, (literals reached path).trans own, set⟩

theorem joined_of_masks {masks : List (Option UInt64)} {parts : List Nat} {word : Nat → UInt64}
    (known : ∀ part ∈ parts, (masks[part]?).join = some (word part)) :
    joined masks parts = some (union (parts.map word)) := by
  induction parts with
  | nil => rfl
  | cons part rest ih =>
      have others := ih (by intro other member; exact known other (by simp [member]))
      simp only [joined]
      rw [known part (by simp), others]
      rfl

theorem masks_of_joined {masks : List (Option UInt64)} {parts : List Nat} {value : UInt64}
    (known : joined masks parts = some value) :
    ∀ part ∈ parts, ∃ word, (masks[part]?).join = some word := by
  induction parts generalizing value with
  | nil => simp
  | cons part rest ih =>
      simp only [joined] at known
      split at known
      · rename_i word others own remaining
        intro other member
        rcases List.mem_cons.mp member with same | later
        · exact ⟨word, same ▸ own⟩
        · exact ih remaining other later
      · cases known

theorem reaches_iff_part {index reached : Nat} :
    Reaches entries index reached ↔
      index = reached ∨ ∃ part, DependsOn entries index part ∧ Reaches entries part reached :=
  Relation.ReflTransGen.cases_head_iff

theorem union_of_literal {index : Nat} {value : UInt64}
    (own : literalAt entries pointerWidth index = some value)
    (independent : ∀ part, ¬DependsOn entries index part) :
    union (reachedLiterals entries pointerWidth index) = value := by
  apply eq_of_test_bit
  intro bit
  rw [test_bit_reached]
  constructor
  · rintro ⟨reached, word, path, written, set⟩
    rcases reaches_iff_part.mp path with same | ⟨part, depends, _⟩
    · rw [← same, own] at written
      rwa [Option.some.inj written]
    · exact absurd depends (independent part)
  · intro set
    exact ⟨index, value, Relation.ReflTransGen.refl, own, set⟩

theorem union_of_combination {index : Nat} {parts : List Nat}
    (own : literalAt entries pointerWidth index = none)
    (exact : ∀ part, DependsOn entries index part ↔ part ∈ parts) :
    union (reachedLiterals entries pointerWidth index) =
      union (parts.map fun part => union (reachedLiterals entries pointerWidth part)) := by
  apply eq_of_test_bit
  intro bit
  rw [test_bit_reached, test_bit_union]
  constructor
  · rintro ⟨reached, word, path, written, set⟩
    rcases reaches_iff_part.mp path with same | ⟨part, depends, onward⟩
    · rw [← same, own] at written
      cases written
    · exact ⟨_, List.mem_map_of_mem ((exact part).mp depends),
        (test_bit_reached part bit).mpr ⟨reached, word, onward, written, set⟩⟩
  · rintro ⟨_, member, set⟩
    obtain ⟨part, among, rfl⟩ := List.mem_map.mp member
    obtain ⟨reached, word, onward, written, set⟩ := (test_bit_reached part bit).mp set
    exact ⟨reached, word, onward.head ((exact part).mpr among), written, set⟩

theorem sourced_of_parts {index : Nat} (source : HasSource entries pointerWidth index)
    (parts : ∀ part, DependsOn entries index part → Sourced entries pointerWidth part) :
    Sourced entries pointerWidth index := by
  intro reached path
  rcases reaches_iff_part.mp path with same | ⟨part, depends, onward⟩
  · exact same ▸ source
  · exact parts part depends reached onward

/-- The mask of a finished entry in terms of its node. -/
theorem mask_at_of_accessible {index : Nat} (inside : index < entries.length)
    (accessible : Acc (PartOf (graph entries pointerWidth)) index) :
    ∃ node, Tells entries pointerWidth index node ∧
      (evaluate (graph entries pointerWidth)).maskAt index =
        maskOf (evaluate (graph entries pointerWidth)).masks node := by
  have bound : index < (graph entries pointerWidth).length := by simpa [graph] using inside
  have finished := (finished_iff_accessible graph_parts_in_range index).mpr ⟨bound, accessible⟩
  have found := List.getElem?_eq_getElem bound
  refine ⟨_, tells_of_node found, ?_⟩
  rw [(evaluate_invariant _).finished_mask index finished, found]
  rfl

/-- An entry that writes nothing but a literal has the mask that the literal stands for. -/
theorem mask_at_of_literal {index : Nat} {entry : BitflagEntry} {written : Literal}
    (found : entries[index]? = some entry) (value : entry.value = some written)
    (alone : entry.combination = none) :
    (evaluate (graph entries pointerWidth)).maskAt index =
      (written.resolve pointerWidth).toOption := by
  have inside := (List.getElem?_eq_some_iff.mp found).1
  have own : literalAt entries pointerWidth index = (written.resolve pointerWidth).toOption := by
    simp [literalAt, found, literal?, value, alone]
  have independent : ∀ part, ¬DependsOn entries index part := by
    rintro part ⟨other, names, _, same, combined, _⟩
    rw [found, Option.some.injEq] at same
    rw [← same, alone] at combined
    cases combined
  have accessible : Acc (PartOf (graph entries pointerWidth)) index :=
    ⟨index, fun part member => absurd (depends_on_of_part member) (independent part)⟩
  obtain ⟨node, tells, mask⟩ := mask_at_of_accessible inside accessible
  rw [mask, ← own]
  cases tells with
  | literal word known _ => exact known.symm
  | combination parts wordless source _ =>
      rw [literalAt, found, Option.bind_some] at wordless
      rcases (has_source_iff found).mp source with some | combined
      · rw [wordless] at some
        cases some
      · rw [combined.1] at value
        cases value
  | failed node sourceless _ unknown =>
      rw [unknown, eq_comm, literalAt, found, Option.bind_some, ← Option.not_isSome_iff_eq_none]
      intro some
      exact sourceless ((has_source_iff found).mpr (Or.inl some))

theorem mask_at_of_sourced {index : Nat} (inside : index < entries.length)
    (sourced : Sourced entries pointerWidth index)
    (accessible : Acc (PartOf (graph entries pointerWidth)) index) :
    (evaluate (graph entries pointerWidth)).maskAt index =
      some (union (reachedLiterals entries pointerWidth index)) := by
  induction accessible with
  | intro index below ih =>
      obtain ⟨node, tells, mask⟩ := mask_at_of_accessible inside (Acc.intro index below)
      rw [mask]
      cases tells with
      | literal value own independent => rw [union_of_literal own independent]; rfl
      | combination parts own source exact =>
          rw [union_of_combination own exact]
          apply joined_of_masks
          intro part among
          have depends := (exact part).mpr among
          exact ih part (part_of_depends_on source depends) (lt_length_of_depends_on depends)
            (sourced_of_reaches sourced (Relation.ReflTransGen.single depends))
      | failed node sourceless partless unknown =>
          exact absurd (sourced index Relation.ReflTransGen.refl) sourceless

theorem sourced_of_mask_at {index : Nat} {value : UInt64} (inside : index < entries.length)
    (accessible : Acc (PartOf (graph entries pointerWidth)) index)
    (known : (evaluate (graph entries pointerWidth)).maskAt index = some value) :
    Sourced entries pointerWidth index := by
  induction accessible generalizing value with
  | intro index below ih =>
      obtain ⟨node, tells, mask⟩ := mask_at_of_accessible inside (Acc.intro index below)
      rw [mask] at known
      cases tells with
      | literal value own independent =>
          apply sourced_of_parts
          · obtain ⟨entry, found, written⟩ := Option.bind_eq_some_iff.mp own
            exact ⟨entry, found, Or.inl (by simp [written])⟩
          · intro part depends
            exact absurd depends (independent part)
      | combination parts own source exact =>
          apply sourced_of_parts source
          intro part depends
          obtain ⟨word, partMask⟩ := masks_of_joined known part ((exact part).mp depends)
          exact ih part (part_of_depends_on source depends) (lt_length_of_depends_on depends)
            partMask
      | failed node sourceless partless unknown => simp [unknown] at known

theorem mask_at_iff {index : Nat} (inside : index < entries.length) (value : UInt64) :
    (evaluate (graph entries pointerWidth)).maskAt index = some value ↔
      Grounded entries pointerWidth index ∧
        value = union (reachedLiterals entries pointerWidth index) := by
  rw [grounded_iff]
  constructor
  · intro known
    have finished : (evaluate (graph entries pointerWidth)).isFinished index = true := by
      cases settled : (evaluate (graph entries pointerWidth)).isFinished index with
      | true => rfl
      | false => simp [(evaluate_invariant _).unfinished_mask index settled] at known
    have accessible := ((finished_iff_accessible graph_parts_in_range index).mp finished).2
    have sourced := sourced_of_mask_at inside accessible known
    rw [mask_at_of_sourced inside sourced accessible] at known
    exact ⟨⟨sourced, accessible⟩, (Option.some.inj known).symm⟩
  · rintro ⟨⟨sourced, accessible⟩, rfl⟩
    exact mask_at_of_sourced inside sourced accessible

theorem resolved_masks_length (config : Config) (group : Group BitflagDecl) :
    (evaluate (graph (BitflagDecl.mergedEntries group) config.pointerWidth)).masks.length =
      (BitflagDecl.mergedEntries group).length := by
  rw [(evaluate_invariant _).masks_length, graph, List.length_map]

/-- Resolution hands on the masks of the evaluation. -/
theorem resolved_mask_at (config : Config) (group : Group BitflagDecl) (index : Nat) :
    (BitflagDecl.resolve config group).1.masks[index]? =
      ((BitflagDecl.mergedEntries group)[index]?).map fun entry =>
        BitflagDecl.resolveMask entry
          ((evaluate (graph (BitflagDecl.mergedEntries group) config.pointerWidth)).maskAt
            index) := by
  have size := resolved_masks_length config group
  simp only [BitflagDecl.resolve, maskAt]
  generalize (evaluate _).masks = masks at size ⊢
  rcases Nat.lt_or_ge index (BitflagDecl.mergedEntries group).length with inside | outside
  · have bound : index < masks.length := by omega
    simp [inside, bound]
  · have beyond : masks.length ≤ index := by omega
    simp [outside, beyond]

theorem resolved_mask_names (config : Config) (group : Group BitflagDecl) :
    (BitflagDecl.resolve config group).1.masks.map ResolvedMask.name =
      (BitflagDecl.mergedEntries group).map BitflagEntry.name := by
  apply List.ext_getElem?
  intro index
  rw [List.getElem?_map, List.getElem?_map, resolved_mask_at, Option.map_map]
  rfl

end MaskDependency

end InterfaceSchema
