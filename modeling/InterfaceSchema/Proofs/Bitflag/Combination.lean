import InterfaceSchema.Proofs.Bitflag.CycleSearch
import InterfaceSchema.Proofs.Bitflag.Dependency

/-!
Combinations of known entries as a graph. An evaluation leaves an entry unfinished if and only if
the entry is stuck behind a cycle of this graph, and the search for cycles goes on from each entry
to the first part that is stuck.
-/

namespace InterfaceSchema

set_option autoImplicit false

namespace MaskDependency

open MaskNode MaskProgress MaskCycle

def Combines (entries : List BitflagEntry) (whole part : Nat) : Prop :=
  ∃ entry names name, entries[whole]? = some entry ∧ IsCombination entries entry ∧
    entry.combination = some names ∧ name ∈ names ∧ FirstOfName entries name part

def Circular (entries : List BitflagEntry) (index : Nat) : Prop :=
  Relation.TransGen (Combines entries) index index

/-- An entry is circular or combined, in any number of steps, from one that is. -/
def Stuck (entries : List BitflagEntry) (index : Nat) : Prop :=
  ∃ circular, Relation.ReflTransGen (Combines entries) index circular ∧
    Circular entries circular

/-- The first one of the parts of an entry that is stuck. -/
def FirstStuck (entries : List BitflagEntry) (whole part : Nat) : Prop :=
  ∃ entry before name after, entries[whole]? = some entry ∧ IsCombination entries entry ∧
    entry.combination = some (before ++ name :: after) ∧
    (∀ earlier ∈ before, ∀ other, FirstOfName entries earlier other → ¬Stuck entries other) ∧
    FirstOfName entries name part ∧ Stuck entries part

variable {entries : List BitflagEntry} {pointerWidth : UInt32}

theorem part_iff_combines {whole part : Nat} :
    PartOf (graph entries pointerWidth) part whole ↔ Combines entries whole part := by
  constructor
  · intro member
    obtain ⟨node, found, among⟩ : ∃ node, (graph entries pointerWidth)[whole]? = some node ∧
        part ∈ node.parts := by
      cases found : (graph entries pointerWidth)[whole]? with
      | none => simp [PartOf, partsAt, found] at member
      | some node => exact ⟨node, rfl, by simpa [PartOf, partsAt, found] using member⟩
    obtain ⟨entry, names, name, written, combined, listed, first⟩ := depends_on_of_part member
    refine ⟨entry, names, name, written, ?_, combined, listed, first⟩
    cases tells_of_node found with
    | literal value own independent => simp [parts] at among
    | failed node sourceless partless unknown => simp [partless] at among
    | combination parts own source exact =>
        rw [literalAt, written, Option.bind_some] at own
        rw [has_source_iff written, own] at source
        simpa using source
  · rintro ⟨entry, names, name, written, combination, combined, listed, first⟩
    have source : HasSource entries pointerWidth whole := ⟨entry, written, Or.inr combination⟩
    exact part_of_depends_on source ⟨entry, names, name, written, combined, listed, first⟩

theorem lt_length_of_combines {whole part : Nat} (combines : Combines entries whole part) :
    whole < entries.length ∧ part < entries.length := by
  obtain ⟨entry, names, name, written, _, _, _, first⟩ := combines
  exact ⟨(List.getElem?_eq_some_iff.mp written).1, lt_length_of_first first⟩

theorem first_of_combines {whole part : Nat} (combines : Combines entries whole part) :
    ∃ name, FirstOfName entries name part := by
  obtain ⟨entry, names, name, written, _, _, _, first⟩ := combines
  exact ⟨name, first⟩

theorem accessible_iff_not_stuck {index : Nat} :
    Acc (PartOf (graph entries pointerWidth)) index ↔ ¬Stuck entries index := by
  have same : PartOf (graph entries pointerWidth) = fun part whole => Combines entries whole part :=
    funext fun part => funext fun whole => propext part_iff_combines
  rw [same, accessible_iff_acyclic fun _ _ combines => (lt_length_of_combines combines).2]
  simp [Stuck, Circular]

/-- An evaluation finishes the entries that are not stuck and leaves the others. -/
theorem unfinished_iff_stuck {index : Nat} (inside : index < entries.length) :
    (evaluate (graph entries pointerWidth)).isFinished index = false ↔ Stuck entries index := by
  have bound : index < (graph entries pointerWidth).length := by simpa [graph] using inside
  rw [← Bool.not_eq_true, finished_iff_accessible graph_parts_in_range, accessible_iff_not_stuck]
  simp [bound]

theorem parts_of_combination {entry : BitflagEntry} {names : List String}
    (combination : IsCombination entries entry) (combined : entry.combination = some names) :
    (ofEntry entries pointerWidth entry).parts = names.filterMap (indexOf? entries) := by
  obtain ⟨valueless, others, same, nonempty, known⟩ := combination
  obtain rfl : names = others := Option.some.inj (combined.symm.trans same)
  obtain ⟨first, rest, rfl⟩ := List.exists_cons_of_ne_nil nonempty
  rw [← missing_parts_empty_iff] at known
  simp only [ofEntry, valueless, combined, known, if_true, parts]

/-- Where a name stands for an entry that is stuck, an evaluation has left that entry unfinished. -/
theorem name_pending_iff (name : String) :
    ((indexOf? entries name).any fun part =>
        !(evaluate (graph entries pointerWidth)).isFinished part) = true ↔
      ∃ part, FirstOfName entries name part ∧ Stuck entries part := by
  simp only [Option.any_eq_true, ← first_of_name_iff, Bool.not_eq_true']
  apply exists_congr
  intro part
  apply and_congr_right
  intro first
  exact unfinished_iff_stuck (lt_length_of_first first)

theorem follows_iff_of_combination {whole part : Nat} {entry : BitflagEntry} {names : List String}
    (written : entries[whole]? = some entry) (combination : IsCombination entries entry)
    (combined : entry.combination = some names) :
    Follows (graph entries pointerWidth) (evaluate (graph entries pointerWidth)) whole part ↔
      ∃ before name after, names = before ++ name :: after ∧
        (∀ earlier ∈ before, ∀ other, FirstOfName entries earlier other → ¬Stuck entries other) ∧
        FirstOfName entries name part ∧ Stuck entries part := by
  have found : (graph entries pointerWidth)[whole]? =
      some (ofEntry entries pointerWidth entry) := by
    rw [graph, List.getElem?_map, written, Option.map_some]
  simp only [Follows, next?, found, parts_of_combination combination combined,
    List.find?_filterMap, Option.bind_eq_some_iff, List.find?_eq_some_iff_append,
    name_pending_iff, ← Bool.not_eq_true, Bool.not_eq_true', ← first_of_name_iff]
  constructor
  · rintro ⟨name, ⟨⟨other, here, stuck⟩, before, after, split, earlier⟩, first⟩
    refine ⟨before, name, after, split, ?_, first, first_of_name_unique here first ▸ stuck⟩
    intro previous among index own pending
    exact earlier previous among ⟨index, own, pending⟩
  · rintro ⟨before, name, after, split, earlier, first, stuck⟩
    refine ⟨name, ⟨⟨part, first, stuck⟩, before, after, split, ?_⟩, first⟩
    rintro previous among ⟨index, own, pending⟩
    exact earlier previous among index own pending

/-- The search for cycles goes on from each entry to the first part that is stuck. -/
theorem follows_iff_first_stuck {whole part : Nat} :
    Follows (graph entries pointerWidth) (evaluate (graph entries pointerWidth)) whole part ↔
      FirstStuck entries whole part := by
  constructor
  · intro step
    obtain ⟨entry, names, name, written, combination, combined, _⟩ :=
      part_iff_combines.mp (part_of_follows step).1
    obtain ⟨before, name, after, rfl, firstOne⟩ :=
      (follows_iff_of_combination written combination combined).mp step
    exact ⟨entry, before, name, after, written, combination, combined, firstOne⟩
  · rintro ⟨entry, before, name, after, written, combination, combined, firstOne⟩
    exact (follows_iff_of_combination written combination combined).mpr
      ⟨before, name, after, rfl, firstOne⟩

theorem follows_eq_first_stuck :
    Follows (graph entries pointerWidth) (evaluate (graph entries pointerWidth)) =
      FirstStuck entries :=
  funext fun _ => funext fun _ => propext follows_iff_first_stuck

theorem combines_of_first_stuck {whole part : Nat} (step : FirstStuck entries whole part) :
    Combines entries whole part := by
  obtain ⟨entry, before, name, after, written, combination, combined, _, first, _⟩ := step
  exact ⟨entry, _, name, written, combination, combined, by simp, first⟩

theorem path_of_first_stuck {index reached : Nat}
    (path : Relation.ReflTransGen (FirstStuck entries) index reached) :
    Relation.ReflTransGen (Combines entries) index reached :=
  Relation.ReflTransGen.mono (fun _ _ => combines_of_first_stuck) _ _ path

theorem circular_of_first_stuck {index : Nat}
    (around : Relation.TransGen (FirstStuck entries) index index) : Circular entries index :=
  Relation.TransGen.mono (fun _ _ => combines_of_first_stuck) _ _ around

theorem stuck_of_combines {whole part : Nat} (combines : Combines entries whole part)
    (stuck : Stuck entries part) : Stuck entries whole := by
  obtain ⟨circular, path, around⟩ := stuck
  exact ⟨circular, path.head combines, around⟩

theorem lt_length_of_stuck {index : Nat} (stuck : Stuck entries index) :
    index < entries.length := by
  obtain ⟨circular, path, around⟩ := stuck
  obtain ⟨next, combines, _⟩ := Relation.TransGen.head'_iff.mp (around.trans_right path)
  exact (lt_length_of_combines combines).1

instance (entries : List BitflagEntry) (whole part : Nat) :
    Decidable (Combines entries whole part) :=
  decidable_of_iff (part ∈ partsAt (graph entries 64) whole) part_iff_combines

instance (entries : List BitflagEntry) (whole part : Nat) :
    Decidable (FirstStuck entries whole part) :=
  decidable_of_iff (next? (graph entries 64) (evaluate (graph entries 64)) whole = some part)
    follows_iff_first_stuck

end MaskDependency

end InterfaceSchema
