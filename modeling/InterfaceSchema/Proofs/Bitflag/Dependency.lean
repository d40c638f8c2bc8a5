import InterfaceSchema.Bitflag.Resolve
import InterfaceSchema.Proofs.Bitflag.Progress
import Mathlib.Data.Fintype.Card
import Mathlib.Data.Set.Finite.Basic
import Mathlib.Logic.Relation

/-!
The entries of a bit mask set as a dependency graph, read off what is written and not off the
nodes that an evaluation works with. An entry depends on the first entry of each name that it
combines. Where every entry that is reached has a source of its mask, the nodes of the evaluation
have exactly these dependencies, and no cycle is reached if and only if every chain of parts ends.
-/

namespace InterfaceSchema

set_option autoImplicit false

namespace MaskDependency

open MaskNode

/-- The entry at an index is the first one of a name. -/
def FirstOfName (entries : List BitflagEntry) (name : String) (index : Nat) : Prop :=
  (entries[index]?).map BitflagEntry.name = some name ∧
    ∀ earlier, earlier < index → (entries[earlier]?).map BitflagEntry.name ≠ some name

def DependsOn (entries : List BitflagEntry) (whole part : Nat) : Prop :=
  ∃ entry names name, entries[whole]? = some entry ∧ entry.combination = some names ∧
    name ∈ names ∧ FirstOfName entries name part

/-- An entry reaches itself and whatever the entries that it reaches depend on. -/
def Reaches (entries : List BitflagEntry) : Nat → Nat → Prop :=
  Relation.ReflTransGen (DependsOn entries)

def OnCycle (entries : List BitflagEntry) (index : Nat) : Prop :=
  Relation.TransGen (DependsOn entries) index index

/-- The mask that an entry writes itself: a literal that can be resolved and nothing else. -/
def literal? (pointerWidth : UInt32) (entry : BitflagEntry) : Option UInt64 :=
  match entry.value, entry.combination with
  | some value, none => (value.resolve pointerWidth).toOption
  | _, _ => none

def literalAt (entries : List BitflagEntry) (pointerWidth : UInt32) (index : Nat) :
    Option UInt64 :=
  (entries[index]?).bind (literal? pointerWidth)

/-- A combination of at least one entry, all of which are known, and nothing else. -/
def IsCombination (entries : List BitflagEntry) (entry : BitflagEntry) : Prop :=
  entry.value = none ∧ ∃ names, entry.combination = some names ∧ names ≠ [] ∧
    ∀ name ∈ names, name ∈ entries.map BitflagEntry.name

/-- There is an entry at an index, and it says in one way where its mask comes from. -/
def HasSource (entries : List BitflagEntry) (pointerWidth : UInt32) (index : Nat) : Prop :=
  ∃ entry, entries[index]? = some entry ∧
    ((literal? pointerWidth entry).isSome ∨ IsCombination entries entry)

def Sourced (entries : List BitflagEntry) (pointerWidth : UInt32) (index : Nat) : Prop :=
  ∀ reached, Reaches entries index reached → HasSource entries pointerWidth reached

/-- Whatever an entry reaches has a source and lies on no cycle. -/
def Grounded (entries : List BitflagEntry) (pointerWidth : UInt32) (index : Nat) : Prop :=
  ∀ reached, Reaches entries index reached →
    HasSource entries pointerWidth reached ∧ ¬OnCycle entries reached

def union (words : List UInt64) : UInt64 := words.foldr (fun word joined => word ||| joined) 0

open Classical in
noncomputable def reachedLiterals (entries : List BitflagEntry) (pointerWidth : UInt32)
    (index : Nat) : List UInt64 :=
  let reachable := (List.range entries.length).filter fun reached =>
    decide (Reaches entries index reached)
  reachable.filterMap (literalAt entries pointerWidth)

theorem test_bit_union (words : List UInt64) (bit : Nat) :
    (union words).toNat.testBit bit = true ↔ ∃ word ∈ words, word.toNat.testBit bit = true := by
  induction words with
  | nil => simp [union]
  | cons word rest ih =>
      have split : union (word :: rest) = word ||| union rest := rfl
      rw [split, UInt64.toNat_or, Nat.testBit_or, Bool.or_eq_true, ih]
      simp

theorem eq_of_test_bit {left right : UInt64}
    (same : ∀ bit, left.toNat.testBit bit = true ↔ right.toNat.testBit bit = true) :
    left = right := by
  apply UInt64.toNat.inj
  apply Nat.eq_of_testBit_eq
  intro bit
  exact Bool.eq_iff_iff.mpr (same bit)

section Graph

variable {entries : List BitflagEntry} {pointerWidth : UInt32}

theorem first_of_name_iff (name : String) (index : Nat) :
    FirstOfName entries name index ↔ indexOf? entries name = some index := by
  unfold FirstOfName indexOf?
  rw [List.findIdx?_eq_some_iff_getElem]
  constructor
  · rintro ⟨here, earlier⟩
    obtain ⟨entry, found, named⟩ := Option.map_eq_some_iff.mp here
    obtain ⟨bound, equal⟩ := List.getElem?_eq_some_iff.mp found
    refine ⟨bound, by simp [equal, named], ?_⟩
    intro other before
    have different := earlier other before
    have inside : other < entries.length := by omega
    simpa [inside] using different
  · rintro ⟨bound, named, earlier⟩
    refine ⟨by simpa [bound] using named, ?_⟩
    intro other before
    have inside : other < entries.length := by omega
    simpa [inside] using earlier other before

theorem first_of_name_unique {name : String} {index other : Nat}
    (first : FirstOfName entries name index) (again : FirstOfName entries name other) :
    index = other := by
  rw [first_of_name_iff] at first again
  exact Option.some.inj (first.symm.trans again)

theorem lt_length_of_first {name : String} {index : Nat}
    (first : FirstOfName entries name index) : index < entries.length := by
  obtain ⟨entry, found, _⟩ := Option.map_eq_some_iff.mp first.1
  exact (List.getElem?_eq_some_iff.mp found).1

theorem exists_first_iff (name : String) :
    (∃ index, FirstOfName entries name index) ↔ name ∈ entries.map BitflagEntry.name := by
  simp only [first_of_name_iff, indexOf?, ← Option.isSome_iff_exists, List.findIdx?_isSome]
  simp

theorem missing_parts_empty_iff (names : List String) :
    (missingParts entries names).isEmpty = true ↔
      ∀ name ∈ names, name ∈ entries.map BitflagEntry.name := by
  simp only [missingParts, List.isEmpty_iff, List.filter_eq_nil_iff, Option.isNone_iff_eq_none,
    ← exists_first_iff, first_of_name_iff, ← Option.isSome_iff_exists,
    Option.isSome_iff_ne_none, ne_eq]

inductive Tells (entries : List BitflagEntry) (pointerWidth : UInt32) (index : Nat) :
    MaskNode → Prop where
  | literal (value : UInt64) (own : literalAt entries pointerWidth index = some value)
      (independent : ∀ part, ¬DependsOn entries index part) :
      Tells entries pointerWidth index (.literal (some value))
  | combination (parts : List Nat) (own : literalAt entries pointerWidth index = none)
      (source : HasSource entries pointerWidth index)
      (exact : ∀ part, DependsOn entries index part ↔ part ∈ parts) :
      Tells entries pointerWidth index (.combination parts)
  | failed (node : MaskNode) (sourceless : ¬HasSource entries pointerWidth index)
      (partless : node.parts = []) (unknown : ∀ masks, MaskProgress.maskOf masks node = none) :
      Tells entries pointerWidth index node

theorem has_source_iff {index : Nat} {entry : BitflagEntry} (found : entries[index]? = some entry) :
    HasSource entries pointerWidth index ↔
      (literal? pointerWidth entry).isSome ∨ IsCombination entries entry := by
  simp [HasSource, found]

theorem tells_unresolvable {index : Nat} (sourceless : ¬HasSource entries pointerWidth index) :
    Tells entries pointerWidth index .unresolvable :=
  .failed _ sourceless rfl fun _ => rfl

theorem tells_of_literal {index : Nat} {name doc : String} {value : Literal}
    (found : entries[index]? = some ⟨name, doc, some value, none⟩) :
    Tells entries pointerWidth index (.literal (value.resolve pointerWidth).toOption) := by
  cases resolved : value.resolve pointerWidth with
  | ok word =>
      apply Tells.literal
      · simp [literalAt, found, literal?, resolved, Except.toOption]
      · rintro part ⟨other, names, _, same, written, _⟩
        rw [found] at same
        cases same
        cases written
  | error negative =>
      apply Tells.failed
      · rw [has_source_iff found]
        simp [literal?, resolved, Except.toOption, IsCombination]
      · rfl
      · intro masks
        rfl

theorem tells_of_combination {index : Nat} {name doc : String} {parts : List String}
    (found : entries[index]? = some ⟨name, doc, none, some parts⟩) (nonempty : parts ≠ [])
    (complete : (missingParts entries parts).isEmpty = true) :
    Tells entries pointerWidth index (.combination (parts.filterMap (indexOf? entries))) := by
  apply Tells.combination
  · simp [literalAt, found, literal?]
  · rw [has_source_iff found]
    right
    exact ⟨rfl, parts, rfl, nonempty, (missing_parts_empty_iff _).mp complete⟩
  · intro part
    simp only [List.mem_filterMap, ← first_of_name_iff]
    constructor
    · rintro ⟨other, names, part, same, written, member, earliest⟩
      rw [found] at same
      cases same
      cases written
      exact ⟨part, member, earliest⟩
    · rintro ⟨part, member, earliest⟩
      exact ⟨_, _, part, found, rfl, member, earliest⟩

theorem tells_of_entry {index : Nat} {entry : BitflagEntry}
    (found : entries[index]? = some entry) :
    Tells entries pointerWidth index (ofEntry entries pointerWidth entry) := by
  rcases entry with ⟨name, doc, value, combination⟩
  cases value with
  | some value =>
      cases combination with
      | none => exact tells_of_literal found
      | some names =>
          apply tells_unresolvable
          rw [has_source_iff found]
          simp [literal?, IsCombination]
  | none =>
      rcases combination with _ | (_ | ⟨first, rest⟩)
      · apply tells_unresolvable
        rw [has_source_iff found]
        simp [literal?, IsCombination]
      · apply tells_unresolvable
        rw [has_source_iff found]
        simp [literal?, IsCombination]
      · by_cases complete : (missingParts entries (first :: rest)).isEmpty = true
        · simp only [ofEntry, complete, if_true]
          exact tells_of_combination found (List.cons_ne_nil _ _) complete
        · simp only [ofEntry, complete]
          apply tells_unresolvable
          rw [has_source_iff found]
          rintro (some | ⟨_, names, written, _, known⟩)
          · simp [literal?] at some
          · cases written
            exact complete ((missing_parts_empty_iff _).mpr known)

theorem tells_of_node {index : Nat} {node : MaskNode}
    (found : (graph entries pointerWidth)[index]? = some node) :
    Tells entries pointerWidth index node := by
  simp only [graph, List.getElem?_map, Option.map_eq_some_iff] at found
  obtain ⟨entry, written, rfl⟩ := found
  exact tells_of_entry written

theorem depends_on_of_part {part whole : Nat}
    (member : PartOf (graph entries pointerWidth) part whole) : DependsOn entries whole part := by
  cases found : (graph entries pointerWidth)[whole]? with
  | none => simp [PartOf, partsAt, found] at member
  | some node =>
      have tells := tells_of_node found
      have among : part ∈ node.parts := by simpa [PartOf, partsAt, found] using member
      cases tells with
      | literal value own independent => simp [parts] at among
      | combination parts own source exact => exact (exact part).mpr among
      | failed node sourceless partless unknown => simp [partless] at among

theorem part_of_depends_on {part whole : Nat} (source : HasSource entries pointerWidth whole)
    (depends : DependsOn entries whole part) :
    PartOf (graph entries pointerWidth) part whole := by
  obtain ⟨node, found⟩ : ∃ node, (graph entries pointerWidth)[whole]? = some node := by
    obtain ⟨entry, written, _⟩ := source
    simp [graph, written]
  have tells := tells_of_node found
  simp only [PartOf, partsAt, found]
  cases tells with
  | literal value own independent => exact absurd depends (independent part)
  | combination parts own source exact => exact (exact part).mp depends
  | failed node sourceless partless unknown => exact absurd source sourceless

theorem lt_length_of_depends_on {part whole : Nat} (depends : DependsOn entries whole part) :
    part < entries.length := by
  obtain ⟨_, _, _, _, _, _, first⟩ := depends
  exact lt_length_of_first first

theorem graph_parts_in_range : PartsInRange (graph entries pointerWidth) := by
  intro whole part member
  have bound := lt_length_of_depends_on (depends_on_of_part member)
  simpa [graph] using bound

theorem lt_length_of_reaches {index reached : Nat} (inside : index < entries.length)
    (path : Reaches entries index reached) : reached < entries.length := by
  cases path with
  | refl => exact inside
  | tail _ depends => exact lt_length_of_depends_on depends

theorem sourced_of_reaches {index reached : Nat} (sourced : Sourced entries pointerWidth index)
    (path : Reaches entries index reached) : Sourced entries pointerWidth reached := by
  intro further onward
  exact sourced further (path.trans onward)

theorem not_self_of_accessible {relation : Nat → Nat → Prop} {index : Nat}
    (accessible : Acc relation index) : ¬relation index index := by
  induction accessible with
  | intro index _ ih =>
      intro self
      exact ih index self self

/-- Where only finitely many entries can be reached, every chain from an entry ends if and only if
nothing that is reached from there lies on a cycle. -/
theorem accessible_iff_acyclic {relation : Nat → Nat → Prop} {bound : Nat}
    (range : ∀ whole part, relation whole part → part < bound) (index : Nat) :
    Acc (fun part whole => relation whole part) index ↔
      ∀ reached, Relation.ReflTransGen relation index reached →
        ¬Relation.TransGen relation reached reached := by
  constructor
  · intro accessible reached path
    have below : Acc (fun part whole => relation whole part) reached := by
      induction path with
      | refl => exact accessible
      | tail _ step ih => exact ih.inv step
    intro cycle
    exact not_self_of_accessible below.transGen (Relation.transGen_swap.mpr cycle)
  · intro acyclic
    -- Without a cycle, going on in several steps is a strict order on the entries reached.
    let Reached := { reached : Nat // Relation.ReflTransGen relation index reached }
    let below : Reached → Reached → Prop := fun part whole =>
      Relation.TransGen relation whole.val part.val
    have finite : Finite Reached := by
      apply Set.Finite.subset ((Set.finite_lt_nat bound).insert index)
      intro reached path
      rcases Relation.ReflTransGen.cases_tail path with same | ⟨whole, _, step⟩
      · exact Set.mem_insert_iff.mpr (Or.inl same)
      · exact Set.mem_insert_of_mem _ (range whole reached step)
    have transitive : IsTrans Reached below := ⟨fun _ _ _ first second => second.trans first⟩
    have irreflexive : Std.Irrefl below := ⟨fun reached => acyclic reached.val reached.property⟩
    have wellFounded : WellFounded below := Finite.wellFounded_of_trans_of_irrefl below
    have every : ∀ reached : Reached, Acc (fun part whole => relation whole part) reached.val := by
      intro reached
      induction reached using wellFounded.induction with
      | _ reached ih =>
          constructor
          intro part step
          exact ih ⟨part, reached.property.tail step⟩ (Relation.TransGen.single step)
    exact every ⟨index, Relation.ReflTransGen.refl⟩

theorem parts_of_dependencies {whole part : Nat} (sourced : Sourced entries pointerWidth whole)
    (path : Relation.TransGen (DependsOn entries) whole part) :
    Relation.TransGen (PartOf (graph entries pointerWidth)) part whole := by
  induction path with
  | single depends =>
      exact .single (part_of_depends_on (sourced whole Relation.ReflTransGen.refl) depends)
  | tail before depends ih =>
      exact .head (part_of_depends_on (sourced _ before.to_reflTransGen) depends) ih

theorem accessible_of_reaches {index reached : Nat} (sourced : Sourced entries pointerWidth index)
    (accessible : Acc (PartOf (graph entries pointerWidth)) index)
    (path : Reaches entries index reached) :
    Acc (PartOf (graph entries pointerWidth)) reached := by
  induction path with
  | refl => exact accessible
  | tail before depends ih => exact ih.inv (part_of_depends_on (sourced _ before) depends)

/-- An entry is grounded if and only if all that it reaches has a source and every chain of parts
from it ends. -/
theorem grounded_iff {index : Nat} :
    Grounded entries pointerWidth index ↔ Sourced entries pointerWidth index ∧
      Acc (PartOf (graph entries pointerWidth)) index := by
  constructor
  · intro grounded
    refine ⟨fun reached path => (grounded reached path).1, ?_⟩
    have accessible := (accessible_iff_acyclic (fun _ _ => lt_length_of_depends_on) index).mpr
      fun reached path => (grounded reached path).2
    exact Subrelation.accessible depends_on_of_part accessible
  · rintro ⟨sourced, accessible⟩ reached path
    refine ⟨sourced reached path, ?_⟩
    intro cycle
    have below := accessible_of_reaches sourced accessible path
    exact not_self_of_accessible below.transGen
      (parts_of_dependencies (sourced_of_reaches sourced path) cycle)

end Graph

end MaskDependency

end InterfaceSchema
