import InterfaceSchema.Proofs.Bitflag.CyclePath

/-!
What is told of the cycles of a bit mask set. Every entry that is left unfinished leads to a cycle
that is told, so something is told as soon as there is a cycle. Entries that lead to each other form
a component, and a cycle within it is told if and only if going on to the first stuck part comes
back to one of its entries. This is so where no other component with a cycle is reached, but a
component that leads to another one can be passed over.
-/

namespace InterfaceSchema

set_option autoImplicit false

namespace BitflagDecl

open MaskNode MaskProgress MaskCycle MaskDependency

section Told

variable (config : Config) (group : Group BitflagDecl)

def LeftUnfinished (index : Nat) : Prop :=
  LeftOpen (graph (mergedEntries group) config.pointerWidth)
    (evaluate (graph (mergedEntries group) config.pointerWidth)) index

def OnToldCycle (index : Nat) : Prop :=
  ∃ path ∈ toldCycles config group, ∃ name ∈ path, FirstOfName (mergedEntries group) name index

theorem left_unfinished_iff (index : Nat) :
    LeftUnfinished config group index ↔ Stuck (mergedEntries group) index := by
  unfold LeftUnfinished LeftOpen
  rw [graph, List.length_map, ← graph]
  constructor
  · rintro ⟨inside, unfinished⟩
    exact (unfinished_iff_stuck inside).mp unfinished
  · intro stuck
    have inside := lt_length_of_stuck stuck
    exact ⟨inside, (unfinished_iff_stuck inside).mpr stuck⟩

/-- The entries on told cycles are those from which the search comes back. -/
theorem on_told_cycle_iff (index : Nat) :
    OnToldCycle config group index ↔
      Relation.TransGen (FirstStuck (mergedEntries group)) index index := by
  have range : PartsInRange (graph (mergedEntries group) config.pointerWidth) :=
    graph_parts_in_range
  rw [← follows_eq_first_stuck, ← mem_cycle_iff range]
  constructor
  · rintro ⟨path, told, name, member, first⟩
    obtain ⟨ring, found, rfl, closed⟩ := ring_of_told told
    obtain ⟨other, inRing, second⟩ := (mem_names_iff closed).mp member
    exact ⟨ring, found, first_of_name_unique second first ▸ inRing⟩
  · rintro ⟨ring, found, inRing⟩
    have closed := ring_of_cycle range found
    have first := first_of_ring closed inRing
    rw [OnToldCycle, told_cycles_eq]
    exact ⟨_, List.mem_map_of_mem found, _,
      (mem_names_iff closed).mpr ⟨index, inRing, first⟩, first⟩

variable {config group} in
theorem told_cycle_connected {path : List String} (told : path ∈ toldCycles config group)
    {name other : String} (member : name ∈ path) (among : other ∈ path) :
    ∃ index twin, FirstOfName (mergedEntries group) name index ∧
      FirstOfName (mergedEntries group) other twin ∧
      Relation.TransGen (FirstStuck (mergedEntries group)) index twin := by
  obtain ⟨ring, _, rfl, closed⟩ := ring_of_told told
  obtain ⟨index, inRing, first⟩ := (mem_names_iff closed).mp member
  obtain ⟨twin, alsoInRing, second⟩ := (mem_names_iff closed).mp among
  refine ⟨index, twin, first, second, ?_⟩
  rw [← follows_eq_first_stuck]
  exact closed.reaches inRing alsoInRing

variable {config group} in
theorem on_told_cycle_of_told {path : List String} (told : path ∈ toldCycles config group) :
    ∃ name ∈ path, ∃ index, FirstOfName (mergedEntries group) name index := by
  obtain ⟨ring, _, rfl, closed⟩ := ring_of_told told
  obtain ⟨index, inRing⟩ := List.exists_mem_of_ne_nil _ closed.ne_nil
  have first := first_of_ring closed inRing
  exact ⟨_, (mem_names_iff closed).mpr ⟨index, inRing, first⟩, index, first⟩

theorem leads_to_told {index : Nat} (stuck : Stuck (mergedEntries group) index) :
    ∃ reached, Relation.ReflTransGen (FirstStuck (mergedEntries group)) index reached ∧
      OnToldCycle config group reached := by
  obtain ⟨inside, unfinished⟩ := (left_unfinished_iff config group index).mpr stuck
  obtain ⟨reached, path, onRing⟩ := leads_to_cycle graph_parts_in_range inside unfinished
  rw [mem_cycle_iff graph_parts_in_range, follows_eq_first_stuck] at onRing
  rw [follows_eq_first_stuck] at path
  exact ⟨reached, path, (on_told_cycle_iff config group reached).mpr onRing⟩

theorem told_of_circular {index : Nat} (circular : Circular (mergedEntries group) index) :
    toldCycles config group ≠ [] := by
  obtain ⟨reached, _, path, told, _⟩ := leads_to_told config group ⟨index, .refl, circular⟩
  exact List.ne_nil_of_mem told

theorem circular_of_told (told : toldCycles config group ≠ []) :
    ∃ index, Circular (mergedEntries group) index := by
  obtain ⟨path, member⟩ := List.exists_mem_of_ne_nil _ told
  obtain ⟨name, among, index, first⟩ := on_told_cycle_of_told member
  have around := (on_told_cycle_iff config group index).mp ⟨path, member, name, among, first⟩
  exact ⟨index, circular_of_first_stuck around⟩

/-- An evaluation leaves exactly the entries unfinished that lead to a cycle. From each of them a
chain of unfinished entries leads to a cycle that is told, and none is told without one. -/
theorem unfinished_leads_to_told :
    (∀ index, LeftUnfinished config group index ↔ Stuck (mergedEntries group) index) ∧
      (∀ index, LeftUnfinished config group index →
        ∃ reached, Relation.ReflTransGen (fun whole part =>
            Combines (mergedEntries group) whole part ∧ LeftUnfinished config group whole ∧
              LeftUnfinished config group part) index reached ∧
          OnToldCycle config group reached) ∧
      (toldCycles config group ≠ [] ↔ ∃ index, Circular (mergedEntries group) index) := by
  refine ⟨left_unfinished_iff config group, ?_, circular_of_told config group, ?_⟩
  · intro index unfinished
    rw [left_unfinished_iff] at unfinished
    obtain ⟨reached, path, told⟩ := leads_to_told config group unfinished
    refine ⟨reached, ?_, told⟩
    apply Relation.ReflTransGen.mono _ _ _ path
    intro whole part step
    have combines := combines_of_first_stuck step
    obtain ⟨_, _, _, _, _, _, _, _, _, stuck⟩ := step
    simp only [left_unfinished_iff]
    exact ⟨combines, stuck_of_combines combines stuck, stuck⟩
  · rintro ⟨index, circular⟩
    exact told_of_circular config group circular

end Told

theorem looping_flags_unfinished :
    Stuck (mergedEntries loopingFlags) 0 ∧
      (∃ reached, Relation.ReflTransGen (fun whole part =>
          Combines (mergedEntries loopingFlags) whole part ∧
            LeftUnfinished {} loopingFlags whole ∧ LeftUnfinished {} loopingFlags part) 0 reached ∧
        OnToldCycle {} loopingFlags reached) ∧
      toldCycles {} loopingFlags ≠ [] := by
  obtain ⟨left, leads, told⟩ := unfinished_leads_to_told {} loopingFlags
  have unfinished : LeftUnfinished {} loopingFlags 0 := ⟨by decide, by decide⟩
  refine ⟨(left 0).mp unfinished, leads 0 unfinished, told.mpr ⟨5, .single ?_⟩⟩
  decide

section Components

def Entangled (entries : List BitflagEntry) (index other : Nat) : Prop :=
  Relation.ReflTransGen (Combines entries) index other ∧
    Relation.ReflTransGen (Combines entries) other index

theorem Entangled.trans {entries : List BitflagEntry} {index between other : Nat}
    (first : Entangled entries index between) (second : Entangled entries between other) :
    Entangled entries index other :=
  ⟨first.1.trans second.1, second.2.trans first.2⟩

def ComponentTold (config : Config) (group : Group BitflagDecl) (index : Nat) : Prop :=
  ∃ path ∈ toldCycles config group, ∀ name ∈ path, ∃ member,
    FirstOfName (mergedEntries group) name member ∧ Entangled (mergedEntries group) index member

variable {config : Config} {group : Group BitflagDecl} {index : Nat}

theorem component_told_of_comes_back {member : Nat}
    (component : Entangled (mergedEntries group) index member)
    (around : Relation.TransGen (FirstStuck (mergedEntries group)) member member) :
    ComponentTold config group index := by
  obtain ⟨path, told, name, own, first⟩ := (on_told_cycle_iff config group member).mpr around
  refine ⟨path, told, ?_⟩
  intro other among
  obtain ⟨start, twin, again, second, onward⟩ := told_cycle_connected told own among
  obtain ⟨_, _, third, fourth, back⟩ := told_cycle_connected told among own
  obtain rfl := first_of_name_unique again first
  obtain rfl := first_of_name_unique third second
  obtain rfl := first_of_name_unique fourth first
  exact ⟨_, second, component.trans ⟨path_of_first_stuck onward.to_reflTransGen,
    path_of_first_stuck back.to_reflTransGen⟩⟩

theorem comes_back_of_component_told (told : ComponentTold config group index) :
    ∃ member, Entangled (mergedEntries group) index member ∧
      Relation.TransGen (FirstStuck (mergedEntries group)) member member := by
  obtain ⟨path, among, within⟩ := told
  obtain ⟨name, own, member, first⟩ := on_told_cycle_of_told among
  obtain ⟨other, second, component⟩ := within name own
  obtain rfl := first_of_name_unique second first
  exact ⟨other, component, (on_told_cycle_iff config group other).mp
    ⟨path, among, name, own, first⟩⟩

variable (config group index) in
/-- A component has a cycle told if and only if going on to the first stuck part comes back to one
of its entries. A component with a cycle that reaches no other such component always has. -/
theorem component_told_iff :
    (ComponentTold config group index ↔
        ∃ member, Entangled (mergedEntries group) index member ∧
          Relation.TransGen (FirstStuck (mergedEntries group)) member member) ∧
      (Circular (mergedEntries group) index →
        (∀ reached, Relation.ReflTransGen (Combines (mergedEntries group)) index reached →
          Circular (mergedEntries group) reached → Entangled (mergedEntries group) index reached) →
        ComponentTold config group index) := by
  constructor
  · constructor
    · exact comes_back_of_component_told
    · rintro ⟨member, component, around⟩
      exact component_told_of_comes_back component around
  · intro circular last
    obtain ⟨reached, path, onCycle⟩ := leads_to_told config group ⟨index, .refl, circular⟩
    rw [on_told_cycle_iff] at onCycle
    exact component_told_of_comes_back
      (last reached (path_of_first_stuck path) (circular_of_first_stuck onCycle)) onCycle

end Components

/-- An entry that is combined from another one and from itself, where the other one is combined from
itself too. -/
def nestedFlags : Group BitflagDecl :=
  { first := ⟨0,
      { name := "Flags"
        entries :=
          [{ name := "outer", combination := some ["inner", "outer"] },
           { name := "inner", combination := some ["inner"] }] }⟩
    others := [] }

theorem inner_reaches_itself {reached : Nat}
    (path : Relation.ReflTransGen (Combines (mergedEntries nestedFlags)) 1 reached) :
    reached = 1 := by
  have parts : partsAt (graph (mergedEntries nestedFlags) 64) 1 = [1] := by decide
  induction path with
  | refl => rfl
  | tail _ combines ih =>
      rw [ih, ← @part_iff_combines _ 64, PartOf, parts] at combines
      exact List.mem_singleton.mp combines

theorem components_told :
    ComponentTold {} loopingFlags 3 ∧ ComponentTold {} loopingFlags 5 ∧
      ComponentTold {} nestedFlags 1 := by
  refine ⟨(component_told_iff {} loopingFlags 3).1.mpr ?_,
    (component_told_iff {} loopingFlags 5).1.mpr ?_, (component_told_iff {} nestedFlags 1).2 ?_ ?_⟩
  · have there : FirstStuck (mergedEntries loopingFlags) 3 2 := by decide
    have back : FirstStuck (mergedEntries loopingFlags) 2 3 := by decide
    exact ⟨3, ⟨.refl, .refl⟩, .head there (.single back)⟩
  · have itself : FirstStuck (mergedEntries loopingFlags) 5 5 := by decide
    exact ⟨5, ⟨.refl, .refl⟩, .single itself⟩
  · have itself : Combines (mergedEntries nestedFlags) 1 1 := by decide
    exact .single itself
  · intro reached path _
    rw [inner_reaches_itself path]
    exact ⟨.refl, .refl⟩

/-- The search leaves the outer component by the first part of its entry and does not come back, so
the cycle of the outer component is passed over. -/
theorem outer_component_untold :
    Circular (mergedEntries nestedFlags) 0 ∧ ¬ComponentTold {} nestedFlags 0 := by
  have itself : Combines (mergedEntries nestedFlags) 0 0 := by decide
  refine ⟨.single itself, ?_⟩
  rintro ⟨path, told, within⟩
  have only : toldCycles {} nestedFlags = [["inner", "inner"]] := by decide
  rw [only, List.mem_singleton] at told
  subst told
  obtain ⟨member, first, _, back⟩ := within "inner" (by simp)
  have inner : FirstOfName (mergedEntries nestedFlags) "inner" 1 := by
    rw [first_of_name_iff]
    decide
  rw [first_of_name_unique first inner] at back
  have same := inner_reaches_itself back
  omega

end BitflagDecl

end InterfaceSchema
