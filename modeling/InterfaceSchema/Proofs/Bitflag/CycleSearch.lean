import InterfaceSchema.Proofs.Bitflag.CycleWalk

/-!
The search for cycles, walk by walk. The rings that it finds have no entry in common, every entry
that is left unfinished leads to one of them, and their entries are exactly those from which a walk
comes back to where it started.
-/

namespace InterfaceSchema

set_option autoImplicit false

namespace MaskCycle

open MaskNode MaskProgress

section Search

variable {nodes : List MaskNode} {progress : MaskProgress}

theorem search_skips {met rest : List Nat} {start : Nat}
    (skipped : progress.isFinished start = true ∨ start ∈ met) :
    cyclesFrom nodes progress met (start :: rest) = cyclesFrom nodes progress met rest := by
  rw [cyclesFrom, if_pos]
  simpa using skipped

variable (continues : Continues nodes progress)
include continues

theorem search_walks {met : List Nat} {start : Nat} (here : LeftOpen nodes progress start)
    (unmet : start ∉ met) (rest : List Nat) :
    ∃ walked : Walk, Ends nodes progress met walked ∧ met ⊆ walked.visited ∧
      start ∈ walked.visited ∧ cyclesFrom nodes progress met (start :: rest) =
        walked.cycle.toList ++ cyclesFrom nodes progress walked.visited rest := by
  refine ⟨_, walk_from_ends continues here, visited_of_walk _ _ _ _, start_of_walk _ _ _, ?_⟩
  rw [cyclesFrom, if_neg]
  simpa [here.2] using unmet

theorem cycles_from_rings (met starts : List Nat) (below : ∀ start ∈ starts, start < nodes.length) :
    (∀ ring ∈ cyclesFrom nodes progress met starts,
        Ring nodes progress ring ∧ ∀ index ∈ ring, index ∉ met) ∧
      (cyclesFrom nodes progress met starts).Pairwise List.Disjoint := by
  induction starts generalizing met with
  | nil => simp [cyclesFrom]
  | cons start rest ih =>
      obtain ⟨inside, later⟩ := List.forall_mem_cons.mp below
      by_cases skipped : progress.isFinished start = true ∨ start ∈ met
      · rw [search_skips skipped]
        exact ih met later
      · rw [not_or, Bool.not_eq_true] at skipped
        obtain ⟨walked, ends, kept, _, found⟩ :=
          search_walks continues ⟨inside, skipped.1⟩ skipped.2 rest
        obtain ⟨rings, disjoint⟩ := ih walked.visited later
        rw [found]
        constructor
        · intro ring member
          rcases List.mem_append.mp member with own | other
          · obtain ⟨closed, fresh⟩ := ends.ring (Option.mem_toList.mp own)
            exact ⟨closed, fun index among => (fresh index among).1⟩
          · obtain ⟨closed, fresh⟩ := rings ring other
            exact ⟨closed, fun index among before => fresh index among (kept before)⟩
        · refine List.pairwise_append.mpr ⟨by cases walked.cycle <;> simp, disjoint, ?_⟩
          intro ring own other member index among shared
          exact (rings other member).2 index shared
            ((ends.ring (Option.mem_toList.mp own)).2 index among).2

/-- An entry left open leads to a ring that is found, or to an entry met before. -/
theorem cycles_from_cover (met : List Nat) {starts : List Nat} {index : Nat}
    (start : index ∈ starts) (below : ∀ start ∈ starts, start < nodes.length)
    (unfinished : progress.isFinished index = false) :
    ∃ reached, Relation.ReflTransGen (Follows nodes progress) index reached ∧
      (reached ∈ met ∨ ∃ ring ∈ cyclesFrom nodes progress met starts, reached ∈ ring) := by
  induction starts generalizing met with
  | nil => cases start
  | cons first rest ih =>
      obtain ⟨inside, later⟩ := List.forall_mem_cons.mp below
      by_cases skipped : progress.isFinished first = true ∨ first ∈ met
      · rw [search_skips skipped]
        rcases List.mem_cons.mp start with rfl | among
        · simp only [unfinished, Bool.false_eq_true, false_or] at skipped
          exact ⟨index, .refl, Or.inl skipped⟩
        · exact ih met among later
      · rw [not_or, Bool.not_eq_true] at skipped
        obtain ⟨walked, ends, _, begins, found⟩ :=
          search_walks continues ⟨inside, skipped.1⟩ skipped.2 rest
        -- The entry was met by this walk, or leads to what this walk met, or to a later ring.
        obtain ⟨between, path, visited | ⟨ring, member, among⟩⟩ : ∃ between,
            Relation.ReflTransGen (Follows nodes progress) index between ∧
              (between ∈ walked.visited ∨
                ∃ ring ∈ cyclesFrom nodes progress walked.visited rest, between ∈ ring) := by
          rcases List.mem_cons.mp start with rfl | among
          · exact ⟨index, .refl, Or.inl begins⟩
          · exact ih walked.visited among later
        · obtain ⟨reached, onward, before | ⟨ring, closed, among⟩⟩ := ends.leads visited
          · exact ⟨reached, path.trans onward, Or.inl before⟩
          · exact ⟨reached, path.trans onward, Or.inr ⟨ring, by simp_all, among⟩⟩
        · exact ⟨between, path, Or.inr ⟨ring, by rw [found]; simp [member], among⟩⟩

end Search

section Evaluation

variable {nodes : List MaskNode} (range : PartsInRange nodes)
include range

theorem ring_of_cycle {ring : List Nat} (found : ring ∈ cycles nodes (evaluate nodes)) :
    Ring nodes (evaluate nodes) ring :=
  ((cycles_from_rings (evaluate_continues range) [] _ (by simp)).1 ring found).1

theorem cycles_disjoint : (cycles nodes (evaluate nodes)).Pairwise List.Disjoint :=
  (cycles_from_rings (evaluate_continues range) [] _ (by simp)).2

theorem leads_to_cycle {index : Nat} (inside : index < nodes.length)
    (unfinished : (evaluate nodes).isFinished index = false) :
    ∃ reached, Relation.ReflTransGen (Follows nodes (evaluate nodes)) index reached ∧
      ∃ ring ∈ cycles nodes (evaluate nodes), reached ∈ ring := by
  obtain ⟨reached, path, before | found⟩ := cycles_from_cover (evaluate_continues range) []
    (List.mem_range.mpr inside) (by simp) unfinished
  · cases before
  · exact ⟨reached, path, found⟩

theorem finished_of_no_cycle (none : cycles nodes (evaluate nodes) = []) {index : Nat}
    (inside : index < nodes.length) : (evaluate nodes).isFinished index = true := by
  cases settled : (evaluate nodes).isFinished index with
  | true => rfl
  | false =>
      obtain ⟨_, _, ring, found, _⟩ := leads_to_cycle range inside settled
      rw [none] at found
      cases found

/-- An entry is on a cycle that is found if and only if the walk that starts there comes back. -/
theorem mem_cycle_iff {index : Nat} :
    (∃ ring ∈ cycles nodes (evaluate nodes), index ∈ ring) ↔
      Relation.TransGen (Follows nodes (evaluate nodes)) index index := by
  constructor
  · rintro ⟨ring, found, member⟩
    exact (ring_of_cycle range found).reaches member member
  · intro around
    obtain ⟨last, _, step⟩ := Relation.TransGen.tail'_iff.mp around
    obtain ⟨part, unfinished⟩ := part_of_follows step
    obtain ⟨reached, path, ring, found, member⟩ :=
      leads_to_cycle range (range _ _ part) unfinished
    have back := comes_back around path
    exact ⟨ring, found, (ring_of_cycle range found).mem_of_path back member⟩

end Evaluation

end MaskCycle

end InterfaceSchema
