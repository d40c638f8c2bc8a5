import InterfaceSchema.Uniqueness
import Mathlib.Data.Finset.Card
import Mathlib.Data.Finset.Dedup
import Mathlib.Data.Finset.SDiff

/-!
Uniqueness of names. Of a scope every occurrence of a name after its first one is told, so that
nothing is told if and only if the names differ from each other.
-/

namespace InterfaceSchema

set_option autoImplicit false

namespace Uniqueness

theorem repeated_eq_nil_iff (seen names : List String) :
    repeated seen names = [] ↔ names.Nodup ∧ ∀ name ∈ names, name ∉ seen := by
  induction names generalizing seen with
  | nil => simp [repeated]
  | cons name rest ih =>
      by_cases known : name ∈ seen
      · simp [repeated, known]
      · rw [repeated, if_neg known, ih, List.nodup_cons]
        constructor
        · rintro ⟨distinct, unseen⟩
          refine ⟨⟨fun member => unseen name member List.mem_cons_self, distinct⟩, ?_⟩
          intro other member
          rcases List.mem_cons.mp member with same | later
          · exact same ▸ known
          · exact fun met => unseen other later (List.mem_cons_of_mem _ met)
        · rintro ⟨⟨absent, distinct⟩, unseen⟩
          refine ⟨distinct, ?_⟩
          intro other later met
          rcases List.mem_cons.mp met with same | before
          · exact absent (same ▸ later)
          · exact unseen other (List.mem_cons_of_mem _ later) before

/-- The occurrences that are not the first of their name, in order. -/
def furtherOccurrences (names : List String) : List String :=
  (names.zipIdx.filter fun (name, place) => name ∈ names.take place).map Prod.fst

/-- Only which names were seen matters, not how often and in which order. -/
theorem repeated_from (before seen names : List String)
    (same : ∀ name, name ∈ seen ↔ name ∈ before) :
    repeated seen names =
      ((names.zipIdx before.length).filter fun (name, place) =>
        name ∈ (before ++ names).take place).map Prod.fst := by
  induction names generalizing before seen with
  | nil => rfl
  | cons name rest ih =>
      have whole : before ++ name :: rest = (before ++ [name]) ++ rest := by simp
      have earlier : (before ++ name :: rest).take before.length = before := List.take_left
      have later := ih (before ++ [name])
      rw [List.length_append, List.length_singleton, ← whole] at later
      rw [List.zipIdx_cons, List.filter_cons, repeated]
      simp only [earlier, ← same name]
      by_cases known : name ∈ seen
      · rw [if_pos known, if_pos (decide_eq_true known), List.map_cons, later seen]
        intro other
        rw [List.mem_append, List.mem_singleton, ← same other]
        exact ⟨Or.inl, fun met => met.elim id fun here => here ▸ known⟩
      · rw [if_neg known, if_neg (by simp [known]), later (name :: seen)]
        intro other
        rw [List.mem_cons, List.mem_append, List.mem_singleton, ← same other, or_comm]

theorem repeated_eq (names : List String) : repeated [] names = furtherOccurrences names :=
  repeated_from [] [] names fun _ => Iff.rfl

theorem repeated_length (seen names : List String) :
    (repeated seen names).length + (names.toFinset \ seen.toFinset).card = names.length := by
  induction names generalizing seen with
  | nil => simp [repeated]
  | cons name rest ih =>
      rw [List.toFinset_cons, repeated]
      by_cases known : name ∈ seen
      · rw [if_pos known, Finset.insert_sdiff_of_mem _ (List.mem_toFinset.mpr known),
          List.length_cons, List.length_cons]
        have remaining := ih seen
        omega
      · have absent : name ∉ seen.toFinset := fun met => known (List.mem_toFinset.mp met)
        have opened : (insert name rest.toFinset \ seen.toFinset).card =
            (rest.toFinset \ (name :: seen).toFinset).card + 1 := by
          rw [List.toFinset_cons, Finset.insert_sdiff_of_notMem _ absent, Finset.sdiff_insert,
            ← Finset.card_erase_add_one (Finset.mem_insert_self _ _),
            Finset.erase_insert_eq_erase]
        rw [if_neg known, opened, List.length_cons]
        have remaining := ih (name :: seen)
        omega

theorem problems_eq_nil_iff (kind : NameKind) (scope : Option String) (names : List String) :
    problems kind scope names = [] ↔ names.Nodup := by
  rw [problems, List.map_eq_nil_iff, repeated_eq_nil_iff]
  simp

theorem problems_of_other_kind (kind : NameKind) (scope : Option String) (names : List String)
    {other : ProblemKind} (different : other ≠ .duplicateName) :
    (problems kind scope names).filter (fun problem => problem.kind == other) = [] := by
  rw [problems, List.filter_eq_nil_iff, List.forall_mem_map]
  intro name _
  simp [Problem.kind, Ne.symm different]

end Uniqueness

end InterfaceSchema
