import Mathlib.Data.List.Basic
import Mathlib.Data.List.Nodup

/-!
Lists of keys with values. A lookup finds the first entry of a key, and where the keys differ from
each other it finds an entry if and only if the list has it.
-/

namespace InterfaceSchema

set_option autoImplicit false

variable {Key Value : Type} [BEq Key] [LawfulBEq Key] {entries : List (Key × Value)}
  {key : Key} {value : Value}

theorem lookup_cons_eq [DecidableEq Key] (entries : List (Key × Value)) (key : Key) (value : Value)
    (query : Key) :
    ((key, value) :: entries).lookup query =
      if query = key then some value else entries.lookup query := by
  by_cases same : query = key
  · simp [same]
  · rw [List.lookup_cons, beq_eq_false_iff_ne.mpr same, if_neg same]

theorem mem_of_lookup (found : entries.lookup key = some value) : (key, value) ∈ entries := by
  obtain ⟨before, after, rfl, _⟩ := List.lookup_eq_some_iff.mp found
  exact List.mem_append_right before List.mem_cons_self

theorem lookup_eq_none_iff_not_mem : entries.lookup key = none ↔ key ∉ entries.map Prod.fst := by
  simp only [List.lookup_eq_none_iff, List.mem_map, not_exists, not_and, bne_iff_ne, ne_eq,
    @eq_comm _ key]

theorem lookup_eq_some_iff_mem (distinct : (entries.map Prod.fst).Nodup) :
    entries.lookup key = some value ↔ (key, value) ∈ entries := by
  refine ⟨mem_of_lookup, ?_⟩
  intro member
  obtain ⟨before, after, rfl⟩ := List.append_of_mem member
  rw [List.map_append, List.map_cons, List.nodup_append] at distinct
  refine List.lookup_eq_some_iff.mpr ⟨before, after, rfl, ?_⟩
  intro entry earlier
  have different := distinct.2.2 entry.1 (List.mem_map_of_mem earlier) key List.mem_cons_self
  simpa using Ne.symm different

end InterfaceSchema
