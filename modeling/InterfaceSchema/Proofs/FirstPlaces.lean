import Mathlib.Data.List.Induction
import Mathlib.Data.List.Nodup

/-!
Lists with each item at its first place only. An item that occurs before adds nothing, so a list may
be read behind what is kept of its beginning, and what is read off the items that are kept is the
same up to repetitions.
-/

namespace InterfaceSchema

set_option autoImplicit false

variable {Item Value : Type} [BEq Item] [LawfulBEq Item] {items : List Item} {item : Item}

theorem erase_dups_known (known : item ∈ items) (after : List Item) :
    (items ++ item :: after).eraseDups = (items ++ after).eraseDups := by
  have left : (item :: after).removeAll items = after.removeAll items := by
    simp [List.removeAll, known]
  rw [List.eraseDups_append, List.eraseDups_append, left]

theorem erase_dups_concat_known (known : item ∈ items) :
    (items ++ [item]).eraseDups = items.eraseDups := by
  rw [erase_dups_known known, List.append_nil]

theorem erase_dups_concat_new (new : item ∉ items) :
    (items ++ [item]).eraseDups = items.eraseDups ++ [item] := by
  have all : [item].removeAll items = [item] := by simp [List.removeAll, new]
  rw [List.eraseDups_append, all, List.eraseDups_cons]
  rfl

theorem erase_dups_sublist (items : List Item) : items.eraseDups.Sublist items := by
  induction items using List.reverseRecOn with
  | nil => exact List.Sublist.refl _
  | append_singleton items item ih =>
      by_cases known : item ∈ items
      · rw [erase_dups_concat_known known]
        exact ih.trans (List.sublist_append_left _ _)
      · rw [erase_dups_concat_new known]
        exact ih.append (List.Sublist.refl _)

theorem erase_dups_nodup (items : List Item) : items.eraseDups.Nodup := by
  induction items using List.reverseRecOn with
  | nil => exact List.nodup_nil
  | append_singleton items item ih =>
      by_cases known : item ∈ items
      · rwa [erase_dups_concat_known known]
      · rw [erase_dups_concat_new known, ← List.concat_eq_append]
        exact ih.concat fun member => known (List.mem_eraseDups.mp member)

theorem erase_dups_of_nodup (distinct : items.Nodup) : items.eraseDups = items := by
  induction items with
  | nil => rfl
  | cons item rest ih =>
      rw [List.nodup_cons] at distinct
      have others : (rest.filter fun later => !later == item) = rest := by
        rw [List.filter_eq_self]
        intro later member
        have different : later ≠ item := fun same => distinct.1 (same ▸ member)
        simp [different]
      rw [List.eraseDups_cons, others, ih distinct.2]

/-- What is read off items at their first places is the same up to repetitions. -/
theorem erase_dups_filter_map [BEq Value] [LawfulBEq Value] (read : Item → Option Value)
    (items : List Item) :
    (items.eraseDups.filterMap read).eraseDups = (items.filterMap read).eraseDups := by
  induction items using List.reverseRecOn with
  | nil => rfl
  | append_singleton items item ih =>
      by_cases known : item ∈ items
      · rw [erase_dups_concat_known known, ih, List.filterMap_append]
        cases found : read item with
        | none => simp [found]
        | some value =>
            have again : value ∈ items.filterMap read := List.mem_filterMap.mpr ⟨item, known, found⟩
            have one : [item].filterMap read = [value] := by simp [found]
            rw [one, erase_dups_concat_known again]
      · have same (value : Value) :
            value ∈ items.eraseDups.filterMap read ↔ value ∈ items.filterMap read := by
          simp
        rw [erase_dups_concat_new known, List.filterMap_append, List.filterMap_append,
          List.eraseDups_append, List.eraseDups_append, ih]
        simp only [List.removeAll, List.elem_eq_mem, same]

theorem erase_dups_filter (keep : Item → Bool) (items : List Item) :
    (items.filter keep).eraseDups = items.eraseDups.filter keep := by
  have same := erase_dups_filter_map (Option.guard keep) items
  rw [List.filterMap_eq_filter, erase_dups_of_nodup ((erase_dups_nodup items).filter _)] at same
  exact same.symm

/-- Items may be read at their first places only, if and only if nothing is read off an item that
occurs again. -/
theorem filter_map_erase_dups_iff (read : Item → Option Value) (items : List Item) :
    items.filterMap read = items.eraseDups.filterMap read ↔
      ∀ item, (read item).isSome = true → items.count item ≤ 1 := by
  induction items using List.reverseRecOn with
  | nil => simp
  | append_singleton items item ih =>
      have others (other : Item) (different : item ≠ other) :
          (items ++ [item]).count other = items.count other := by
        simp [different]
      have own : (items ++ [item]).count item = items.count item + 1 := by simp
      by_cases known : item ∈ items
      · rw [erase_dups_concat_known known, List.filterMap_append]
        cases value : read item with
        | none =>
            have nothing : [item].filterMap read = [] := by simp [value]
            rw [nothing, List.append_nil, ih]
            apply forall_congr'
            intro other
            by_cases same : item = other
            · simp [← same, value]
            · rw [others other same]
        | some word =>
            have something : [item].filterMap read = [word] := by simp [value]
            have shorter := ((erase_dups_sublist items).filterMap read).length_le
            have before := List.count_pos_iff.mpr known
            rw [something]
            constructor
            · intro equal
              have lengths := congrArg List.length equal
              rw [List.length_append, List.length_singleton] at lengths
              omega
            · intro single
              have twice := single item (by simp [value])
              omega
      · rw [erase_dups_concat_new known, List.filterMap_append, List.filterMap_append,
          List.append_left_inj, ih]
        apply forall_congr'
        intro other
        by_cases same : item = other
        · have absent := List.count_eq_zero.mpr known
          rw [← same, own, absent]
          simp
        · rw [others other same]

end InterfaceSchema
