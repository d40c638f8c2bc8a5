import InterfaceSchema.Attachment
import InterfaceSchema.Proofs.FirstPlaces

/-!
Recording of attachments. Every pair goes into two tables, into the row of the extension and into
the row of the base. Whatever is recorded, the tables tell the same pairs, no pair twice, and the
extensions of a base in the order of their indices. In the end the row of a struct holds the bases
that its names lead to, each at its first occurrence.
-/

namespace InterfaceSchema

set_option autoImplicit false

namespace Attachments

section Rows

variable {rows : List (List Nat)} {place index item : Nat}

theorem row_of_modify (inside : place < rows.length) :
    ((rows.modify place fun row => row ++ [item])[index]?).getD [] =
      if index = place then (rows[index]?).getD [] ++ [item] else (rows[index]?).getD [] := by
  rw [List.getElem?_modify]
  by_cases same : index = place
  · subst same
    have found : rows[index]? = some rows[index] := List.getElem?_eq_getElem inside
    simp [found]
  · have apart : place ≠ index := fun equal => same equal.symm
    cases found : rows[index]? <;> simp [same, apart]

theorem flatten_length_of_modify (inside : place < rows.length) :
    (rows.modify place fun row => row ++ [item]).flatten.length = rows.flatten.length + 1 := by
  induction rows generalizing place with
  | nil => simp at inside
  | cons row rest ih =>
      cases place with
      | zero =>
          simp only [List.modify_zero_cons, List.flatten_cons, List.length_append,
            List.length_cons, List.length_nil]
          omega
      | succ place =>
          have later : place < rest.length := by simpa using inside
          simp only [List.modify_succ_cons, List.flatten_cons, List.length_append, ih later]
          omega

theorem row_of_replicate (count index : Nat) :
    ((List.replicate count ([] : List Nat))[index]?).getD [] = [] := by
  rw [List.getElem?_replicate]
  split <;> rfl

theorem mem_grown_row {row : List Nat} {entry : Nat} :
    entry ∈ (if index = place then row ++ [item] else row) ↔
      entry ∈ row ∨ entry = item ∧ index = place := by
  by_cases same : index = place
  · simp [same]
  · simp [same]

theorem grown_row_nodup {row : List Nat} (distinct : row.Nodup)
    (fresh : index = place → item ∉ row) :
    (if index = place then row ++ [item] else row).Nodup := by
  split
  · rename_i same
    rw [← List.concat_eq_append]
    exact distinct.concat (fresh same)
  · exact distinct

theorem grown_row_ascending {row : List Nat} (ascending : row.Pairwise (· < ·))
    (before : index = place → ∀ entry ∈ row, entry < item) :
    (if index = place then row ++ [item] else row).Pairwise (· < ·) := by
  split
  · rename_i same
    rw [List.pairwise_append]
    refine ⟨ascending, List.pairwise_singleton _ item, ?_⟩
    intro entry member last here
    rw [List.mem_singleton.mp here]
    exact before same entry member
  · exact ascending

end Rows

theorem bases_of_empty (count index : Nat) : (empty count).basesOf index = [] :=
  row_of_replicate count index

theorem extensions_of_empty (count index : Nat) : (empty count).extensionsOf index = [] :=
  row_of_replicate count index

theorem attach_recorded {attachments : Attachments} {extension base : Nat}
    (recorded : base ∈ attachments.basesOf extension) :
    attachments.attach extension base = attachments := by
  rw [attach, if_pos recorded]

theorem attach_bases_length (attachments : Attachments) (extension base : Nat) :
    (attachments.attach extension base).bases.length = attachments.bases.length := by
  unfold attach
  split
  · rfl
  · exact List.length_modify _ _ _

theorem bases_of_attach {attachments : Attachments} {extension base : Nat}
    (fresh : base ∉ attachments.basesOf extension) (inside : extension < attachments.bases.length)
    (index : Nat) :
    (attachments.attach extension base).basesOf index =
      if index = extension then attachments.basesOf index ++ [base]
      else attachments.basesOf index := by
  rw [attach, if_neg fresh]
  exact row_of_modify inside

theorem extensions_of_attach {attachments : Attachments} {extension base : Nat}
    (fresh : base ∉ attachments.basesOf extension)
    (inside : base < attachments.extensions.length) (index : Nat) :
    (attachments.attach extension base).extensionsOf index =
      if index = base then attachments.extensionsOf index ++ [extension]
      else attachments.extensionsOf index := by
  rw [attach, if_neg fresh]
  exact row_of_modify inside

/-- What both tables keep while the structs below a bound are attached. -/
structure Recorded (count bound : Nat) (attachments : Attachments) : Prop where
  bases_length : attachments.bases.length = count
  extensions_length : attachments.extensions.length = count
  mirrored : ∀ extension base,
    base ∈ attachments.basesOf extension ↔ extension ∈ attachments.extensionsOf base
  distinct : ∀ extension, (attachments.basesOf extension).Nodup
  ascending : ∀ base, (attachments.extensionsOf base).Pairwise (· < ·)
  bounded : ∀ base, ∀ extension ∈ attachments.extensionsOf base, extension < bound
  counted : attachments.extensions.flatten.length = attachments.bases.flatten.length

theorem empty_recorded (count : Nat) : Recorded count 0 (empty count) where
  bases_length := List.length_replicate
  extensions_length := List.length_replicate
  mirrored := by
    intro extension base
    rw [bases_of_empty, extensions_of_empty]
    simp
  distinct := by
    intro extension
    rw [bases_of_empty]
    exact List.nodup_nil
  ascending := by
    intro base
    rw [extensions_of_empty]
    exact List.Pairwise.nil
  bounded := by
    intro base extension member
    rw [extensions_of_empty] at member
    cases member
  counted := rfl

section Step

variable {count extension : Nat} {attachments : Attachments}

theorem Recorded.later {bound : Nat} (recorded : Recorded count bound attachments) {larger : Nat}
    (below : bound ≤ larger) : Recorded count larger attachments where
  bases_length := recorded.bases_length
  extensions_length := recorded.extensions_length
  mirrored := recorded.mirrored
  distinct := recorded.distinct
  ascending := recorded.ascending
  bounded := by
    intro base extension member
    have before := recorded.bounded base extension member
    omega
  counted := recorded.counted

/-- A pair of the last extension keeps the tables in step. -/
theorem Recorded.attach (recorded : Recorded count (extension + 1) attachments) {base : Nat}
    (own : extension < count) (inside : base < count) :
    Recorded count (extension + 1) (attachments.attach extension base) := by
  by_cases known : base ∈ attachments.basesOf extension
  · rw [attach_recorded known]
    exact recorded
  have ownRow : extension < attachments.bases.length := by
    rw [recorded.bases_length]
    exact own
  have baseRow : base < attachments.extensions.length := by
    rw [recorded.extensions_length]
    exact inside
  have bases := bases_of_attach known ownRow
  have extensions := extensions_of_attach known baseRow
  -- The extension is new to the row of the base, so everything there stands before it.
  have absent : extension ∉ attachments.extensionsOf base :=
    fun member => known ((recorded.mirrored extension base).mpr member)
  have before : ∀ other ∈ attachments.extensionsOf base, other < extension := by
    intro other member
    have bound := recorded.bounded base other member
    have different : other ≠ extension := fun same => absent (same ▸ member)
    omega
  constructor
  case bases_length =>
    rw [Attachments.attach, if_neg known, List.length_modify, recorded.bases_length]
  case extensions_length =>
    rw [Attachments.attach, if_neg known, List.length_modify, recorded.extensions_length]
  case mirrored =>
    intro other index
    rw [bases, extensions, mem_grown_row, mem_grown_row, recorded.mirrored other index]
    exact or_congr_right and_comm
  case distinct =>
    intro other
    rw [bases]
    exact grown_row_nodup (recorded.distinct other) fun same => same ▸ known
  case ascending =>
    intro index
    rw [extensions]
    exact grown_row_ascending (recorded.ascending index) fun same => same ▸ before
  case bounded =>
    intro index other member
    rw [extensions] at member
    rcases mem_grown_row.mp member with held | ⟨last, _⟩
    · exact recorded.bounded index other held
    · omega
  case counted =>
    rw [Attachments.attach, if_neg known]
    rw [flatten_length_of_modify ownRow, flatten_length_of_modify baseRow, recorded.counted]

end Step

section Run

variable {count extension : Nat} {attachments : Attachments}

theorem Recorded.attach_each (recorded : Recorded count (extension + 1) attachments)
    (own : extension < count) {bases : List Nat} (inside : ∀ base ∈ bases, base < count) :
    Recorded count (extension + 1) (attachments.attachEach extension bases) := by
  induction bases generalizing attachments with
  | nil => exact recorded
  | cons base rest ih =>
      have next := recorded.attach own (inside base List.mem_cons_self)
      exact ih next fun later member => inside later (List.mem_cons_of_mem _ member)

theorem attach_each_bases_length (bases : List Nat) :
    (attachments.attachEach extension bases).bases.length = attachments.bases.length := by
  induction bases generalizing attachments with
  | nil => rfl
  | cons base rest ih => rw [attachEach, ih, attach_bases_length]

theorem bases_of_attach_each_other (own : extension < attachments.bases.length)
    (bases : List Nat) {index : Nat} (different : index ≠ extension) :
    (attachments.attachEach extension bases).basesOf index = attachments.basesOf index := by
  induction bases generalizing attachments with
  | nil => rfl
  | cons base rest ih =>
      have still : extension < (attachments.attach extension base).bases.length := by
        rw [attach_bases_length]
        exact own
      rw [attachEach, ih still]
      by_cases known : base ∈ attachments.basesOf extension
      · rw [attach_recorded known]
      · rw [bases_of_attach known own, if_neg different]

/-- A row takes in what it does not hold yet, each base once. -/
theorem bases_of_attach_each (own : extension < attachments.bases.length)
    (distinct : (attachments.basesOf extension).Nodup) (bases : List Nat) :
    (attachments.attachEach extension bases).basesOf extension =
      (attachments.basesOf extension ++ bases).eraseDups := by
  induction bases generalizing attachments with
  | nil => rw [List.append_nil, erase_dups_of_nodup distinct, attachEach]
  | cons base rest ih =>
      rw [attachEach]
      by_cases known : base ∈ attachments.basesOf extension
      · rw [attach_recorded known, ih own distinct, erase_dups_known known]
      · have still : extension < (attachments.attach extension base).bases.length := by
          rw [attach_bases_length]
          exact own
        have once : ((attachments.attach extension base).basesOf extension).Nodup := by
          rw [bases_of_attach known own]
          exact grown_row_nodup distinct fun _ => known
        rw [ih still once, bases_of_attach known own, if_pos rfl, List.append_assoc,
          List.singleton_append]

end Run

end Attachments

end InterfaceSchema
