import InterfaceSchema.Proofs.Attachment.Recording
import InterfaceSchema.Proofs.Universe
import Mathlib.Data.List.Sort

/-!
Attachments of a list of structs. The row of a struct holds the bases that its names lead to, and
its extensions are the rows that hold it. Where every struct holds its own name and no base is
refused, each base name leads to a struct, and it leads to the same one among more structs. Bases
stay as they are, and further structs stand behind the extensions that a struct has.
-/

namespace InterfaceSchema

set_option autoImplicit false

namespace Attachments

/-- Every struct is registered under its own name. -/
def Registered (structs : List StructDecl) (declared : Universe) : Prop :=
  ∀ struct ∈ structs, ∃ index, declared.get? struct.name = some ⟨.struct, index⟩ ∧
    structs[index]? = some struct

theorem base_index_eq_some_iff {declared : Universe} {name : String} {index : Nat} :
    baseIndex? declared name = some index ↔ declared.get? name = some ⟨.struct, index⟩ := by
  unfold baseIndex?
  cases registered : declared.get? name with
  | none => simp
  | some decl =>
      rcases decl with ⟨kind, own⟩
      by_cases isStruct : kind = .struct
      · simp [isStruct]
      · simp [isStruct]

/-- The bases of a struct in the order in which its base names lead to them. -/
def basesOfStruct (structs : List StructDecl) (declared : Universe) (struct : StructDecl) :
    List Nat :=
  ((links structs declared struct).filterMap Link.base?).eraseDups

/-- The rows that hold an index. -/
def holders (bases : List (List Nat)) (index : Nat) : List Nat :=
  (bases.zipIdx.filter fun (held, _) => held.contains index).map Prod.snd

theorem holders_append (bases more : List (List Nat)) (index : Nat) :
    holders bases index <+: holders (bases ++ more) index := by
  unfold holders
  rw [List.zipIdx_append, List.filter_append, List.map_append]
  exact List.prefix_append _ _

theorem mem_holders {bases : List (List Nat)} {index holder : Nat} :
    holder ∈ holders bases index ↔ index ∈ (bases[holder]?).getD [] := by
  simp only [holders, List.mem_map, List.mem_filter, List.contains_eq_mem, decide_eq_true_eq,
    Prod.exists, exists_eq_right, List.mem_zipIdx_iff_getElem?]
  constructor
  · rintro ⟨held, found, member⟩
    rw [found]
    exact member
  · intro member
    cases found : bases[holder]? with
    | none => simp [found] at member
    | some held =>
        rw [found] at member
        exact ⟨held, rfl, member⟩

theorem holders_ascending (bases : List (List Nat)) (index : Nat) :
    (holders bases index).Pairwise (· < ·) := by
  have places : (bases.zipIdx.map Prod.snd).Pairwise (· < ·) := by
    rw [List.zipIdx_map_snd, ← List.range_eq_range']
    exact List.pairwise_lt_range
  exact places.sublist (List.filter_sublist.map Prod.snd)

theorem Link.base_eq_some_iff {link : Link} {index : Nat} :
    link.base? = some index ↔ link = .attached index := by
  cases link <;> simp [base?]

section Reach

variable {structs : List StructDecl} {declared : Universe}

theorem link_of_found {extension base : StructDecl} {direction : Direction} {name : String}
    {index : Nat}
    (leads : declared.get? name = some ⟨.struct, index⟩) (found : structs[index]? = some base)
    (fit : fits base.role direction = true) :
    link structs declared extension direction name = .attached index := by
  simp [link, base_index_eq_some_iff.mpr leads, found, fit]

theorem link_eq_attached_iff {extension : StructDecl} {direction : Direction} {name : String}
    {index : Nat} :
    link structs declared extension direction name = .attached index ↔
      ∃ base, declared.get? name = some ⟨.struct, index⟩ ∧ structs[index]? = some base ∧
        fits base.role direction = true := by
  constructor
  · intro attached
    unfold link at attached
    cases target : (baseIndex? declared name).bind fun index =>
        structs[index]?.map fun base => (index, base) with
    | none =>
        simp only [target] at attached
        split at attached <;> cases attached
    | some pair =>
        obtain ⟨own, leads, placed⟩ := Option.bind_eq_some_iff.mp target
        obtain ⟨base, found, rfl⟩ := Option.map_eq_some_iff.mp placed
        simp only [target] at attached
        split at attached
        · rename_i fit
          cases attached
          exact ⟨base, base_index_eq_some_iff.mp leads, found, fit⟩
        · cases attached
  · rintro ⟨base, leads, found, fit⟩
    exact link_of_found leads found fit

theorem mem_bases_of_struct {struct : StructDecl} {index : Nat} :
    index ∈ basesOfStruct structs declared struct ↔
      ∃ direction name, struct.role = .extension direction ∧ name ∈ struct.bases ∧
        link structs declared struct direction name = .attached index := by
  unfold basesOfStruct links
  rw [List.mem_eraseDups, List.mem_filterMap]
  cases role : struct.role with
  | base direction => simp
  | standalone => simp
  | extension direction => simp [Link.base_eq_some_iff]

theorem linked_base_inside (declared : Universe) (struct : StructDecl) :
    ∀ base ∈ (links structs declared struct).filterMap Link.base?, base < structs.length := by
  intro base member
  have among : base ∈ basesOfStruct structs declared struct := List.mem_eraseDups.mpr member
  obtain ⟨_, _, _, _, attached⟩ := mem_bases_of_struct.mp among
  obtain ⟨_, _, found, _⟩ := link_eq_attached_iff.mp attached
  exact (List.getElem?_eq_some_iff.mp found).1

/-- The tables stay in step over all structs. -/
theorem attach_from_recorded (declared : Universe) {attachments : Attachments} {index : Nat}
    (recorded : Recorded structs.length index attachments) (rest : List StructDecl)
    (inside : index + rest.length ≤ structs.length) :
    Recorded structs.length (index + rest.length)
      (attachFrom structs declared attachments index rest) := by
  induction rest generalizing attachments index with
  | nil => exact recorded
  | cons struct rest ih =>
      rw [List.length_cons] at inside ⊢
      have own : index < structs.length := by omega
      have next := (recorded.later (Nat.le_succ index)).attach_each own
        (linked_base_inside declared struct)
      have final := ih next (by omega)
      rw [Nat.add_right_comm] at final
      exact final

/-- The row of a struct is written when its turn comes, and left alone before and after. -/
theorem bases_of_attach_from {attachments : Attachments} {index : Nat} {rest : List StructDecl}
    (inside : index + rest.length ≤ attachments.bases.length)
    (untouched : ∀ later, index ≤ later → attachments.basesOf later = []) (place : Nat) :
    (attachFrom structs declared attachments index rest).basesOf place =
      if place < index then attachments.basesOf place
      else ((rest[place - index]?).map (basesOfStruct structs declared)).getD [] := by
  induction rest generalizing attachments index with
  | nil =>
      rw [attachFrom]
      split
      · rfl
      · rename_i beyond
        rw [untouched place (by omega)]
        rfl
  | cons struct rest ih =>
      rw [List.length_cons] at inside
      have own : index < attachments.bases.length := by omega
      let bases := (links structs declared struct).filterMap Link.base?
      have others : ∀ other, other ≠ index →
          (attachments.attachEach index bases).basesOf other = attachments.basesOf other :=
        fun other different => bases_of_attach_each_other own bases different
      have row : (attachments.attachEach index bases).basesOf index =
          basesOfStruct structs declared struct := by
        have unwritten := untouched index (Nat.le_refl index)
        have distinct : (attachments.basesOf index).Nodup := by
          rw [unwritten]
          exact List.nodup_nil
        rw [bases_of_attach_each own distinct, unwritten, List.nil_append]
        rfl
      rw [attachFrom, ih]
      · by_cases before : place < index
        · rw [if_pos (by omega), if_pos before, others place (by omega)]
        · rw [if_neg before]
          by_cases here : place = index
          · subst here
            rw [if_pos (by omega), row, Nat.sub_self]
            rfl
          · have shift : place - index = place - (index + 1) + 1 := by omega
            rw [if_neg (by omega), shift, List.getElem?_cons_succ]
      · rw [attach_each_bases_length]
        omega
      · intro later beyond
        rw [others later (by omega)]
        exact untouched later (by omega)

theorem resolve_recorded (structs : List StructDecl) (declared : Universe) :
    Recorded structs.length structs.length (resolve structs declared).1 := by
  have recorded := attach_from_recorded declared (empty_recorded structs.length) structs
    (by omega)
  rw [Nat.zero_add] at recorded
  exact recorded

theorem resolve_bases (structs : List StructDecl) (declared : Universe) :
    (resolve structs declared).1.bases = structs.map (basesOfStruct structs declared) := by
  have recorded := resolve_recorded structs declared
  have rows : ∀ place, (resolve structs declared).1.basesOf place =
      ((structs[place]?).map (basesOfStruct structs declared)).getD [] := by
    intro place
    have room : 0 + structs.length ≤ (empty structs.length).bases.length := by simp [empty]
    exact bases_of_attach_from room (fun later _ => bases_of_empty structs.length later) place
  apply List.ext_getElem
  · rw [recorded.bases_length, List.length_map]
  · intro place here there
    have row := rows place
    rw [List.length_map] at there
    simpa [basesOf, here, there] using row

theorem resolve_extensions (structs : List StructDecl) (declared : Universe) :
    (resolve structs declared).1.extensions =
      (List.range structs.length).map (holders (resolve structs declared).1.bases) := by
  have recorded := resolve_recorded structs declared
  have rows : ∀ place, (resolve structs declared).1.extensionsOf place =
      holders (resolve structs declared).1.bases place := by
    intro place
    have own := recorded.ascending place
    have told := holders_ascending (resolve structs declared).1.bases place
    have same : ((resolve structs declared).1.extensionsOf place).Perm
        (holders (resolve structs declared).1.bases place) := by
      rw [List.perm_ext_iff_of_nodup own.nodup told.nodup]
      intro extension
      rw [mem_holders, ← recorded.mirrored]
      rfl
    exact same.eq_of_pairwise' own told
  apply List.ext_getElem
  · rw [recorded.extensions_length, List.length_map, List.length_range]
  · intro place here there
    have row := rows place
    simpa [extensionsOf, here] using row

/-- Whatever is written, bases are structs. -/
theorem base_inside {bases : List Nat} (row : bases ∈ (resolve structs declared).1.bases) :
    ∀ index ∈ bases, index < structs.length := by
  intro index member
  rw [resolve_bases] at row
  obtain ⟨struct, _, rfl⟩ := List.mem_map.mp row
  exact linked_base_inside declared struct index (List.mem_eraseDups.mp member)

theorem extension_inside {extensions : List Nat}
    (row : extensions ∈ (resolve structs declared).1.extensions) :
    ∀ index ∈ extensions, index < structs.length := by
  intro index member
  obtain ⟨place, found⟩ := List.mem_iff_getElem?.mp row
  have held : (resolve structs declared).1.extensionsOf place = extensions := by
    rw [extensionsOf, found, Option.getD_some]
  exact (resolve_recorded structs declared).bounded place index (held ▸ member)

theorem mem_row {rows : List (List Nat)} {place index : Nat}
    (member : index ∈ (rows[place]?).getD []) : ∃ row ∈ rows, index ∈ row := by
  cases found : rows[place]? with
  | none => simp [found] at member
  | some row =>
      rw [found] at member
      exact ⟨row, List.mem_of_getElem? found, member⟩

theorem bases_of_resolve (declared : Universe) {struct : StructDecl} {index : Nat}
    (found : structs[index]? = some struct) :
    (resolve structs declared).1.basesOf index = basesOfStruct structs declared struct := by
  simp [resolve_bases, basesOf, found]

end Reach

section Within

variable {structs : List StructDecl} {smaller larger : Universe} (more : List StructDecl)

/-- A base name that is not refused leads to a struct of the smaller universe. -/
theorem link_found (registered : Registered structs smaller) {extension : StructDecl}
    {direction : Direction} {name : String}
    (quiet : (link structs smaller extension direction name).problem? = none) :
    ∃ index base, smaller.get? name = some ⟨.struct, index⟩ ∧ structs[index]? = some base ∧
      fits base.role direction = true := by
  cases target : (baseIndex? smaller name).bind fun index =>
      structs[index]?.map fun base => (index, base) with
  | some pair =>
      obtain ⟨index, leads, placed⟩ := Option.bind_eq_some_iff.mp target
      obtain ⟨base, found, rfl⟩ := Option.map_eq_some_iff.mp placed
      refine ⟨index, base, base_index_eq_some_iff.mp leads, found, ?_⟩
      cases fit : fits base.role direction with
      | true => rfl
      | false => simp [link, target, fit, Link.problem?] at quiet
  | none =>
      cases held : structs.any fun struct => struct.name == name with
      | false => simp [link, target, held, Link.problem?] at quiet
      | true =>
          obtain ⟨struct, member, same⟩ := List.any_eq_true.mp held
          obtain ⟨index, own, found⟩ := registered struct member
          rw [show struct.name = name by simpa using same] at own
          simp [base_index_eq_some_iff.mpr own, found] at target

theorem link_within (within : smaller.Within larger) (registered : Registered structs smaller)
    {extension : StructDecl} {direction : Direction} {name : String}
    (quiet : (link structs smaller extension direction name).problem? = none) :
    link (structs ++ more) larger extension direction name =
      link structs smaller extension direction name := by
  obtain ⟨index, base, leads, found, fit⟩ := link_found registered quiet
  have inside := (List.getElem?_eq_some_iff.mp found).1
  have kept : (structs ++ more)[index]? = some base := by
    rw [List.getElem?_append_left inside, found]
  rw [link_of_found leads found fit, link_of_found (within _ _ leads) kept fit]

theorem links_within (within : smaller.Within larger) (registered : Registered structs smaller)
    {struct : StructDecl} (quiet : problemsOfStruct structs smaller struct = []) :
    links (structs ++ more) larger struct = links structs smaller struct := by
  simp only [problemsOfStruct, List.append_eq_nil_iff, List.filterMap_eq_nil_iff] at quiet
  have accepted := quiet.2
  unfold links at accepted ⊢
  cases role : struct.role with
  | base direction => rfl
  | standalone => rfl
  | extension direction =>
      rw [role] at accepted
      apply List.map_congr_left
      intro name member
      exact link_within more within registered (accepted _ (List.mem_map_of_mem member))

theorem bases_append (within : smaller.Within larger) (registered : Registered structs smaller)
    (quiet : (resolve structs smaller).2 = []) :
    ∃ others, (resolve (structs ++ more) larger).1.bases =
      (resolve structs smaller).1.bases ++ others := by
  simp only [resolve, List.flatMap_eq_nil_iff] at quiet
  rw [resolve_bases, resolve_bases, List.map_append]
  have same : structs.map (basesOfStruct (structs ++ more) larger) =
      structs.map (basesOfStruct structs smaller) := by
    apply List.map_congr_left
    intro struct member
    unfold basesOfStruct
    rw [links_within more within registered (quiet struct member)]
  rw [same]
  exact ⟨_, rfl⟩

theorem bases_of_within (within : smaller.Within larger)
    (registered : Registered structs smaller) (quiet : (resolve structs smaller).2 = [])
    {index : Nat} (inside : index < structs.length) :
    (resolve (structs ++ more) larger).1.basesOf index =
      (resolve structs smaller).1.basesOf index := by
  obtain ⟨others, bases⟩ := bases_append more within registered quiet
  have bound : index < (resolve structs smaller).1.bases.length := by
    simpa [resolve_bases] using inside
  unfold basesOf
  rw [bases, List.getElem?_append_left bound]

theorem extensions_of_resolve (declared : Universe) {index : Nat}
    (inside : index < structs.length) :
    (resolve structs declared).1.extensionsOf index =
      holders (resolve structs declared).1.bases index := by
  simp [extensionsOf, resolve_extensions, inside]

theorem extensions_of_within (within : smaller.Within larger)
    (registered : Registered structs smaller) (quiet : (resolve structs smaller).2 = [])
    {index : Nat} (inside : index < structs.length) :
    (resolve structs smaller).1.extensionsOf index <+:
      (resolve (structs ++ more) larger).1.extensionsOf index := by
  obtain ⟨others, bases⟩ := bases_append more within registered quiet
  have bound : index < (structs ++ more).length := by
    rw [List.length_append]
    omega
  rw [extensions_of_resolve smaller inside, extensions_of_resolve larger bound, bases]
  exact holders_append _ others index

end Within

end Attachments

end InterfaceSchema
