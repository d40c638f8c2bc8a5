import InterfaceSchema.Proofs.Attachment
import InterfaceSchema.Proofs.Uniqueness
import Mathlib.Data.List.Nodup
import Mathlib.Data.Option.Basic

/-!
Attachments of which nothing is told. Every base name that is written leads to a struct that may be
extended, so the bases of a struct are the ones that it names, in their order, and its extensions
are the structs that name it.
-/

namespace InterfaceSchema

set_option autoImplicit false

namespace Attachments

/-- Names that stand for structs are borne by these structs. -/
def Borne (structs : List StructDecl) (declared : Universe) : Prop :=
  ∀ name index, declared.get? name = some ⟨.struct, index⟩ →
    structs[index]?.map StructDecl.name = some name

section Quiet

variable {structs : List StructDecl} {declared : Universe} {struct : StructDecl}

theorem placement_eq_nil_iff :
    placement struct = [] ↔ (struct.role.isExtension = true ↔ struct.bases ≠ []) := by
  unfold placement
  cases struct.role.isExtension <;> cases struct.bases <;> simp

theorem problems_of_struct_eq_nil_iff :
    problemsOfStruct structs declared struct = [] ↔
      struct.bases.Nodup ∧ (struct.role.isExtension = true ↔ struct.bases ≠ []) ∧
        ∀ direction, struct.role = .extension direction → ∀ name ∈ struct.bases,
          (link structs declared struct direction name).problem? = none := by
  unfold problemsOfStruct
  rw [List.append_eq_nil_iff, List.append_eq_nil_iff, Uniqueness.problems_eq_nil_iff,
    placement_eq_nil_iff, List.filterMap_eq_nil_iff, and_assoc]
  unfold links
  cases role : struct.role with
  | base direction => simp
  | standalone => simp
  | extension direction => simp

theorem bases_empty_of_no_extension (quiet : problemsOfStruct structs declared struct = [])
    (role : struct.role.isExtension = false) : struct.bases = [] := by
  have placed := (problems_of_struct_eq_nil_iff.mp quiet).2.1
  simpa [role] using placed

theorem link_of_written (registered : Registered structs declared)
    (quiet : problemsOfStruct structs declared struct = []) {direction : Direction}
    (role : struct.role = .extension direction) {name : String} (written : name ∈ struct.bases) :
    ∃ index, declared.get? name = some ⟨.struct, index⟩ ∧
      link structs declared struct direction name = .attached index := by
  have accepted := (problems_of_struct_eq_nil_iff.mp quiet).2.2 direction role name written
  obtain ⟨index, base, leads, found, fit⟩ := link_found registered accepted
  exact ⟨index, leads, link_of_found leads found fit⟩

theorem attached_names {names : List String} {direction : Direction}
    (linked : ∀ name ∈ names, ∃ index,
      link structs declared struct direction name = .attached index ∧
        structs[index]?.map StructDecl.name = some name) :
    ((names.map (link structs declared struct direction)).filterMap Link.base?).map
        (fun index => structs[index]?.map StructDecl.name) = names.map some := by
  induction names with
  | nil => rfl
  | cons name rest ih =>
      obtain ⟨index, attached, named⟩ := linked name List.mem_cons_self
      have remaining := ih fun later member => linked later (List.mem_cons_of_mem _ member)
      have base : (link structs declared struct direction name).base? = some index := by
        rw [attached]
        rfl
      rw [List.map_cons, List.filterMap_cons_some base, List.map_cons, named, remaining]
      rfl

theorem names_of_bases (registered : Registered structs declared) (borne : Borne structs declared)
    (quiet : problemsOfStruct structs declared struct = []) :
    (basesOfStruct structs declared struct).map (fun index => structs[index]?.map StructDecl.name) =
      struct.bases.map some := by
  unfold basesOfStruct links
  cases role : struct.role with
  | extension direction =>
      have names := attached_names fun name written => by
        obtain ⟨index, leads, attached⟩ := link_of_written registered quiet role written
        exact ⟨index, attached, borne name index leads⟩
      -- Different names cannot lead to one struct, so no occurrence is dropped.
      have distinct := (problems_of_struct_eq_nil_iff.mp quiet).1.map (Option.some_injective String)
      rw [← names] at distinct
      rw [erase_dups_of_nodup distinct.of_map]
      exact names
  | _ =>
      rw [bases_empty_of_no_extension quiet (by rw [role]; rfl)]
      rfl

theorem mem_bases_of_written (registered : Registered structs declared)
    (borne : Borne structs declared) (quiet : problemsOfStruct structs declared struct = [])
    {name : String} {index : Nat} (leads : declared.get? name = some ⟨.struct, index⟩) :
    index ∈ basesOfStruct structs declared struct ↔ name ∈ struct.bases := by
  rw [mem_bases_of_struct]
  constructor
  · rintro ⟨direction, other, _, written, attached⟩
    obtain ⟨_, otherLeads, _⟩ := link_eq_attached_iff.mp attached
    have named := (borne other index otherLeads).symm.trans (borne name index leads)
    exact Option.some.inj named ▸ written
  · intro written
    have placed := (problems_of_struct_eq_nil_iff.mp quiet).2.1.mpr (List.ne_nil_of_mem written)
    cases role : struct.role with
    | base direction => simp [role, StructRole.isExtension] at placed
    | standalone => simp [role, StructRole.isExtension] at placed
    | extension direction =>
        obtain ⟨own, ownLeads, attached⟩ := link_of_written registered quiet role written
        rw [leads] at ownLeads
        cases ownLeads
        exact ⟨direction, name, rfl, written, attached⟩

theorem names_of_extensions (registered : Registered structs declared)
    (borne : Borne structs declared)
    (quiet : ∀ struct ∈ structs, problemsOfStruct structs declared struct = [])
    {name : String} {index : Nat} (leads : declared.get? name = some ⟨.struct, index⟩) :
    (holders (structs.map (basesOfStruct structs declared)) index).map
        (fun extension => structs[extension]?.map StructDecl.name) =
      ((structs.filter fun struct => struct.bases.contains name).map StructDecl.name).map some := by
  have kept : (structs.zipIdx.filter fun placed =>
        (basesOfStruct structs declared placed.1).contains index) =
      structs.zipIdx.filter fun placed => placed.1.bases.contains name := by
    apply List.filter_congr
    rintro ⟨struct, place⟩ among
    have member := List.mem_of_getElem? (List.mem_zipIdx_iff_getElem?.mp among)
    have same := mem_bases_of_written registered borne (quiet struct member) leads
    simp only [List.contains_eq_mem, same]
  calc (holders (structs.map (basesOfStruct structs declared)) index).map
        (fun extension => structs[extension]?.map StructDecl.name)
      = (structs.zipIdx.filter fun placed => placed.1.bases.contains name).map
          (fun placed => structs[placed.2]?.map StructDecl.name) := by
        rw [← kept]
        simp only [holders, List.zipIdx_map, List.filter_map, List.map_map]
        rfl
    _ = (structs.zipIdx.filter fun placed => placed.1.bases.contains name).map
          (fun placed => some placed.1.name) := by
        apply List.map_congr_left
        rintro ⟨struct, place⟩ among
        rw [List.mem_zipIdx_iff_getElem?.mp (List.mem_filter.mp among).1]
        rfl
    _ = ((structs.zipIdx.map Prod.fst).filter fun struct => struct.bases.contains name).map
          (fun struct => some struct.name) := by
        rw [List.filter_map, List.map_map]
        rfl
    _ = ((structs.filter fun struct => struct.bases.contains name).map StructDecl.name).map
          some := by
        rw [List.zipIdx_map_fst, List.map_map]
        rfl

/-- Nothing is told of a struct either where its base names lead to the same structs at other
places. -/
theorem problems_of_moved (registered : Registered structs declared)
    (quiet : problemsOfStruct structs declared struct = []) {others : List StructDecl}
    {other : Universe}
    (moved : ∀ name index base, declared.get? name = some ⟨.struct, index⟩ →
      structs[index]? = some base →
        ∃ place, other.get? name = some ⟨.struct, place⟩ ∧ others[place]? = some base) :
    problemsOfStruct others other struct = [] := by
  obtain ⟨distinct, placed, accepted⟩ := problems_of_struct_eq_nil_iff.mp quiet
  refine problems_of_struct_eq_nil_iff.mpr ⟨distinct, placed, ?_⟩
  intro direction role name written
  obtain ⟨index, base, leads, found, fit⟩ :=
    link_found registered (accepted direction role name written)
  obtain ⟨place, there, same⟩ := moved name index base leads found
  rw [link_of_found there same fit]
  rfl

end Quiet

end Attachments

end InterfaceSchema
