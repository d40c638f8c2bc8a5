import InterfaceSchema.Proofs.Bitflag.Meaning
import InterfaceSchema.Proofs.Reordering
import InterfaceSchema.Proofs.Resolution.Aliases
import InterfaceSchema.Proofs.Uniqueness

/-!
Records and their names. Questions are answered from the first record of a name, so a record is
found under its own name if no other record of its scope has this name. A report without errors
means that every scope is of that kind, whatever documents its names are spread over.
-/

namespace InterfaceSchema

set_option autoImplicit false

namespace Universe

/-- A declaration is registered or told as a problem, and never both. -/
theorem size_register (declared : Universe) (names : List (String × DeclRef)) :
    (declared.register names).1.size + (declared.register names).2.length =
      declared.size + names.length := by
  induction names generalizing declared with
  | nil => rfl
  | cons entry rest ih =>
      rcases entry with ⟨name, decl⟩
      simp only [register, List.length_cons]
      cases added : declared.add name decl with
      | error problem =>
          have remaining := ih declared
          simp only [List.length_cons]
          omega
      | ok larger =>
          have grown : larger.size = declared.size + 1 := by
            obtain ⟨_, _, rfl⟩ := add_eq_ok_iff.mp added
            exact (insert_perm name decl declared.entries).length_eq
          have remaining := ih larger
          simp only
          omega

end Universe

theorem Declared.type_names_length (declared : Declared) :
    declared.typeNames.length =
      declared.typedefs.length + declared.enums.length + declared.bitflags.length +
        declared.callbacks.length + declared.structs.length + declared.objects.length := by
  simp [typeNames, Universe.declarations, Nat.add_assoc]

theorem ResolvedEnum.entry_of_distinct {slots : List ResolvedSlot}
    (distinct : (slots.filterMap ResolvedSlot.name).Nodup) {slot : ResolvedSlot} {name : String}
    (member : slot ∈ slots) (named : slot.name = some name) :
    slots.find? (fun candidate => candidate.name == some name) = some slot := by
  induction slots with
  | nil => cases member
  | cons first rest ih =>
      rcases List.mem_cons.mp member with rfl | later
      · rw [List.find?_cons_of_pos (by simp [named])]
      · -- Whatever stands first is a gap or has another name, so the search goes on.
        have occurs : name ∈ rest.filterMap ResolvedSlot.name :=
          List.mem_filterMap.mpr ⟨slot, later, named⟩
        cases own : first.name with
        | none =>
            rw [List.filterMap_cons_none own] at distinct
            rw [List.find?_cons_of_neg (by simp [own])]
            exact ih distinct later
        | some other =>
            rw [List.filterMap_cons_some own, List.nodup_cons] at distinct
            have different : other ≠ name := fun same => distinct.1 (same ▸ occurs)
            rw [List.find?_cons_of_neg (by simp [own, different])]
            exact ih distinct.2 later

/-- Numbering keeps the names of the entries that are written. -/
theorem Numbering.names_of_slots (counters : Counters) (placed : List PlacedSlot) :
    (List.zipWith resolveSlot placed (numbers counters placed)).filterMap ResolvedSlot.name =
      entryNames placed := by
  induction placed generalizing counters with
  | nil => rfl
  | cons slot rest ih =>
      simp only [numbers, List.zipWith_cons_cons, List.filterMap_cons, entryNames, resolveSlot]
      rw [ih]
      rfl

namespace Model

/-- Each declaration is registered under its own name, and the names of every other scope that is
asked differ from each other. -/
structure Distinct (model : Model) : Prop where
  registered : ∀ kind index declaration, (model.arena kind)[index]? = some declaration →
    Primitive.parse? declaration.name = none ∧
      model.declared.get? declaration.name = some ⟨kind, index⟩
  slots : ∀ enum ∈ model.enums, (enum.slots.filterMap ResolvedSlot.name).Nodup
  masks : ∀ bitflag ∈ model.bitflags, (bitflag.masks.map ResolvedMask.name).Nodup
  constants : (model.constants.map ResolvedConstant.name).Nodup

/-- Every record is found under its own name, and no name is registered besides. -/
structure FindsOwn (model : Model) : Prop where
  declarations : ∀ kind, ∀ declaration ∈ model.arena kind,
    model.lookup declaration.name = some declaration
  size : model.declared.size =
    model.typedefs.length + model.enums.length + model.bitflags.length +
      model.callbacks.length + model.structs.length + model.objects.length
  slots : ∀ enum ∈ model.enums, ∀ slot ∈ enum.slots, ∀ name, slot.name = some name →
    model.enumValue? enum.name name = slot.value ∧
      model.qualifiedEnumValue? enum.name name = slot.qualified
  masks : ∀ bitflag ∈ model.bitflags, ∀ mask ∈ bitflag.masks,
    model.maskValue? bitflag.name mask.name = mask.value
  constants : ∀ constant ∈ model.constants,
    model.constantValue? constant.name = constant.resolved
  members : ∀ struct ∈ model.structs, model.members? struct.name = some struct.members

variable {model : Model}

theorem Distinct.lookup_own (distinct : model.Distinct) (kind : TypeKind)
    {declaration : Declaration} (member : declaration ∈ model.arena kind) :
    model.lookup declaration.name = some declaration := by
  obtain ⟨index, found⟩ := List.mem_iff_getElem?.mp member
  obtain ⟨ordinary, registered⟩ := distinct.registered kind index declaration found
  rw [lookup, ordinary]
  simp only [registered, Option.bind_some, declaration_eq_arena, found]

theorem Distinct.enum_own (distinct : model.Distinct) {enum : ResolvedEnum}
    (member : enum ∈ model.enums) : model.enum? enum.name = some enum := by
  have own : model.lookup enum.name = some (.enum enum) :=
    distinct.lookup_own .enum (List.mem_map_of_mem member)
  rw [enum?, own]

theorem Distinct.bitflag_own (distinct : model.Distinct) {bitflag : ResolvedBitflag}
    (member : bitflag ∈ model.bitflags) : model.bitflag? bitflag.name = some bitflag := by
  have own : model.lookup bitflag.name = some (.bitflag bitflag) :=
    distinct.lookup_own .bitflag (List.mem_map_of_mem member)
  rw [bitflag?, own]

theorem Distinct.members_own (distinct : model.Distinct) {struct : StructDecl}
    (member : struct ∈ model.structs) : model.members? struct.name = some struct.members := by
  obtain ⟨index, found⟩ := List.mem_iff_getElem?.mp member
  have placed : (model.arena .struct)[index]? = some (.struct struct) := by
    rw [arena, List.getElem?_map, found]
    rfl
  have registered : model.declared.get? struct.name = some ⟨.struct, index⟩ :=
    (distinct.registered .struct index _ placed).2
  simp [members?, structIndex?, registered, found]

theorem Distinct.slot_own (distinct : model.Distinct) {enum : ResolvedEnum}
    (member : enum ∈ model.enums) {slot : ResolvedSlot} (among : slot ∈ enum.slots)
    {name : String} (named : slot.name = some name) :
    model.enumSlot? enum.name name = some slot := by
  rw [enumSlot?, distinct.enum_own member, Option.bind_some]
  exact ResolvedEnum.entry_of_distinct (distinct.slots enum member) among named

theorem Distinct.mask_own (distinct : model.Distinct) {bitflag : ResolvedBitflag}
    (member : bitflag ∈ model.bitflags) {mask : ResolvedMask} (among : mask ∈ bitflag.masks) :
    model.maskValue? bitflag.name mask.name = mask.value := by
  have found : bitflag.mask? mask.name = some mask :=
    (find_eq_some_iff_of_distinct (distinct.masks bitflag member)).mpr ⟨among, rfl⟩
  rw [maskValue?, distinct.bitflag_own member, Option.bind_some, ResolvedBitflag.valueOf?, found,
    Option.bind_some]

theorem Distinct.constant_own (distinct : model.Distinct) {constant : ResolvedConstant}
    (member : constant ∈ model.constants) :
    model.constantValue? constant.name = constant.resolved := by
  rw [constantValue?, (find_eq_some_iff_of_distinct distinct.constants).mpr ⟨member, rfl⟩,
    Option.bind_some]

end Model

namespace Resolver

open Declared

variable {config : Config} {documents : List Document}

theorem registered_own (clean : Clean config documents) (kind : TypeKind) (index : Nat)
    {declaration : Declaration}
    (found : ((resolve config documents).partialModel.arena kind)[index]? = some declaration) :
    Primitive.parse? declaration.name = none ∧
      (declaredTypes documents).get? declaration.name = some ⟨kind, index⟩ := by
  have named : ((ofDocuments documents).namesOf kind)[index]? = some declaration.name := by
    rw [← names_of_arena config, List.getElem?_map, found]
    rfl
  have member : (declaration.name, (⟨kind, index⟩ : DeclRef)) ∈ (ofDocuments documents).typeNames :=
    mem_type_names.mpr named
  have registered := Universe.get_register_of_mem clean.registration member
  exact ⟨Universe.ordinary_of_get_register registered, registered⟩

theorem size_of_declared (clean : Clean config documents) :
    (declaredTypes documents).size = (ofDocuments documents).typeNames.length := by
  have counted := Universe.size_register {} (ofDocuments documents).typeNames
  have quiet : (({} : Universe).register (ofDocuments documents).typeNames).2 = [] :=
    clean.registration
  rw [quiet] at counted
  simpa [Universe.size, declaredTypes] using counted

theorem slots_distinct (clean : Clean config documents) :
    ∀ enum ∈ (resolve config documents).partialModel.enums,
      (enum.slots.filterMap ResolvedSlot.name).Nodup := by
  rw [resolve_enums, List.forall_mem_map]
  intro group written
  have quiet := clean.enums group written
  simp only [Numbering.resolve, List.append_eq_nil_iff] at quiet
  simp only [Numbering.resolve, Numbering.names_of_slots]
  exact (Uniqueness.problems_eq_nil_iff _ _ _).mp quiet.1

theorem masks_distinct (clean : Clean config documents) :
    ∀ bitflag ∈ (resolve config documents).partialModel.bitflags,
      (bitflag.masks.map ResolvedMask.name).Nodup := by
  rw [resolve_bitflags, List.forall_mem_map]
  intro group written
  have quiet := clean.bitflags group written
  rw [BitflagDecl.resolve_diagnostics, List.forall_mem_append, no_error_iff] at quiet
  simp only [BitflagDecl.ownProblems, List.append_eq_nil_iff] at quiet
  rw [MaskDependency.resolved_mask_names]
  exact (Uniqueness.problems_eq_nil_iff _ _ _).mp quiet.1.1.1

theorem constants_distinct (clean : Clean config documents) :
    ((resolve config documents).partialModel.constants.map ResolvedConstant.name).Nodup := by
  have quiet := clean.names
  simp only [nameProblems, List.append_eq_nil_iff] at quiet
  have distinct := (Uniqueness.problems_eq_nil_iff _ _ _).mp quiet.1.1.1.1.1
  simp only [resolve, List.map_map]
  exact distinct

theorem model_distinct (clean : Clean config documents) :
    (resolve config documents).partialModel.Distinct where
  registered := fun kind index _ found => registered_own clean kind index found
  slots := slots_distinct clean
  masks := masks_distinct clean
  constants := constants_distinct clean

/-- A report without errors hands out a model in which every record is found under its own
name. -/
theorem finds_own_of_no_errors (config : Config) (documents : List Document)
    (quiet : (resolve config documents).report.hasErrors = false) :
    ∃ model, (resolve config documents).model? = some model ∧ model.FindsOwn := by
  have clean := clean_of_no_errors quiet
  have distinct := model_distinct clean
  refine ⟨_, Resolution.model_of_no_errors quiet, ?_⟩
  constructor
  case declarations => exact fun kind _ member => distinct.lookup_own kind member
  case size =>
    rw [resolve_declared, size_of_declared clean, type_names_length]
    simp only [resolve, List.length_map]
  case slots =>
    intro enum member slot among name named
    have own := distinct.slot_own member among named
    rw [Model.enumValue?, Model.qualifiedEnumValue?, own]
    exact ⟨rfl, rfl⟩
  case masks => exact fun _ member _ among => distinct.mask_own member among
  case constants => exact fun _ member => distinct.constant_own member
  case members => exact fun _ member => distinct.members_own member

def recordedDocuments : List Document :=
  [{ name := "core"
     enums := [{ name := "Status", slots := [some { name := "ok" }, none] }]
     constants := [{ name := "whole", value := .symbol .usizeMax }]
     structs := [{ name := "Options", role := .base .into
                   members := [{ name := "status", type := "enum.Status" }] }] },
   { name := "later"
     block := "0x0001"
     enums := [{ name := "Status", extended := true, slots := [some { name := "late" }] }]
     bitflags := [{ name := "Usage"
                    entries := [{ name := "read", value := some (.unsigned 1) },
                      { name := "all", combination := some ["read"] }] }] }]

theorem recorded_documents_found :
    (resolve {} recordedDocuments).report.hasErrors = false ∧
      ∃ model, (resolve {} recordedDocuments).model? = some model ∧ model.FindsOwn :=
  ⟨by decide, finds_own_of_no_errors {} recordedDocuments (by decide)⟩

end Resolver

end InterfaceSchema
