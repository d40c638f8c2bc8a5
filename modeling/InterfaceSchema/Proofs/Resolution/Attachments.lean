import InterfaceSchema.Proofs.Resolution.Answers
import Mathlib.Logic.Relation

/-!
Attachments of the model, whatever the report says. A struct is attached to exactly the bases that
it names and may extend. Both sides tell the same pairs: the bases of a struct in the order in which
it names them, its extensions in the order of their declarations. No struct is on both sides, so
attachments never form a chain. Without errors every base that is written is attached.
-/

namespace InterfaceSchema

set_option autoImplicit false

theorem Direction.accepts_iff {base extension : Direction} :
    base.accepts extension = true ↔ base = extension ∨ base = .both ∨ extension = .both := by
  cases base <;> cases extension <;> decide

namespace Attachments

theorem fits_iff {role : StructRole} {direction : Direction} :
    fits role direction = true ↔
      ∃ own, role = .base own ∧ (own = direction ∨ own = .both ∨ direction = .both) := by
  cases role <;> simp [fits, Direction.accepts_iff]

section Sides

variable {structs : List StructDecl} {declared : Universe}

theorem mem_bases_of_resolve {extension base : Nat} :
    base ∈ (resolve structs declared).1.basesOf extension ↔
      ∃ struct, structs[extension]? = some struct ∧
        base ∈ basesOfStruct structs declared struct := by
  constructor
  · intro member
    cases found : structs[extension]? with
    | none => simp [basesOf, resolve_bases, found] at member
    | some struct =>
        rw [bases_of_resolve declared found] at member
        exact ⟨struct, rfl, member⟩
  · rintro ⟨struct, found, member⟩
    rw [bases_of_resolve declared found]
    exact member

theorem linked_base (struct : StructDecl) (direction : Direction) (name : String) :
    (link structs declared struct direction name).base? =
      (baseIndex? declared name).filter fun index =>
        (structs[index]?).any fun base => fits base.role direction := by
  apply Option.ext
  intro index
  rw [Link.base_eq_some_iff, link_eq_attached_iff, Option.filter_eq_some_iff,
    base_index_eq_some_iff, Option.any_eq_true]
  constructor
  · rintro ⟨base, leads, found, fit⟩
    exact ⟨leads, base, found, fit⟩
  · rintro ⟨leads, base, found, fit⟩
    exact ⟨base, leads, found, fit⟩

theorem bases_of_struct_sublist (struct : StructDecl) :
    (basesOfStruct structs declared struct).Sublist
      (struct.bases.filterMap (baseIndex? declared)).eraseDups := by
  unfold basesOfStruct links
  cases role : struct.role with
  | base direction => exact List.nil_sublist _
  | standalone => exact List.nil_sublist _
  | extension direction =>
      simp only [List.filterMap_map, Function.comp_def, linked_base]
      rw [← List.filter_filterMap, erase_dups_filter]
      exact List.filter_sublist

theorem rows_flat_map {count : Nat} {rows : List (List Nat)} (length : rows.length = count) :
    (List.range count).flatMap (fun index => (rows[index]?).getD []) = rows.flatten := by
  have own : (List.range count).map (fun index => (rows[index]?).getD []) = rows := by
    apply List.ext_getElem
    · rw [List.length_map, List.length_range, length]
    · intro index here there
      simp [there]
  rw [List.flatMap_def, own]

end Sides

end Attachments

namespace Model

theorem struct_index_eq (model : Model) :
    model.structIndex? = Attachments.baseIndex? model.declared := by
  funext name
  apply Option.ext
  intro index
  rw [struct_index_eq_some_iff, Attachments.base_index_eq_some_iff]

/-- A struct names another one as its base and may extend it: the one is an extension and the other
a base, and their directions are equal unless one of them is open to both. -/
def MayAttach (model : Model) (extension base : Nat) : Prop :=
  ∃ struct other direction own,
    model.structs[extension]? = some struct ∧ struct.role = .extension direction ∧
      (∃ name ∈ struct.bases, model.declared.get? name = some ⟨.struct, base⟩) ∧
      model.structs[base]? = some other ∧ other.role = .base own ∧
      (own = direction ∨ own = .both ∨ direction = .both)

structure AttachmentsExact (model : Model) : Prop where
  exact : ∀ extension base,
    base ∈ model.attachments.basesOf extension ↔ model.MayAttach extension base
  mirrored : ∀ extension base,
    base ∈ model.attachments.basesOf extension ↔
      extension ∈ model.attachments.extensionsOf base
  distinct : ∀ extension, (model.attachments.basesOf extension).Nodup
  written : ∀ extension struct, model.structs[extension]? = some struct →
    (model.attachments.basesOf extension).Sublist
      (struct.bases.filterMap model.structIndex?).eraseDups
  ascending : ∀ base, (model.attachments.extensionsOf base).Pairwise (· < ·)
  oneSided : ∀ index,
    model.attachments.basesOf index = [] ∨ model.attachments.extensionsOf index = []
  acyclic : ∀ index, ¬ Relation.TransGen
    (fun extension base => base ∈ model.attachments.basesOf extension) index index
  basesCount : model.attachments.edgeCount =
    ((List.range model.structs.length).flatMap model.attachments.basesOf).length
  extensionsCount : model.attachments.edgeCount =
    ((List.range model.structs.length).flatMap model.attachments.extensionsOf).length

end Model

namespace Resolver

open Declared Attachments

variable (config : Config) (documents : List Document)

theorem mem_bases_of_model {extension base : Nat} :
    base ∈ (resolve config documents).partialModel.attachments.basesOf extension ↔
      (resolve config documents).partialModel.MayAttach extension base := by
  rw [resolve_attachments, mem_bases_of_resolve]
  constructor
  · rintro ⟨struct, found, member⟩
    obtain ⟨direction, name, role, written, attached⟩ := mem_bases_of_struct.mp member
    obtain ⟨other, leads, placed, fit⟩ := link_eq_attached_iff.mp attached
    obtain ⟨own, otherRole, agree⟩ := fits_iff.mp fit
    exact ⟨struct, other, direction, own, found, role, ⟨name, written, leads⟩, placed, otherRole,
      agree⟩
  · rintro ⟨struct, other, direction, own, found, role, ⟨name, written, leads⟩, placed, otherRole,
      agree⟩
    have attached : link (ofDocuments documents).structs (declaredTypes documents) struct direction
        name = .attached base :=
      link_of_found leads placed (fits_iff.mpr ⟨own, otherRole, agree⟩)
    exact ⟨struct, found, mem_bases_of_struct.mpr ⟨direction, name, role, written, attached⟩⟩

variable {config documents} in
/-- An extension is no base, so what is attached has no extensions. -/
theorem bases_end {extension base : Nat}
    (attached : base ∈ (resolve config documents).partialModel.attachments.basesOf extension) :
    (resolve config documents).partialModel.attachments.basesOf base = [] := by
  obtain ⟨_, other, _, _, _, _, _, placed, otherRole, _⟩ :=
    (mem_bases_of_model config documents).mp attached
  rw [List.eq_nil_iff_forall_not_mem]
  intro further member
  obtain ⟨struct, _, _, _, found, role, _⟩ := (mem_bases_of_model config documents).mp member
  rw [placed] at found
  cases found
  rw [otherRole] at role
  cases role

/-- Whatever the report says, the attachments of the partial model are exactly the legal ones. -/
theorem attachments_exact : (resolve config documents).partialModel.AttachmentsExact := by
  have recorded := resolve_recorded (ofDocuments documents).structs (declaredTypes documents)
  have mirrored := recorded.mirrored
  constructor
  case exact => exact fun _ _ => mem_bases_of_model config documents
  case mirrored => exact mirrored
  case distinct => exact recorded.distinct
  case ascending => exact recorded.ascending
  case written =>
    intro extension struct found
    rw [resolve_structs] at found
    rw [Model.struct_index_eq, resolve_declared, resolve_attachments,
      bases_of_resolve (declaredTypes documents) found]
    exact bases_of_struct_sublist struct
  case oneSided =>
    intro index
    cases extensions :
        (resolve config documents).partialModel.attachments.extensionsOf index with
    | nil => exact Or.inr rfl
    | cons extension rest =>
        have member : extension ∈
            (resolve config documents).partialModel.attachments.extensionsOf index := by
          rw [extensions]
          exact List.mem_cons_self
        exact Or.inl (bases_end ((mirrored extension index).mpr member))
  case acyclic =>
    intro index cycle
    obtain ⟨base, first, _⟩ := Relation.TransGen.head'_iff.mp cycle
    obtain ⟨extension, _, last⟩ := Relation.TransGen.tail'_iff.mp cycle
    -- The struct would be attached to something and have something attached to it.
    rw [bases_end last] at first
    cases first
  case basesCount => exact congrArg List.length (rows_flat_map recorded.bases_length).symm
  case extensionsCount =>
    have flat := congrArg List.length (rows_flat_map recorded.extensions_length)
    exact (flat.trans recorded.counted).symm

/-- Without errors the extensions have bases and nothing else has any, and the answers on bases and
extensions say what is written. -/
theorem chains_as_written (quiet : (resolve config documents).report.hasErrors = false) :
    ∃ model, (resolve config documents).model? = some model ∧
      model.structs = documents.flatMap Document.structs ∧
      ∀ struct ∈ model.structs,
        (struct.bases ≠ [] ↔ struct.role.isExtension = true) ∧
        model.legalBases struct.name = struct.bases ∧
        model.chainableExtensions struct.name =
          ((documents.flatMap Document.structs).filter fun other =>
            struct.name ∈ other.bases).map StructDecl.name := by
  have clean := clean_of_no_errors quiet
  refine ⟨(resolve config documents).partialModel, Resolution.model_of_no_errors quiet, rfl, ?_⟩
  intro struct member
  obtain ⟨index, registered, found⟩ := structs_registered clean.registration struct member
  have known : (resolve config documents).partialModel.struct? struct.name = some struct :=
    struct_eq_some_iff.mpr ⟨index, registered, found⟩
  have own := List.flatMap_eq_nil_iff.mp clean.attachments struct member
  have placed := (problems_of_struct_eq_nil_iff.mp own).2.1
  refine ⟨placed.symm, ?_, ?_⟩
  · rw [legal_bases_of_clean clean, known]
    rfl
  · rw [chainable_extensions_of_clean clean, known, Option.isSome_some, if_pos rfl]
    simp only [List.contains_eq_mem]
    rfl

def chainedDocuments : List Document :=
  [{ name := "core"
     structs := [{ name := "Tuning", role := .extension .both, bases := ["Options", "Result"] },
       { name := "Options", role := .base .into },
       { name := "Plain", role := .standalone },
       { name := "Result", role := .base .out }] },
   { name := "later"
     structs := [{ name := "Limits", role := .extension .into, bases := ["Options"] }] }]

theorem chained_documents_answer :
    (resolve {} chainedDocuments).report.hasErrors = false ∧
      ∃ model, (resolve {} chainedDocuments).model? = some model ∧
        model.legalBases "Tuning" = ["Options", "Result"] ∧
        model.chainableExtensions "Options" = ["Tuning", "Limits"] ∧
        model.legalBases "Plain" = [] := by
  have quiet : (resolve {} chainedDocuments).report.hasErrors = false := by decide
  obtain ⟨model, available, written, chains⟩ := chains_as_written {} chainedDocuments quiet
  refine ⟨quiet, model, available, ?_, ?_, ?_⟩
  · exact (chains ⟨"Tuning", "", .extension .both, ["Options", "Result"], false, []⟩
      (by rw [written]; decide)).2.1
  · exact (chains ⟨"Options", "", .base .into, [], false, []⟩ (by rw [written]; decide)).2.2
  · exact (chains ⟨"Plain", "", .standalone, [], false, []⟩ (by rw [written]; decide)).2.1

end Resolver

end InterfaceSchema
