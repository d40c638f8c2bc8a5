import InterfaceSchema.Proofs.Attachment.Written
import InterfaceSchema.Proofs.Growth
import InterfaceSchema.Proofs.Reference.Correspondence
import InterfaceSchema.Proofs.Reordering
import InterfaceSchema.Proofs.Resolution.Alignment
import InterfaceSchema.Proofs.Resolution.Values

/-!
The order of declarations. Indices change with the order in which declarations are written, and so
do the universe, the references and the attachments. But where no name is refused, every name leads
to the declaration that it led to before, so documents without errors have none in any order that
keeps declarations of one name as they follow each other.
-/

namespace InterfaceSchema

set_option autoImplicit false

namespace Model

/-- References that lead to the same declaration, each in its own model. -/
def SameDeclaration (model other : Model) (decl counterpart : DeclRef) : Prop :=
  ∃ declaration, model.declaration? decl = some declaration ∧
    other.declaration? counterpart = some declaration

variable {model other : Model} {index place : Nat}

theorem SameDeclaration.typedef
    (same : SameDeclaration model other ⟨.typedef, index⟩ ⟨.typedef, place⟩) :
    other.typedefs[place]? = model.typedefs[index]? := by
  obtain ⟨declaration, here, there⟩ := same
  exact Option.map_injective (fun _ _ => Declaration.typedef.inj) (there.trans here.symm)

theorem SameDeclaration.struct
    (same : SameDeclaration model other ⟨.struct, index⟩ ⟨.struct, place⟩) :
    other.structs[place]? = model.structs[index]? := by
  obtain ⟨declaration, here, there⟩ := same
  exact Option.map_injective (fun _ _ => Declaration.struct.inj) (there.trans here.symm)

end Model

namespace Resolver

open Declared

section Registration

variable (config : Config) {documents others : List Document}
  (reordered : (ofDocuments documents).Reordered (ofDocuments others))

include reordered

theorem arena_perm (kind : TypeKind) :
    ((resolve config others).partialModel.arena kind).Perm
      ((resolve config documents).partialModel.arena kind) := by
  have enums : (resolve config others).partialModel.enums.Perm
      (resolve config documents).partialModel.enums := by
    simp only [resolve, reordered.blocks]
    exact (reordered.enums.map _).map _
  cases kind with
  | typedef => exact reordered.typedefs.map _
  | enum => exact enums.map _
  | bitflag => exact ((reordered.bitflags.map _).map _).map _
  | callback => exact reordered.callbacks.map _
  | struct => exact reordered.structs.map _
  | object => exact reordered.objects.map _

theorem registration_of_reordered (quiet : registrationProblems documents = []) :
    registrationProblems others = [] := by
  obtain ⟨ordinary, distinct⟩ := Universe.register_quiet_iff.mp quiet
  refine Universe.register_quiet_iff.mpr ⟨?_, reordered.registered.nodup_iff.mpr distinct⟩
  intro name member
  exact ordinary name (reordered.registered.mem_iff.mp member)

theorem unregistered_of_reordered {name : String}
    (unknown : (declaredTypes documents).get? name = none) :
    (declaredTypes others).get? name = none := by
  rw [declaredTypes, Universe.get_register_eq_none_iff, reordered.registered.mem_iff]
  exact Universe.get_register_eq_none_iff.mp unknown

/-- A name leads to the same declaration, although its index may be another one. -/
theorem types_correspond (quiet : registrationProblems documents = []) :
    (declaredTypes documents).Corresponds
      (Model.SameDeclaration (resolve config documents).partialModel
        (resolve config others).partialModel) (declaredTypes others) := by
  intro name decl registered
  have still := registration_of_reordered reordered quiet
  have named := name_of_registered registered
  have member : name ∈ (ofDocuments others).namesOf decl.kind :=
    (reordered.names decl.kind).mem_iff.mpr (List.mem_of_getElem? named)
  obtain ⟨place, found⟩ := List.mem_iff_getElem?.mp member
  have moved : (declaredTypes others).get? name = some ⟨decl.kind, place⟩ :=
    Universe.get_register_of_mem still (mem_type_names.mpr found)
  refine ⟨⟨decl.kind, place⟩, moved, rfl, ?_⟩
  -- Both declarations bear the name, which only one declaration of the kind does.
  obtain ⟨first, here, _, firstName⟩ := declaration_of_registered config documents registered
  obtain ⟨second, there, _, secondName⟩ := declaration_of_registered config others moved
  have distinct : (((resolve config documents).partialModel.arena decl.kind).map
      Declaration.name).Nodup := by
    rw [names_of_arena]
    exact names_nodup quiet decl.kind
  have same : second = first := by
    rw [Model.declaration_eq_arena] at here there
    have kept := (arena_perm config reordered decl.kind).mem_iff.mp (List.mem_of_getElem? there)
    exact List.inj_on_of_nodup_map distinct kept (List.mem_of_getElem? here)
      (secondName.trans firstName.symm)
  exact ⟨first, here, same ▸ there⟩

theorem aliases_correspond (quiet : registrationProblems documents = []) :
    (declaredTypes documents).Corresponds
      (TypeField.SameAlias (scopeOf config documents) (scopeOf config others))
      (declaredTypes others) := by
  intro name decl registered
  obtain ⟨counterpart, known, kind, same⟩ := types_correspond config reordered quiet name decl
    registered
  refine ⟨counterpart, known, kind, kind, ?_⟩
  rcases decl with ⟨own, index⟩
  rcases counterpart with ⟨_, place⟩
  rintro rfl
  cases kind
  exact same.typedef

theorem structs_correspond (quiet : registrationProblems documents = []) {name : String}
    {index : Nat} {struct : StructDecl}
    (registered : (declaredTypes documents).get? name = some ⟨.struct, index⟩)
    (found : (ofDocuments documents).structs[index]? = some struct) :
    ∃ place, (declaredTypes others).get? name = some ⟨.struct, place⟩ ∧
      (ofDocuments others).structs[place]? = some struct := by
  obtain ⟨⟨_, place⟩, known, kind, same⟩ := types_correspond {} reordered quiet name _ registered
  cases kind
  exact ⟨place, known, same.struct.trans found⟩

end Registration

section Stages

variable {documents others : List Document}
  (reordered : (ofDocuments documents).Reordered (ofDocuments others))

include reordered

theorem merges_of_reordered (quiet : mergeProblems (ofDocuments documents) = []) :
    mergeProblems (ofDocuments others) = [] := by
  simp only [mergeProblems, List.append_eq_nil_iff] at quiet ⊢
  obtain ⟨⟨enums, bitflags⟩, objects⟩ := quiet
  exact ⟨⟨flat_map_nil_of_perm reordered.enums enums,
    flat_map_nil_of_perm reordered.bitflags bitflags⟩,
    flat_map_nil_of_perm reordered.objectGroups objects⟩

theorem names_of_reordered (quiet : nameProblems (ofDocuments documents) = []) :
    nameProblems (ofDocuments others) = [] := by
  simp only [nameProblems, List.append_eq_nil_iff, Uniqueness.problems_eq_nil_iff] at quiet ⊢
  obtain ⟨⟨⟨⟨⟨constants, functions⟩, callbacks⟩, structs⟩, ofFunctions⟩, objects⟩ := quiet
  refine ⟨⟨⟨⟨⟨?_, ?_⟩, ?_⟩, ?_⟩, ?_⟩, ?_⟩
  · exact (reordered.constants.map ConstantDecl.name).nodup_iff.mpr constants
  · exact (reordered.functions.map FunctionDecl.name).nodup_iff.mpr functions
  · exact flat_map_nil_of_perm reordered.callbacks callbacks
  · exact flat_map_nil_of_perm reordered.structs structs
  · exact flat_map_nil_of_perm reordered.functions ofFunctions
  · exact flat_map_nil_of_perm reordered.objects objects

theorem attachments_of_reordered (registration : registrationProblems documents = [])
    (quiet : (Attachments.resolve (ofDocuments documents).structs
      (declaredTypes documents)).2 = []) :
    (Attachments.resolve (ofDocuments others).structs (declaredTypes others)).2 = [] := by
  have own : ∀ struct ∈ (ofDocuments documents).structs,
      Attachments.problemsOfStruct (ofDocuments documents).structs (declaredTypes documents)
        struct = [] := List.flatMap_eq_nil_iff.mp quiet
  refine List.flatMap_eq_nil_iff.mpr ?_
  intro struct member
  have before := own struct (reordered.structs.mem_iff.mp member)
  apply Attachments.problems_of_moved (structs_registered registration) before
  intro name index base
  exact structs_correspond reordered registration

/-- No stage tells an error where none did before. -/
theorem clean_of_reordered {config : Config} (clean : Clean config documents) :
    Clean config others where
  blocks := by
    rw [block_problems_eq_nil_iff, reordered.blocks]
    exact block_problems_eq_nil_iff.mp clean.blocks
  merges := merges_of_reordered reordered clean.merges
  registration := registration_of_reordered reordered clean.registration
  names := names_of_reordered reordered clean.names
  fields := by
    intro field member
    have before := clean.fields field (reordered.fields.mem_iff.mp member)
    have forms : (scopeOf config others).qualified = (scopeOf config documents).qualified := rfl
    exact TypeField.problems_of_corresponds forms
      (aliases_correspond config reordered clean.registration) before
  attachments := attachments_of_reordered reordered clean.registration clean.attachments
  bitflags := by
    intro group member
    exact clean.bitflags group (reordered.bitflags.mem_iff.mp member)
  enums := by
    intro group member
    rw [reordered.blocks]
    exact clean.enums group (reordered.enums.mem_iff.mp member)
  constants := by
    intro constant member
    exact clean.constants constant (reordered.constants.mem_iff.mp member)

end Stages

end Resolver

end InterfaceSchema
