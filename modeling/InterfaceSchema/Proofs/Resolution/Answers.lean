import InterfaceSchema.Proofs.Resolution.Order

/-!
Answers to questions by name. Indices appear in no answer, so documents without errors give the same
answers in every order of their declarations; only the extensions of a struct follow that order.
-/

namespace InterfaceSchema

set_option autoImplicit false

namespace Model

def struct? (model : Model) (name : String) : Option StructDecl :=
  (model.structIndex? name).bind fun index => model.structs[index]?

/-- Models that cannot be told apart by asking for names. Only the extensions of a struct may come
in another order. -/
structure AnswersAlike (model other : Model) : Prop where
  lookup : ∀ name, other.lookup name = model.lookup name
  constants : ∀ name, other.constantValue? name = model.constantValue? name
  members : ∀ struct, other.members? struct = model.members? struct
  masks : ∀ bitflag entry, other.maskValue? bitflag entry = model.maskValue? bitflag entry
  values : ∀ enum entry, other.enumValue? enum entry = model.enumValue? enum entry
  qualified : ∀ enum entry,
    other.qualifiedEnumValue? enum entry = model.qualifiedEnumValue? enum entry
  bases : ∀ struct, other.legalBases struct = model.legalBases struct
  extensions : ∀ struct, (other.chainableExtensions struct).Perm (model.chainableExtensions struct)
  types : ∀ type, Option.Rel (TypeTarget.Corresponds (SameDeclaration model other))
    (model.classify type) (other.classify type)

theorem members_of_struct (model : Model) (name : String) :
    model.members? name = (model.struct? name).map StructDecl.members := by
  unfold members? struct?
  rw [Option.map_bind]
  rfl

end Model

namespace Resolver

open Declared Classification

section Structs

variable {config : Config} {documents : List Document}

theorem structs_borne :
    Attachments.Borne (ofDocuments documents).structs (declaredTypes documents) := by
  intro name index registered
  have named := name_of_registered registered
  rw [nameAt?, namesOf, List.getElem?_map] at named
  exact named

theorem struct_eq_some_iff {name : String} {struct : StructDecl} :
    (resolve config documents).partialModel.struct? name = some struct ↔
      ∃ index, (declaredTypes documents).get? name = some ⟨.struct, index⟩ ∧
        (ofDocuments documents).structs[index]? = some struct := by
  simp only [Model.struct?, Option.bind_eq_some_iff, Model.struct_index_eq_some_iff]
  exact Iff.rfl

theorem legal_bases_of_clean (clean : Clean config documents) (name : String) :
    (resolve config documents).partialModel.legalBases name =
      (((resolve config documents).partialModel.struct? name).map StructDecl.bases).getD [] := by
  cases known : (resolve config documents).partialModel.structIndex? name with
  | none => simp only [Model.legalBases, Model.struct?, known, Option.bind_none, Option.map_none,
      Option.getD_none]
  | some index =>
      have inside := (aligned_model config documents).reads_inside
      obtain ⟨struct, found, _, _⟩ := inside.members name index known
      rw [resolve_structs] at found
      have quiet := List.flatMap_eq_nil_iff.mp clean.attachments struct
        (List.mem_of_getElem? found)
      have written := Attachments.names_of_bases (structs_registered clean.registration)
        structs_borne quiet
      have bases : (resolve config documents).partialModel.legalBases name = struct.bases := by
        apply List.map_injective_iff.mpr (Option.some_injective String)
        rw [inside.bases name index known, resolve_attachments,
          Attachments.bases_of_resolve (declaredTypes documents) found]
        exact written
      rw [bases, Model.struct?, known, Option.bind_some, resolve_structs, found]
      rfl

theorem chainable_extensions_of_clean (clean : Clean config documents) (name : String) :
    (resolve config documents).partialModel.chainableExtensions name =
      if ((resolve config documents).partialModel.struct? name).isSome then
        ((ofDocuments documents).structs.filter fun struct => struct.bases.contains name).map
          StructDecl.name
      else [] := by
  cases known : (resolve config documents).partialModel.structIndex? name with
  | none => simp only [Model.chainableExtensions, Model.struct?, known, Option.bind_none,
      Option.isSome_none, Bool.false_eq_true, if_false]
  | some index =>
      have inside := (aligned_model config documents).reads_inside
      obtain ⟨struct, found, _, _⟩ := inside.members name index known
      rw [resolve_structs] at found
      have bound := (List.getElem?_eq_some_iff.mp found).1
      have leads := Model.struct_index_eq_some_iff.mp known
      have naming := Attachments.names_of_extensions (structs_registered clean.registration)
        structs_borne (List.flatMap_eq_nil_iff.mp clean.attachments) leads
      have held : (resolve config documents).partialModel.struct? name = some struct := by
        rw [Model.struct?, known, Option.bind_some, resolve_structs, found]
      rw [held, Option.isSome_some, if_pos rfl]
      apply List.map_injective_iff.mpr (Option.some_injective String)
      rw [inside.extensions name index known, resolve_attachments,
        Attachments.extensions_of_resolve (declaredTypes documents) bound,
        Attachments.resolve_bases]
      exact naming

end Structs

section Answers

variable (config : Config) {documents others : List Document}
  (reordered : (ofDocuments documents).Reordered (ofDocuments others))

include reordered

theorem lookup_of_reordered (quiet : registrationProblems documents = []) (name : String) :
    (resolve config others).partialModel.lookup name =
      (resolve config documents).partialModel.lookup name := by
  unfold Model.lookup
  rw [resolve_declared, resolve_declared]
  cases registered : (declaredTypes documents).get? name with
  | none => rw [unregistered_of_reordered reordered registered]; rfl
  | some decl =>
      obtain ⟨counterpart, known, _, declaration, here, there⟩ :=
        types_correspond config reordered quiet name decl registered
      rw [known, Option.bind_some, Option.bind_some, here, there]

theorem struct_of_reordered (quiet : registrationProblems documents = []) (name : String) :
    (resolve config others).partialModel.struct? name =
      (resolve config documents).partialModel.struct? name := by
  apply Option.ext
  intro struct
  rw [struct_eq_some_iff, struct_eq_some_iff]
  constructor
  · rintro ⟨place, registered, found⟩
    have still := registration_of_reordered reordered quiet
    exact structs_correspond reordered.symm still registered found
  · rintro ⟨index, registered, found⟩
    exact structs_correspond reordered quiet registered found

theorem constant_of_reordered (quiet : nameProblems (ofDocuments documents) = [])
    (name : String) :
    (resolve config others).partialModel.constantValue? name =
      (resolve config documents).partialModel.constantValue? name := by
  simp only [nameProblems, List.append_eq_nil_iff, Uniqueness.problems_eq_nil_iff] at quiet
  obtain ⟨⟨⟨⟨⟨written, _⟩, _⟩, _⟩, _⟩, _⟩ := quiet
  have distinct : (((ofDocuments documents).constants.map
      (resolveConstant config.pointerWidth)).map ResolvedConstant.name).Nodup := by
    rw [List.map_map]
    exact written
  have found := find_of_perm (reordered.constants.map (resolveConstant config.pointerWidth))
    distinct name
  exact congrArg (fun constant => constant.bind ResolvedConstant.resolved) found

theorem classify_of_reordered (quiet : registrationProblems documents = []) {type : String}
    {target : TypeTarget}
    (known : (resolve config documents).partialModel.classify type = some target) :
    ∃ counterpart, (resolve config others).partialModel.classify type = some counterpart ∧
      target.Corresponds (Model.SameDeclaration (resolve config documents).partialModel
        (resolve config others).partialModel) counterpart := by
  rw [resolve_classify, target_eq_some_iff] at known
  have means := means_of_type known
  obtain ⟨counterpart, kept, _, same⟩ :=
    means.corresponding (types_correspond config reordered quiet)
  refine ⟨counterpart, ?_, same⟩
  rw [resolve_classify, target_eq_some_iff]
  exact of_type_of_means kept

theorem types_of_reordered (quiet : registrationProblems documents = []) (type : String) :
    Option.Rel
      (TypeTarget.Corresponds (Model.SameDeclaration (resolve config documents).partialModel
        (resolve config others).partialModel))
      ((resolve config documents).partialModel.classify type)
      ((resolve config others).partialModel.classify type) := by
  cases known : (resolve config documents).partialModel.classify type with
  | some target =>
      obtain ⟨counterpart, moved, same⟩ := classify_of_reordered config reordered quiet known
      rw [moved]
      exact .some same
  | none =>
      cases other : (resolve config others).partialModel.classify type with
      | none => exact .none
      | some target =>
          -- What has a meaning there has one here, where the order is the former one.
          have still := registration_of_reordered reordered quiet
          obtain ⟨_, back, _⟩ := classify_of_reordered config reordered.symm still other
          rw [known] at back
          cases back

variable {config}

theorem answers_of_reordered (clean : Clean config documents) :
    (resolve config documents).partialModel.AnswersAlike (resolve config others).partialModel := by
  have lookup := lookup_of_reordered config reordered clean.registration
  have struct := struct_of_reordered config reordered clean.registration
  have still := clean_of_reordered reordered clean
  constructor
  case lookup => exact lookup
  case constants => exact constant_of_reordered config reordered clean.names
  case members =>
    intro name
    rw [Model.members_of_struct, Model.members_of_struct, struct]
  case masks =>
    intro bitflag entry
    simp only [Model.maskValue?, Model.bitflag?, lookup]
  case values =>
    intro enum entry
    simp only [Model.enumValue?, Model.enumSlot?, Model.enum?, lookup]
  case qualified =>
    intro enum entry
    simp only [Model.qualifiedEnumValue?, Model.enumSlot?, Model.enum?, lookup]
  case bases =>
    intro name
    rw [legal_bases_of_clean clean, legal_bases_of_clean still, struct]
  case extensions =>
    intro name
    rw [chainable_extensions_of_clean clean, chainable_extensions_of_clean still, struct]
    split
    · exact (reordered.structs.filter _).map StructDecl.name
    · exact List.Perm.refl _
  case types => exact types_of_reordered config reordered clean.registration

end Answers

/-- Whether there are errors does not depend on the order of declarations, and where there are none,
no answer depends on it either. -/
theorem resolve_reordered (config : Config) {documents others : List Document}
    (reordered : List.Forall₂ Document.Reordered documents others) :
    ((resolve config others).report.hasErrors = false ↔
        (resolve config documents).report.hasErrors = false) ∧
      ((resolve config documents).report.hasErrors = false →
        (resolve config documents).partialModel.AnswersAlike
          (resolve config others).partialModel) := by
  have moved := reordered_of_documents reordered
  refine ⟨⟨?_, ?_⟩, ?_⟩
  · intro quiet
    exact no_errors_iff_clean.mpr (clean_of_reordered moved.symm (clean_of_no_errors quiet))
  · intro quiet
    exact no_errors_iff_clean.mpr (clean_of_reordered moved (clean_of_no_errors quiet))
  · intro quiet
    exact answers_of_reordered moved (clean_of_no_errors quiet)

/-- Two documents that both contribute to an enum and to an object. -/
def orderedDocuments : List Document :=
  [{ name := "core"
     constants := [{ name := "depth", value := .unsigned 4 },
       { name := "whole", value := .symbol .usizeMax }]
     typedefs := [{ name := "Handle", target := "uint64" }, { name := "Count", target := "usize" }]
     enums := [{ name := "Status", slots := [some { name := "ok" }, none] }, { name := "Mode" },
       { name := "Status", extended := true, slots := [some { name := "lost" }] }]
     bitflags := [{ name := "Usage"
                    entries := [{ name := "all", combination := some ["read", "write"] },
                      { name := "read", value := some (.unsigned 1) }] },
       { name := "Usage", extended := true
         entries := [{ name := "write", value := some (.unsigned 2) }] },
       { name := "Access" }]
     callbacks := [{ name := "Done", arguments := [{ name := "code", type := "Count" }] },
       { name := "Tick" }]
     structs := [{ name := "Options", role := .base .into },
       { name := "Tuning", role := .extension .into, bases := ["Options"]
         members := [{ name := "usage", type := "bitflag.Usage" }] },
       { name := "Limits", role := .extension .into, bases := ["Options"] }]
     functions := [{ name := "start", completion := some "Done" }, { name := "stop" }]
     objects := [{ name := "Device"
                   methods := [{ name := "modes", returns := some { type := "array<Mode>" } }] },
       { name := "Queue" }] },
   { name := "later"
     block := "0x0001"
     enums := [{ name := "Status", extended := true, slots := [some { name := "late" }] }]
     objects := [{ name := "Device", extended := true
                   methods := [{ name := "close" }] }] }]

/-- The same documents with neighbours exchanged in every list of the first one. An extension now
comes before the struct that it names. -/
def reorderedDocuments : List Document :=
  [{ name := "core"
     constants := [{ name := "whole", value := .symbol .usizeMax },
       { name := "depth", value := .unsigned 4 }]
     typedefs := [{ name := "Count", target := "usize" }, { name := "Handle", target := "uint64" }]
     enums := [{ name := "Mode" }, { name := "Status", slots := [some { name := "ok" }, none] },
       { name := "Status", extended := true, slots := [some { name := "lost" }] }]
     bitflags := [{ name := "Usage"
                    entries := [{ name := "all", combination := some ["read", "write"] },
                      { name := "read", value := some (.unsigned 1) }] },
       { name := "Access" },
       { name := "Usage", extended := true
         entries := [{ name := "write", value := some (.unsigned 2) }] }]
     callbacks := [{ name := "Tick" },
       { name := "Done", arguments := [{ name := "code", type := "Count" }] }]
     structs := [{ name := "Tuning", role := .extension .into, bases := ["Options"]
                   members := [{ name := "usage", type := "bitflag.Usage" }] },
       { name := "Options", role := .base .into },
       { name := "Limits", role := .extension .into, bases := ["Options"] }]
     functions := [{ name := "stop" }, { name := "start", completion := some "Done" }]
     objects := [{ name := "Queue" },
       { name := "Device"
         methods := [{ name := "modes", returns := some { type := "array<Mode>" } }] }] },
   { name := "later"
     block := "0x0001"
     enums := [{ name := "Status", extended := true, slots := [some { name := "late" }] }]
     objects := [{ name := "Device", extended := true
                   methods := [{ name := "close" }] }] }]

theorem reordered_documents_alike :
    List.Forall₂ Document.Reordered orderedDocuments reorderedDocuments ∧
      (resolve {} orderedDocuments).report.hasErrors = false ∧
      (resolve {} reorderedDocuments).report.hasErrors = false ∧
      (resolve {} orderedDocuments).partialModel.AnswersAlike
        (resolve {} reorderedDocuments).partialModel := by
  have reordered : List.Forall₂ Document.Reordered orderedDocuments reorderedDocuments := by
    refine .cons ?_ (.cons ?_ .nil)
    · constructor
      case enums => exact .swap [] _ (by decide)
      case bitflags => exact .swap [_] _ (by decide)
      case objects => exact .swap [] _ (by decide)
      case constants | typedefs | callbacks | structs | functions => exact .swap _ _ _
      all_goals rfl
    · constructor
      case enums | bitflags | objects => exact .refl _
      all_goals rfl
  have quiet : (resolve {} orderedDocuments).report.hasErrors = false := by decide
  obtain ⟨errors, answers⟩ := resolve_reordered {} reordered
  exact ⟨reordered, quiet, errors.mpr quiet, answers quiet⟩

end Resolver

end InterfaceSchema
