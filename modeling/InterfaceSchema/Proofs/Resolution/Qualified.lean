import InterfaceSchema.Proofs.Reference.Correspondence
import InterfaceSchema.Proofs.Reference.Forms
import InterfaceSchema.Proofs.Resolution.References

/-!
Documents with qualified forms refused and allowed. A qualified form binds before the name that is
spelled like it is looked up, so allowing the forms adds meanings and takes some away: a type string
keeps its meaning if and only if it is plain.
-/

namespace InterfaceSchema

set_option autoImplicit false

namespace Config

def refusing (config : Config) : Config := { config with qualified := false }

def allowing (config : Config) : Config := { config with qualified := true }

end Config

namespace TypeField

open Classification

variable {declared : Universe} {typedefs : List TypedefDecl} {field : TypeField}

theorem kept_of_plain (plain : Plain field.type)
    (quiet : field.problems ⟨declared, typedefs, false⟩ = []) :
    field.problems ⟨declared, typedefs, true⟩ = [] ∧
      field.reference? ⟨declared, typedefs, true⟩ =
        field.reference? ⟨declared, typedefs, false⟩ := by
  obtain ⟨target, known, fits⟩ := problems_eq_nil_iff.mp quiet
  have means := means_of_type (classify_resolved known)
  have still : field.classify ⟨declared, typedefs, true⟩ = .resolved target :=
    classify_of_type known (of_type_of_means (means.allowing plain))
  refine ⟨problems_eq_nil_iff.mpr ⟨target, still, fits⟩, ?_⟩
  simp only [reference?, known, still]

theorem plain_of_kept
    (named : ∀ name other decl, declared.get? name = some decl → declared.get? other = some decl →
      name = other)
    (quiet : field.problems ⟨declared, typedefs, false⟩ = [])
    (kept : field.reference? ⟨declared, typedefs, true⟩ =
      field.reference? ⟨declared, typedefs, false⟩) :
    Plain field.type := by
  obtain ⟨reference, known, _⟩ := reference_of_no_problem quiet
  obtain ⟨refusing, _, _⟩ := reference_eq_some_iff.mp known
  obtain ⟨allowing, _, _⟩ := reference_eq_some_iff.mp (kept.trans known)
  exact (means_of_type (classify_resolved refusing)).plain
    (means_of_type (classify_resolved allowing)) named

end TypeField

namespace Resolver

open Declared Classification

variable (config : Config) (documents : List Document)

theorem registered_once (name other : String) (decl : DeclRef)
    (registered : (declaredTypes documents).get? name = some decl)
    (again : (declaredTypes documents).get? other = some decl) : name = other := by
  have same := (name_of_registered registered).symm.trans (name_of_registered again)
  exact Option.some.inj same

/-- Only the resolution of type strings asks for the forms that are allowed. -/
theorem Clean.allowing {config : Config} {documents : List Document}
    (clean : Clean config.refusing documents)
    (fields : ∀ field ∈ (ofDocuments documents).typeFields,
      field.problems (scopeOf config.allowing documents) = []) :
    Clean config.allowing documents :=
  { clean with
    fields := fields }

theorem classify_kept_iff {type : String} {target : TypeTarget}
    (known : (resolve config.refusing documents).partialModel.classify type = some target) :
    (resolve config.allowing documents).partialModel.classify type = some target ↔ Plain type := by
  rw [resolve_classify, target_eq_some_iff] at known ⊢
  have refusing := means_of_type known
  constructor
  · intro kept
    exact refusing.plain (means_of_type kept) (registered_once documents)
  · intro plain
    exact of_type_of_means (refusing.allowing plain)

theorem references_kept_iff
    (quiet : (resolve config.refusing documents).report.hasErrors = false) :
    ((resolve config.allowing documents).report.hasErrors = false ∧
        (resolve config.allowing documents).partialModel.references =
          (resolve config.refusing documents).partialModel.references) ↔
      ∀ type ∈ (ofDocuments documents).writtenTypes, Plain type := by
  have clean := clean_of_no_errors quiet
  rw [← types_of_fields, List.forall_mem_map, resolve_references, resolve_references]
  constructor
  · rintro ⟨still, same⟩ field member
    have fields := (clean_of_no_errors still).fields
    rw [TypeField.references_eq_iff clean.fields fields] at same
    exact TypeField.plain_of_kept (registered_once documents) (clean.fields field member)
      (same field member)
  · intro plain
    have kept := fun field member =>
      TypeField.kept_of_plain (plain field member) (clean.fields field member)
    refine ⟨no_errors_iff_clean.mpr (clean.allowing fun field member => (kept field member).1), ?_⟩
    exact List.filterMap_congr fun field member => (kept field member).2

/-- Allowing qualified forms keeps what was classified before, type string by type string and for
the documents as a whole, if and only if no qualified form takes over. -/
theorem qualified_forms_keep_iff :
    (∀ type target,
      (resolve config.refusing documents).partialModel.classify type = some target →
        ((resolve config.allowing documents).partialModel.classify type = some target ↔
          Plain type)) ∧
      ((resolve config.refusing documents).report.hasErrors = false →
        ((resolve config.allowing documents).report.hasErrors = false ∧
            (resolve config.allowing documents).partialModel.references =
              (resolve config.refusing documents).partialModel.references ↔
          ∀ type ∈ (ofDocuments documents).writtenTypes, Plain type)) := by
  constructor
  · intro type target known
    exact classify_kept_iff config documents known
  · exact references_kept_iff config documents

/-- Names with dots after words that are no kinds, and a literal in brackets. -/
def dottedDocuments : List Document :=
  [{ name := "core"
     typedefs := [{ name := "core.Words", target := "array<uint32>" }]
     objects := [{ name := "core.Device" }] },
   { name := "later"
     functions := [{ name := "open"
                     returns := some { type := "core.Device" }
                     arguments := [{ name := "words", type := "core.Words" }] }] }]

theorem dotted_documents_keep :
    (resolve ({} : Config).refusing dottedDocuments).report.hasErrors = false ∧
      (resolve ({} : Config).allowing dottedDocuments).report.hasErrors = false ∧
      (resolve ({} : Config).allowing dottedDocuments).partialModel.references =
        (resolve ({} : Config).refusing dottedDocuments).partialModel.references ∧
      (resolve ({} : Config).allowing dottedDocuments).partialModel.classify "core.Device" =
        some (.declared ⟨.object, 0⟩) := by
  have quiet : (resolve ({} : Config).refusing dottedDocuments).report.hasErrors = false := by
    decide
  obtain ⟨types, whole⟩ := qualified_forms_keep_iff {} dottedDocuments
  have kept := (whole quiet).mpr (by decide)
  have device := (types "core.Device" (.declared ⟨.object, 0⟩) (by decide)).mpr (by decide)
  exact ⟨quiet, kept.1, kept.2, device⟩

/-- An object whose name is spelled like that of a struct after its kind. -/
def spelledDocument : Document :=
  { name := "core"
    objects := [{ name := "struct.A" }]
    functions := [{ name := "take", arguments := [{ name := "value", type := "struct.A" }] }] }

theorem spelled_name_lost :
    (resolve ({} : Config).refusing [spelledDocument]).report.hasErrors = false ∧
      (resolve ({} : Config).refusing [spelledDocument]).partialModel.classify "struct.A" =
        some (.declared ⟨.object, 0⟩) ∧
      (resolve ({} : Config).allowing [spelledDocument]).partialModel.classify "struct.A" = none ∧
      (resolve ({} : Config).allowing [spelledDocument]).report.hasErrors = true := by
  decide

end Resolver

end InterfaceSchema
