import InterfaceSchema.Proofs.Model.Snapshot
import InterfaceSchema.Proofs.Universe
import InterfaceSchema.Resolver

/-!
Snapshots of resolved documents. Two runs whose documents hold every literal as it is read have the
same snapshot only if they gave the same model, up to the setting for qualified forms.
-/

namespace InterfaceSchema

set_option autoImplicit false

namespace Resolver

variable {documents others : List Document}

theorem partial_model_written (config : Config)
    (canonical : ∀ document ∈ documents, document.Canonical) :
    (resolve config documents).partialModel.Written where
  literals := by
    intro constant resolved
    obtain ⟨decl, declared, rfl⟩ := List.mem_map.mp resolved
    obtain ⟨document, member, among⟩ := List.mem_flatMap.mp declared
    exact (Document.canonical_iff.mp (canonical document member)).1 decl among
  names := Universe.register_nodup _ List.nodup_nil

/-- The snapshots of two runs are the same text just if the runs gave the same model, apart from
the setting for qualified forms, which no snapshot shows. -/
theorem same_snapshot_iff (config other : Config)
    (canonical : ∀ document ∈ documents, document.Canonical)
    (canonicalOthers : ∀ document ∈ others, document.Canonical) :
    (resolve config documents).partialModel.snapshot =
        (resolve other others).partialModel.snapshot ↔
      { (resolve config documents).partialModel with qualified := other.qualified } =
        (resolve other others).partialModel := by
  constructor
  · exact Model.snapshot_apart (partial_model_written config canonical)
      (partial_model_written other canonicalOthers)
  · intro same
    rw [← same]
    rfl

def quotingDocument (doc : String) : Document :=
  { name := "quoting"
    constants := [⟨"limit", .signed (-1), doc⟩]
    bitflags := [⟨"usage", "", false, [⟨"all", "", some (.symbol .uint64Max), none⟩]⟩] }

theorem quoting_documents_told_apart :
    (∀ document ∈ [quotingDocument "\"\n"], document.Canonical) ∧
      (resolve { qualified := true } [quotingDocument "\"\n"]).partialModel.snapshot =
        (resolve { qualified := false } [quotingDocument "\"\n"]).partialModel.snapshot ∧
      (resolve {} [quotingDocument "\"\n"]).partialModel.snapshot ≠
        (resolve {} [quotingDocument "\\\"\\n"]).partialModel.snapshot := by
  have first : ∀ document ∈ [quotingDocument "\"\n"], document.Canonical := by decide
  have second : ∀ document ∈ [quotingDocument "\\\"\\n"], document.Canonical := by decide
  have different :
      { (resolve {} [quotingDocument "\"\n"]).partialModel with
        qualified := ({} : Config).qualified } ≠
      (resolve {} [quotingDocument "\\\"\\n"]).partialModel := by decide
  exact ⟨first, (same_snapshot_iff _ _ first first).mpr rfl,
    fun same => different ((same_snapshot_iff _ _ first second).mp same)⟩

end Resolver

end InterfaceSchema
