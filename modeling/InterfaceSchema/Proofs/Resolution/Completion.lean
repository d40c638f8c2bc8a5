import InterfaceSchema.Proofs.Reference.Correspondence
import InterfaceSchema.Proofs.Reference.Forms
import InterfaceSchema.Proofs.Resolution.References

/-!
Completion callbacks. A completion is judged by the kind of what it leads to, and an array has the
kind of its items: without errors a completion leads to a callback, or to an array of callbacks
where brackets are written and allowed.
-/

namespace InterfaceSchema

set_option autoImplicit false

theorem TypeTarget.kind_eq_some_iff {target : TypeTarget} {kind : TypeKind} :
    target.kind? = some kind ↔
      ∃ index, target = .declared ⟨kind, index⟩ ∨ target = .arrayOf ⟨kind, index⟩ := by
  rcases target with literal | ⟨own, index⟩ | ⟨own, index⟩ <;> simp [kind?]

namespace TypeField

variable {scope : TypeScope} {owner name : String}

/-- A completion takes everything that has the kind of callbacks. -/
theorem completion_fits_iff {target : TypeTarget} :
    (ofCompletion owner name).misuse? scope target = none ↔ target.kind? = some .callback := by
  cases known : target.kind? with
  | none => simp [misuse?, ofCompletion, known]
  | some kind => cases kind <;> simp [misuse?, ofCompletion, known]

theorem completion_quiet_iff :
    (ofCompletion owner name).problems scope = [] ↔
      ∃ index, scope.classify name = .resolved (.declared ⟨.callback, index⟩) ∨
        scope.classify name = .resolved (.arrayOf ⟨.callback, index⟩) := by
  simp only [problems_eq_nil_iff, completion_fits_iff, TypeTarget.kind_eq_some_iff]
  constructor
  · rintro ⟨target, classified, index, rfl | rfl⟩
    · exact ⟨index, Or.inl classified⟩
    · exact ⟨index, Or.inr classified⟩
  · rintro ⟨index, classified | classified⟩
    · exact ⟨_, classified, index, Or.inl rfl⟩
    · exact ⟨_, classified, index, Or.inr rfl⟩

end TypeField

namespace Model

def callables (model : Model) : List FunctionDecl :=
  model.functions ++ model.objects.flatMap ObjectDecl.methods

def NamesCallback (model : Model) (type : String) : Prop :=
  ∃ index, model.classify type = some (.declared ⟨.callback, index⟩)

def NamesCallbacks (model : Model) (type : String) : Prop :=
  ∃ index, model.classify type = some (.arrayOf ⟨.callback, index⟩)

end Model

namespace Resolver

open Declared Classification

variable (config : Config) (documents : List Document)

variable {config documents} in
theorem completion_of_callable {function : FunctionDecl} {name : String}
    (member : function ∈ (resolve config documents).partialModel.callables)
    (written : function.completion = some name) :
    ∃ owner, TypeField.ofCompletion owner name ∈ (ofDocuments documents).typeFields := by
  have own : ∀ owner, TypeField.ofCompletion owner name ∈ TypeField.ofCallable owner function := by
    intro owner
    simp [TypeField.ofCallable, written]
  simp only [typeFields, TypeField.all, List.mem_append, List.mem_flatMap]
  rcases List.mem_append.mp member with free | method
  · exact ⟨_, Or.inl (Or.inr ⟨function, free, own _⟩)⟩
  · obtain ⟨object, among, here⟩ := List.mem_flatMap.mp method
    exact ⟨_, Or.inr ⟨object, among, List.mem_flatMap.mpr ⟨function, here, own _⟩⟩⟩

/-- Without errors a completion leads to one callback if and only if it is not written in brackets
where these are allowed. In brackets it leads to an array of callbacks. -/
theorem completion_names_callback_iff
    (quiet : (resolve config documents).report.hasErrors = false) :
    ∃ model, (resolve config documents).model? = some model ∧
      ∀ function ∈ model.callables, ∀ name, function.completion = some name →
        (model.NamesCallback name ↔ ¬ Bracketed config.qualified name) ∧
          (model.NamesCallbacks name ↔ Bracketed config.qualified name) := by
  have clean := clean_of_no_errors quiet
  refine ⟨(resolve config documents).partialModel, Resolution.model_of_no_errors quiet, ?_⟩
  intro function member name written
  obtain ⟨owner, field⟩ := completion_of_callable member written
  simp only [Model.NamesCallback, Model.NamesCallbacks, resolve_classify, target_eq_some_iff]
  -- A target has one form, and the way in which its type string is written tells which.
  obtain ⟨index, single | array⟩ := TypeField.completion_quiet_iff.mp (clean.fields _ field)
  · have plain : ¬ Bracketed config.qualified name := (means_of_type single).unbracketed
    simp [single, plain]
  · have brackets : Bracketed config.qualified name := (means_of_type array).bracketed
    simp [array, brackets]

def completingDocuments : List Document :=
  [{ name := "core"
     callbacks := [{ name := "Done" }]
     functions := [{ name := "start", completion := some "Done" }]
     objects := [{ name := "Device" }] },
   { name := "later"
     objects := [{ name := "Device", extended := true
                   methods := [{ name := "close", completion := some "callback.Done" }] }] }]

theorem completing_documents_name_callbacks :
    (resolve {} completingDocuments).report.hasErrors = false ∧
      ∃ model, (resolve {} completingDocuments).model? = some model ∧
        model.NamesCallback "Done" ∧ model.NamesCallback "callback.Done" := by
  have quiet : (resolve {} completingDocuments).report.hasErrors = false := by decide
  obtain ⟨model, available, completions⟩ :=
    completion_names_callback_iff {} completingDocuments quiet
  have own : (resolve {} completingDocuments).partialModel = model :=
    Option.some.inj ((Resolution.model_of_no_errors quiet).symm.trans available)
  refine ⟨quiet, model, available, ?_, ?_⟩
  · have member : { name := "start", completion := some "Done" } ∈ model.callables := by
      rw [← own]
      decide
    exact (completions _ member "Done" rfl).1.mpr (by decide)
  · have member : { name := "close", completion := some "callback.Done" } ∈ model.callables := by
      rw [← own]
      decide
    exact (completions _ member "callback.Done" rfl).1.mpr (by decide)

/-- A function that completes through a callback in brackets. -/
def arrayCompletingDocument : Document :=
  { name := "core"
    callbacks := [{ name := "Done" }]
    functions := [{ name := "start", completion := some "array<Done>" }] }

theorem array_completion_names_no_callback :
    (resolve {} [arrayCompletingDocument]).report.hasErrors = false ∧
      ∃ model, (resolve {} [arrayCompletingDocument]).model? = some model ∧
        ∃ function ∈ model.callables, function.completion = some "array<Done>" ∧
          model.classify "array<Done>" = some (.arrayOf ⟨.callback, 0⟩) ∧
          ¬ model.NamesCallback "array<Done>" := by
  have leads : (resolve {} [arrayCompletingDocument]).partialModel.classify "array<Done>" =
      some (.arrayOf ⟨.callback, 0⟩) := by decide
  refine ⟨by decide, (resolve {} [arrayCompletingDocument]).partialModel, by decide,
    { name := "start", completion := some "array<Done>" }, by decide, rfl, leads, ?_⟩
  rintro ⟨index, single⟩
  rw [leads] at single
  cases single

end Resolver

end InterfaceSchema
