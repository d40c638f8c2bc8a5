import InterfaceSchema.Proofs.Declared
import InterfaceSchema.Proofs.Reference.Meaning

/-!
References of the model. Each one has the target that its type string has when the model is asked
for it, the declaration it leads to is there, and a report without errors leaves no type string
out.
-/

namespace InterfaceSchema

set_option autoImplicit false

namespace TypeField

variable {scope : TypeScope}

theorem reference_types (fields : List TypeField)
    (quiet : ∀ field ∈ fields, field.problems scope = []) :
    (fields.filterMap (reference? scope)).map Reference.type = fields.map TypeField.type := by
  induction fields with
  | nil => rfl
  | cons field rest ih =>
      obtain ⟨reference, known, same⟩ :=
        reference_of_no_problem (quiet field List.mem_cons_self)
      have remaining := ih fun later member => quiet later (List.mem_cons_of_mem _ member)
      rw [List.filterMap_cons_some known, List.map_cons, List.map_cons, same, remaining]

end TypeField

def FunctionDecl.types (function : FunctionDecl) : List String :=
  function.arguments.map Parameter.type ++ (function.returns.map ReturnValue.type).toList ++
    function.completion.toList

namespace Declared

/-- All type strings in the order in which they are written, kind by kind. -/
def writtenTypes (declared : Declared) : List String :=
  declared.typedefs.map TypedefDecl.target ++
    declared.callbacks.flatMap (fun callback => callback.arguments.map Parameter.type) ++
    declared.structs.flatMap (fun struct => struct.members.map Parameter.type) ++
    declared.functions.flatMap FunctionDecl.types ++
    declared.objects.flatMap fun object => object.methods.flatMap FunctionDecl.types

theorem types_of_parameters (owner word : String) (parameters : List Parameter) :
    (parameters.map (TypeField.ofParameter owner word)).map TypeField.type =
      parameters.map Parameter.type := by
  rw [List.map_map]
  rfl

theorem types_of_callable (owner : String) (function : FunctionDecl) :
    (TypeField.ofCallable owner function).map TypeField.type = function.types := by
  simp only [TypeField.ofCallable, FunctionDecl.types, List.map_append, types_of_parameters]
  rcases function with ⟨name, doc, returns, completion, arguments⟩
  cases returns <;> cases completion <;> rfl

theorem types_of_fields (declared : Declared) :
    declared.typeFields.map TypeField.type = declared.writtenTypes := by
  have typedefs : (declared.typedefs.map TypeField.ofTypedef).map TypeField.type =
      declared.typedefs.map TypedefDecl.target := by
    rw [List.map_map]
    rfl
  simp only [typeFields, TypeField.all, writtenTypes, List.map_append, typedefs,
    List.map_flatMap, TypeField.ofCallback, TypeField.ofStruct, TypeField.ofFunction,
    TypeField.ofObject, types_of_parameters, types_of_callable]

end Declared

namespace Resolver

open Declared Classification

variable (config : Config) (documents : List Document)

theorem reference_of_model {reference : Reference}
    (member : reference ∈ (resolve config documents).partialModel.references) :
    ∃ field ∈ (ofDocuments documents).typeFields,
      field.reference? (scopeOf config documents) = some reference := by
  rw [resolve_references] at member
  exact List.mem_filterMap.mp member

/-- The walk over the fields and the question by type string agree. -/
theorem classify_of_reference {reference : Reference}
    (member : reference ∈ (resolve config documents).partialModel.references) :
    (resolve config documents).partialModel.classify reference.type = some reference.target := by
  obtain ⟨field, _, known⟩ := reference_of_model config documents member
  obtain ⟨classified, _, same⟩ := TypeField.reference_eq_some_iff.mp known
  rw [same, resolve_classify, target_eq_some_iff]
  exact TypeField.classify_resolved classified

theorem declaration_of_classified {type : String} {target : TypeTarget} {decl : DeclRef}
    (known : (resolve config documents).partialModel.classify type = some target)
    (leads : target = .declared decl ∨ target = .arrayOf decl) :
    ∃ declaration, (resolve config documents).partialModel.declaration? decl = some declaration ∧
      declaration.kind? = some decl.kind := by
  rw [resolve_classify, target_eq_some_iff] at known
  obtain ⟨name, registered⟩ := (means_of_type known).registered leads
  obtain ⟨declaration, found, kind, _⟩ := declaration_of_registered config documents registered
  exact ⟨declaration, found, kind⟩

/-- References are closed: each is what its type string means to the model and leads to a
declaration of its kind, and without errors there is one for every type string that is written. -/
theorem references_closed :
    (∀ reference ∈ (resolve config documents).partialModel.references,
      (resolve config documents).partialModel.classify reference.type = some reference.target ∧
        ∀ decl, reference.target = .declared decl ∨ reference.target = .arrayOf decl →
          ∃ declaration,
            (resolve config documents).partialModel.declaration? decl = some declaration ∧
              declaration.kind? = some decl.kind) ∧
      ((resolve config documents).report.hasErrors = false →
        (resolve config documents).partialModel.references.map Reference.type =
          (ofDocuments documents).writtenTypes) := by
  constructor
  · intro reference member
    have known := classify_of_reference config documents member
    refine ⟨known, ?_⟩
    intro decl leads
    exact declaration_of_classified config documents known leads
  · intro quiet
    have clean := clean_of_no_errors quiet
    rw [← types_of_fields]
    exact TypeField.reference_types _ clean.fields

def referringDocuments : List Document :=
  [{ name := "core"
     typedefs := [{ name := "Handle", target := "uint64" }]
     callbacks := [{ name := "Done", arguments := [{ name := "code", type := "Handle" }] }]
     structs := [{ name := "Point", role := .standalone
                   members := [{ name := "owner", type := "struct.Point" }] }]
     objects := [{ name := "Device"
                   methods := [{ name := "open", returns := some { type := "bool" } }] }] },
   { name := "later"
     functions := [{ name := "start", completion := some "Done"
                     arguments := [{ name := "points", type := "array<struct.Point>" }] }]
     objects := [{ name := "Device", extended := true
                   methods := [{ name := "close", completion := some "callback.Done" }] }] }]

theorem referring_documents_closed :
    (resolve {} referringDocuments).report.hasErrors = false ∧
      (resolve {} referringDocuments).partialModel.references.map Reference.type =
        ["uint64", "Handle", "struct.Point", "array<struct.Point>", "Done", "bool",
          "callback.Done"] := by
  have quiet : (resolve {} referringDocuments).report.hasErrors = false := by decide
  have written : (ofDocuments referringDocuments).writtenTypes =
      ["uint64", "Handle", "struct.Point", "array<struct.Point>", "Done", "bool",
        "callback.Done"] := by decide
  exact ⟨quiet, ((references_closed {} referringDocuments).2 quiet).trans written⟩

end Resolver

end InterfaceSchema
