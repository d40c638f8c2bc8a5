import InterfaceSchema.Proofs.Resolution.Alignment
import InterfaceSchema.Proofs.Resolution.Stages
import InterfaceSchema.Proofs.Universe.Refusals

/-!
Registration of the type names of documents. Names are registered kind by kind, each kind in the
order of the documents; enums, bit mask sets and objects come once for each name. Of all that are
registered under a name the first one gets it, and every other one is told.
-/

namespace InterfaceSchema

set_option autoImplicit false

/-- Whether declarations of one name make one type. -/
def TypeKind.merges : TypeKind → Bool
  | enum | bitflag | object => true
  | typedef | callback | struct => false

namespace Resolver

open Declared

section Names

variable (documents : List Document)

def registeredNames (kind : TypeKind) : List String :=
  let written := documents.flatMap fun document => document.typeNames kind
  if kind.merges then written.eraseDups else written

def registrations : List (String × DeclRef) :=
  TypeKind.all.flatMap fun kind => Universe.declarations kind (registeredNames documents kind)

theorem names_of_kind (kind : TypeKind) :
    (ofDocuments documents).namesOf kind = registeredNames documents kind := by
  cases kind with
  | enum | bitflag | object =>
      simp only [namesOf, object_names, ofDocuments, group_names, registeredNames,
        TypeKind.merges, if_true, Document.typeNames]
      rfl
  | typedef | callback | struct =>
      simp only [namesOf, ofDocuments, List.map_flatMap, registeredNames, TypeKind.merges,
        Bool.false_eq_true, if_false, Document.typeNames]

theorem type_names_eq : (ofDocuments documents).typeNames = registrations documents := by
  simp [registrations, ← names_of_kind, typeNames, TypeKind.all, namesOf]

theorem registrations_of_kind (kind : TypeKind) :
    ((registrations documents).filter fun entry => entry.2.kind = kind).map Prod.fst =
      registeredNames documents kind := by
  have sieved (other : TypeKind) (names : List String) :
      (Universe.declarations other names).filter (fun entry => entry.2.kind = kind) =
        if other = kind then Universe.declarations other names else [] := by
    split
    · rename_i same
      rw [List.filter_eq_self]
      intro entry member
      exact decide_eq_true ((mem_declarations.mp member).1.trans same)
    · rename_i different
      rw [List.filter_eq_nil_iff]
      intro entry member own
      exact different ((mem_declarations.mp member).1.symm.trans (of_decide_eq_true own))
  rw [registrations, List.filter_flatMap, List.flatMap_congr fun other _ => sieved other _]
  cases kind <;> simp [TypeKind.all, declaration_names]

theorem merged_names_nodup {kind : TypeKind} (merges : kind.merges = true) :
    (registeredNames documents kind).Nodup := by
  rw [← names_of_kind]
  cases kind with
  | enum | bitflag => exact Group.nodup_names_of_gather _
  | object =>
      rw [namesOf, object_names]
      exact Group.nodup_names_of_gather _
  | typedef | callback | struct => cases merges

end Names

structure FirstWins (names : List (String × DeclRef)) (model : Model) (report : Report) :
    Prop where
  first : ∀ name, model.declared.get? name =
    if (Primitive.parse? name).isSome then none else names.lookup name
  only : ∀ name decl, (name, decl) ∈ model.declared.entries ↔
    model.declared.get? name = some decl
  once : (model.declared.entries.map Prod.fst).Nodup
  refused : report.diagnostics.filter (fun diagnostic => diagnostic.pass = .registration) =
    (Universe.refusals names).map .error
  counted : model.declared.size + (Universe.refusals names).length = names.length
  /-- Declarations that are merged by their names never use a name twice within their kind. -/
  merged : ∀ kind : TypeKind, kind.merges = true → ∀ diagnostic ∈ report.diagnostics, ∀ name,
    diagnostic.problem ≠ .duplicateName (.ofType kind) name

variable (config : Config) (documents : List Document)

theorem registration_told :
    (resolve config documents).report.diagnostics.filter
        (fun diagnostic => diagnostic.pass = .registration) =
      (Universe.refusals (registrations documents)).map .error := by
  rw [report_of_pass, passDiagnostics, registrationProblems, Universe.register_problems,
    type_names_eq]

theorem merged_never_duplicate {kind : TypeKind} (merges : kind.merges = true)
    {diagnostic : Diagnostic} (told : diagnostic ∈ (resolve config documents).report.diagnostics)
    (name : String) : diagnostic.problem ≠ .duplicateName (.ofType kind) name := by
  intro about
  have pass : diagnostic.pass = .registration := by
    rw [Diagnostic.pass, about, Problem.stage, Stage.of_names_of_type]
    rfl
  have among : diagnostic ∈ (resolve config documents).report.diagnostics.filter
      (fun diagnostic => diagnostic.pass = .registration) :=
    List.mem_filter.mpr ⟨told, decide_eq_true pass⟩
  rw [registration_told] at among
  obtain ⟨problem, refused, rfl⟩ := List.mem_map.mp among
  have own : problem = .duplicateName (.ofType kind) name := about
  subst own
  apply Universe.not_nodup_of_duplicate refused
  rw [registrations_of_kind]
  exact merged_names_nodup documents merges

/-- Whatever is declared, the first declaration under a name that is no literal gets it, and every
other one is told, once and in its turn, with the reason that the ones before it give. -/
theorem registration_first_wins :
    FirstWins (registrations documents) (resolve config documents).partialModel
      (resolve config documents).report where
  first := by
    intro name
    rw [resolve_declared, declaredTypes, type_names_eq]
    exact Universe.get_after _ name
  only := by
    intro name decl
    rw [resolve_declared]
    exact Universe.mem_entries_iff
  once := by
    rw [resolve_declared]
    exact Universe.register_nodup _ List.nodup_nil
  refused := registration_told config documents
  counted := by
    rw [resolve_declared, declaredTypes, type_names_eq]
    exact Universe.size_add_refusals _
  merged := fun _ merges _ told name => merged_never_duplicate config documents merges told name

def clashingDocument : Document :=
  { name := "core"
    enums := [{ name := "Mode" }]
    structs := [{ name := "Mode", role := .standalone }, { name := "bool", role := .standalone },
      { name := "Limits", role := .standalone }, { name := "Limits", role := .standalone }]
    objects := [{ name := "Mode" }, { name := "Mode" }] }

example : Universe.refusals (registrations [clashingDocument]) =
    [.nameCollision "Mode" .enum .struct, .shadowsPrimitive .struct "bool",
      .duplicateName .struct "Limits", .nameCollision "Mode" .enum .object] := by
  decide

end Resolver

end InterfaceSchema
