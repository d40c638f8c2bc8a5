import InterfaceSchema.Proofs.Attachment
import InterfaceSchema.Proofs.Declared

/-!
Alignment of names, indices and declarations. Whatever the report says, every registered name leads
to a declaration that bears it and every attachment to a struct. So the partial model can be asked
for any name, and it knows exactly the primitive literals and the names that a document declares.
-/

namespace InterfaceSchema

set_option autoImplicit false

def Document.typeNames (document : Document) : TypeKind → List String
  | .typedef => document.typedefs.map TypedefDecl.name
  | .enum => document.enums.map EnumDecl.name
  | .bitflag => document.bitflags.map BitflagDecl.name
  | .callback => document.callbacks.map CallbackDecl.name
  | .struct => document.structs.map StructDecl.name
  | .object => document.objects.map ObjectDecl.name

namespace Model

/-- Registered names are no primitive literals and stand for declarations that bear them, and
attachments stay among the structs. -/
structure Aligned (model : Model) : Prop where
  declared : ∀ name decl, (name, decl) ∈ model.declared.entries →
    Primitive.parse? name = none ∧ decl.index < (model.arena decl.kind).length ∧
      ∃ declaration, model.declaration? decl = some declaration ∧
        declaration.kind? = some decl.kind ∧ declaration.name = name
  bases : ∀ row ∈ model.attachments.bases, ∀ index ∈ row, index < model.structs.length
  extensions : ∀ row ∈ model.attachments.extensions, ∀ index ∈ row, index < model.structs.length

/-- Every struct that a question by name reads is there, so that no answer leaves one out. -/
structure ReadsInside (model : Model) : Prop where
  members : ∀ query index, model.structIndex? query = some index →
    ∃ struct, model.structs[index]? = some struct ∧ struct.name = query ∧
      model.members? query = some struct.members
  bases : ∀ query index, model.structIndex? query = some index →
    (model.legalBases query).map some =
      (model.attachments.basesOf index).map fun base => model.structs[base]?.map StructDecl.name
  extensions : ∀ query index, model.structIndex? query = some index →
    (model.chainableExtensions query).map some =
      (model.attachments.extensionsOf index).map fun extension =>
        model.structs[extension]?.map StructDecl.name

variable {model : Model}

theorem struct_names_complete {indices : List Nat}
    (inside : ∀ index ∈ indices, index < model.structs.length) :
    (model.structNames indices).map some =
      indices.map fun index => model.structs[index]?.map StructDecl.name := by
  induction indices with
  | nil => rfl
  | cons index rest ih =>
      have found := List.getElem?_eq_getElem (inside index List.mem_cons_self)
      have remaining := ih fun later member => inside later (List.mem_cons_of_mem _ member)
      rw [List.map_cons, ← remaining]
      simp only [structNames, List.filterMap_cons, found, Option.map_some, List.map_cons]

theorem struct_index_eq_some_iff {query : String} {index : Nat} :
    model.structIndex? query = some index ↔
      model.declared.get? query = some ⟨.struct, index⟩ := by
  have same : model.structIndex? query = Attachments.baseIndex? model.declared query := by
    unfold structIndex? Attachments.baseIndex?
    cases model.declared.get? query <;> rfl
  rw [same, Attachments.base_index_eq_some_iff]

theorem Aligned.reads_inside (aligned : model.Aligned) : model.ReadsInside := by
  constructor
  case members =>
    intro query index known
    have registered := mem_of_lookup (struct_index_eq_some_iff.mp known)
    obtain ⟨_, _, declaration, found, _, named⟩ := aligned.declared query _ registered
    obtain ⟨struct, placed, rfl⟩ := Option.map_eq_some_iff.mp found
    refine ⟨struct, placed, named, ?_⟩
    rw [members?, known, Option.bind_some, placed]
    rfl
  case bases =>
    intro query index known
    simp only [legalBases, known]
    apply struct_names_complete
    intro base member
    obtain ⟨row, among, held⟩ := Attachments.mem_row member
    exact aligned.bases row among base held
  case extensions =>
    intro query index known
    simp only [chainableExtensions, known]
    apply struct_names_complete
    intro extension member
    obtain ⟨row, among, held⟩ := Attachments.mem_row member
    exact aligned.extensions row among extension held

end Model

namespace Declared

theorem mem_names_of {documents : List Document} {kind : TypeKind} {name : String} :
    name ∈ (ofDocuments documents).namesOf kind ↔
      ∃ document ∈ documents, name ∈ document.typeNames kind := by
  cases kind with
  | enum | bitflag | object =>
      simp only [namesOf, object_names, ofDocuments, group_names, List.mem_eraseDups,
        List.mem_flatMap, Document.typeNames]
      rfl
  | typedef | callback | struct =>
      simp only [namesOf, ofDocuments, List.map_flatMap, List.mem_flatMap, Document.typeNames]

theorem mem_registered_names {declared : Declared} {name : String} :
    name ∈ declared.typeNames.map Prod.fst ↔ ∃ kind, name ∈ declared.namesOf kind := by
  constructor
  · intro member
    obtain ⟨⟨_, decl⟩, registered, rfl⟩ := List.mem_map.mp member
    exact ⟨decl.kind, List.mem_of_getElem? (mem_type_names.mp registered)⟩
  · rintro ⟨kind, member⟩
    obtain ⟨index, found⟩ := List.mem_iff_getElem?.mp member
    exact List.mem_map.mpr ⟨(name, ⟨kind, index⟩), mem_type_names.mpr found, rfl⟩

end Declared

namespace Resolver

open Declared

variable (config : Config) (documents : List Document)

theorem aligned_model : (resolve config documents).partialModel.Aligned := by
  constructor
  case declared =>
    intro name decl member
    rw [resolve_declared] at member
    have registered := Universe.mem_entries_iff.mp member
    obtain ⟨declaration, found, kind, named⟩ :=
      declaration_of_registered config documents registered
    have ordinary := Universe.ordinary_of_get_register registered
    have placed := found
    rw [Model.declaration_eq_arena] at placed
    obtain ⟨inside, _⟩ := List.getElem?_eq_some_iff.mp placed
    exact ⟨ordinary, inside, declaration, found, kind, named⟩
  case bases => exact fun _ => Attachments.base_inside
  case extensions => exact fun _ => Attachments.extension_inside

theorem lookup_is_some_iff (name : String) :
    ((resolve config documents).partialModel.lookup name).isSome = true ↔
      (Primitive.parse? name).isSome = true ∨
        ∃ kind, ∃ document ∈ documents, name ∈ document.typeNames kind := by
  simp only [← mem_names_of, ← mem_registered_names]
  unfold Model.lookup
  cases parsed : Primitive.parse? name with
  | some literal => simp
  | none =>
      simp only [Option.isSome_none, Bool.false_eq_true, false_or]
      rw [resolve_declared]
      cases registered : (declaredTypes documents).get? name with
      | some decl =>
          obtain ⟨declaration, found, _⟩ := declaration_of_registered config documents registered
          have member := Universe.mem_of_get_register registered
          simp only [Option.bind_some, found, Option.isSome_some, true_iff]
          exact List.mem_map_of_mem member
      | none =>
          have absent := Universe.get_register_eq_none_iff.mp registered
          simpa [parsed] using absent

/-- Whatever the report says, names, indices and declarations of the partial model fit together,
every question about a struct reads structs that are there, and the names that are known are the
primitive literals and the names of declared types. -/
theorem partial_model_aligned :
    (resolve config documents).partialModel.Aligned ∧
      (resolve config documents).partialModel.ReadsInside ∧
      ∀ name, ((resolve config documents).partialModel.lookup name).isSome = true ↔
        (Primitive.parse? name).isSome = true ∨
          ∃ kind, ∃ document ∈ documents, name ∈ document.typeNames kind := by
  have aligned := aligned_model config documents
  exact ⟨aligned, aligned.reads_inside, lookup_is_some_iff config documents⟩

end Resolver

end InterfaceSchema
