import InterfaceSchema.Proofs.Group
import InterfaceSchema.Proofs.Resolution.Clean
import InterfaceSchema.Proofs.Universe
import Mathlib.Data.List.Basic
import Mathlib.Data.List.Nodup

/-!
The declarations of a run and the names that they are registered under. Every registered name
leads to a declaration of its kind that bears it, whatever the report says.
-/

namespace InterfaceSchema

set_option autoImplicit false

namespace Declared

theorem located_append {α : Type} (select : Document → List α) (documents : List Document)
    (document : Document) :
    located select (documents ++ [document]) = located select documents ++
      (select document).map fun decl => ⟨documents.length, decl⟩ := by
  simp [located, List.zipIdx_append, List.flatMap_append]

/-- What is read off the declarations by their places, where it depends on the document alone. -/
theorem map_located {α β : Type} {select : Document → List α} {documents : List Document}
    {read : Located α → β} (view : Document → α → β)
    (agree : ∀ document fragment, documents[fragment]? = some document →
      ∀ decl ∈ select document, read ⟨fragment, decl⟩ = view document decl) :
    (located select documents).map read =
      documents.flatMap fun document => (select document).map (view document) := by
  calc (located select documents).map read
      = documents.zipIdx.flatMap fun placed => (select placed.1).map (view placed.1) := by
        unfold located
        rw [List.map_flatMap]
        apply List.flatMap_congr
        rintro ⟨document, fragment⟩ among
        rw [List.map_map]
        apply List.map_congr_left
        intro decl member
        exact agree document fragment (List.mem_zipIdx_iff_getElem?.mp among) decl member
    _ = (documents.zipIdx.map Prod.fst).flatMap fun document =>
          (select document).map (view document) := by
        rw [List.flatMap_map]
    _ = documents.flatMap fun document => (select document).map (view document) := by
        rw [List.zipIdx_map_fst]

theorem located_decls {α : Type} (select : Document → List α) (documents : List Document) :
    (located select documents).map Located.decl = documents.flatMap select := by
  rw [map_located fun _ decl => decl]
  · simp
  · intro document fragment _ decl _
    rfl

theorem fragment_lt_of_located {α : Type} {select : Document → List α} {documents : List Document}
    {part : Located α} (member : part ∈ located select documents) :
    part.fragment < documents.length := by
  obtain ⟨⟨document, fragment⟩, among, placed⟩ := List.mem_flatMap.mp member
  obtain ⟨decl, _, rfl⟩ := List.mem_map.mp placed
  exact List.snd_lt_of_mem_zipIdx among

/-- One group for each name that the documents write, in their order. -/
theorem group_names {α : Type} [Mergeable α] (select : Document → List α)
    (documents : List Document) :
    (Group.gather (located select documents)).map Group.name =
      (documents.flatMap fun document => (select document).map Mergeable.name).eraseDups := by
  rw [Group.names_of_gather, ← List.map_flatMap, ← located_decls, List.map_map]
  rfl

theorem object_names (declared : Declared) :
    declared.objects.map ObjectDecl.name = declared.objectGroups.map Group.name := by
  unfold objects
  rw [List.map_map]
  rfl

def namesOf (declared : Declared) : TypeKind → List String
  | .typedef => declared.typedefs.map TypedefDecl.name
  | .enum => declared.enums.map Group.name
  | .bitflag => declared.bitflags.map Group.name
  | .callback => declared.callbacks.map CallbackDecl.name
  | .struct => declared.structs.map StructDecl.name
  | .object => declared.objects.map ObjectDecl.name

/-- The name of the declaration that a reference leads to. -/
def nameAt? (declared : Declared) (decl : DeclRef) : Option String :=
  (declared.namesOf decl.kind)[decl.index]?

theorem mem_declarations {kind : TypeKind} {names : List String} {name : String} {decl : DeclRef} :
    (name, decl) ∈ Universe.declarations kind names ↔
      decl.kind = kind ∧ names[decl.index]? = some name := by
  rcases decl with ⟨own, index⟩
  simp only [Universe.declarations, List.mem_map, Prod.exists, List.mem_zipIdx_iff_getElem?]
  constructor
  · rintro ⟨other, place, found, same⟩
    cases same
    exact ⟨rfl, found⟩
  · rintro ⟨rfl, found⟩
    exact ⟨name, index, found, rfl⟩

theorem mem_type_names {declared : Declared} {name : String} {decl : DeclRef} :
    (name, decl) ∈ declared.typeNames ↔ declared.nameAt? decl = some name := by
  simp only [typeNames, List.mem_append, mem_declarations, nameAt?]
  cases decl.kind <;> simp [namesOf]

theorem declaration_names (kind : TypeKind) (names : List String) :
    (Universe.declarations kind names).map Prod.fst = names := by
  simp only [Universe.declarations, List.map_map]
  exact List.zipIdx_map_fst ..

theorem registered_names (declared : Declared) :
    declared.typeNames.map Prod.fst = TypeKind.all.flatMap declared.namesOf := by
  simp [typeNames, declaration_names, TypeKind.all, namesOf]

end Declared

namespace Declaration

def name : Declaration → String
  | primitive literal => literal.text
  | typedef decl => decl.name
  | enum decl => decl.name
  | bitflag decl => decl.name
  | callback decl => decl.name
  | struct decl => decl.name
  | object decl => decl.name

end Declaration

namespace Model

/-- The declarations of one kind by their indices. -/
def arena (model : Model) : TypeKind → List Declaration
  | .typedef => model.typedefs.map .typedef
  | .enum => model.enums.map .enum
  | .bitflag => model.bitflags.map .bitflag
  | .callback => model.callbacks.map .callback
  | .struct => model.structs.map .struct
  | .object => model.objects.map .object

theorem declaration_eq_arena (model : Model) (decl : DeclRef) :
    model.declaration? decl = (model.arena decl.kind)[decl.index]? := by
  rcases decl with ⟨kind, index⟩
  cases kind <;> simp only [declaration?, arena, List.getElem?_map]

theorem kind_of_declaration {model : Model} {decl : DeclRef} {declaration : Declaration}
    (found : model.declaration? decl = some declaration) :
    declaration.kind? = some decl.kind := by
  rcases decl with ⟨kind, index⟩
  cases kind with
  | _ =>
      simp only [declaration?, Option.map_eq_some_iff] at found
      obtain ⟨_, _, rfl⟩ := found
      rfl

end Model

namespace Resolver

open Declared

/-- Where no name is refused, the names of one kind are different from each other. -/
theorem names_nodup {documents : List Document} (quiet : registrationProblems documents = [])
    (kind : TypeKind) :
    ((ofDocuments documents).namesOf kind).Nodup := by
  have distinct := (Universe.register_quiet_iff.mp quiet).2
  rw [registered_names, List.nodup_flatMap] at distinct
  exact distinct.1 kind (by cases kind <;> decide)

/-- The declarations of the model are those of the documents, kind by kind. -/
theorem names_of_arena (config : Config) (documents : List Document) (kind : TypeKind) :
    ((resolve config documents).partialModel.arena kind).map Declaration.name =
      (ofDocuments documents).namesOf kind := by
  cases kind <;> simp only [resolve, Model.arena, namesOf, List.map_map] <;> rfl

theorem name_of_declaration (config : Config) (documents : List Document) (decl : DeclRef) :
    ((resolve config documents).partialModel.declaration? decl).map Declaration.name =
      (ofDocuments documents).nameAt? decl := by
  rw [Model.declaration_eq_arena, ← List.getElem?_map, names_of_arena]
  rfl

theorem name_of_registered {documents : List Document} {name : String} {decl : DeclRef}
    (registered : (declaredTypes documents).get? name = some decl) :
    (ofDocuments documents).nameAt? decl = some name :=
  mem_type_names.mp (Universe.mem_of_get_register registered)

theorem declaration_of_registered (config : Config) (documents : List Document) {name : String}
    {decl : DeclRef} (registered : (declaredTypes documents).get? name = some decl) :
    ∃ declaration, (resolve config documents).partialModel.declaration? decl = some declaration ∧
      declaration.kind? = some decl.kind ∧ declaration.name = name := by
  have named := name_of_registered registered
  rw [← name_of_declaration config, Option.map_eq_some_iff] at named
  obtain ⟨declaration, found, same⟩ := named
  exact ⟨declaration, found, Model.kind_of_declaration found, same⟩

end Resolver

end InterfaceSchema
