import InterfaceSchema.Proofs.Attachment
import InterfaceSchema.Proofs.Declared
import Mathlib.Data.List.Flatten
import Mathlib.Data.List.Infix

/-!
The declarations of documents under one more document. Every declaration keeps its index: the lists
grow at their ends, and the groups take in what bears their names. So every registered name keeps
its declaration, as long as nothing is refused.
-/

namespace InterfaceSchema

set_option autoImplicit false

theorem ObjectDecl.methods_extend (later : List (Located ObjectDecl)) (group : Group ObjectDecl) :
    ∃ more, (merge (group.extend later)).methods = (merge group).methods ++ more := by
  simp only [merge, Group.parts_extend, List.flatMap_append]
  exact ⟨_, rfl⟩

namespace Declared

variable (documents : List Document) (further : Document)

/-- The declarations that a further document adds. -/
def added {α : Type} (select : Document → List α) : List (Located α) :=
  (select further).map fun decl => ⟨documents.length, decl⟩

section Groups

variable {α : Type} [Mergeable α] (select : Document → List α)

theorem groups_append :
    ∃ more, Group.gather (located select (documents ++ [further])) =
      (Group.gather (located select documents)).map
        (Group.extend (added documents further select)) ++ more := by
  rw [located_append]
  exact ⟨_, Group.gather_append _ _⟩

theorem group_names_prefix :
    (Group.gather (located select documents)).map Group.name <+:
      (Group.gather (located select (documents ++ [further]))).map Group.name := by
  obtain ⟨more, groups⟩ := groups_append documents further select
  rw [groups, List.map_append, List.map_map]
  exact List.prefix_append _ _

end Groups

theorem names_prefix (kind : TypeKind) :
    (ofDocuments documents).namesOf kind <+:
      (ofDocuments (documents ++ [further])).namesOf kind := by
  have grown := List.prefix_append documents [further]
  cases kind with
  | enum => exact group_names_prefix documents further Document.enums
  | bitflag => exact group_names_prefix documents further Document.bitflags
  | object =>
      simp only [namesOf, object_names]
      exact group_names_prefix documents further Document.objects
  | typedef => exact (grown.flatMap Document.typedefs).map TypedefDecl.name
  | callback => exact (grown.flatMap Document.callbacks).map CallbackDecl.name
  | struct => exact (grown.flatMap Document.structs).map StructDecl.name

theorem name_at_append {decl : DeclRef} {name : String}
    (named : (ofDocuments documents).nameAt? decl = some name) :
    (ofDocuments (documents ++ [further])).nameAt? decl = some name := by
  unfold nameAt? at named ⊢
  obtain ⟨bound, _⟩ := List.getElem?_eq_some_iff.mp named
  obtain ⟨more, larger⟩ := names_prefix documents further decl.kind
  rw [← larger, List.getElem?_append_left bound, named]

theorem fields_of_object_extend (later : List (Located ObjectDecl)) (group : Group ObjectDecl) :
    (TypeField.ofObject (ObjectDecl.merge group)).Sublist
      (TypeField.ofObject (ObjectDecl.merge (group.extend later))) := by
  obtain ⟨more, methods⟩ := ObjectDecl.methods_extend later group
  have name : (ObjectDecl.merge (group.extend later)).name = (ObjectDecl.merge group).name := rfl
  unfold TypeField.ofObject
  rw [methods, name, List.flatMap_append]
  exact List.sublist_append_left _ _

/-- All fields stay, in their order. -/
theorem type_fields_sublist :
    (ofDocuments documents).typeFields.Sublist
      (ofDocuments (documents ++ [further])).typeFields := by
  have grown := List.prefix_append documents [further]
  have typedefs := (grown.flatMap Document.typedefs).sublist.map TypeField.ofTypedef
  have callbacks := (grown.flatMap Document.callbacks).sublist.flatMap TypeField.ofCallback
  have structs := (grown.flatMap Document.structs).sublist.flatMap TypeField.ofStruct
  have functions := (grown.flatMap Document.functions).sublist.flatMap TypeField.ofFunction
  have objects : ((ofDocuments documents).objects.flatMap TypeField.ofObject).Sublist
      ((ofDocuments (documents ++ [further])).objects.flatMap TypeField.ofObject) := by
    obtain ⟨more, groups⟩ := groups_append documents further Document.objects
    simp only [Declared.objects, ofDocuments, groups, List.map_append, List.flatMap_append,
      List.map_map, List.flatMap_map]
    refine (List.Sublist.flatMap_right _ ?_).trans (List.sublist_append_left _ _)
    intro group _
    exact fields_of_object_extend _ group
  exact (((typedefs.append callbacks).append structs).append functions).append objects

theorem blocks_append {fragment : Nat} (inside : fragment < documents.length) :
    (ofDocuments (documents ++ [further])).blocks[fragment]? =
      (ofDocuments documents).blocks[fragment]? := by
  have bound : fragment < (documents.map fun document =>
      EnumBlock.parse? document.block).length := by
    rw [List.length_map]
    exact inside
  simp only [ofDocuments, List.map_append]
  rw [List.getElem?_append_left bound]

end Declared

namespace Resolver

open Declared

variable {documents : List Document}

/-- Where no name is refused, every name stands for the declaration that it had before. -/
theorem declared_types_within {further : Document}
    (quiet : registrationProblems (documents ++ [further]) = []) :
    (declaredTypes documents).Within (declaredTypes (documents ++ [further])) := by
  intro name decl registered
  have named := name_of_registered registered
  have kept := mem_type_names.mpr (name_at_append documents further named)
  exact Universe.get_register_of_mem quiet kept

theorem structs_registered (quiet : registrationProblems documents = []) :
    Attachments.Registered (ofDocuments documents).structs (declaredTypes documents) := by
  intro struct member
  obtain ⟨index, found⟩ := List.mem_iff_getElem?.mp member
  have named : (ofDocuments documents).nameAt? ⟨.struct, index⟩ = some struct.name := by
    simp [nameAt?, namesOf, found]
  exact ⟨index, Universe.get_register_of_mem quiet (mem_type_names.mpr named), found⟩

end Resolver

end InterfaceSchema
