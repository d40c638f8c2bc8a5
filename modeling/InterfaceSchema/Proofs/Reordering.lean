import InterfaceSchema.Proofs.Declared
import Mathlib.Data.List.Forall2
import Mathlib.Data.List.Nodup
import Mathlib.Data.List.Perm.Basic

/-!
Documents whose declarations come in another order. As long as enums, bit mask sets and objects of
one name follow each other as before, the groups are the same ones in another order, and so are all
declarations, their names and their type strings.
-/

namespace InterfaceSchema

set_option autoImplicit false

/-- The same declarations in another order, those of one name following each other as before. -/
structure Reorders {α : Type} [Mergeable α] (declarations others : List α) : Prop where
  perm : others.Perm declarations
  named : ∀ name, (others.filter fun decl => Mergeable.name decl == name) =
    declarations.filter fun decl => Mergeable.name decl == name

namespace Reorders

variable {α : Type} [Mergeable α]

theorem refl (declarations : List α) : Reorders declarations declarations :=
  ⟨List.Perm.refl _, fun _ => rfl⟩

/-- Neighbours of different names may change places. -/
theorem swap (before : List α) {first second : α} (after : List α)
    (different : Mergeable.name first ≠ Mergeable.name second) :
    Reorders (before ++ first :: second :: after) (before ++ second :: first :: after) := by
  constructor
  case perm => exact (List.Perm.swap first second after).append_left before
  case named =>
    intro name
    simp only [List.filter_append, List.filter_cons]
    by_cases own : Mergeable.name first = name
    · have other : Mergeable.name second ≠ name := fun same => different (own.trans same.symm)
      simp [own, other]
    · simp [own]

end Reorders

/-- The same document with each of its lists in another order. -/
structure Document.Reordered (document other : Document) : Prop where
  name : other.name = document.name
  copyright : other.copyright = document.copyright
  block : other.block = document.block
  constants : other.constants.Perm document.constants
  typedefs : other.typedefs.Perm document.typedefs
  enums : Reorders document.enums other.enums
  bitflags : Reorders document.bitflags other.bitflags
  callbacks : other.callbacks.Perm document.callbacks
  structs : other.structs.Perm document.structs
  functions : other.functions.Perm document.functions
  objects : Reorders document.objects other.objects

section Named

variable {Item : Type} {key : Item → String} {items others : List Item}

theorem find_eq_some_iff_of_distinct (distinct : (items.map key).Nodup) {name : String}
    {item : Item} :
    items.find? (fun candidate => key candidate == name) = some item ↔
      item ∈ items ∧ key item = name := by
  constructor
  · intro found
    exact ⟨List.mem_of_find?_eq_some found, by simpa using List.find?_some found⟩
  · rintro ⟨member, rfl⟩
    cases found : items.find? (fun candidate => key candidate == key item) with
    | none => simpa using List.find?_eq_none.mp found item member
    | some other =>
        have same : key other = key item := by simpa using List.find?_some found
        rw [List.inj_on_of_nodup_map distinct (List.mem_of_find?_eq_some found) member same]

/-- Where names are different, the item of a name is found in any order. -/
theorem find_of_perm (perm : others.Perm items) (distinct : (items.map key).Nodup)
    (name : String) :
    others.find? (fun candidate => key candidate == name) =
      items.find? fun candidate => key candidate == name := by
  apply Option.ext
  intro item
  have otherDistinct : (others.map key).Nodup := (perm.map key).nodup_iff.mpr distinct
  rw [find_eq_some_iff_of_distinct otherDistinct, find_eq_some_iff_of_distinct distinct,
    perm.mem_iff]

theorem flat_map_nil_of_perm {Value : Type} {read : Item → List Value} (perm : others.Perm items)
    (quiet : items.flatMap read = []) : others.flatMap read = [] := by
  have same := perm.flatMap_right read
  rw [quiet] at same
  exact List.perm_nil.mp same

end Named

theorem Group.gather_perm {α : Type} [Mergeable α] {declarations others : List (Located α)}
    (named : ∀ name, (others.filter fun located => nameOf located == name) =
      declarations.filter fun located => nameOf located == name) :
    (gather others).Perm (gather declarations) := by
  have distinct := (nodup_names_of_gather declarations).of_map
  have distinctOthers := (nodup_names_of_gather others).of_map
  rw [List.perm_ext_iff_of_nodup distinctOthers distinct]
  intro group
  rw [mem_gather_iff, mem_gather_iff, named]

namespace Declared

/-- The same declarations in another order, and the same blocks. -/
structure Reordered (declared other : Declared) : Prop where
  blocks : other.blocks = declared.blocks
  enums : other.enums.Perm declared.enums
  bitflags : other.bitflags.Perm declared.bitflags
  objectGroups : other.objectGroups.Perm declared.objectGroups
  constants : other.constants.Perm declared.constants
  typedefs : other.typedefs.Perm declared.typedefs
  callbacks : other.callbacks.Perm declared.callbacks
  structs : other.structs.Perm declared.structs
  functions : other.functions.Perm declared.functions

section Documents

variable {documents others : List Document}
  (reordered : List.Forall₂ Document.Reordered documents others)

include reordered

theorem flat_map_perm {α : Type} {select : Document → List α}
    (step : ∀ document other, Document.Reordered document other →
      (select other).Perm (select document)) :
    (others.flatMap select).Perm (documents.flatMap select) := by
  induction reordered with
  | nil => exact List.Perm.refl _
  | cons first _ ih =>
      rw [List.flatMap_cons, List.flatMap_cons]
      exact (step _ _ first).append ih

theorem located_filter {α : Type} [Mergeable α] {select : Document → List α}
    (step : ∀ document other, Document.Reordered document other →
      Reorders (select document) (select other)) (name : String) :
    ((located select others).filter fun located => Group.nameOf located == name) =
      (located select documents).filter fun located => Group.nameOf located == name := by
  unfold located
  -- Documents are counted on from any number, so that the rest can be numbered on its own.
  generalize 0 = start
  induction reordered generalizing start with
  | nil => rfl
  | cons first _ ih =>
      have own := (step _ _ first).named name
      simp only [List.zipIdx_cons, List.flatMap_cons, List.filter_append, List.filter_map, ih]
      congr 2

theorem groups_perm {α : Type} [Mergeable α] {select : Document → List α}
    (step : ∀ document other, Document.Reordered document other →
      Reorders (select document) (select other)) :
    (Group.gather (located select others)).Perm (Group.gather (located select documents)) :=
  Group.gather_perm (located_filter reordered step)

theorem blocks_of_reordered : (ofDocuments others).blocks = (ofDocuments documents).blocks := by
  unfold ofDocuments
  induction reordered with
  | nil => rfl
  | cons first _ ih =>
      simp only [List.map_cons, first.block] at ih ⊢
      rw [ih]

theorem reordered_of_documents : (ofDocuments documents).Reordered (ofDocuments others) where
  blocks := blocks_of_reordered reordered
  enums := groups_perm reordered fun _ _ step => step.enums
  bitflags := groups_perm reordered fun _ _ step => step.bitflags
  objectGroups := groups_perm reordered fun _ _ step => step.objects
  constants := flat_map_perm reordered fun _ _ step => step.constants
  typedefs := flat_map_perm reordered fun _ _ step => step.typedefs
  callbacks := flat_map_perm reordered fun _ _ step => step.callbacks
  structs := flat_map_perm reordered fun _ _ step => step.structs
  functions := flat_map_perm reordered fun _ _ step => step.functions

end Documents

namespace Reordered

variable {declared other : Declared} (reordered : declared.Reordered other)

include reordered

theorem symm : other.Reordered declared where
  blocks := reordered.blocks.symm
  enums := reordered.enums.symm
  bitflags := reordered.bitflags.symm
  objectGroups := reordered.objectGroups.symm
  constants := reordered.constants.symm
  typedefs := reordered.typedefs.symm
  callbacks := reordered.callbacks.symm
  structs := reordered.structs.symm
  functions := reordered.functions.symm

theorem objects : other.objects.Perm declared.objects :=
  reordered.objectGroups.map ObjectDecl.merge

theorem names (kind : TypeKind) : (other.namesOf kind).Perm (declared.namesOf kind) := by
  cases kind with
  | typedef => exact reordered.typedefs.map _
  | enum => exact reordered.enums.map _
  | bitflag => exact reordered.bitflags.map _
  | callback => exact reordered.callbacks.map _
  | struct => exact reordered.structs.map _
  | object => exact reordered.objects.map _

theorem fields : other.typeFields.Perm declared.typeFields := by
  unfold typeFields TypeField.all
  exact ((((reordered.typedefs.map _).append (reordered.callbacks.flatMap_right _)).append
    (reordered.structs.flatMap_right _)).append (reordered.functions.flatMap_right _)).append
    (reordered.objects.flatMap_right _)

theorem registered :
    (other.typeNames.map Prod.fst).Perm (declared.typeNames.map Prod.fst) := by
  rw [registered_names, registered_names]
  exact List.Perm.flatMap_left _ fun kind _ => reordered.names kind

end Reordered

end Declared

end InterfaceSchema
