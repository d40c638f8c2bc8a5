import InterfaceSchema.Proofs.Bitflag.Meaning
import InterfaceSchema.Proofs.Declared
import InterfaceSchema.Proofs.Numbering
import Mathlib.Data.List.Forall2

/-!
What merging makes of declarations. However those of one name are spread over the documents, and
whatever is wrong with the order of bases and extensions, one record collects them: under the
heading of the first one stand the contents of all of them, in the order in which they are written.
-/

namespace InterfaceSchema

set_option autoImplicit false

/-- A slot for one that is written. A gap stays a gap, and a number that is written is the number
of the slot if sixteen bits hold it. -/
structure ResolvedSlot.Shows (entry : Option EnumEntry) (slot : ResolvedSlot) : Prop where
  name : slot.name = entry.map EnumEntry.name
  doc : slot.doc = (entry.map EnumEntry.doc).getD ""
  number : ∀ written, entry.bind EnumEntry.value = some written →
    ∀ value : UInt16, slot.value = some value ↔ (value.toNat : Int) = written.toInt

structure ResolvedMask.Shows (pointerWidth : UInt32) (entry : BitflagEntry)
    (mask : ResolvedMask) : Prop where
  name : mask.name = entry.name
  doc : mask.doc = entry.doc
  combination : mask.combination = entry.combination.getD []
  literal : ∀ written, entry.value = some written → entry.combination = none →
    mask.value = (written.resolve pointerWidth).toOption

section Records

variable {Decl Heading Item Entry : Type} [Mergeable Decl]

def Mergeable.ofName (name : String) (declarations : List Decl) : List Decl :=
  declarations.filter fun decl => Mergeable.name decl == name

/-- A record for the declarations of one name, with the heading of the first one and an entry for
each item of all of them. -/
structure Collects (heading : Decl → Heading) (items : Decl → List Item)
    (shows : Item → Entry → Prop) (named : List Decl) (record : Heading × List Entry) : Prop where
  heading : named.head?.map heading = some record.1
  entries : List.Forall₂ shows (named.flatMap items) record.2

def MergedFrom (heading : Decl → Heading) (items : Decl → List Item)
    (shows : Item → Entry → Prop) (declarations : List Decl)
    (records : List (Heading × List Entry)) : Prop :=
  List.Forall₂ (fun name => Collects heading items shows (Mergeable.ofName name declarations))
    (declarations.map Mergeable.name).eraseDups records

variable {heading : Decl → Heading} {items : Decl → List Item} {shows : Item → Entry → Prop}

theorem declarations_of_group {declarations : List (Located Decl)} {group : Group Decl}
    (member : group ∈ Group.gather declarations) :
    Mergeable.ofName group.name (declarations.map Located.decl) =
      group.parts.map Located.decl := by
  rw [Group.parts_of_mem_gather member, Mergeable.ofName, List.filter_map]
  rfl

theorem merged_from_of_groups {declarations : List (Located Decl)}
    {record : Group Decl → Heading × List Entry}
    (headings : ∀ group, (record group).1 = heading group.first.decl)
    (contents : ∀ group, List.Forall₂ shows
      (group.parts.flatMap fun part => items part.decl) (record group).2) :
    MergedFrom heading items shows (declarations.map Located.decl)
      ((Group.gather declarations).map record) := by
  have names : (declarations.map Located.decl).map Mergeable.name =
      declarations.map Group.nameOf := by
    rw [List.map_map]
    rfl
  unfold MergedFrom
  rw [names, ← Group.names_of_gather, List.forall₂_map_left_iff, List.forall₂_map_right_iff,
    List.forall₂_same]
  intro group member
  rw [declarations_of_group member]
  constructor
  case heading => rw [headings]; rfl
  case entries =>
    rw [List.flatMap_map]
    exact contents group

end Records

namespace Numbering

theorem slots_show (counters : Counters) (placed : List PlacedSlot) :
    List.Forall₂ ResolvedSlot.Shows (placed.map PlacedSlot.entry)
      (List.zipWith resolveSlot placed (numbers counters placed)) := by
  induction placed generalizing counters with
  | nil => exact .nil
  | cons slot rest ih =>
      refine .cons ⟨rfl, rfl, ?_⟩ (ih _)
      intro written explicit value
      simp only [resolveSlot, explicit]
      exact value_eq_some_iff

end Numbering

namespace BitflagDecl

open MaskNode MaskProgress MaskDependency

theorem masks_show (config : Config) (group : Group BitflagDecl) :
    List.Forall₂ (ResolvedMask.Shows config.pointerWidth) (mergedEntries group)
      (resolve config group).1.masks := by
  rw [List.forall₂_iff_get]
  have size := congrArg List.length (resolved_mask_names config group)
  rw [List.length_map, List.length_map] at size
  refine ⟨size.symm, ?_⟩
  intro index here there
  have found := List.getElem?_eq_getElem here
  have mask := resolved_mask_at config group index
  rw [found, Option.map_some, List.getElem?_eq_getElem there, Option.some.injEq] at mask
  rw [List.get_eq_getElem, List.get_eq_getElem, mask]
  refine ⟨rfl, rfl, rfl, ?_⟩
  intro written value alone
  exact mask_at_of_literal found value alone

end BitflagDecl

namespace Resolver

open Declared

/-- Merging loses, repeats and reorders nothing. For each kind there is one record for each name
that is declared, it has the heading of the first declaration of this name, and its entries show
those of all its declarations one by one. -/
theorem declarations_merged (config : Config) (documents : List Document) :
    MergedFrom (fun decl : EnumDecl => (decl.name, decl.doc)) EnumDecl.slots ResolvedSlot.Shows
        (documents.flatMap Document.enums)
        ((resolve config documents).partialModel.enums.map fun enum =>
          ((enum.name, enum.doc), enum.slots)) ∧
      MergedFrom (fun decl : BitflagDecl => (decl.name, decl.doc)) BitflagDecl.entries
        (ResolvedMask.Shows config.pointerWidth) (documents.flatMap Document.bitflags)
        ((resolve config documents).partialModel.bitflags.map fun bitflag =>
          ((bitflag.name, bitflag.doc), bitflag.masks)) ∧
      MergedFrom (fun decl : ObjectDecl => (decl.name, decl.doc, decl.space)) ObjectDecl.methods
        Eq (documents.flatMap Document.objects)
        ((resolve config documents).partialModel.objects.map fun object =>
          ((object.name, object.doc, object.space), object.methods)) := by
  refine ⟨?_, ?_, ?_⟩
  · rw [← located_decls]
    simp only [resolve, List.map_map]
    apply merged_from_of_groups
    case headings => exact fun _ => rfl
    case contents =>
      intro group
      rw [← Numbering.placed_entries (ofDocuments documents).blocks]
      exact Numbering.slots_show [] _
  · rw [← located_decls]
    simp only [resolve, List.map_map]
    apply merged_from_of_groups
    case headings => exact fun _ => rfl
    case contents => exact BitflagDecl.masks_show config
  · rw [← located_decls]
    simp only [resolve, Declared.objects, List.map_map]
    apply merged_from_of_groups
    case headings => exact fun _ => rfl
    case contents =>
      intro group
      rw [List.forall₂_eq_eq_eq]
      rfl

end Resolver

end InterfaceSchema
