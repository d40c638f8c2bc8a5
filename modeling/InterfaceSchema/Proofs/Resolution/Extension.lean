import InterfaceSchema.Proofs.Bitflag.Extension
import InterfaceSchema.Proofs.Growth
import InterfaceSchema.Proofs.Reference.Meaning
import InterfaceSchema.Proofs.Resolution.Values

/-!
Resolution of one more document. Where neither the documents nor the documents with the further one
have errors, the larger model extends the smaller one: what is resolved stays as it is, and what is
new stands behind it.
-/

namespace InterfaceSchema

set_option autoImplicit false

structure ResolvedEnum.GrowsTo (enum other : ResolvedEnum) : Prop where
  name : other.name = enum.name
  doc : other.doc = enum.doc
  slots : enum.slots <+: other.slots

structure ResolvedBitflag.GrowsTo (bitflag other : ResolvedBitflag) : Prop where
  name : other.name = bitflag.name
  doc : other.doc = bitflag.doc
  masks : bitflag.masks <+: other.masks

structure ObjectDecl.GrowsTo (object other : ObjectDecl) : Prop where
  name : other.name = object.name
  doc : other.doc = object.doc
  space : other.space = object.space
  methods : object.methods <+: other.methods

namespace Model

/-- Every item has a counterpart at its index. -/
def Keeps {Item : Type} (kept : Item → Item → Prop) (smaller larger : List Item) : Prop :=
  ∀ (index : Nat) (item : Item), smaller[index]? = some item →
    ∃ other, larger[index]? = some other ∧ kept item other

/-- A larger model keeps all that a smaller one has, at the same indices. Merged declarations may
have further entries behind the ones that they had, and structs further extensions. -/
structure Extends (smaller larger : Model) : Prop where
  name : larger.name = smaller.name
  copyright : larger.copyright = smaller.copyright
  declared : smaller.declared.Within larger.declared
  constants : smaller.constants <+: larger.constants
  typedefs : smaller.typedefs <+: larger.typedefs
  callbacks : smaller.callbacks <+: larger.callbacks
  structs : smaller.structs <+: larger.structs
  functions : smaller.functions <+: larger.functions
  enums : Keeps ResolvedEnum.GrowsTo smaller.enums larger.enums
  bitflags : Keeps ResolvedBitflag.GrowsTo smaller.bitflags larger.bitflags
  objects : Keeps ObjectDecl.GrowsTo smaller.objects larger.objects
  bases : ∀ index, index < smaller.structs.length →
    larger.attachments.basesOf index = smaller.attachments.basesOf index
  extensions : ∀ index, index < smaller.structs.length →
    smaller.attachments.extensionsOf index <+: larger.attachments.extensionsOf index
  references : smaller.references.Sublist larger.references
  classified : ∀ type target, smaller.classify type = some target →
    larger.classify type = some target

theorem keeps_of_groups {Item Source : Type} {kept : Item → Item → Prop}
    {before after : Source → Item} {extend : Source → Source} {groups : List Source}
    (more : List Source) (step : ∀ group ∈ groups, kept (before group) (after (extend group))) :
    Keeps kept (groups.map before) ((groups.map extend ++ more).map after) := by
  intro index item found
  rw [List.getElem?_map, Option.map_eq_some_iff] at found
  obtain ⟨group, here, rfl⟩ := found
  have member := List.mem_of_getElem? here
  have inside : index < (groups.map extend).length := by
    rw [List.length_map]
    exact (List.getElem?_eq_some_iff.mp here).1
  refine ⟨after (extend group), ?_, step group member⟩
  rw [List.getElem?_map, List.getElem?_append_left inside, List.getElem?_map, here]
  rfl

end Model

namespace Resolver

open Declared Classification

variable (config : Config) (documents : List Document) (further : Document)

theorem enums_kept :
    Model.Keeps ResolvedEnum.GrowsTo
      (resolve config documents).partialModel.enums
      (resolve config (documents ++ [further])).partialModel.enums := by
  obtain ⟨more, groups⟩ := groups_append documents further Document.enums
  simp only [resolve, List.map_map]
  rw [show (ofDocuments (documents ++ [further])).enums = _ from groups]
  apply Model.keeps_of_groups
  intro group member
  refine ⟨rfl, rfl, Numbering.slots_prefix _ ?_⟩
  intro part inGroup
  have bound := fragment_lt_of_located (Group.part_mem_of_mem_gather member inGroup)
  exact blocks_append documents further bound

theorem bitflags_kept {documents : List Document} (clean : Clean config documents) :
    Model.Keeps ResolvedBitflag.GrowsTo
      (resolve config documents).partialModel.bitflags
      (resolve config (documents ++ [further])).partialModel.bitflags := by
  obtain ⟨more, groups⟩ := groups_append documents further Document.bitflags
  simp only [resolve, List.map_map]
  rw [show (ofDocuments (documents ++ [further])).bitflags = _ from groups]
  apply Model.keeps_of_groups
  intro group member
  refine ⟨rfl, rfl, BitflagDecl.masks_prefix config _ ?_⟩
  exact BitflagDecl.masks_known_of_no_errors (clean.bitflags group member)

theorem objects_kept :
    Model.Keeps ObjectDecl.GrowsTo
      (resolve config documents).partialModel.objects
      (resolve config (documents ++ [further])).partialModel.objects := by
  obtain ⟨more, groups⟩ := groups_append documents further Document.objects
  simp only [resolve, Declared.objects]
  rw [show (ofDocuments (documents ++ [further])).objectGroups = _ from groups]
  apply Model.keeps_of_groups
  intro group _
  obtain ⟨others, methods⟩ := ObjectDecl.methods_extend
    (added documents further Document.objects) group
  refine ⟨rfl, rfl, rfl, ?_⟩
  rw [methods]
  exact List.prefix_append _ _

variable {documents further}

theorem scope_within (larger : Clean config (documents ++ [further])) :
    (scopeOf config documents).declared.Within
      (scopeOf config (documents ++ [further])).declared :=
  declared_types_within larger.registration

theorem references_kept (clean : Clean config documents)
    (larger : Clean config (documents ++ [further])) :
    (resolve config documents).partialModel.references.Sublist
      (resolve config (documents ++ [further])).partialModel.references := by
  have within := scope_within config larger
  have same : (ofDocuments documents).typeFields.filterMap
        (TypeField.reference? (scopeOf config documents)) =
      (ofDocuments documents).typeFields.filterMap
        (TypeField.reference? (scopeOf config (documents ++ [further]))) := by
    apply List.filterMap_congr
    intro field member
    obtain ⟨reference, known, _⟩ :=
      TypeField.reference_of_no_problem (clean.fields field member)
    obtain ⟨classified, site, type⟩ := TypeField.reference_eq_some_iff.mp known
    have kept := TypeField.classify_within within rfl classified
    rw [known, TypeField.reference_eq_some_iff.mpr ⟨kept, site, type⟩]
  rw [resolve_references, resolve_references, same]
  exact (type_fields_sublist documents further).filterMap _

theorem classified_kept (larger : Clean config (documents ++ [further])) {type : String}
    {target : TypeTarget}
    (known : (resolve config documents).partialModel.classify type = some target) :
    (resolve config (documents ++ [further])).partialModel.classify type = some target := by
  rw [resolve_classify, target_eq_some_iff] at known ⊢
  have within := scope_within config larger
  exact of_type_of_means ((means_of_type known).within within)

/-- Adding a document changes nothing that is resolved, if there are no errors before and none
after. -/
theorem extends_of_no_errors (nonempty : documents ≠ [])
    (quiet : (resolve config documents).report.hasErrors = false)
    (still : (resolve config (documents ++ [further])).report.hasErrors = false) :
    (resolve config documents).partialModel.Extends
      (resolve config (documents ++ [further])).partialModel := by
  have clean := clean_of_no_errors quiet
  have larger := clean_of_no_errors still
  have within := declared_types_within larger.registration
  have registered := structs_registered clean.registration
  have grown := List.prefix_append documents [further]
  have structs : (ofDocuments (documents ++ [further])).structs =
      (ofDocuments documents).structs ++ [further].flatMap Document.structs := by
    simp only [ofDocuments, List.flatMap_append]
  have first : (documents ++ [further]).head? = documents.head? :=
    List.head?_append_of_ne_nil documents nonempty
  constructor
  case name => simp only [resolve, first]
  case copyright => simp only [resolve, first]
  case declared =>
    rw [resolve_declared, resolve_declared]
    exact within
  case constants =>
    exact (grown.flatMap Document.constants).map (resolveConstant config.pointerWidth)
  case typedefs => exact grown.flatMap Document.typedefs
  case callbacks => exact grown.flatMap Document.callbacks
  case structs => exact grown.flatMap Document.structs
  case functions => exact grown.flatMap Document.functions
  case enums => exact enums_kept config documents further
  case bitflags => exact bitflags_kept config further clean
  case objects => exact objects_kept config documents further
  case bases =>
    intro index inside
    rw [resolve_attachments, resolve_attachments, structs]
    exact Attachments.bases_of_within _ within registered clean.attachments inside
  case extensions =>
    intro index inside
    rw [resolve_attachments, resolve_attachments, structs]
    exact Attachments.extensions_of_within _ within registered clean.attachments inside
  case references => exact references_kept config clean larger
  case classified =>
    intro type target known
    exact classified_kept config larger known

/-- A document with declarations that may be extended. -/
def extensibleDocument : Document :=
  { name := "core"
    enums := [{ name := "Status", slots := [some { name := "ok" }, none] }]
    bitflags := [{ name := "Usage"
                   entries := [{ name := "all", combination := some ["read"] },
                     { name := "read", value := some (.unsigned 1) }] }]
    structs := [{ name := "Options", role := .base .into },
      { name := "Tuning", role := .extension .into, bases := ["Options"]
        members := [{ name := "usage", type := "bitflag.Usage" }] }]
    objects := [{ name := "Device"
                  methods := [{ name := "status", returns := some { type := "Status" } }] }] }

def extendingDocument : Document :=
  { name := "later"
    enums := [{ name := "Status", extended := true, slots := [some { name := "lost" }] }]
    bitflags := [{ name := "Usage", extended := true
                   entries := [{ name := "both", combination := some ["all", "write"] },
                     { name := "write", value := some (.unsigned 2) }] }]
    structs := [{ name := "Limits", role := .extension .into, bases := ["Options"] }]
    objects := [{ name := "Device", extended := true
                  methods := [{ name := "usage", returns := some { type := "Usage" } }] }] }

theorem extending_document_extends :
    [extensibleDocument] ≠ [] ∧
      (resolve {} [extensibleDocument]).report.hasErrors = false ∧
      (resolve {} ([extensibleDocument] ++ [extendingDocument])).report.hasErrors = false ∧
      (resolve {} [extensibleDocument]).partialModel.Extends
        (resolve {} ([extensibleDocument] ++ [extendingDocument])).partialModel := by
  have nonempty : [extensibleDocument] ≠ [] := List.cons_ne_nil _ _
  have quiet : (resolve {} [extensibleDocument]).report.hasErrors = false := by decide
  have still : (resolve {} ([extensibleDocument] ++ [extendingDocument])).report.hasErrors =
      false := by decide
  exact ⟨nonempty, quiet, still, extends_of_no_errors {} nonempty quiet still⟩

end Resolver

end InterfaceSchema
