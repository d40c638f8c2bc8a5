import InterfaceSchema.Proofs.Resolution.Contents

/-!
Documents joined at a boundary. Of neighbours in one block the second may be written at the end of
the first: neither the model nor the report shows where one document ends and the next one starts.
-/

namespace InterfaceSchema

set_option autoImplicit false

def Document.join (first second : Document) : Document :=
  { first with
    constants := first.constants ++ second.constants
    typedefs := first.typedefs ++ second.typedefs
    enums := first.enums ++ second.enums
    bitflags := first.bitflags ++ second.bitflags
    callbacks := first.callbacks ++ second.callbacks
    structs := first.structs ++ second.structs
    functions := first.functions ++ second.functions
    objects := first.objects ++ second.objects }

namespace Declared

theorem block_at {documents : List Document} {document : Document} {fragment : Nat}
    (found : documents[fragment]? = some document) :
    ((ofDocuments documents).blocks[fragment]?).join = EnumBlock.parse? document.block := by
  simp [ofDocuments, found]

variable {α β : Type} {select : Document → List α} {first second : Document}

theorem flat_map_join {before after : List Document} {read : Document → List β}
    (joined : read (first.join second) = read first ++ read second) :
    (before ++ [first.join second] ++ after).flatMap read =
      (before ++ [first, second] ++ after).flatMap read := by
  simp [joined]

/-- Declarations are read alike where their documents are joined, as long as only the block of the
document matters. -/
theorem map_located_join {before after : List Document} {read readJoined : Located α → β}
    (view : Option UInt16 → α → β)
    (apart : ∀ part, read part = view
      (((ofDocuments (before ++ [first, second] ++ after)).blocks[part.fragment]?).join) part.decl)
    (together : ∀ part, readJoined part = view
      (((ofDocuments (before ++ [first.join second] ++ after)).blocks[part.fragment]?).join)
      part.decl)
    (joined : select (first.join second) = select first ++ select second)
    (block : EnumBlock.parse? second.block = EnumBlock.parse? first.block) :
    (located select (before ++ [first.join second] ++ after)).map readJoined =
      (located select (before ++ [first, second] ++ after)).map read := by
  rw [map_located fun document => view (EnumBlock.parse? document.block),
    map_located fun document => view (EnumBlock.parse? document.block)]
  · apply flat_map_join
    rw [joined, List.map_append, block]
    rfl
  · intro document fragment found decl _
    rw [apart, block_at found]
  · intro document fragment found decl _
    rw [together, block_at found]

end Declared

namespace Resolver

open Declared

theorem same_contents_join {first second : Document} {block : UInt16}
    (own : EnumBlock.parse? first.block = some block)
    (next : EnumBlock.parse? second.block = some block) (before after : List Document) :
    SameContents (before ++ [first, second] ++ after) (before ++ [first.join second] ++ after) := by
  have alike : EnumBlock.parse? second.block = EnumBlock.parse? first.block := next.trans own.symm
  have joinedBlock : (first.join second).block = first.block := rfl
  constructor
  case name => cases before <;> rfl
  case copyright => cases before <;> rfl
  case blocks => simp [blockProblems, List.filter_append, joinedBlock, own, next]
  case enums =>
    apply Group.regroups_of_views
    exact map_located_join
      (fun block decl => (decl, decl.slots.map fun entry => Numbering.PlacedSlot.mk block entry))
      (fun _ => rfl) (fun _ => rfl) rfl alike
  case bitflags =>
    apply Group.regroups_of_views
    exact map_located_join (fun _ decl => (decl, decl.entries)) (fun _ => rfl) (fun _ => rfl) rfl
      alike
  case objects =>
    apply Group.regroups_of_views
    exact map_located_join (fun _ decl => (decl, decl.methods)) (fun _ => rfl) (fun _ => rfl) rfl
      alike
  case constants => exact flat_map_join rfl
  case typedefs => exact flat_map_join rfl
  case callbacks => exact flat_map_join rfl
  case structs => exact flat_map_join rfl
  case functions => exact flat_map_join rfl

/-- Documents of one block that follow each other are resolved as the one document that lists all
their declarations. -/
theorem resolve_join (config : Config) (before after : List Document) {first second : Document}
    {block : UInt16} (own : EnumBlock.parse? first.block = some block)
    (next : EnumBlock.parse? second.block = some block) :
    resolve config (before ++ [first, second] ++ after) =
      resolve config (before ++ [first.join second] ++ after) := by
  have same := same_contents_join own next before after
  exact (resolve_of_same_contents same config).symm

/-- Three documents of one enum, the first two of one block that is written in two ways. -/
def leadingDocument : Document :=
  { name := "core", block := "0x0001"
    enums := [{ name := "Status", slots := [some { name := "ok" }] }] }

def followingDocument : Document :=
  { name := "more", block := "0X1"
    enums := [{ name := "Status", extended := true, slots := [none, some { name := "lost" }] }] }

def distantDocument : Document :=
  { name := "last"
    enums := [{ name := "Status", extended := true, slots := [some { name := "gone" }] }] }

theorem following_document_joined :
    EnumBlock.parse? leadingDocument.block = some 1 ∧
      EnumBlock.parse? followingDocument.block = some 1 ∧
      resolve {} ([] ++ [leadingDocument, followingDocument] ++ [distantDocument]) =
        resolve {} ([] ++ [leadingDocument.join followingDocument] ++ [distantDocument]) := by
  have own : EnumBlock.parse? leadingDocument.block = some 1 := by decide
  have next : EnumBlock.parse? followingDocument.block = some 1 := by decide
  exact ⟨own, next, resolve_join {} [] [distantDocument] own next⟩

end Resolver

end InterfaceSchema
