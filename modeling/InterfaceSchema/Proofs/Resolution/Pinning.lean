import InterfaceSchema.Proofs.Numbering.Pinned
import InterfaceSchema.Proofs.Resolution.Merging

/-!
Documents that write numbers of enum entries down. Whichever entries without a number write the
value that a run has given them, in whatever documents and declarations, the run stays as it is:
its model with all other numbers, and its report.
-/

namespace InterfaceSchema

set_option autoImplicit false

def Document.unwritten (document : Document) : Document :=
  { document with enums := document.enums.map EnumDecl.unwritten }

def Document.slotsOfEnum (documents : List Document) (name : String) : List (Option EnumEntry) :=
  (Mergeable.ofName name (documents.flatMap Document.enums)).flatMap EnumDecl.slots

/-- Documents that differ from others only in numbers of enum entries: any entries that write none
may write the value that they have in the model. -/
structure Pins (model : Model) (documents others : List Document) : Prop where
  alike : others.map Document.unwritten = documents.map Document.unwritten
  pinned : ∀ enum ∈ model.enums,
    Numbering.PinnedSlots enum.slots (Document.slotsOfEnum documents enum.name)
      (Document.slotsOfEnum others enum.name)

namespace Declared

theorem located_map {α : Type} (select : Document → List α) (change : Document → Document)
    (documents : List Document) :
    located select (documents.map change) =
      located (fun document => select (change document)) documents := by
  rw [located, List.zipIdx_map, List.flatMap_map]
  rfl

theorem located_unwritten (documents : List Document) :
    located Document.enums (documents.map Document.unwritten) =
      (located Document.enums documents).map Located.unwritten := by
  rw [located_map, located, located, List.map_flatMap]
  simp only [Document.unwritten, List.map_map]
  rfl

theorem of_documents_unwritten (documents : List Document) :
    ofDocuments (documents.map Document.unwritten) =
      { ofDocuments documents with
        enums := Group.gather ((located Document.enums documents).map Located.unwritten) } := by
  rw [ofDocuments, located_unwritten]
  simp only [located_map, List.flatMap_map, List.map_map, Document.unwritten]
  rfl

end Declared

namespace Resolver

open Declared

theorem block_problems_unwritten (documents : List Document) :
    blockProblems (documents.map Document.unwritten) = blockProblems documents := by
  rw [blockProblems, List.filter_map, List.map_map]
  rfl

section Alike

variable {documents others : List Document}
  (alike : others.map Document.unwritten = documents.map Document.unwritten)

include alike

theorem declared_of_alike :
    ofDocuments others = { ofDocuments documents with enums := (ofDocuments others).enums } := by
  have same := congrArg ofDocuments alike
  rw [of_documents_unwritten, of_documents_unwritten] at same
  have restored := congrArg (fun declared : Declared =>
    { declared with enums := (ofDocuments others).enums }) same
  exact restored

theorem located_of_alike :
    (located Document.enums others).map Located.unwritten =
      (located Document.enums documents).map Located.unwritten := by
  rw [← located_unwritten, ← located_unwritten, alike]

theorem parts_of_alike {group other : Group EnumDecl}
    (member : group ∈ (ofDocuments documents).enums)
    (among : other ∈ (ofDocuments others).enums) (named : other.name = group.name) :
    other.parts.map Located.unwritten = group.parts.map Located.unwritten :=
  Group.map_parts_of_views (located_of_alike alike) Group.nameOf (fun _ => rfl) (fun _ => rfl)
    member among named

theorem names_of_alike :
    ((located Document.enums others).map Group.nameOf).eraseDups =
      ((located Document.enums documents).map Group.nameOf).eraseDups := by
  have names := congrArg (List.map Group.nameOf) (located_of_alike alike)
  rw [List.map_map, List.map_map] at names
  exact congrArg List.eraseDups names

theorem problems_of_alike :
    (ofDocuments others).enums.map Group.problems =
      (ofDocuments documents).enums.map Group.problems := by
  apply Group.map_gather_of_names (names_of_alike alike)
  intro group member other among named
  have flags := congrArg (List.map fun part => Mergeable.extended part.decl)
    (parts_of_alike alike member among named)
  rw [List.map_map, List.map_map] at flags
  rw [Group.problems, Group.problems, Group.faults_of_extended flags, named]

theorem block_problems_of_alike :
    blockProblems others = blockProblems documents := by
  rw [← block_problems_unwritten, alike, block_problems_unwritten]

theorem first_of_alike :
    others.head?.map Document.name = documents.head?.map Document.name ∧
      others.head?.map Document.copyright = documents.head?.map Document.copyright := by
  have first := congrArg List.head? alike
  rw [List.head?_map, List.head?_map] at first
  have name := congrArg (Option.map Document.name) first
  have copyright := congrArg (Option.map Document.copyright) first
  rw [Option.map_map, Option.map_map] at name copyright
  exact ⟨name, copyright⟩

end Alike

section Pinning

variable {config : Config} {documents others : List Document}

theorem slots_of_group {group : Group EnumDecl} (member : group ∈ (ofDocuments documents).enums) :
    Document.slotsOfEnum documents group.name =
      group.parts.flatMap fun part => part.decl.slots := by
  rw [Document.slotsOfEnum, ← located_decls, declarations_of_group member, List.flatMap_map]

theorem enums_of_pins (pins : Pins (resolve config documents).partialModel documents others) :
    (ofDocuments others).enums.map (Numbering.resolve (ofDocuments documents).blocks) =
      (ofDocuments documents).enums.map (Numbering.resolve (ofDocuments documents).blocks) := by
  apply Group.map_gather_of_names (names_of_alike pins.alike)
  intro group member other among named
  apply Numbering.resolve_of_pinned (parts_of_alike pins.alike member among named)
  rw [← slots_of_group member, ← slots_of_group among, named]
  apply pins.pinned (Numbering.resolve (ofDocuments documents).blocks group).1
  simp only [resolve, List.map_map]
  exact List.mem_map_of_mem member

/-- Pinning numbers changes nothing: documents in which any entries without a number write the
value that they have got are resolved to the same model with the same report. -/
theorem resolve_of_pins (pins : Pins (resolve config documents).partialModel documents others) :
    resolve config others = resolve config documents := by
  have rest := declared_of_alike pins.alike
  have names : (ofDocuments others).enums.map Group.name =
      (ofDocuments documents).enums.map Group.name :=
    Group.map_gather_of_names (names_of_alike pins.alike) fun _ _ _ _ named => named
  have problems := problems_of_alike pins.alike
  have enums := enums_of_pins pins
  obtain ⟨name, copyright⟩ := first_of_alike pins.alike
  generalize (ofDocuments others).enums = pinned at rest names problems enums
  simp only [resolve, rest, typeNames, typeFields, Declared.objects, mergeProblems, nameProblems,
    List.flatMap_def, names, problems, enums, name, copyright, block_problems_of_alike pins.alike]

end Pinning

/-- An enum of three documents, of which the first and the last one share a block and a value. -/
def countedDocuments : List Document :=
  [{ name := "core", block := "0x0001"
     enums := [{ name := "Code"
                 slots := [some { name := "zero" }, none, some { name := "two" },
                   some { name := "three" }] }] },
   { name := "media", block := "0x0002"
     enums := [{ name := "Code", extended := true
                 slots := [none, some { name := "play" }, some { name := "stop" }] }] },
   { name := "late", block := "0x0001"
     enums := [{ name := "Code", extended := true
                 slots := [some { name := "again", value := some 2 }, some { name := "next" },
                   none] }] }]

def pinnedDocuments : List Document :=
  [{ name := "core", block := "0x0001"
     enums := [{ name := "Code"
                 slots := [some { name := "zero" }, none, some { name := "two", value := some 2 },
                   some { name := "three" }] }] },
   { name := "media", block := "0x0002"
     enums := [{ name := "Code", extended := true
                 slots := [none, some { name := "play", value := some 1 },
                   some { name := "stop" }] }] },
   { name := "late", block := "0x0001"
     enums := [{ name := "Code", extended := true
                 slots := [some { name := "again", value := some 2 },
                   some { name := "next", value := some 3 }, none] }] }]

/-- Gaps and collisions keep their numbers, and so does what is counted behind them. -/
theorem counted_documents_pinned :
    Pins (resolve {} countedDocuments).partialModel countedDocuments pinnedDocuments ∧
      resolve {} pinnedDocuments = resolve {} countedDocuments ∧
      (resolve {} pinnedDocuments).partialModel.enums.map (fun enum =>
        enum.slots.map ResolvedSlot.value) =
        [[some 0, some 1, some 2, some 3, some 0, some 1, some 2, some 2, some 3, some 4]] := by
  have pins : Pins (resolve {} countedDocuments).partialModel countedDocuments pinnedDocuments :=
    ⟨by decide, by decide⟩
  have same := resolve_of_pins pins
  refine ⟨pins, same, ?_⟩
  rw [same]
  decide

end Resolver

end InterfaceSchema
