import InterfaceSchema.Proofs.Declared
import InterfaceSchema.Proofs.Regrouping

/-!
What resolution reads of documents: their declarations one after the other, and of enums, bit mask
sets and objects what their groups contribute. How these are distributed over documents of one
block, and over declarations of one name, makes no difference.
-/

namespace InterfaceSchema

set_option autoImplicit false

namespace Resolver

open Declared

structure SameContents (documents others : List Document) : Prop where
  name : others.head?.map Document.name = documents.head?.map Document.name
  copyright : others.head?.map Document.copyright = documents.head?.map Document.copyright
  blocks : blockProblems others = blockProblems documents
  enums : Group.Regroups EnumDecl.doc (Numbering.slotsOf (ofDocuments documents).blocks)
    (Numbering.slotsOf (ofDocuments others).blocks) (located Document.enums documents)
    (located Document.enums others)
  bitflags : Group.Regroups BitflagDecl.doc BitflagDecl.entriesOf BitflagDecl.entriesOf
    (located Document.bitflags documents) (located Document.bitflags others)
  objects : Group.Regroups ObjectDecl.heading ObjectDecl.methodsOf ObjectDecl.methodsOf
    (located Document.objects documents) (located Document.objects others)
  constants : others.flatMap Document.constants = documents.flatMap Document.constants
  typedefs : others.flatMap Document.typedefs = documents.flatMap Document.typedefs
  callbacks : others.flatMap Document.callbacks = documents.flatMap Document.callbacks
  structs : others.flatMap Document.structs = documents.flatMap Document.structs
  functions : others.flatMap Document.functions = documents.flatMap Document.functions

section Declarations

variable {documents others : List Document} (same : SameContents documents others)

include same

theorem SameContents.merged_objects :
    (ofDocuments others).objects = (ofDocuments documents).objects :=
  same.objects.map_gather fun _ _ => ObjectDecl.merge_of_agrees

theorem SameContents.type_names :
    (ofDocuments others).typeNames = (ofDocuments documents).typeNames := by
  have enums : (ofDocuments others).enums.map Group.name =
      (ofDocuments documents).enums.map Group.name := same.enums.map_gather fun _ _ => (·.name)
  have bitflags : (ofDocuments others).bitflags.map Group.name =
      (ofDocuments documents).bitflags.map Group.name :=
    same.bitflags.map_gather fun _ _ => (·.name)
  simp only [typeNames, enums, bitflags, same.merged_objects]
  simp only [ofDocuments, same.typedefs, same.callbacks, same.structs]

theorem SameContents.merge_problems :
    mergeProblems (ofDocuments others) = mergeProblems (ofDocuments documents) := by
  have enums : (ofDocuments others).enums.map Group.problems =
      (ofDocuments documents).enums.map Group.problems :=
    same.enums.map_gather fun _ _ => (·.problems)
  have bitflags : (ofDocuments others).bitflags.map Group.problems =
      (ofDocuments documents).bitflags.map Group.problems :=
    same.bitflags.map_gather fun _ _ => (·.problems)
  have objects : (ofDocuments others).objectGroups.map Group.problems =
      (ofDocuments documents).objectGroups.map Group.problems :=
    same.objects.map_gather fun _ _ => (·.problems)
  simp only [mergeProblems, List.flatMap_def, enums, bitflags, objects]

/-- Documents with the same contents have the same model and the same report. -/
theorem resolve_of_same_contents (config : Config) :
    resolve config others = resolve config documents := by
  have enums : (ofDocuments others).enums.map (Numbering.resolve (ofDocuments others).blocks) =
      (ofDocuments documents).enums.map (Numbering.resolve (ofDocuments documents).blocks) :=
    same.enums.map_gather fun _ _ => Numbering.resolve_of_agrees
  have bitflags : (ofDocuments others).bitflags.map (BitflagDecl.resolve config) =
      (ofDocuments documents).bitflags.map (BitflagDecl.resolve config) :=
    same.bitflags.map_gather fun _ _ => BitflagDecl.resolve_of_agrees config
  have constants : (ofDocuments others).constants = (ofDocuments documents).constants :=
    same.constants
  have typedefs : (ofDocuments others).typedefs = (ofDocuments documents).typedefs :=
    same.typedefs
  have callbacks : (ofDocuments others).callbacks = (ofDocuments documents).callbacks :=
    same.callbacks
  have structs : (ofDocuments others).structs = (ofDocuments documents).structs := same.structs
  have functions : (ofDocuments others).functions = (ofDocuments documents).functions :=
    same.functions
  simp only [resolve, enums, bitflags, constants, typedefs, callbacks, structs, functions,
    same.name, same.copyright, same.blocks, same.type_names, same.merge_problems,
    same.merged_objects, typeFields, nameProblems]

end Declarations

end Resolver

end InterfaceSchema
