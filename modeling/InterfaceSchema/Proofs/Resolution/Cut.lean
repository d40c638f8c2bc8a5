import InterfaceSchema.Proofs.Resolution.Contents

/-!
Declarations cut in two. An enum, a bit mask set or an object may hand its last entries on to an
extension that follows it at once: whether it is a base or an extension itself, and whatever is
wrong with the order of its group, neither the model nor the report changes.
-/

namespace InterfaceSchema

set_option autoImplicit false

namespace Document

/-- The second document is the first one with one declaration cut in two. The extension that takes
the rest is free in its doc and its namespace. -/
inductive CutInto : Document → Document → Prop
  | enum (document : Document) (before after : List EnumDecl) (decl : EnumDecl) (doc : String)
      (slots more : List (Option EnumEntry)) :
      CutInto { document with enums := before ++ { decl with slots := slots ++ more } :: after }
        { document with
          enums := before ++ { decl with slots := slots } ::
            { name := decl.name, doc := doc, extended := true, slots := more } :: after }
  | bitflag (document : Document) (before after : List BitflagDecl) (decl : BitflagDecl)
      (doc : String) (entries more : List BitflagEntry) :
      CutInto
        { document with bitflags := before ++ { decl with entries := entries ++ more } :: after }
        { document with
          bitflags := before ++ { decl with entries := entries } ::
            { name := decl.name, doc := doc, extended := true, entries := more } :: after }
  | object (document : Document) (before after : List ObjectDecl) (decl : ObjectDecl)
      (doc : String) (space : Option String) (methods more : List FunctionDecl) :
      CutInto
        { document with objects := before ++ { decl with methods := methods ++ more } :: after }
        { document with
          objects := before ++ { decl with methods := methods } ::
            { name := decl.name, doc := doc, extended := true, space := space, methods := more } ::
            after }

structure SameFrame (document other : Document) : Prop where
  name : other.name = document.name
  copyright : other.copyright = document.copyright
  block : other.block = document.block
  constants : other.constants = document.constants
  typedefs : other.typedefs = document.typedefs
  callbacks : other.callbacks = document.callbacks
  structs : other.structs = document.structs
  functions : other.functions = document.functions

theorem CutInto.same_frame {whole pieces : Document} (cut : whole.CutInto pieces) :
    whole.SameFrame pieces := by
  cases cut with
  | _ => exact ⟨rfl, rfl, rfl, rfl, rfl, rfl, rfl, rfl⟩

end Document

namespace Declared

theorem located_around {α : Type} (select : Document → List α) (before after : List Document) :
    ∃ later, ∀ document, located select (before ++ document :: after) =
      located select before ++
        ((select document).map fun decl => ⟨before.length, decl⟩) ++ later := by
  refine ⟨(after.zipIdx (before.length + 1)).flatMap fun placed =>
    (select placed.1).map fun decl => ⟨placed.2, decl⟩, ?_⟩
  intro document
  simp [located, List.zipIdx_append, List.zipIdx_cons]

variable {α Heading Item : Type} [Mergeable α] {heading : α → Heading}
  {content : Located α → List Item} {select : Document → List α} {whole pieces : Document}

theorem regroups_of_same (before after : List Document) (same : select pieces = select whole) :
    Group.Regroups heading content content (located select (before ++ whole :: after))
      (located select (before ++ pieces :: after)) := by
  obtain ⟨later, around⟩ := located_around select before after
  rw [around, around, same]
  exact Group.Regroups.refl _

theorem regroups_of_cut_document {decl piece further : α} {first last : List α}
    (written : select whole = first ++ decl :: last)
    (rewritten : select pieces = first ++ piece :: further :: last)
    (cut : ∀ fragment, Group.Cut heading content ⟨fragment, decl⟩ ⟨fragment, piece⟩
      ⟨fragment, further⟩) (before after : List Document) :
    Group.Regroups heading content content (located select (before ++ whole :: after))
      (located select (before ++ pieces :: after)) := by
  obtain ⟨later, around⟩ := located_around select before after
  have regroups := Group.regroups_of_cut (cut before.length)
    (located select before ++ first.map fun decl => ⟨before.length, decl⟩)
    ((last.map fun decl => ⟨before.length, decl⟩) ++ later)
  rw [around, around, written, rewritten]
  simpa only [List.map_append, List.map_cons, List.append_assoc, List.cons_append] using regroups

end Declared

namespace Resolver

open Declared

theorem same_contents_of_regroups {whole pieces : Document} {before after : List Document}
    (frame : whole.SameFrame pieces)
    (enums : ∀ blocks, Group.Regroups EnumDecl.doc (Numbering.slotsOf blocks)
      (Numbering.slotsOf blocks) (located Document.enums (before ++ whole :: after))
      (located Document.enums (before ++ pieces :: after)))
    (bitflags : Group.Regroups BitflagDecl.doc BitflagDecl.entriesOf BitflagDecl.entriesOf
      (located Document.bitflags (before ++ whole :: after))
      (located Document.bitflags (before ++ pieces :: after)))
    (objects : Group.Regroups ObjectDecl.heading ObjectDecl.methodsOf ObjectDecl.methodsOf
      (located Document.objects (before ++ whole :: after))
      (located Document.objects (before ++ pieces :: after))) :
    SameContents (before ++ whole :: after) (before ++ pieces :: after) := by
  constructor
  case name => cases before <;> simp [frame.name]
  case copyright => cases before <;> simp [frame.copyright]
  case blocks =>
    cases parsed : EnumBlock.parse? whole.block <;>
      simp [blockProblems, frame.name, frame.block, parsed]
  case enums =>
    have blocks : (ofDocuments (before ++ pieces :: after)).blocks =
        (ofDocuments (before ++ whole :: after)).blocks := by
      simp [ofDocuments, frame.block]
    rw [blocks]
    exact enums _
  case bitflags => exact bitflags
  case objects => exact objects
  case constants => simp [frame.constants]
  case typedefs => simp [frame.typedefs]
  case callbacks => simp [frame.callbacks]
  case structs => simp [frame.structs]
  case functions => simp [frame.functions]

theorem same_contents_cut {whole pieces : Document} (cut : whole.CutInto pieces)
    (before after : List Document) :
    SameContents (before ++ whole :: after) (before ++ pieces :: after) := by
  have frame := cut.same_frame
  cases cut with
  | enum document first last decl doc slots more =>
      apply same_contents_of_regroups frame
      case enums =>
        intro blocks
        apply regroups_of_cut_document
        case written => rfl
        case rewritten => rfl
        case cut => exact fun _ => ⟨rfl, rfl, rfl, rfl, rfl, List.map_append.symm⟩
      case bitflags => exact regroups_of_same _ _ rfl
      case objects => exact regroups_of_same _ _ rfl
  | bitflag document first last decl doc entries more =>
      apply same_contents_of_regroups frame
      case enums => exact fun _ => regroups_of_same _ _ rfl
      case bitflags =>
        apply regroups_of_cut_document
        case written => rfl
        case rewritten => rfl
        case cut => exact fun _ => ⟨rfl, rfl, rfl, rfl, rfl, rfl⟩
      case objects => exact regroups_of_same _ _ rfl
  | object document first last decl doc space methods more =>
      apply same_contents_of_regroups frame
      case enums => exact fun _ => regroups_of_same _ _ rfl
      case bitflags => exact regroups_of_same _ _ rfl
      case objects =>
        apply regroups_of_cut_document
        case written => rfl
        case rewritten => rfl
        case cut => exact fun _ => ⟨rfl, rfl, rfl, rfl, rfl, rfl⟩

/-- A declaration that is cut in two is resolved as the whole one, with all that is told. -/
theorem resolve_cut {whole pieces : Document} (cut : whole.CutInto pieces) (config : Config)
    (before after : List Document) :
    resolve config (before ++ pieces :: after) = resolve config (before ++ whole :: after) := by
  have same := same_contents_cut cut before after
  exact resolve_of_same_contents same config

/-- An extension that comes before its base, with a gap among its slots. -/
def earlyDocument : Document :=
  { name := "core"
    enums := [
      { name := "Status", extended := true
        slots := [some { name := "lost" }, none, some { name := "late", value := some 1 }] },
      { name := "Status", slots := [some { name := "ok" }] }] }

def cutEarlyDocument : Document :=
  { name := "core"
    enums := [
      { name := "Status", extended := true, slots := [some { name := "lost" }] },
      { name := "Status", doc := "The rest.", extended := true
        slots := [none, some { name := "late", value := some 1 }] },
      { name := "Status", slots := [some { name := "ok" }] }] }

theorem early_extension_cut :
    earlyDocument.CutInto cutEarlyDocument ∧
      resolve {} ([] ++ cutEarlyDocument :: []) = resolve {} ([] ++ earlyDocument :: []) := by
  have cut : earlyDocument.CutInto cutEarlyDocument :=
    .enum earlyDocument [] [{ name := "Status", slots := [some { name := "ok" }] }]
      { name := "Status", extended := true } "The rest." [some { name := "lost" }]
      [none, some { name := "late", value := some 1 }]
  exact ⟨cut, resolve_cut cut {} [] []⟩

end Resolver

end InterfaceSchema
