import InterfaceSchema.Bitflag.Resolve
import InterfaceSchema.Numbering
import InterfaceSchema.Proofs.Group

/-!
What a group contributes. Resolution reads of a group its name, the heading of its first
declaration, the contents of all its declarations one after the other, and the order of its base
and its extensions. Where declarations are written differently but their groups agree in these,
nothing else can be told apart.
-/

namespace InterfaceSchema

set_option autoImplicit false

namespace Group

variable {α : Type} [Mergeable α]

section Faults

variable {seenBase toldEarly : Bool}

theorem faults_of_extended {parts others : List (Located α)}
    (same : (others.map fun part => Mergeable.extended part.decl) =
      parts.map fun part => Mergeable.extended part.decl) :
    faults seenBase toldEarly others = faults seenBase toldEarly parts := by
  induction parts generalizing others seenBase toldEarly with
  | nil => rw [List.map_eq_nil_iff.mp same]
  | cons part rest ih =>
      cases others with
      | nil => cases same
      | cons other more =>
          obtain ⟨own, remaining⟩ := List.cons.inj same
          have later : (more.any fun located => !Mergeable.extended located.decl) =
              rest.any fun located => !Mergeable.extended located.decl := by
            have flags := congrArg (fun list => list.any fun extended => !extended) remaining
            simpa only [List.any_map, Function.comp_def] using flags
          simp only [faults, own, later, ih remaining]

theorem faults_cons (part : Located α) (rest : List (Located α)) :
    faults seenBase toldEarly (part :: rest) =
      if Mergeable.extended part.decl then
        if seenBase || toldEarly then faults seenBase toldEarly rest
        else if rest.any fun later => !Mergeable.extended later.decl then
          .extendedBeforeBase :: faults seenBase true rest
        else .missingBase :: faults seenBase true rest
      else if seenBase then .duplicateBase :: faults true toldEarly rest
      else faults true toldEarly rest := rfl

theorem faults_further {further : Located α} (extended : Mergeable.extended further.decl = true)
    (told : (seenBase || toldEarly) = true) (rest : List (Located α)) :
    faults seenBase toldEarly (further :: rest) = faults seenBase toldEarly rest := by
  rw [faults_cons, if_pos extended, if_pos told]

/-- A further extension behind a declaration is no fault: where it comes too early, the
declaration before it does so too and is told. -/
theorem faults_cut {whole piece further : Located α}
    (same : Mergeable.extended piece.decl = Mergeable.extended whole.decl)
    (extended : Mergeable.extended further.decl = true) (before after : List (Located α)) :
    faults seenBase toldEarly (before ++ piece :: further :: after) =
      faults seenBase toldEarly (before ++ whole :: after) := by
  induction before generalizing seenBase toldEarly with
  | nil =>
      have later : ((further :: after).any fun located => !Mergeable.extended located.decl) =
          after.any fun located => !Mergeable.extended located.decl := by
        simp [extended]
      have based : faults true toldEarly (further :: after) = faults true toldEarly after :=
        faults_further extended rfl after
      have early : faults seenBase true (further :: after) = faults seenBase true after :=
        faults_further extended (Bool.or_true _) after
      rw [List.nil_append, List.nil_append, faults_cons piece, faults_cons whole, same, later,
        based, early]
      cases told : seenBase || toldEarly with
      | true => rw [faults_further extended told]
      | false => rfl
  | cons part rest ih =>
      have later : ((rest ++ piece :: further :: after).any fun located =>
            !Mergeable.extended located.decl) =
          (rest ++ whole :: after).any fun located => !Mergeable.extended located.decl := by
        simp [same, extended]
      simp only [List.cons_append, faults_cons, later, ih]

end Faults

section Agreement

variable {Heading Item : Type} (heading : α → Heading) (content content' : Located α → List Item)

/-- Groups of one name that contribute the same. The contents are read off each group in its own
way, since they may depend on the places of the declarations. -/
structure Agrees (group other : Group α) : Prop where
  name : other.name = group.name
  heading : heading other.first.decl = heading group.first.decl
  content : other.parts.flatMap content' = group.parts.flatMap content
  problems : other.problems = group.problems

structure Regroups (declarations others : List (Located α)) : Prop where
  names : (others.map nameOf).eraseDups = (declarations.map nameOf).eraseDups
  agrees : ∀ group ∈ gather declarations, ∀ other ∈ gather others, other.name = group.name →
    Agrees heading content content' group other

/-- One declaration cut in two: a first piece with the heading and an extension with the rest. -/
structure Cut (whole piece further : Located α) : Prop where
  name : nameOf piece = nameOf whole
  furtherName : nameOf further = nameOf whole
  extended : Mergeable.extended piece.decl = Mergeable.extended whole.decl
  furtherExtended : Mergeable.extended further.decl = true
  heading : heading piece.decl = heading whole.decl
  content : content piece ++ content further = content whole

variable {heading content content'}

theorem agrees_of_parts {group other : Group α} (named : other.name = group.name)
    (first : other.parts.head?.map (fun part => heading part.decl) =
      group.parts.head?.map fun part => heading part.decl)
    (contents : other.parts.flatMap content' = group.parts.flatMap content)
    (order : faults false false other.parts = faults false false group.parts) :
    Agrees heading content content' group other := by
  refine ⟨named, Option.some.inj first, contents, ?_⟩
  unfold problems
  rw [order, named]

theorem map_gather_of_names {declarations others : List (Located α)}
    (names : (others.map nameOf).eraseDups = (declarations.map nameOf).eraseDups) {Value : Type}
    {before after : Group α → Value}
    (alike : ∀ group ∈ gather declarations, ∀ other ∈ gather others, other.name = group.name →
      after other = before group) :
    (gather others).map after = (gather declarations).map before := by
  rw [← names_of_gather, ← names_of_gather] at names
  apply List.ext_getElem?
  intro index
  have named := congrArg (fun list => list[index]?) names
  simp only [List.getElem?_map] at named ⊢
  cases first : (gather declarations)[index]? with
  | none =>
      rw [first] at named
      rw [Option.map_eq_none_iff.mp named]
      rfl
  | some group =>
      rw [first, Option.map_some, Option.map_eq_some_iff] at named
      obtain ⟨other, second, same⟩ := named
      have agree := alike group (List.mem_of_getElem? first) other (List.mem_of_getElem? second)
        same
      rw [second, Option.map_some, Option.map_some, agree]

theorem Regroups.map_gather {declarations others : List (Located α)}
    (regroups : Regroups heading content content' declarations others) {Value : Type}
    {before after : Group α → Value}
    (alike : ∀ group other, Agrees heading content content' group other →
      after other = before group) :
    (gather others).map after = (gather declarations).map before := by
  apply map_gather_of_names regroups.names
  intro group member other among named
  exact alike group other (regroups.agrees group member other among named)

theorem agrees_of_same_parts {group other : Group α} (same : other.parts = group.parts) :
    Agrees heading content content group other := by
  rw [eq_of_parts same]
  exact ⟨rfl, rfl, rfl, rfl⟩

theorem Regroups.refl (declarations : List (Located α)) :
    Regroups heading content content declarations declarations := by
  refine ⟨rfl, ?_⟩
  intro group member other among named
  apply agrees_of_same_parts
  rw [parts_of_mem_gather among, parts_of_mem_gather member, named]

theorem map_parts_of_views {View : Type} {view view' : Located α → View}
    {declarations others : List (Located α)} (same : others.map view' = declarations.map view)
    (key : View → String) (keys : ∀ part, key (view part) = nameOf part)
    (keys' : ∀ part, key (view' part) = nameOf part) {group other : Group α}
    (member : group ∈ gather declarations) (among : other ∈ gather others)
    (named : other.name = group.name) :
    other.parts.map view' = group.parts.map view := by
  have kept := congrArg (List.filter fun part => key part == group.name) same
  simp only [List.filter_map, Function.comp_def, keys, keys'] at kept
  rw [parts_of_mem_gather among, parts_of_mem_gather member, named]
  exact kept

/-- Places matter to groups only as far as the contents depend on them. -/
theorem regroups_of_views {declarations others : List (Located α)}
    (same : (others.map fun part => (part.decl, content' part)) =
      declarations.map fun part => (part.decl, content part)) :
    Regroups heading content content' declarations others := by
  constructor
  case names =>
    have names := congrArg (List.map fun view => Mergeable.name view.1) same
    simp only [List.map_map] at names
    exact congrArg List.eraseDups names
  case agrees =>
    intro group member other among named
    have views := map_parts_of_views same (fun view => Mergeable.name view.1) (fun _ => rfl)
      (fun _ => rfl) member among named
    apply agrees_of_parts named
    · have headings := congrArg (fun list => (list.map fun view => heading view.1).head?) views
      simpa only [List.map_map, List.head?_map, Function.comp_def] using headings
    · have contents := congrArg (List.flatMap Prod.snd) views
      simpa only [List.flatMap_map] using contents
    · apply faults_of_extended
      have flags := congrArg (List.map fun view => Mergeable.extended view.1) views
      simpa only [List.map_map, Function.comp_def] using flags

theorem regroups_of_cut {whole piece further : Located α}
    (cut : Cut heading content whole piece further) (before after : List (Located α)) :
    Regroups heading content content (before ++ whole :: after)
      (before ++ piece :: further :: after) := by
  constructor
  case names =>
    have met : nameOf whole ∈ before.map nameOf ++ [nameOf whole] := by simp
    simpa [cut.name, cut.furtherName] using erase_dups_known met (after.map nameOf)
  case agrees =>
    intro group member other among named
    have parts := parts_of_mem_gather member
    have pieces := parts_of_mem_gather among
    rw [named] at pieces
    simp only [List.filter_append, List.filter_cons, cut.name, cut.furtherName] at parts pieces
    by_cases own : nameOf whole = group.name
    · simp only [own, beq_self_eq_true, if_true] at parts pieces
      apply agrees_of_parts named
      · rw [parts, pieces]
        cases before.filter fun located => nameOf located == group.name with
        | nil => simp [cut.heading]
        | cons first rest => rfl
      · simp [parts, pieces, ← cut.content]
      · rw [parts, pieces]
        exact faults_cut cut.extended cut.furtherExtended _ _
    · have unlike : (nameOf whole == group.name) = false := by simp [own]
      simp only [unlike, Bool.false_eq_true, if_false] at parts pieces
      exact agrees_of_same_parts (pieces.trans parts.symm)

end Agreement

end Group

def Numbering.slotsOf (blocks : List (Option UInt16)) (part : Located EnumDecl) :
    List PlacedSlot :=
  part.decl.slots.map fun entry => ⟨(blocks[part.fragment]?).join, entry⟩

theorem Numbering.resolve_of_agrees {blocks others : List (Option UInt16)}
    {group other : Group EnumDecl}
    (agrees : Group.Agrees EnumDecl.doc (slotsOf blocks) (slotsOf others) group other) :
    resolve others other = resolve blocks group := by
  have placed : placedSlots others other = placedSlots blocks group := agrees.content
  simp only [resolve, placed, agrees.name, agrees.heading]

def BitflagDecl.entriesOf (part : Located BitflagDecl) : List BitflagEntry := part.decl.entries

theorem BitflagDecl.resolve_of_agrees (config : Config) {group other : Group BitflagDecl}
    (agrees : Group.Agrees BitflagDecl.doc entriesOf entriesOf group other) :
    resolve config other = resolve config group := by
  have entries : mergedEntries other = mergedEntries group := agrees.content
  simp only [resolve, entries, agrees.name, agrees.heading]

/-- What a merged object takes over from its first declaration. -/
def ObjectDecl.heading (object : ObjectDecl) : String × Option String := (object.doc, object.space)

def ObjectDecl.methodsOf (part : Located ObjectDecl) : List FunctionDecl := part.decl.methods

theorem ObjectDecl.merge_of_agrees {group other : Group ObjectDecl}
    (agrees : Group.Agrees heading methodsOf methodsOf group other) :
    merge other = merge group := by
  have methods : (other.parts.flatMap fun part => part.decl.methods) =
      group.parts.flatMap fun part => part.decl.methods := agrees.content
  obtain ⟨doc, space⟩ := Prod.mk.inj agrees.heading
  simp only [merge, methods, agrees.name, doc, space]

end InterfaceSchema
