import InterfaceSchema.Group
import InterfaceSchema.Proofs.FirstPlaces

/-!
Groups by name. The first declaration of a name opens its group, which takes in all later ones of
this name, so that further declarations only go to the ends of the groups that exist or open new
groups behind them.
-/

namespace InterfaceSchema

set_option autoImplicit false

namespace Group

section Filter

variable {Item : Type} (key : Item → String)

theorem filter_same_of_different {name other : String} (distinct : name ≠ other)
    (items : List Item) :
    (items.filter fun item => key item != other).filter (fun item => key item == name) =
      items.filter fun item => key item == name := by
  rw [List.filter_filter]
  apply List.filter_congr
  intro item _
  by_cases equal : key item = name
  · simp [equal, distinct]
  · simp [equal]

theorem filter_same_of_removed (name : String) (items : List Item) :
    (items.filter fun item => key item != name).filter (fun item => key item == name) = [] := by
  rw [List.filter_filter, List.filter_eq_nil_iff]
  intro item _
  simp

theorem any_of_different {name other : String} (distinct : name ≠ other) (items : List Item) :
    (items.filter fun item => key item != other).any (fun item => key item == name) =
      items.any fun item => key item == name := by
  rw [List.any_filter]
  apply congrArg (List.any items)
  funext item
  by_cases equal : key item = name
  · simp [equal, distinct]
  · simp [equal]

end Filter

theorem eq_of_parts {α : Type} {group other : Group α} (same : other.parts = group.parts) :
    other = group := by
  rcases group with ⟨first, others⟩
  rcases other with ⟨otherFirst, otherOthers⟩
  cases same
  rfl

variable {α : Type} [Mergeable α]

def nameOf (located : Located α) : String := Mergeable.name located.decl

theorem name_eq (group : Group α) : group.name = nameOf group.first := rfl

/-- All declarations of a name stand in the groups of this name, in their order. -/
theorem parts_of_name (declarations : List (Located α)) (name : String) :
    ((gather declarations).filter fun group => group.name == name).flatMap parts =
      declarations.filter fun located => nameOf located == name := by
  induction declarations generalizing name with
  | nil => rfl
  | cons located rest ih =>
      have opened : gather (located :: rest) =
          ⟨located, rest.filter fun later => nameOf later == nameOf located⟩ ::
            (gather rest).filter fun group => group.name != nameOf located := by
        simp only [gather]
        rw [← ih (nameOf located)]
        rfl
      rw [opened, List.filter_cons, List.filter_cons, name_eq]
      by_cases same : nameOf located = name
      · rw [same, filter_same_of_removed Group.name name]
        simp [parts]
      · have head : (nameOf located == name) = false := by simp [same]
        rw [filter_same_of_different Group.name (Ne.symm same), head]
        exact ih name

theorem gather_open (located : Located α) (rest : List (Located α)) :
    gather (located :: rest) =
      ⟨located, rest.filter fun later => nameOf later == nameOf located⟩ ::
        (gather rest).filter fun group => group.name != nameOf located := by
  simp only [gather]
  rw [← parts_of_name rest (nameOf located)]
  rfl

theorem gather_filter (declarations : List (Located α)) (name : String) :
    (gather declarations).filter (fun group => group.name != name) =
      gather (declarations.filter fun located => nameOf located != name) := by
  induction declarations with
  | nil => rfl
  | cons located rest ih =>
      rw [gather_open, List.filter_cons, List.filter_cons, name_eq]
      by_cases same : nameOf located = name
      · have head : (nameOf located != name) = false := by simp [same]
        rw [head, same, List.filter_filter]
        simp only [Bool.and_self]
        exact ih
      · have head : (nameOf located != name) = true := by simp [same]
        rw [head, List.filter_comm, ih]
        simp only [if_true]
        rw [gather_open, filter_same_of_different nameOf same]

/-- The first declaration takes in all later ones of its name, and the others are grouped without
them. -/
theorem gather_cons (located : Located α) (rest : List (Located α)) :
    gather (located :: rest) =
      ⟨located, rest.filter fun later => nameOf later == nameOf located⟩ ::
        gather (rest.filter fun later => nameOf later != nameOf located) := by
  rw [gather_open, gather_filter]

theorem part_mem_of_mem_gather {declarations : List (Located α)} {group : Group α}
    {part : Located α} (member : group ∈ gather declarations) (inGroup : part ∈ group.parts) :
    part ∈ declarations := by
  have among : group ∈ (gather declarations).filter fun other => other.name == group.name := by
    simp [member]
  have kept : part ∈ declarations.filter fun located => nameOf located == group.name := by
    rw [← parts_of_name]
    exact List.mem_flatMap.mpr ⟨group, among, inGroup⟩
  exact (List.mem_filter.mp kept).1

theorem name_ne_of_mem_gather {declarations : List (Located α)} {name : String} {group : Group α}
    (member : group ∈ gather (declarations.filter fun located => nameOf located != name)) :
    group.name ≠ name := by
  have kept := part_mem_of_mem_gather member (List.mem_cons_self : group.first ∈ group.parts)
  simpa [name_eq] using (List.mem_filter.mp kept).2

/-- The first name is grouped, and then what is left without it. -/
@[elab_as_elim]
theorem gather_induction {motive : List (Located α) → Prop} (nil : motive [])
    (cons : ∀ located rest, motive (rest.filter fun later => nameOf later != nameOf located) →
      motive (located :: rest)) (declarations : List (Located α)) : motive declarations := by
  induction size : declarations.length using Nat.strongRecOn generalizing declarations with
  | _ count ih =>
      cases declarations with
      | nil => exact nil
      | cons located rest =>
          have shorter := List.length_filter_le (fun later => nameOf later != nameOf located) rest
          rw [List.length_cons] at size
          exact cons located rest (ih _ (by omega) _ rfl)

/-- Each name has one group, in the order in which the names occur first. -/
theorem names_of_gather (declarations : List (Located α)) :
    (gather declarations).map name = (declarations.map nameOf).eraseDups := by
  induction declarations using gather_induction with
  | nil => rfl
  | cons located rest ih =>
      rw [gather_cons, List.map_cons, ih, List.map_cons, List.eraseDups_cons, List.filter_map]
      rfl

theorem mem_names_of_gather {declarations : List (Located α)} {query : String} :
    query ∈ (gather declarations).map name ↔
      ∃ located ∈ declarations, nameOf located = query := by
  rw [names_of_gather, List.mem_eraseDups, List.mem_map]

theorem nodup_names_of_gather (declarations : List (Located α)) :
    ((gather declarations).map name).Nodup := by
  rw [names_of_gather]
  exact erase_dups_nodup _

theorem parts_of_mem_gather {declarations : List (Located α)} {group : Group α}
    (member : group ∈ gather declarations) :
    group.parts = declarations.filter fun located => nameOf located == group.name := by
  induction declarations using gather_induction with
  | nil => cases member
  | cons located rest ih =>
      rw [gather_cons] at member
      rcases List.mem_cons.mp member with opened | later
      · subst opened
        simp [parts, name_eq]
      · have distinct := name_ne_of_mem_gather later
        have unlike : (nameOf located == group.name) = false := by simp [Ne.symm distinct]
        rw [ih later, filter_same_of_different nameOf distinct, List.filter_cons, unlike]
        rfl

theorem mem_gather_iff {declarations : List (Located α)} {group : Group α} :
    group ∈ gather declarations ↔
      group.parts = declarations.filter fun located => nameOf located == group.name := by
  constructor
  · exact parts_of_mem_gather
  · intro own
    have opened : group.first ∈ declarations := by
      have kept : group.first ∈ group.parts := List.mem_cons_self
      rw [own] at kept
      exact (List.mem_filter.mp kept).1
    obtain ⟨other, member, same⟩ := List.mem_map.mp (mem_names_of_gather.mpr ⟨_, opened, rfl⟩)
    have named : other.name = group.name := same
    have parts := parts_of_mem_gather member
    rw [named, ← own] at parts
    rw [← eq_of_parts parts]
    exact member

def extend (later : List (Located α)) (group : Group α) : Group α :=
  { group with others := group.others ++ later.filter fun located => nameOf located == group.name }

theorem parts_extend (later : List (Located α)) (group : Group α) :
    (group.extend later).parts =
      group.parts ++ later.filter fun located => nameOf located == group.name := rfl

def opening (earlier later : List (Located α)) : List (Located α) :=
  later.filter fun located => !earlier.any fun other => nameOf other == nameOf located

theorem extend_without {name : String} {group : Group α} (different : group.name ≠ name)
    (later : List (Located α)) :
    extend (later.filter fun located => nameOf located != name) group = extend later group := by
  simp only [extend]
  rw [filter_same_of_different nameOf different]

theorem opening_cons (located : Located α) (rest later : List (Located α)) :
    opening (located :: rest) later =
      opening (rest.filter fun other => nameOf other != nameOf located)
        (later.filter fun other => nameOf other != nameOf located) := by
  simp only [opening, List.filter_filter]
  apply List.filter_congr
  intro other _
  by_cases same : nameOf other = nameOf located
  · simp [same]
  · have unlike : (nameOf located == nameOf other) = false := by simp [Ne.symm same]
    rw [any_of_different nameOf same, List.any_cons, unlike]
    simp [same]

/-- Groups stay where they are when declarations are added: those of known names go to the ends
of their groups, the others are grouped on their own. -/
theorem gather_append (earlier later : List (Located α)) :
    gather (earlier ++ later) =
      (gather earlier).map (extend later) ++ gather (opening earlier later) := by
  induction earlier using gather_induction generalizing later with
  | nil =>
      have all : opening [] later = later := List.filter_eq_self.mpr fun _ _ => rfl
      rw [all]
      rfl
  | cons located rest ih =>
      let different : Located α → Bool := fun other => nameOf other != nameOf located
      have groups : (gather (rest.filter different)).map (extend (later.filter different)) =
          (gather (rest.filter different)).map (extend later) := by
        apply List.map_congr_left
        intro group member
        exact extend_without (name_ne_of_mem_gather member) later
      rw [List.cons_append, gather_cons, gather_cons, List.filter_append, List.filter_append,
        ih (later.filter different), groups, opening_cons]
      rfl

end Group

end InterfaceSchema
