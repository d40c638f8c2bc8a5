import InterfaceSchema.Proofs.Resolution.BaseNames
import InterfaceSchema.Proofs.Resolution.LocalNames

/-!
Base names that a struct writes again. Apart from the names that are told to be repeated, writing a
name again changes nothing for the attachments. What is told of the name itself is told for every
place where it is written, so a repetition is told alone if and only if the name is not told to
lead nowhere or to a struct that may not be extended.
-/

namespace InterfaceSchema

set_option autoImplicit false

/-- Where each item contributes a part of what it might, all of them contribute everything if and
only if each of them does. -/
theorem flat_map_eq_iff_of_sublists {Item Value : Type} {items : List Item}
    {whole part : Item → List Value} (within : ∀ item ∈ items, (part item).Sublist (whole item)) :
    items.flatMap whole = items.flatMap part ↔ ∀ item ∈ items, whole item = part item := by
  induction items with
  | nil => simp
  | cons item rest ih =>
      obtain ⟨own, later⟩ := List.forall_mem_cons.mp within
      rw [List.flatMap_cons, List.flatMap_cons, List.forall_mem_cons, ← ih later]
      constructor
      · intro equal
        have remaining : (rest.flatMap part).Sublist (rest.flatMap whole) :=
          List.Sublist.flatMap_right _ later
        have lengths := congrArg List.length equal
        rw [List.length_append, List.length_append] at lengths
        have shorter := own.length_le
        have shorterLater := remaining.length_le
        exact ⟨(own.eq_of_length (by omega)).symm, (remaining.eq_of_length (by omega)).symm⟩
      · rintro ⟨same, remaining⟩
        rw [same, remaining]

def StructDecl.withoutRepetitions (struct : StructDecl) : StructDecl :=
  { struct with bases := struct.bases.eraseDups }

theorem Problem.Plain.kept {problems : List Problem} (plain : Plain problems) {kind : NameKind} :
    problems.filter (fun problem => !problem.repeats kind) = problems := by
  have none : ∀ problem ∈ problems, ¬ problem.repeats kind = true :=
    List.filter_eq_nil_iff.mp (none_repeated plain)
  rw [List.filter_eq_self]
  intro problem told
  rw [Bool.eq_false_iff.mpr (none problem told)]
  rfl

namespace Attachments

def Indexed (structs : List StructDecl) (declared : Universe) : Prop :=
  ∀ name index, declared.get? name = some ⟨.struct, index⟩ → index < structs.length

/-- A base name that cannot be followed, and not because its struct lost it. -/
inductive Misleads (structs : List StructDecl) (declared : Universe) (direction : Direction)
    (name : String) : Prop
  | incompatible {index : Nat} {base : StructDecl}
      (registered : declared.get? name = some ⟨.struct, index⟩)
      (found : structs[index]? = some base)
      (unfit : ∀ own, base.role = .base own →
        ¬ (own = direction ∨ own = .both ∨ direction = .both))
  | unknown (unregistered : ∀ index, declared.get? name ≠ some ⟨.struct, index⟩)
      (absent : ∀ struct ∈ structs, struct.name ≠ name)

variable {structs : List StructDecl} {declared : Universe}

theorem link_told_iff (indexed : Indexed structs declared) (extension : StructDecl)
    (direction : Direction) (name : String) :
    (link structs declared extension direction name).problem?.isSome = true ↔
      Misleads structs declared direction name := by
  by_cases leads : ∃ index, declared.get? name = some ⟨.struct, index⟩
  · obtain ⟨index, registered⟩ := leads
    obtain ⟨base, found⟩ : ∃ base, structs[index]? = some base :=
      ⟨_, List.getElem?_eq_getElem (indexed name index registered)⟩
    cases fit : fits base.role direction with
    | true =>
        rw [link_of_found registered found fit]
        constructor
        · intro told
          cases told
        · rintro (⟨again, other, unfit⟩ | ⟨unregistered, _⟩)
          · cases registered.symm.trans again
            cases found.symm.trans other
            obtain ⟨own, role, agree⟩ := fits_iff.mp fit
            exact absurd agree (unfit own role)
          · exact absurd registered (unregistered index)
    | false =>
        rw [link_of_unfit registered found fit]
        refine ⟨fun _ => .incompatible registered found ?_, fun _ => rfl⟩
        intro own role agree
        rw [fits_iff.mpr ⟨own, role, agree⟩] at fit
        cases fit
  · have unregistered := not_exists.mp leads
    rw [link_of_unregistered unregistered]
    by_cases borne : ∃ struct ∈ structs, struct.name = name
    · rw [if_pos (by simpa using borne)]
      constructor
      · intro told
        cases told
      · rintro (⟨registered, _, _⟩ | ⟨_, absent⟩)
        · exact absurd registered (unregistered _)
        · obtain ⟨struct, member, same⟩ := borne
          exact absurd same (absent struct member)
    · rw [if_neg (by simpa using borne)]
      refine ⟨fun _ => .unknown unregistered ?_, fun _ => rfl⟩
      exact fun struct member same => borne ⟨struct, member, same⟩

section WithoutRepetitions

variable (structs declared)

theorem link_without_repetitions (extension : StructDecl) (direction : Direction)
    (name : String) :
    link (structs.map StructDecl.withoutRepetitions) declared extension.withoutRepetitions
      direction name = link structs declared extension direction name := by
  have borne : ((structs.map StructDecl.withoutRepetitions).any fun struct => struct.name == name) =
      structs.any fun struct => struct.name == name := List.any_map
  unfold link
  rw [borne]
  cases baseIndex? declared name with
  | none => rfl
  | some index =>
      rw [Option.bind_some, Option.bind_some, List.getElem?_map]
      cases structs[index]? <;> rfl

theorem links_without_repetitions (struct : StructDecl) :
    links (structs.map StructDecl.withoutRepetitions) declared struct.withoutRepetitions =
      match struct.role with
      | .extension direction =>
          struct.bases.eraseDups.map (link structs declared struct direction)
      | _ => [] := by
  have role : struct.withoutRepetitions.role = struct.role := rfl
  unfold links
  rw [role]
  cases struct.role with
  | extension direction =>
      exact List.map_congr_left fun name _ =>
        link_without_repetitions structs declared struct direction name
  | _ => rfl

theorem told_links_sublist (struct : StructDecl) :
    ((links (structs.map StructDecl.withoutRepetitions) declared
        struct.withoutRepetitions).filterMap Link.problem?).Sublist
      ((links structs declared struct).filterMap Link.problem?) := by
  rw [links_without_repetitions]
  unfold links
  cases struct.role with
  | extension direction => exact ((erase_dups_sublist struct.bases).map _).filterMap _
  | _ => exact List.Sublist.refl _

theorem bases_without_repetitions (struct : StructDecl) :
    basesOfStruct (structs.map StructDecl.withoutRepetitions) declared struct.withoutRepetitions =
      basesOfStruct structs declared struct := by
  unfold basesOfStruct
  rw [links_without_repetitions]
  unfold links
  cases struct.role with
  | extension direction =>
      dsimp only
      rw [List.filterMap_map, List.filterMap_map]
      exact erase_dups_filter_map _ _
  | _ => rfl

theorem resolve_without_repetitions :
    (resolve (structs.map StructDecl.withoutRepetitions) declared).1 =
      (resolve structs declared).1 := by
  have bases : (resolve (structs.map StructDecl.withoutRepetitions) declared).1.bases =
      (resolve structs declared).1.bases := by
    rw [resolve_bases, resolve_bases, List.map_map]
    exact List.map_congr_left fun struct _ => bases_without_repetitions structs declared struct
  have extensions : (resolve (structs.map StructDecl.withoutRepetitions) declared).1.extensions =
      (resolve structs declared).1.extensions := by
    rw [resolve_extensions, resolve_extensions, bases, List.length_map]
  exact congrArg₂ Attachments.mk bases extensions

theorem told_apart_from_repetitions (struct : StructDecl) :
    (problemsOfStruct structs declared struct).filter (fun problem => !problem.repeats .base) =
      placement struct ++ (links structs declared struct).filterMap Link.problem? := by
  have told : ∀ problem ∈ Uniqueness.problems .base (some struct.name) struct.bases,
      problem.repeats .base = true := by
    rw [Uniqueness.problems, List.forall_mem_map]
    exact fun _ _ => rfl
  have repetitions : (Uniqueness.problems .base (some struct.name) struct.bases).filter
      (fun problem => !problem.repeats .base) = [] := by
    rw [List.filter_eq_nil_iff]
    intro problem member
    simp [told problem member]
  rw [problemsOfStruct, List.filter_append, List.filter_append, repetitions,
    (placement_plain struct).kept, (links_plain structs declared struct).kept, List.nil_append]

theorem told_without_repetitions (struct : StructDecl) :
    problemsOfStruct (structs.map StructDecl.withoutRepetitions) declared
        struct.withoutRepetitions =
      placement struct ++ (links (structs.map StructDecl.withoutRepetitions) declared
        struct.withoutRepetitions).filterMap Link.problem? := by
  have once : Uniqueness.problems .base (some struct.name) struct.bases.eraseDups = [] :=
    (Uniqueness.problems_eq_nil_iff _ _ _).mpr (erase_dups_nodup struct.bases)
  have placed : placement struct.withoutRepetitions = placement struct := by
    have empty : struct.bases.eraseDups.isEmpty = struct.bases.isEmpty := by
      cases bases : struct.bases with
      | nil => rfl
      | cons name rest => rw [List.eraseDups_cons]; rfl
    unfold placement StructDecl.withoutRepetitions
    rw [empty]
  rw [problemsOfStruct, placed]
  exact congrArg (fun told => told ++ placement struct ++ _) once

end WithoutRepetitions

theorem links_told_iff (indexed : Indexed structs declared) (struct : StructDecl) :
    (links structs declared struct).filterMap Link.problem? =
        (links (structs.map StructDecl.withoutRepetitions) declared
          struct.withoutRepetitions).filterMap Link.problem? ↔
      ∀ direction, struct.role = .extension direction → ∀ name,
        Misleads structs declared direction name → struct.bases.count name ≤ 1 := by
  rw [links_without_repetitions]
  unfold links
  cases role : struct.role with
  | extension direction =>
      dsimp only
      rw [List.filterMap_map, List.filterMap_map, filter_map_erase_dups_iff]
      simp only [Function.comp_apply, link_told_iff indexed]
      constructor
      · intro single other same
        cases same
        exact single
      · intro single
        exact single direction rfl
  | _ => simp

/-- Writing base names again leaves the attachments as they are. Apart from the repetitions it
leaves what is told as it is if and only if no extension repeats a name that misleads it. -/
theorem repetitions_told_alone_iff (indexed : Indexed structs declared) :
    (resolve (structs.map StructDecl.withoutRepetitions) declared).1 =
        (resolve structs declared).1 ∧
      ((resolve structs declared).2.filter (fun problem => !problem.repeats .base) =
          (resolve (structs.map StructDecl.withoutRepetitions) declared).2 ↔
        ∀ struct ∈ structs, ∀ direction, struct.role = .extension direction → ∀ name,
          Misleads structs declared direction name → struct.bases.count name ≤ 1) := by
  refine ⟨resolve_without_repetitions structs declared, ?_⟩
  have told : (resolve structs declared).2.filter (fun problem => !problem.repeats .base) =
      structs.flatMap fun struct =>
        placement struct ++ (links structs declared struct).filterMap Link.problem? := by
    rw [resolve, List.filter_flatMap]
    exact List.flatMap_congr fun struct _ => told_apart_from_repetitions structs declared struct
  have toldOnce : (resolve (structs.map StructDecl.withoutRepetitions) declared).2 =
      structs.flatMap fun struct =>
        placement struct ++ (links (structs.map StructDecl.withoutRepetitions) declared
          struct.withoutRepetitions).filterMap Link.problem? := by
    rw [resolve, List.flatMap_map]
    exact List.flatMap_congr fun struct _ => told_without_repetitions structs declared struct
  rw [told, toldOnce, flat_map_eq_iff_of_sublists]
  · simp only [List.append_right_inj, links_told_iff indexed]
  · intro struct _
    exact (List.Sublist.refl _).append (told_links_sublist structs declared struct)

theorem indexed_of_borne (borne : Borne structs declared) : Indexed structs declared := by
  intro name index registered
  obtain ⟨struct, found, _⟩ := Option.map_eq_some_iff.mp (borne name index registered)
  exact (List.getElem?_eq_some_iff.mp found).1

end Attachments

namespace Resolver

open Declared Attachments

/-- An extension that repeats the base that it may extend, and names one that is not declared. -/
def tunedDocuments : List Document :=
  [{ name := "core"
     structs := [{ name := "Tuning", role := .extension .into
                   bases := ["Options", "Nowhere", "Options"] },
       { name := "Options", role := .base .both }] }]

theorem tuned_documents_told_alone :
    Indexed (ofDocuments tunedDocuments).structs (declaredTypes tunedDocuments) ∧
      (Attachments.resolve ((ofDocuments tunedDocuments).structs.map
          StructDecl.withoutRepetitions) (declaredTypes tunedDocuments)).1 =
        (Attachments.resolve (ofDocuments tunedDocuments).structs
          (declaredTypes tunedDocuments)).1 ∧
      ∀ struct ∈ (ofDocuments tunedDocuments).structs, ∀ direction,
        struct.role = .extension direction → ∀ name,
          Misleads (ofDocuments tunedDocuments).structs (declaredTypes tunedDocuments) direction
            name → struct.bases.count name ≤ 1 := by
  have indexed : Indexed (ofDocuments tunedDocuments).structs (declaredTypes tunedDocuments) :=
    indexed_of_borne structs_borne
  obtain ⟨attachments, told⟩ := repetitions_told_alone_iff indexed
  exact ⟨indexed, attachments, told.mp (by decide)⟩

def strayDocuments : List Document :=
  [{ name := "core"
     structs := [{ name := "Tuning", role := .extension .into
                   bases := ["Nowhere", "Nowhere"] }] }]

/-- The name is told to be unknown at both of its places. -/
theorem stray_base_told_twice :
    Indexed (ofDocuments strayDocuments).structs (declaredTypes strayDocuments) ∧
      (Attachments.resolve (ofDocuments strayDocuments).structs
          (declaredTypes strayDocuments)).2.filter (fun problem => !problem.repeats .base) ≠
        (Attachments.resolve ((ofDocuments strayDocuments).structs.map
          StructDecl.withoutRepetitions) (declaredTypes strayDocuments)).2 :=
  ⟨indexed_of_borne structs_borne, by decide⟩

end Resolver

end InterfaceSchema
