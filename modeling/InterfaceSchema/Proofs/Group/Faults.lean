import InterfaceSchema.Proofs.Group
import InterfaceSchema.Proofs.Recorder.Declarations
import Mathlib.Data.List.Basic

/-!
Faults in the order of bases and extensions. How many bases a group has and whether it opens with an
extension decides all that is told of it: first of an extension that has no base before it, then of
every base after the first one. Nothing is told of a group if and only if it is one base with
extensions behind it.
-/

namespace InterfaceSchema

set_option autoImplicit false

namespace Group

variable {α : Type} [Mergeable α]

def baseCount (parts : List (Located α)) : Nat :=
  parts.countP fun part => !Mergeable.extended part.decl

def opensExtended (parts : List (Located α)) : Bool :=
  parts.head?.any fun first => Mergeable.extended first.decl

def openingFaults (parts : List (Located α)) : List MergeFault :=
  if baseCount parts = 0 then [.missingBase]
  else if opensExtended parts then [.extendedBeforeBase]
  else []

def faultsByCount (parts : List (Located α)) : List MergeFault :=
  openingFaults parts ++ List.replicate (baseCount parts - 1) .duplicateBase

/-- What is told of declarations by their names, in the order in which the names occur first. -/
def problemsByCount (declarations : List (Located α)) : List Problem :=
  (declarations.map nameOf).eraseDups.flatMap fun name =>
    (faultsByCount (declarations.filter fun located => nameOf located == name)).map
      (.mergeOrder (Mergeable.kind α) name)

section Counts

variable {part : Located α} (rest : List (Located α))

theorem base_count_of_base (base : Mergeable.extended part.decl = false) :
    baseCount (part :: rest) = baseCount rest + 1 := by
  simp [baseCount, base]

theorem base_count_of_extension (extension : Mergeable.extended part.decl = true) :
    baseCount (part :: rest) = baseCount rest := by
  simp [baseCount, extension]

theorem base_later_iff :
    (rest.any fun later => !Mergeable.extended later.decl) = true ↔ baseCount rest ≠ 0 := by
  rw [List.any_eq_true, ← Nat.pos_iff_ne_zero, baseCount, List.countP_pos_iff]

end Counts

theorem faults_behind_base (toldEarly : Bool) (parts : List (Located α)) :
    faults true toldEarly parts = List.replicate (baseCount parts) .duplicateBase := by
  induction parts with
  | nil => rfl
  | cons part rest ih =>
      unfold faults
      cases role : Mergeable.extended part.decl with
      | true => simpa [base_count_of_extension rest role] using ih
      | false => simpa [base_count_of_base rest role, List.replicate_succ] using ih

/-- Once an extension without a base is told, the first base goes without a word. -/
theorem faults_behind_early (parts : List (Located α)) :
    faults false true parts = List.replicate (baseCount parts - 1) .duplicateBase := by
  induction parts with
  | nil => rfl
  | cons part rest ih =>
      unfold faults
      cases role : Mergeable.extended part.decl with
      | true => simpa [base_count_of_extension rest role] using ih
      | false => simp [base_count_of_base rest role, faults_behind_base]

theorem faults_eq (first : Located α) (rest : List (Located α)) :
    faults false false (first :: rest) = faultsByCount (first :: rest) := by
  unfold faults faultsByCount openingFaults
  cases role : Mergeable.extended first.decl with
  | false =>
      have bases := base_count_of_base rest role
      simp [bases, opensExtended, role, faults_behind_base]
  | true =>
      rw [base_count_of_extension rest role]
      by_cases none : baseCount rest = 0
      · have later := mt (base_later_iff rest).mp (not_not_intro none)
        simp [none, later, faults_behind_early]
      · have later := (base_later_iff rest).mpr none
        simp [none, later, opensExtended, role, faults_behind_early]

theorem problems_eq_by_count (group : Group α) :
    group.problems = (faultsByCount group.parts).map
      (.mergeOrder (Mergeable.kind α) group.name) := by
  rw [problems, parts, faults_eq]

theorem problems_eq_nil_iff (group : Group α) :
    group.problems = [] ↔ Mergeable.extended group.first.decl = false ∧
      ∀ later ∈ group.others, Mergeable.extended later.decl = true := by
  rw [problems_eq_by_count, List.map_eq_nil_iff, faultsByCount, openingFaults, parts]
  cases role : Mergeable.extended group.first.decl with
  | false =>
      rw [base_count_of_base _ role]
      simp [opensExtended, role, baseCount]
  | true =>
      simp only [Bool.true_eq_false, false_and, iff_false, List.append_eq_nil_iff, not_and]
      split <;> simp [opensExtended, role]

theorem problems_of_gather (declarations : List (Located α)) :
    (gather declarations).flatMap problems = problemsByCount declarations := by
  rw [problemsByCount, ← names_of_gather, List.flatMap_map]
  apply List.flatMap_congr
  intro group member
  rw [problems_eq_by_count, ← parts_of_mem_gather member]

/-- Merging tells the faults of the groups exactly: name by name in the order in which the names
occur first, a group without a base once, a group that has one but opens with an extension once,
and behind that one fault for each base after the first. What a pass over the declarations records
is the same, and a group gives no error if and only if it is a base with extensions behind it. -/
theorem merge_faults_told_exactly (declarations : List (Located α)) :
    (gather declarations).flatMap problems = problemsByCount declarations ∧
      Recorder.Records (Recorder.merge declarations) (gather declarations)
        ((problemsByCount declarations).map .error) ∧
      ∀ group : Group α, group.problems = [] ↔
        Mergeable.extended group.first.decl = false ∧
          ∀ later ∈ group.others, Mergeable.extended later.decl = true := by
  refine ⟨problems_of_gather declarations, ?_, problems_eq_nil_iff⟩
  rw [← problems_of_gather]
  exact Recorder.records_merge declarations

example : faultsByCount (α := EnumDecl)
    [⟨0, { name := "Mode", extended := true }⟩, ⟨0, { name := "Mode" }⟩,
      ⟨1, { name := "Mode", extended := true }⟩, ⟨1, { name := "Mode" }⟩] =
    [.extendedBeforeBase, .duplicateBase] := by
  decide

end Group

end InterfaceSchema
