import InterfaceSchema.Proofs.Association

/-!
Values that labelled items hold. An item clashes if an item before it holds the same value, and it
is told with the label of the first holder. A scan that keeps the first holder of every value it
has met finds the clashes in their order, and it finds none if and only if the values held differ
from each other.
-/

namespace InterfaceSchema

set_option autoImplicit false

namespace Holders

variable {Value : Type} [DecidableEq Value]

def first? (items : List (String × Option Value)) (value : Value) : Option String :=
  (items.find? fun item => item.2 == some value).map Prod.fst

def clash? (earlier : List (String × Option Value)) (item : String × Option Value) :
    Option (String × String × Value) :=
  item.2.bind fun value => (first? earlier value).map fun first => (first, item.1, value)

/-- All clashes in the order of the items; an item without a value takes part in none. -/
def clashes (items : List (String × Option Value)) : List (String × String × Value) :=
  items.zipIdx.filterMap fun (item, place) => clash? (items.take place) item

def scan (seen : List (Value × String)) :
    List (String × Option Value) → List (String × String × Value)
  | [] => []
  | (_, none) :: rest => scan seen rest
  | (label, some value) :: rest =>
      match seen.lookup value with
      | some first => (first, label, value) :: scan seen rest
      | none => scan ((value, label) :: seen) rest

theorem first_concat (items : List (String × Option Value)) (item : String × Option Value)
    (value : Value) :
    first? (items ++ [item]) value =
      (first? items value).or (if item.2 = some value then some item.1 else none) := by
  rw [first?, List.find?_append, Option.map_or, first?, List.find?_singleton]
  by_cases held : item.2 = some value <;> simp [held]

/-- The table stands for the items before the scan: it gives the first holder of each value. -/
theorem scan_from (before : List (String × Option Value)) (seen : List (Value × String))
    (items : List (String × Option Value))
    (table : ∀ value, seen.lookup value = first? before value) :
    scan seen items =
      (items.zipIdx before.length).filterMap fun (item, place) =>
        clash? ((before ++ items).take place) item := by
  induction items generalizing before seen with
  | nil => rfl
  | cons item rest ih =>
      have whole : before ++ item :: rest = (before ++ [item]) ++ rest := by simp
      have earlier : (before ++ item :: rest).take before.length = before := List.take_left
      have later := ih (before ++ [item])
      rw [List.length_append, List.length_singleton, ← whole] at later
      rw [List.zipIdx_cons, List.filterMap_cons]
      simp only [earlier]
      rcases item with ⟨label, _ | value⟩
      · apply later
        intro other
        rw [first_concat, table other]
        simp
      · rw [scan, table value, clash?, Option.bind_some]
        cases known : first? before value with
        | some first =>
            rw [Option.map_some]
            dsimp only
            rw [later seen]
            intro other
            rw [first_concat, table other]
            by_cases same : value = other
            · simp [← same, known]
            · simp [same]
        | none =>
            rw [Option.map_none]
            apply later
            intro other
            rw [first_concat, lookup_cons_eq, table other]
            by_cases same : other = value
            · simp [same, known]
            · simp [same, Ne.symm same]

theorem scan_eq (items : List (String × Option Value)) : scan [] items = clashes items :=
  scan_from [] [] items fun _ => rfl

theorem scan_eq_nil_iff (seen : List (Value × String)) (items : List (String × Option Value)) :
    scan seen items = [] ↔
      (items.filterMap Prod.snd).Nodup ∧
        ∀ value ∈ items.filterMap Prod.snd, seen.lookup value = none := by
  induction items generalizing seen with
  | nil => simp [scan]
  | cons item rest ih =>
      rcases item with ⟨label, _ | value⟩
      · exact ih seen
      · have held : ((label, some value) :: rest).filterMap Prod.snd =
            value :: rest.filterMap Prod.snd := rfl
        rw [scan, held, List.nodup_cons, List.forall_mem_cons]
        cases known : seen.lookup value with
        | some first => simp
        | none =>
            rw [ih]
            constructor
            · rintro ⟨distinct, fresh⟩
              have absent : value ∉ rest.filterMap Prod.snd := by
                intro member
                simpa [lookup_cons_eq] using fresh value member
              refine ⟨⟨absent, distinct⟩, rfl, ?_⟩
              intro other member
              have different : other ≠ value := fun same => absent (same ▸ member)
              have unmet := fresh other member
              rwa [lookup_cons_eq, if_neg different] at unmet
            · rintro ⟨⟨absent, distinct⟩, _, fresh⟩
              refine ⟨distinct, ?_⟩
              intro other member
              have different : other ≠ value := fun same => absent (same ▸ member)
              rw [lookup_cons_eq, if_neg different]
              exact fresh other member

theorem clashes_eq_nil_iff (items : List (String × Option Value)) :
    clashes items = [] ↔ (items.filterMap Prod.snd).Nodup := by
  rw [← scan_eq, scan_eq_nil_iff]
  simp

theorem clashes_map {Item : Type} (label : Item → String) (value? : Item → Option Value)
    (items : List Item) :
    clashes (items.map fun item => (label item, value? item)) =
      items.zipIdx.filterMap fun (item, place) =>
        (value? item).bind fun value =>
          ((items.take place).find? fun earlier => value? earlier == some value).map fun first =>
            (label first, label item, value) := by
  rw [clashes, List.zipIdx_map, List.filterMap_map]
  apply List.filterMap_congr
  rintro ⟨item, place⟩ _
  simp only [Function.comp_apply, Prod.map, id, clash?, first?, ← List.map_take, List.find?_map,
    Option.map_map]
  rfl

end Holders

end InterfaceSchema
