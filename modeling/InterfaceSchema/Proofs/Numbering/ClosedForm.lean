import InterfaceSchema.Numbering
import InterfaceSchema.Proofs.Uniqueness
import Mathlib.Data.List.Forall2
import Mathlib.Data.List.Induction

/-!
Numbers of enum slots in closed form. The number of a slot is the one that it writes, or the last
one written in its block moved on by the slots in between, or its place in the block; slots of other
blocks play no part in it. A number outside the sixteen bits of a block is told and gives no value,
and every qualified value lies in the block of its slot.
-/

namespace InterfaceSchema

set_option autoImplicit false

namespace Numbering

/-- The number that a slot writes; a gap writes none. -/
def PlacedSlot.written? (slot : PlacedSlot) : Option Int :=
  (slot.entry.bind EnumEntry.value).map Int64.toInt

def column (block : Option UInt16) (slots : List PlacedSlot) : List PlacedSlot :=
  slots.filter fun slot => slot.block == block

/-- The last number that is written among some slots, after the place of its slot. -/
def lastWritten? (slots : List PlacedSlot) : Option (Nat × Int) :=
  slots.zipIdx.reverse.findSome? fun (slot, place) =>
    slot.written?.map fun number => (place, number)

/-- The number that comes next in a block: the last one written there, moved on by the distance of
its slot, or the count of the slots where none is written. The greatest number is never passed. -/
def countOn (slots : List PlacedSlot) : Int :=
  match lastWritten? slots with
  | some (place, number) => min (number + (slots.length - place)) greatestNumber
  | none => min slots.length greatestNumber

def closedNumber (earlier : List PlacedSlot) (slot : PlacedSlot) : Int :=
  slot.written?.getD (countOn earlier)

/-- Every slot with its number, which depends on the earlier slots of its block only. -/
def numbered (slots : List PlacedSlot) : List (PlacedSlot × Int) :=
  slots.zipIdx.map fun (slot, index) =>
    (slot, closedNumber (column slot.block (slots.take index)) slot)

section Counters

def numberAt (counters : Counters) (slot : PlacedSlot) : Int :=
  slot.written?.getD (nextNumber counters slot.block)

def moved (counters : Counters) (slot : PlacedSlot) : Counters :=
  (slot.block, min (numberAt counters slot + 1) greatestNumber) :: counters

theorem numbers_cons (counters : Counters) (slot : PlacedSlot) (rest : List PlacedSlot) :
    numbers counters (slot :: rest) =
      numberAt counters slot :: numbers (moved counters slot) rest := by
  rw [numbers, moved, numberAt, PlacedSlot.written?]
  cases slot.entry.bind EnumEntry.value <;> rfl

theorem numbers_at (counters : Counters) (slots : List PlacedSlot) (index : Nat) :
    (numbers counters slots)[index]? =
      (slots[index]?).map (numberAt ((slots.take index).foldl moved counters)) := by
  induction slots generalizing counters index with
  | nil => rfl
  | cons slot rest ih =>
      rw [numbers_cons]
      cases index with
      | zero => rfl
      | succ index => exact ih (moved counters slot) index

theorem next_number_of_moved (counters : Counters) (slot : PlacedSlot) (block : Option UInt16) :
    nextNumber (moved counters slot) block =
      if slot.block == block then min (numberAt counters slot + 1) greatestNumber
      else nextNumber counters block := by
  rw [nextNumber, moved, List.lookup_cons, BEq.comm]
  split <;> simp_all [nextNumber]

theorem last_written_concat (slots : List PlacedSlot) (slot : PlacedSlot) :
    lastWritten? (slots ++ [slot]) =
      (slot.written?.map fun number => (slots.length, number)).or (lastWritten? slots) := by
  rw [lastWritten?, List.zipIdx_append, List.reverse_append]
  cases written : slot.written? <;> simp [lastWritten?, written]

theorem count_on_concat (slots : List PlacedSlot) (slot : PlacedSlot) :
    countOn (slots ++ [slot]) = min (closedNumber slots slot + 1) greatestNumber := by
  rw [countOn, last_written_concat, closedNumber, countOn, List.length_append,
    List.length_singleton, Int.natCast_add]
  cases slot.written? with
  | some number =>
      rw [Option.map_some, Option.some_or, Option.getD_some]
      dsimp only
      omega
  | none =>
      rw [Option.map_none, Option.none_or, Option.getD_none]
      cases lastWritten? slots with
      | some last =>
          dsimp only
          omega
      | none =>
          dsimp only
          omega

theorem column_concat (block : Option UInt16) (slots : List PlacedSlot) (slot : PlacedSlot) :
    column block (slots ++ [slot]) =
      if slot.block == block then column block slots ++ [slot] else column block slots := by
  cases own : slot.block == block <;> simp [column, own]

/-- After some slots the counter of each block stands where the slots of this block have moved
it. -/
theorem next_number_eq (slots : List PlacedSlot) (block : Option UInt16) :
    nextNumber (slots.foldl moved []) block = countOn (column block slots) := by
  induction slots using List.reverseRecOn generalizing block with
  | nil => rfl
  | append_singleton slots slot ih =>
      rw [List.foldl_append, List.foldl_cons, List.foldl_nil, next_number_of_moved, column_concat,
        numberAt, ih slot.block, ih block]
      split
      · rename_i own
        rw [count_on_concat, closedNumber, eq_of_beq own]
      · rfl

theorem numbers_eq (slots : List PlacedSlot) :
    numbers [] slots = (numbered slots).map Prod.snd := by
  apply List.ext_getElem?
  intro index
  rw [numbers_at, numbered, List.map_map, List.getElem?_map, List.getElem?_zipIdx, Option.map_map,
    Nat.zero_add]
  apply Option.map_congr
  intro slot _
  rw [numberAt, next_number_eq]
  rfl

theorem slots_eq (slots : List PlacedSlot) : (numbered slots).map Prod.fst = slots := by
  rw [numbered, List.map_map]
  exact List.zipIdx_map_fst 0 slots

end Counters

/-- A number is a 64-bit word, and its successor as words have it, where the greatest one stays as
it is, is the next number. -/
def FitsWord (number : Int) : Prop :=
  ∃ word : Int64, word.toInt = number ∧
    (if word = Int64.maxValue then word else word + 1).toInt = min (number + 1) greatestNumber

def rangeProblem? (enum : String) (slot : PlacedSlot) (number : Int) : Option Problem :=
  if 0 ≤ number ∧ number ≤ 0xffff then none
  else
    let owner := match slot.entry with
      | some entry => "enum " ++ enum ++ " entry " ++ entry.name
      | none => "enum " ++ enum ++ " reserved slot"
    some (.invalidValue owner (toString number) "enum values must lie in 0..=0xffff")

structure Settled (slot : PlacedSlot) (number : Int) (resolved : ResolvedSlot) : Prop where
  fits : FitsWord number
  value : resolved.value.map (fun value => (value.toNat : Int)) =
    if 0 ≤ number ∧ number ≤ 0xffff then some number else none
  qualified : resolved.qualified.map UInt32.toNat =
    match slot.block, resolved.value with
    | some block, some value => some (block.toNat * 0x10000 + value.toNat)
    | _, _ => none
  /-- The block of a qualified value is the one of the slot. -/
  own_block : ∀ qualified ∈ resolved.qualified,
    slot.block.map UInt16.toNat = some (qualified.toNat / 0x10000)

theorem fits_of_bounded {number : Int} (lower : Int64.minValue.toInt ≤ number)
    (upper : number ≤ greatestNumber) : FitsWord number := by
  have least : Int64.minValue.toInt = -9223372036854775808 := rfl
  have greatest : greatestNumber = 9223372036854775807 := rfl
  have same : (Int64.ofInt number).toInt = number := Int64.toInt_ofInt_of_le (by omega) (by omega)
  refine ⟨Int64.ofInt number, same, ?_⟩
  split
  · rename_i last
    have here : number = greatestNumber := by
      rw [← same, last]
      rfl
    omega
  · rename_i smaller
    have below : number ≠ greatestNumber := by
      intro equal
      exact smaller (Int64.toInt_inj.mp (same.trans equal))
    have sum : (Int64.ofInt number + 1).toInt = (number + 1).bmod 0x10000000000000000 := by
      rw [Int64.toInt_add, same]
      rfl
    rw [sum, Int.bmod_eq_of_le] <;> omega

theorem closed_number_bounded {earlier : List PlacedSlot} (slot : PlacedSlot)
    (bounded : Int64.minValue.toInt ≤ countOn earlier ∧ countOn earlier ≤ greatestNumber) :
    Int64.minValue.toInt ≤ closedNumber earlier slot ∧
      closedNumber earlier slot ≤ greatestNumber := by
  rw [closedNumber, PlacedSlot.written?]
  cases slot.entry.bind EnumEntry.value with
  | some word => exact ⟨word.minValue_le_toInt, word.toInt_le⟩
  | none => exact bounded

theorem count_on_bounded (slots : List PlacedSlot) :
    Int64.minValue.toInt ≤ countOn slots ∧ countOn slots ≤ greatestNumber := by
  induction slots using List.reverseRecOn with
  | nil => decide
  | append_singleton slots slot ih =>
      have bounded := closed_number_bounded slot ih
      have least : Int64.minValue.toInt ≤ greatestNumber := by decide
      rw [count_on_concat]
      omega

theorem value_of_number (number : Int) :
    (value? number).map (fun value => (value.toNat : Int)) =
      if 0 ≤ number ∧ number ≤ 0xffff then some number else none := by
  have size : UInt16.size = 0x10000 := rfl
  rw [value?, size]
  by_cases inside : 0 ≤ number ∧ number ≤ 0xffff
  · have small : number.toNat < UInt16.size := by omega
    rw [if_pos (by omega), if_pos inside, Option.map_some, UInt16.toNat_ofNat_of_lt' small]
    congr 1
    omega
  · rw [if_neg (by omega), if_neg inside, Option.map_none]

theorem qualify_to_nat (block value : UInt16) :
    (qualify block value).toNat = block.toNat * 0x10000 + value.toNat := by
  have blockBound := block.toNat_lt
  have valueBound := value.toNat_lt
  exact UInt32.toNat_ofNat_of_lt' (by change _ * 0x10000 + _ < 0x100000000; omega)

theorem settled_of_fits {slot : PlacedSlot} {number : Int} (fits : FitsWord number) :
    Settled slot number (resolveSlot slot number) where
  fits := fits
  value := value_of_number number
  qualified := by
    rw [resolveSlot]
    cases slot.block <;> cases value? number <;> simp [qualify_to_nat]
  own_block := by
    intro qualified member
    rw [resolveSlot] at member
    cases block : slot.block with
    | none => simp [block] at member
    | some start =>
        cases settled : value? number with
        | none => simp [settled] at member
        | some value =>
            obtain rfl : qualify start value = qualified := by
              simpa [block, settled] using member
            have bound := value.toNat_lt
            rw [qualify_to_nat, Option.map_some, Option.some.injEq]
            omega

theorem range_problem_eq (enum : String) (slot : PlacedSlot) (number : Int) :
    rangeProblem? enum slot number =
      match value? number with
      | some _ => none
      | none => some (.invalidValue (owner enum (resolveSlot slot number)) (toString number)
          "enum values must lie in 0..=0xffff") := by
  have judged := value_of_number number
  rw [rangeProblem?]
  cases value : value? number with
  | some word =>
      rw [value, Option.map_some] at judged
      split at judged
      · rename_i inside
        rw [if_pos inside]
      · cases judged
  | none =>
      rw [value, Option.map_none] at judged
      split at judged
      · cases judged
      · rename_i outside
        rw [if_neg outside, owner, resolveSlot]
        cases slot.entry <;> rfl

theorem range_problems (enum : String) (taken : List (UInt32 × String))
    (slots : List (PlacedSlot × Int)) :
    (problems enum taken (slots.map fun pair => (resolveSlot pair.1 pair.2, pair.2))).filter
        (fun problem => problem.kind == .invalidValue) =
      slots.filterMap fun pair => rangeProblem? enum pair.1 pair.2 := by
  induction slots generalizing taken with
  | nil => rfl
  | cons pair rest ih =>
      rcases pair with ⟨slot, number⟩
      have value : (resolveSlot slot number).value = value? number := rfl
      rw [List.map_cons, List.filterMap_cons, range_problem_eq]
      simp only [problems, value]
      cases value? number with
      | none => exact congrArg _ (ih taken)
      | some word =>
          dsimp only
          cases (resolveSlot slot number).qualified with
          | none => exact ih taken
          | some qualified =>
              dsimp only
              cases taken.lookup qualified with
              | none => exact ih _
              | some first => exact ih taken

theorem resolved_slots (slots : List PlacedSlot) :
    List.zipWith resolveSlot slots (numbers [] slots) =
      (numbered slots).map fun pair => resolveSlot pair.1 pair.2 := by
  calc List.zipWith resolveSlot slots (numbers [] slots)
      = List.zipWith resolveSlot ((numbered slots).map Prod.fst)
          ((numbered slots).map Prod.snd) := by rw [slots_eq, numbers_eq]
    _ = (numbered slots).map fun pair => resolveSlot pair.1 pair.2 := by
        rw [List.zipWith_map, List.zipWith_self]

theorem resolve_slots (blocks : List (Option UInt16)) (group : Group EnumDecl) :
    (resolve blocks group).1.slots =
      (numbered (placedSlots blocks group)).map fun pair => resolveSlot pair.1 pair.2 :=
  resolved_slots (placedSlots blocks group)

theorem resolve_problems (blocks : List (Option UInt16)) (group : Group EnumDecl) :
    (resolve blocks group).2 =
      Uniqueness.problems .enumEntry (some group.name)
          (entryNames (placedSlots blocks group)) ++
        problems group.name [] ((numbered (placedSlots blocks group)).map fun pair =>
          (resolveSlot pair.1 pair.2, pair.2)) := by
  have pairs : ((numbered (placedSlots blocks group)).map fun pair =>
      resolveSlot pair.1 pair.2).zip ((numbered (placedSlots blocks group)).map Prod.snd) =
      (numbered (placedSlots blocks group)).map fun pair =>
        (resolveSlot pair.1 pair.2, pair.2) := List.zip_map'
  rw [resolve, resolved_slots, numbers_eq, pairs]

theorem fits_of_numbered {slots : List PlacedSlot} :
    ∀ pair ∈ numbered slots, FitsWord pair.2 := by
  rw [numbered, List.forall_mem_map]
  rintro ⟨slot, index⟩ _
  obtain ⟨lower, upper⟩ := closed_number_bounded slot (count_on_bounded _)
  exact fits_of_bounded lower upper

/-- The slots of an enum have the numbers of the closed form, and of each number that is out of
range one problem is told, slot by slot. A number counted from zero is the place of its slot in the
block, except in a list that is longer than the greatest number. -/
theorem numbers_in_closed_form (blocks : List (Option UInt16)) (group : Group EnumDecl) :
    List.Forall₂ (fun (slot, number) resolved => Settled slot number resolved)
        (numbered (placedSlots blocks group)) (resolve blocks group).1.slots ∧
      (resolve blocks group).2.filter (fun problem => problem.kind == .invalidValue) =
        ((numbered (placedSlots blocks group)).filterMap fun (slot, number) =>
          rangeProblem? group.name slot number) ∧
      ∀ earlier : List PlacedSlot, lastWritten? earlier = none →
        (earlier.length : Int) ≤ greatestNumber → countOn earlier = earlier.length := by
  refine ⟨?_, ?_, ?_⟩
  · rw [resolve_slots, List.forall₂_map_right_iff, List.forall₂_same]
    intro pair member
    exact settled_of_fits (fits_of_numbered pair member)
  · rw [resolve_problems, List.filter_append,
      Uniqueness.problems_of_other_kind _ _ _ (by decide), List.nil_append]
    exact range_problems _ _ _
  · intro earlier unwritten short
    rw [countOn, unwritten]
    exact Int.min_eq_left short

/-- An enum of two documents that take turns. A negative number runs up into range again, and a gap
takes a number. -/
def codesInTurn : Group EnumDecl :=
  { first := ⟨0, { name := "Code", slots := [some { name := "low", value := some (-1) }] }⟩
    others :=
      [⟨1, { name := "Code", extended := true, slots := [none, some { name := "high" }] }⟩,
       ⟨0, { name := "Code", extended := true, slots := [none, some { name := "last" }] }⟩] }

theorem codes_in_turn_numbered :
    (numbered (placedSlots [some 0, some 1] codesInTurn)).map Prod.snd = [-1, 0, 1, 0, 1] ∧
      List.Forall₂ (fun (slot, number) resolved => Settled slot number resolved)
        (numbered (placedSlots [some 0, some 1] codesInTurn))
        (resolve [some 0, some 1] codesInTurn).1.slots ∧
      (resolve [some 0, some 1] codesInTurn).2.filter
          (fun problem => problem.kind == .invalidValue) =
        [.invalidValue "enum Code entry low" "-1" "enum values must lie in 0..=0xffff"] ∧
      countOn (column (some 1) (placedSlots [some 0, some 1] codesInTurn)) = 2 := by
  obtain ⟨settled, told, counted⟩ := numbers_in_closed_form [some 0, some 1] codesInTurn
  refine ⟨by decide, settled, ?_, ?_⟩
  · rw [told]
    decide
  · rw [counted _ (by decide) (by decide)]
    decide

end Numbering

end InterfaceSchema
