import InterfaceSchema.EnumBlock
import Mathlib.Data.List.Forall2
import Mathlib.Data.Nat.Digits.Defs

/-!
The grammar of blocks. A block is spelled as a mark and hexadecimal digits, at least one, of a
number that sixteen bits hold. Beside the spellings of the grammar those are read that have one plus
sign between the mark and the digits, and nothing else.
-/

namespace InterfaceSchema

set_option autoImplicit false

namespace Text

def WritesDigit (character : Char) (digit : Nat) : Prop :=
  "0123456789abcdef".toList[digit]? = some character ∨
    "0123456789ABCDEF".toList[digit]? = some character

instance (character : Char) (digit : Nat) : Decidable (WritesDigit character digit) :=
  inferInstanceAs (Decidable (_ ∨ _))

/-- Digits of base sixteen, the highest one first, write a number. -/
def WritesNumber (characters : List Char) (number : Nat) : Prop :=
  ∃ digits, List.Forall₂ WritesDigit characters digits ∧
    Nat.ofDigits 16 digits.reverse = number

theorem writes_digit_of_range {first last character : Char} (offset : Nat)
    (each : ∀ distance ≤ last.toNat - first.toNat,
      WritesDigit (Char.ofNat (first.toNat + distance)) (distance + offset))
    (range : first ≤ character ∧ character ≤ last) :
    WritesDigit character (character.toNat - first.toNat + offset) := by
  have lower : first.toNat ≤ character.toNat := range.1
  have upper : character.toNat ≤ last.toNat := range.2
  have near := each (character.toNat - first.toNat) (by omega)
  rwa [Nat.add_sub_cancel' lower, Char.ofNat_toNat] at near

theorem hex_digit_eq_some_iff {character : Char} {digit : Nat} :
    hexDigit? character = some digit ↔ WritesDigit character digit := by
  constructor
  · intro read
    unfold hexDigit? at read
    split at read
    · rename_i range
      rw [← Option.some.inj read]
      exact writes_digit_of_range 0 (by decide) range
    · split at read
      · rename_i range
        rw [← Option.some.inj read]
        exact writes_digit_of_range 10 (by decide) range
      · split at read
        · rename_i range
          rw [← Option.some.inj read]
          exact writes_digit_of_range 10 (by decide) range
        · cases read
  · intro writes
    have small : digit < 16 := by
      rcases writes with lower | upper
      · exact (List.getElem?_eq_some_iff.mp lower).1
      · exact (List.getElem?_eq_some_iff.mp upper).1
    have smallRead : ∀ value < 16,
        ("0123456789abcdef".toList[value]?).bind hexDigit? = some value := by decide
    have capitalRead : ∀ value < 16,
        ("0123456789ABCDEF".toList[value]?).bind hexDigit? = some value := by decide
    rcases writes with lower | upper
    · rw [← smallRead digit small, lower, Option.bind_some]
    · rw [← capitalRead digit small, upper, Option.bind_some]

theorem hex_number_from {before number : Nat} {characters : List Char} :
    hexNumber? before characters = some number ↔
      ∃ digits, List.Forall₂ WritesDigit characters digits ∧
        digits.foldl (fun value digit => digit + 16 * value) before = number := by
  induction characters generalizing before with
  | nil => simp [hexNumber?]
  | cons character rest ih =>
      rw [hexNumber?]
      constructor
      · intro read
        split at read
        · rename_i digit known
          obtain ⟨digits, writes, folded⟩ := ih.mp read
          refine ⟨digit :: digits, .cons (hex_digit_eq_some_iff.mp known) writes, ?_⟩
          rwa [List.foldl_cons, Nat.add_comm, Nat.mul_comm]
        · cases read
      · rintro ⟨_, writes, folded⟩
        cases writes with
        | @cons _ digit _ digits first later =>
            rw [hex_digit_eq_some_iff.mpr first]
            apply ih.mpr
            refine ⟨digits, later, ?_⟩
            rwa [List.foldl_cons, Nat.add_comm, Nat.mul_comm] at folded

theorem hex_number_eq_some_iff {number : Nat} {characters : List Char} :
    hexNumber? 0 characters = some number ↔ WritesNumber characters number := by
  rw [hex_number_from]
  simp only [WritesNumber, Nat.ofDigits_eq_foldr, List.foldr_reverse, Nat.cast_id]

theorem WritesNumber.all_digits {characters : List Char} {number : Nat}
    (writes : WritesNumber characters number) :
    ∀ character ∈ characters, ∃ digit, WritesDigit character digit := by
  obtain ⟨digits, each, -⟩ := writes
  induction each with
  | nil => exact List.forall_mem_nil _
  | cons first _ ih => exact List.forall_mem_cons.mpr ⟨⟨_, first⟩, ih⟩

theorem WritesNumber.no_plus {characters : List Char} {number : Nat}
    (writes : WritesNumber characters number) : '+' ∉ characters := by
  intro member
  obtain ⟨digit, plus⟩ := writes.all_digits '+' member
  have read := hex_digit_eq_some_iff.mpr plus
  cases read

end Text

namespace EnumBlock

open Text

/-- One of the marks and then the digits of a block, at least one and nothing else. -/
def SpelledAfter (marks : List String) (text : String) (block : UInt16) : Prop :=
  ∃ mark ∈ marks, ∃ digits : List Char, digits ≠ [] ∧ text = mark ++ String.ofList digits ∧
    WritesNumber digits block.toNat

def Spells (text : String) (block : UInt16) : Prop := SpelledAfter ["0x", "0X"] text block

/-- A block with a sign that the grammar does not know. -/
def SpellsSigned (text : String) (block : UInt16) : Prop :=
  SpelledAfter ["0x+", "0X+"] text block

theorem block_of_digits {digits : List Char} {block : UInt16} :
    (match some digits with
      | none => none
      | some [] => none
      | some digits =>
          match hexNumber? 0 digits with
          | some number => if number < UInt16.size then some (UInt16.ofNat number) else none
          | none => none) = some block ↔
      digits ≠ [] ∧ WritesNumber digits block.toNat := by
  have bound : block.toNat < UInt16.size := block.toNat_lt
  cases digits with
  | nil => simp
  | cons digit rest =>
      rw [← hex_number_eq_some_iff]
      cases read : hexNumber? 0 (digit :: rest) with
      | none => simp [read]
      | some number =>
          by_cases small : number < UInt16.size
          · have same : UInt16.ofNat number = block ↔ number = block.toNat := by
              rw [← UInt16.toNat_inj, UInt16.toNat_ofNat_of_lt' small]
            simp [read, small, same]
          · have other : number ≠ block.toNat := by omega
            simp [read, small, other]

/-- A block is read off the digits behind the mark, whether they carry a sign or not. -/
theorem parse_eq_some_iff_marked {text : String} {block : UInt16} :
    parse? text = some block ↔
      ∃ rest, (text.toList = '0' :: 'x' :: rest ∨ text.toList = '0' :: 'X' :: rest) ∧
        unsignedDigits rest ≠ [] ∧ WritesNumber (unsignedDigits rest) block.toNat := by
  unfold parse?
  split
  · rename_i rest marked
    rw [marked]
    refine block_of_digits.trans ?_
    simp
  · rename_i rest marked
    rw [marked]
    refine block_of_digits.trans ?_
    simp
  · rename_i lower upper
    constructor
    · intro read
      cases read
    · rintro ⟨rest, marked | marked, _⟩
      · exact absurd marked (lower rest)
      · exact absurd marked (upper rest)

theorem spelled_after_iff {marks : List String} {text : String} {block : UInt16} :
    SpelledAfter marks text block ↔
      ∃ mark ∈ marks, ∃ digits, text.toList = mark.toList ++ digits ∧ digits ≠ [] ∧
        WritesNumber digits block.toNat := by
  have spelled (mark : String) (digits : List Char) :
      text = mark ++ String.ofList digits ↔ text.toList = mark.toList ++ digits := by
    rw [← String.toList_inj, String.toList_append, String.toList_ofList]
  simp only [SpelledAfter, spelled, and_left_comm]

theorem unsigned_of_number {digits : List Char} {number : Nat}
    (writes : WritesNumber digits number) : unsignedDigits digits = digits := by
  unfold unsignedDigits
  split
  · exact absurd List.mem_cons_self writes.no_plus
  · rfl

theorem parse_eq_some_iff {text : String} {block : UInt16} :
    parse? text = some block ↔ Spells text block ∨ SpellsSigned text block := by
  rw [parse_eq_some_iff_marked, Spells, SpellsSigned, spelled_after_iff, spelled_after_iff]
  constructor
  · rintro ⟨rest, marked, written⟩
    unfold unsignedDigits at written
    split at written
    · rename_i digits
      refine Or.inr ?_
      rcases marked with lower | upper
      · exact ⟨"0x+", by decide, digits, lower, written⟩
      · exact ⟨"0X+", by decide, digits, upper, written⟩
    · refine Or.inl ?_
      rcases marked with lower | upper
      · exact ⟨"0x", by decide, rest, lower, written⟩
      · exact ⟨"0X", by decide, rest, upper, written⟩
  · simp only [List.mem_cons, List.not_mem_nil, or_false]
    rintro (⟨mark, rfl | rfl, digits, same, some, writes⟩ |
      ⟨mark, rfl | rfl, digits, same, some, writes⟩)
    · exact ⟨digits, Or.inl same, by rwa [unsigned_of_number writes],
        by rwa [unsigned_of_number writes]⟩
    · exact ⟨digits, Or.inr same, by rwa [unsigned_of_number writes],
        by rwa [unsigned_of_number writes]⟩
    · exact ⟨'+' :: digits, Or.inl same, some, writes⟩
    · exact ⟨'+' :: digits, Or.inr same, some, writes⟩

theorem Spells.no_plus {text : String} {block : UInt16} (spells : Spells text block) :
    '+' ∉ text.toList := by
  obtain ⟨mark, known, digits, same, _, writes⟩ := spelled_after_iff.mp spells
  have plain : ∀ mark ∈ ["0x", "0X"], '+' ∉ mark.toList := by decide
  simp [same, plain mark known, writes.no_plus]

theorem SpellsSigned.plus {text : String} {block : UInt16} (spells : SpellsSigned text block) :
    '+' ∈ text.toList := by
  obtain ⟨mark, known, digits, same, _⟩ := spelled_after_iff.mp spells
  have signed : ∀ mark ∈ ["0x+", "0X+"], '+' ∈ mark.toList := by decide
  simp [same, signed mark known]

theorem spells_iff {text : String} {block : UInt16} :
    Spells text block ↔ parse? text = some block ∧ '+' ∉ text.toList := by
  rw [parse_eq_some_iff]
  constructor
  · exact fun spells => ⟨Or.inl spells, spells.no_plus⟩
  · rintro ⟨spells | signed, plain⟩
    · exact spells
    · exact absurd signed.plus plain

theorem spells_signed_iff {text : String} {block : UInt16} :
    SpellsSigned text block ↔ parse? text = some block ∧ '+' ∈ text.toList := by
  rw [parse_eq_some_iff]
  constructor
  · exact fun signed => ⟨Or.inr signed, signed.plus⟩
  · rintro ⟨spells | signed, plus⟩
    · exact absurd plus spells.no_plus
    · exact signed

def Spelled (text : String) : Prop := ∃ block, Spells text block

def Signed (text : String) : Prop := ∃ block, SpellsSigned text block

theorem spelled_iff {text : String} :
    Spelled text ↔ (parse? text).isSome = true ∧ '+' ∉ text.toList := by
  simp only [Spelled, spells_iff, exists_and_right, Option.isSome_iff_exists]

theorem signed_iff {text : String} :
    Signed text ↔ (parse? text).isSome = true ∧ '+' ∈ text.toList := by
  simp only [Signed, spells_signed_iff, exists_and_right, Option.isSome_iff_exists]

instance : DecidablePred Spelled := fun _ => decidable_of_iff _ spelled_iff.symm

instance : DecidablePred Signed := fun _ => decidable_of_iff _ signed_iff.symm

theorem parse_eq_none_iff {text : String} :
    parse? text = none ↔ ¬ Spelled text ∧ ¬ Signed text := by
  rw [← Option.not_isSome_iff_eq_none, spelled_iff, signed_iff]
  by_cases plus : '+' ∈ text.toList
  · simp [plus]
  · simp [plus]

end EnumBlock

end InterfaceSchema
