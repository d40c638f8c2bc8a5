import InterfaceSchema.Json.Printer
import InterfaceSchema.Json.Reader

/-!
Strings and numbers of a JSON text, read back one by one. A string is read up to its closing quote,
whatever it holds; the digits of a number are read as far as they go, so that what follows must not
look like more of the number.
-/

namespace InterfaceSchema

set_option autoImplicit false

namespace Json

section Strings

theorem control_digits (code : Nat) (control : code < 32) :
    Text.hexNumber? 0 ['0', '0', Nat.digitChar (code / 16), Nat.digitChar (code % 16)] =
      some code := by
  revert code
  decide

theorem read_control (character : Char) (control : character.toNat < 32)
    (taken rest : List Char) :
    readString taken
        ('\\' :: 'u' :: '0' :: '0' :: Nat.digitChar (character.toNat / 16) ::
          Nat.digitChar (character.toNat % 16) :: rest) =
      readString (character :: taken) rest := by
  have high : isHighSurrogate character.toNat = false := by
    simp only [isHighSurrogate, Bool.and_eq_false_imp, decide_eq_true_eq]
    omega
  have low : isLowSurrogate character.toNat = false := by
    simp only [isLowSurrogate, Bool.and_eq_false_imp, decide_eq_true_eq]
    omega
  simp only [readString, control_digits character.toNat control, high, low, Char.ofNat_toNat,
    Bool.false_eq_true, if_false]

theorem read_plain (character : Char) (quoteless : character ≠ '"') (slashless : character ≠ '\\')
    (printed : ¬ character.toNat < 32) (taken rest : List Char) :
    readString taken (character :: rest) = readString (character :: taken) rest := by
  rw [readString.eq_def]
  split
  · rename_i empty
    cases empty
  · rename_i same
    exact absurd (List.cons.inj same).1 quoteless
  · rename_i same
    exact absurd (List.cons.inj same).1 slashless
  · rename_i same
    exact absurd (List.cons.inj same).1 slashless
  · rename_i same
    obtain ⟨rfl, rfl⟩ := List.cons.inj same
    exact if_neg printed

theorem read_escape (character : Char) (taken rest : List Char) :
    readString taken (escape character ++ rest) = readString (character :: taken) rest := by
  unfold escape
  iterate 7
    split
    · subst_vars
      rfl
  split
  · rename_i control
    exact read_control character control taken rest
  · rename_i quoteless slashless _ _ _ _ _ printed
    exact read_plain character quoteless slashless printed taken rest

theorem read_escapes (characters taken rest : List Char) :
    readString taken (characters.flatMap escape ++ '"' :: rest) =
      some (String.ofList (taken.reverse ++ characters), rest) := by
  induction characters generalizing taken with
  | nil =>
      rw [List.append_nil]
      rfl
  | cons character later ih =>
      rw [List.flatMap_cons, List.append_assoc, read_escape, ih, List.reverse_cons,
        List.append_assoc]
      rfl

theorem read_quote (text : String) (rest : List Char) :
    readString [] (text.toList.flatMap escape ++ '"' :: rest) = some (text, rest) := by
  rw [read_escapes, List.reverse_nil, List.nil_append, String.ofList_toList]

end Strings

section Numbers

/-- What follows is no part of a number. -/
def EndsNumber (rest : List Char) : Prop :=
  ∀ character ∈ rest.head?, character.isDigit = false ∧ character ≠ '.' ∧ character ≠ 'e' ∧
    character ≠ 'E'

theorem read_digits {rest : List Char} (ends : EndsNumber rest) (value : Nat) :
    readDigits (Nat.toDigits 10 value ++ rest) = some (Nat.toDigits 10 value, rest) := by
  have all : ∀ digit ∈ Nat.toDigits 10 value, digit.isDigit = true := fun digit member =>
    Nat.isDigit_of_mem_toDigits (by decide) (by decide) member
  have stops : rest.takeWhile Char.isDigit = [] ∧ rest.dropWhile Char.isDigit = rest := by
    cases rest with
    | nil => exact ⟨rfl, rfl⟩
    | cons next later =>
        have other := (ends next rfl).1
        exact ⟨List.takeWhile_cons_of_neg (by simp [other]),
          List.dropWhile_cons_of_neg (by simp [other])⟩
  have taken : (Nat.toDigits 10 value ++ rest).takeWhile Char.isDigit = Nat.toDigits 10 value := by
    rw [List.takeWhile_append_of_pos all, stops.1, List.append_nil]
  have left : (Nat.toDigits 10 value ++ rest).dropWhile Char.isDigit = rest := by
    rw [List.dropWhile_append_of_pos all, stops.2]
  unfold readDigits
  rw [taken, left]
  split
  · rename_i none
    exact absurd none Nat.toDigits_ne_nil
  · rfl

/-- No number but zero starts with a zero. -/
theorem first_digit {value : Nat} (positive : 0 < value) :
    (Nat.toDigits 10 value).head? ≠ some '0' := by
  induction value using Nat.strongRecOn with
  | ind value ih =>
      rcases Nat.lt_or_ge value 10 with short | long
      · have digits : ∀ digit < 10, 0 < digit → [Nat.digitChar digit].head? ≠ some '0' := by
          decide
        rw [Nat.toDigits_of_lt_base short]
        exact digits value short positive
      · rw [Nat.toDigits_of_base_le (by decide) long, List.head?_append]
        have before := ih (value / 10) (by omega) (by omega)
        cases first : (Nat.toDigits 10 (value / 10)).head? with
        | none => exact absurd (List.head?_eq_none_iff.mp first) Nat.toDigits_ne_nil
        | some digit =>
            rw [first] at before
            exact before

theorem no_leading_zero (value : Nat) :
    ¬ ((Nat.toDigits 10 value).head? = some '0' ∧ 1 < (Nat.toDigits 10 value).length) := by
  rintro ⟨zero, long⟩
  rcases Nat.eq_zero_or_pos value with rfl | positive
  · exact absurd long (by decide)
  · exact first_digit positive zero

theorem read_unsigned {rest : List Char} (ends : EndsNumber rest) (negative : Bool) (value : Nat) :
    readUnsigned negative (Nat.toDigits 10 value ++ rest) =
      some (number negative (Nat.toDigits 10 value) [] none, rest) := by
  have fraction : readFraction rest = some ([], rest) := by
    unfold readFraction
    split
    · exact absurd rfl (ends '.' rfl).2.1
    · rfl
  have power : readExponent rest = some (none, rest) := by
    unfold readExponent
    split
    · exact absurd rfl (ends 'e' rfl).2.2.1
    · exact absurd rfl (ends 'E' rfl).2.2.2
    · rfl
  simp only [readUnsigned, read_digits ends value, Option.bind_eq_bind, Option.bind_some,
    if_neg (no_leading_zero value), fraction, power, Option.pure_def]

/-- The number that digits stand for, or the decimal where it fits no 64-bit word. -/
def ofInteger (value : Int) : Json :=
  if Int64.minValue.toInt ≤ value ∧ value < UInt64.size then integer value
  else decimal ⟨value < 0, value.natAbs, 0⟩

theorem digits_value (value : Nat) : digitsValue (Nat.toDigits 10 value ++ []) = value := by
  rw [List.append_nil]
  exact Nat.ofDigitChars_ten_toDigits

theorem number_of_nat (value : Nat) :
    number false (Nat.toDigits 10 value) [] none = ofInteger value := by
  have low : Int64.minValue.toInt ≤ (value : Int) := by
    have below : Int64.minValue.toInt ≤ 0 := by decide
    omega
  by_cases fits : value < UInt64.size
  · rw [ofInteger, if_pos ⟨low, Int.ofNat_lt.mpr fits⟩]
    simp only [number, digits_value, List.isEmpty_nil, Option.isNone_none, and_self, if_true,
      Bool.false_eq_true, if_false, if_pos fits]
  · have large : ¬ ((value : Int) < UInt64.size) := fun less => fits (Int.ofNat_lt.mp less)
    have sign : decide ((value : Int) < 0) = false := decide_eq_false (by omega)
    rw [ofInteger, if_neg fun both => large both.2, sign]
    simp only [number, digits_value, List.isEmpty_nil, Option.isNone_none, and_self, if_true,
      Bool.false_eq_true, if_false, if_neg fits]
    rfl

theorem number_of_negative (value : Nat) :
    number true (Nat.toDigits 10 (value + 1)) [] none = ofInteger (Int.negSucc value) := by
  have below : Int.negSucc value < 0 := Int.negSucc_lt_zero value
  have high : Int.negSucc value < UInt64.size := by omega
  have shown : Int.negSucc value = -((value + 1 : Nat) : Int) := rfl
  by_cases fits : Int64.minValue.toInt ≤ Int.negSucc value
  · rw [ofInteger, if_pos ⟨fits, high⟩]
    rw [shown] at fits
    simp only [number, digits_value, List.isEmpty_nil, Option.isNone_none, and_self, if_true,
      ne_eq, Nat.add_eq_zero_iff, Nat.one_ne_zero, and_false, not_false_eq_true, true_and,
      if_pos fits, shown]
  · rw [ofInteger, if_neg fun both => fits both.1, decide_eq_true below]
    rw [shown] at fits
    simp only [number, digits_value, List.isEmpty_nil, Option.isNone_none, and_self, if_true,
      if_neg fun both : value + 1 ≠ 0 ∧ Int64.minValue.toInt ≤ -((value + 1 : Nat) : Int) =>
        fits both.2]
    rfl

theorem int_text_of_nat (value : Nat) :
    (toString (Int.ofNat value)).toList = Nat.toDigits 10 value :=
  Nat.toList_repr

theorem int_text_of_negative (value : Nat) :
    (toString (Int.negSucc value)).toList = '-' :: Nat.toDigits 10 (value + 1) := by
  have text : toString (Int.negSucc value) = "-" ++ Nat.repr (value + 1) := rfl
  rw [text, String.toList_append, Nat.toList_repr]
  rfl

theorem digits_start (value : Nat) :
    ∃ first later, Nat.toDigits 10 value = first :: later ∧ first.isDigit = true := by
  cases digits : Nat.toDigits 10 value with
  | nil => exact absurd digits Nat.toDigits_ne_nil
  | cons first later =>
      have member : first ∈ Nat.toDigits 10 value := digits ▸ List.mem_cons_self
      exact ⟨first, later, rfl, Nat.isDigit_of_mem_toDigits (by decide) (by decide) member⟩

theorem int_text_start (value : Int) :
    ∃ first later, (toString value).toList = first :: later ∧
      (first = '-' ∨ first.isDigit = true) := by
  cases value with
  | ofNat value =>
      obtain ⟨first, later, same, digit⟩ := digits_start value
      exact ⟨first, later, (int_text_of_nat value).trans same, Or.inr digit⟩
  | negSucc value => exact ⟨'-', _, int_text_of_negative value, Or.inl rfl⟩

/-- An integer is read back from its text, as far as it fits a word. -/
theorem read_integer (value : Int) {rest : List Char} (ends : EndsNumber rest) :
    readNumber ((toString value).toList ++ rest) = some (ofInteger value, rest) := by
  cases value with
  | ofNat value =>
      obtain ⟨first, later, same, digit⟩ := digits_start value
      have unsigned := read_unsigned ends false value
      rw [number_of_nat, same] at unsigned
      rw [int_text_of_nat, same]
      unfold readNumber
      split
      · rename_i signed
        rw [(List.cons.inj signed).1] at digit
        cases digit
      · exact unsigned
  | negSucc value =>
      rw [int_text_of_negative, ← number_of_negative]
      exact read_unsigned ends true (value + 1)

end Numbers

end Json

end InterfaceSchema
