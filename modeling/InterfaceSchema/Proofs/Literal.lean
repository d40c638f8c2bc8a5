import InterfaceSchema.Literal

/-!
Literals under different pointer widths. Only the symbol for the largest pointer depends on the
width, and a wider pointer takes no bit away. The number of this symbol is that of a shifted word:
no width asks for a shift that the word cannot hold.
-/

namespace InterfaceSchema

set_option autoImplicit false

/-- Whatever bit the first word has, the second one has too. -/
def BitsWithin (word wider : UInt64) : Prop :=
  ∀ bit, word.toNat.testBit bit = true → wider.toNat.testBit bit = true

theorem BitsWithin.refl (word : UInt64) : BitsWithin word word := fun _ set => set

section LowBits

theorem low_bits_to_nat (count : Nat) : (lowBits count).toNat = (1 <<< min count 64) - 1 := by
  have bound : 2 ^ min count 64 ≤ 2 ^ 64 := Nat.pow_le_pow_right (by decide) (by omega)
  have positive : 0 < 2 ^ min count 64 := Nat.two_pow_pos _
  rw [lowBits, Nat.one_shiftLeft, UInt64.toNat_ofNat', Nat.mod_eq_of_lt (by omega)]

theorem test_bit_low_bits (count bit : Nat) :
    (lowBits count).toNat.testBit bit = decide (bit < min count 64) := by
  rw [low_bits_to_nat, Nat.one_shiftLeft, Nat.testBit_two_pow_sub_one]

theorem low_bits_within {count more : Nat} (le : count ≤ more) :
    BitsWithin (lowBits count) (lowBits more) := by
  intro bit set
  rw [test_bit_low_bits, decide_eq_true_eq] at set ⊢
  omega

variable {width : UInt32}

theorem low_bits_of_long (long : 64 ≤ width) : lowBits width.toNat = 0xFFFFFFFFFFFFFFFF := by
  have bound : 64 ≤ width.toNat := UInt32.le_iff_toNat_le.mp long
  rw [lowBits, Nat.min_eq_right bound]
  rfl

/-- A shift by less than the width of the word loses no bit. -/
theorem shifted_one_to_nat (short : width < 64) :
    ((1 : UInt64) <<< width.toUInt64).toNat = 1 <<< width.toNat := by
  have bound : width.toNat < 64 := UInt32.lt_iff_toNat_lt.mp short
  have fits : 2 ^ width.toNat < 2 ^ 64 := Nat.pow_lt_pow_right (by decide) bound
  rw [UInt64.toNat_shiftLeft, UInt32.toNat_toUInt64, Nat.mod_eq_of_lt bound]
  rw [UInt64.toNat_one, Nat.one_shiftLeft, Nat.mod_eq_of_lt fits]

theorem low_bits_of_short (short : width < 64) :
    lowBits width.toNat = ((1 : UInt64) <<< width.toUInt64) - 1 := by
  have bound : width.toNat < 64 := UInt32.lt_iff_toNat_lt.mp short
  -- The subtraction does not wrap around.
  have positive : 1 ≤ (1 : UInt64) <<< width.toUInt64 := by
    rw [UInt64.le_iff_toNat_le, shifted_one_to_nat short, Nat.one_shiftLeft]
    exact Nat.two_pow_pos _
  apply UInt64.toNat.inj
  rw [UInt64.toNat_sub_of_le _ _ positive, shifted_one_to_nat short, low_bits_to_nat,
    Nat.min_eq_left (Nat.le_of_lt bound)]
  rfl

end LowBits

namespace Literal

variable {narrow wide : UInt32}

theorem resolve_of_fixed {written : Literal} (fixed : written ≠ .symbol .usizeMax)
    (narrow wide : UInt32) : written.resolve narrow = written.resolve wide := by
  cases written with
  | unsigned _ | signed _ => rfl
  | symbol name =>
      cases name with
      | uint32Max | uint64Max => rfl
      | usizeMax => exact absurd rfl fixed

/-- A wider pointer adds bits to a number; none that was missing appears. -/
theorem resolve_within (le : narrow ≤ wide) (written : Literal) :
    Option.Rel BitsWithin (written.resolve narrow).toOption (written.resolve wide).toOption := by
  by_cases pointer : written = .symbol .usizeMax
  · rw [pointer]
    exact .some (low_bits_within (UInt32.le_iff_toNat_le.mp le))
  · rw [resolve_of_fixed pointer narrow wide]
    cases (written.resolve wide).toOption with
    | none => exact .none
    | some word => exact .some (BitsWithin.refl word)

end Literal

end InterfaceSchema
