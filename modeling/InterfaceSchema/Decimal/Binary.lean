import InterfaceSchema.Decimal.Basic

/-!
Binary numbers of 53 significant bits, and the rounding of quotients to them. A decimal text is
read in two roundings: its leading digits become a binary number, which is then scaled by one
rounded power of ten at a time.
-/

namespace InterfaceSchema

set_option autoImplicit false

structure Binary where
  significand : Nat
  exponent : Int
  deriving DecidableEq, Repr

namespace Binary

def leastExponent : Int := -1074

/-- The bound of significands, which have 53 bits. -/
def significandSize : Nat := 0x20000000000000

def scaled (base number : Nat) (exponent : Int) : Nat × Nat :=
  (number * base.pow exponent.toNat, base.pow (-exponent).toNat)

def numerator (value : Binary) : Nat := (scaled 2 value.significand value.exponent).1

def denominator (value : Binary) : Nat := (scaled 2 value.significand value.exponent).2

/-- The quotient to the nearest natural number, a half to the even one. -/
def nearest (dividend divisor : Nat) : Nat :=
  let floor := dividend / divisor
  let rest := dividend % divisor
  if 2 * rest < divisor then floor
  else if 2 * rest = divisor then floor + floor % 2
  else floor + 1

/-- The exponent at which a quotient has 53 significant bits, or the least one. -/
def exponentOf (dividend divisor : Nat) : Int :=
  let guess := max ((Nat.log2 dividend : Int) - Nat.log2 divisor - 53) leastExponent
  let (top, bottom) := scaled 2 dividend (-guess)
  if significandSize ≤ top / (divisor * bottom) then guess + 1 else guess

/-- The binary number nearest to a quotient, of two the one with the even significand. -/
def ofQuotient (dividend divisor : Nat) : Binary :=
  if dividend = 0 then ⟨0, 0⟩
  else
    let exponent := exponentOf dividend divisor
    let (top, bottom) := scaled 2 dividend (-exponent)
    let rounded := nearest top (divisor * bottom)
    if rounded = significandSize then ⟨significandSize / 2, exponent + 1⟩
    else ⟨rounded, exponent⟩

def ofNat (number : Nat) : Binary := ofQuotient number 1

def mul (left right : Binary) : Binary :=
  ofQuotient (left.numerator * right.numerator) (left.denominator * right.denominator)

def div (left right : Binary) : Binary :=
  ofQuotient (left.numerator * right.denominator) (left.denominator * right.numerator)

def greatestPower : Nat := 308

/-- Scales by a power of ten. A small power is taken in steps of the greatest one, as long as
something is left to scale. -/
def scaleByTen (value : Binary) (power : Int) : Nat → Binary
  | 0 => value
  | steps + 1 =>
      if 0 ≤ power then mul value (ofNat (Nat.pow 10 power.toNat))
      else if -power ≤ greatestPower then div value (ofNat (Nat.pow 10 (-power).toNat))
      else if value.significand = 0 then value
      else scaleByTen (div value (ofNat (Nat.pow 10 greatestPower))) (power + greatestPower) steps

def leadingDigits (digits : Nat) : Nat → Nat × Nat
  | 0 => (digits, 0)
  | steps + 1 =>
      if digits < UInt64.size then (digits, 0)
      else
        let (leading, dropped) := leadingDigits (digits / 10) steps
        (leading, dropped + 1)

def ofDecimal (decimal : Decimal) : Binary :=
  let (leading, dropped) := leadingDigits decimal.digits (Nat.log2 decimal.digits + 1)
  let power := decimal.exponent + dropped
  scaleByTen (ofNat leading) power (power.natAbs / greatestPower + 1)

end Binary

end InterfaceSchema
