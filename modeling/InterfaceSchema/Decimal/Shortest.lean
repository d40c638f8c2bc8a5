import InterfaceSchema.Decimal.Binary

/-!
The fewest decimal digits that read back as a binary number, and how they are laid out: with a
point as long as the number stays short, with an exponent otherwise.
-/

namespace InterfaceSchema

set_option autoImplicit false

namespace Binary

def readsBack (value : Binary) (digits : Nat) (exponent : Int) : Bool :=
  let (top, bottom) := scaled 10 digits exponent
  ofQuotient top bottom == value

/-- How many digits the value has before the point; none or less for a value below one. -/
def magnitude (value : Binary) : Int :=
  if value.denominator ≤ value.numerator then
    ((Nat.toDigits 10 (value.numerator / value.denominator)).length : Int)
  else
    let zeros := (List.range (value.denominator.log2 + 1)).find? (fun zeros =>
      value.denominator ≤ value.numerator * Nat.pow 10 (zeros + 1))
    0 - (zeros.getD 0 : Int)

/-- The point of the grid of tens to the exponent that is nearest to the value among its two
neighbours that read back, the even one on a tie. -/
def onGrid? (value : Binary) (exponent : Int) : Option Nat :=
  let (unit, parts) := scaled 10 1 exponent
  let top := value.numerator * parts
  let bottom := value.denominator * unit
  let lower := top / bottom
  let below := value.readsBack lower exponent
  let above := value.readsBack (lower + 1) exponent
  let rest := 2 * (top % bottom)
  let nearerBelow := rest < bottom || (rest == bottom && lower % 2 == 0)
  if below && (!above || nearerBelow) then some lower
  else if above then some (lower + 1)
  else none

def shortest (value : Binary) : Nat × Int :=
  let magnitude := value.magnitude
  let found := (List.range 17).findSome? fun (count : Nat) =>
    let exponent := magnitude - 1 - count
    (value.onGrid? exponent).map fun digits => (digits, exponent)
  found.getD (value.significand, value.exponent)

end Binary

namespace Decimal

/-- An exponent with its sign, which stands before positive ones too. -/
def exponentText (exponent : Int) : List Char :=
  if exponent < 0 then (toString exponent).toList else '+' :: (toString exponent).toList

/-- The text of nonzero digits without trailing zeros times a power of ten. The point stands
inside the number from five places before its digits up to sixteen places after its start. -/
def layout (digits : List Char) (exponent : Int) : List Char :=
  let point := (digits.length : Int) + exponent
  if 0 ≤ exponent ∧ point ≤ 16 then
    digits ++ List.replicate exponent.toNat '0' ++ ['.', '0']
  else if 0 < point ∧ point ≤ 16 then
    digits.take point.toNat ++ '.' :: digits.drop point.toNat
  else if -5 < point ∧ point ≤ 0 then
    '0' :: '.' :: List.replicate (-point).toNat '0' ++ digits
  else
    let fraction := if digits.length = 1 then [] else '.' :: digits.drop 1
    digits.take 1 ++ fraction ++ 'e' :: exponentText (point - 1)

def stripZeros (digits : Nat) (exponent : Int) : Nat → Nat × Int
  | 0 => (digits, exponent)
  | steps + 1 =>
      if digits % 10 = 0 then stripZeros (digits / 10) (exponent + 1) steps
      else (digits, exponent)

def shortestText (decimal : Decimal) : String :=
  let value := Binary.ofDecimal decimal
  let magnitude :=
    if value.significand = 0 then ['0', '.', '0']
    else
      let (digits, exponent) := value.shortest
      let (digits, exponent) := stripZeros digits exponent 17
      layout (Nat.toDigits 10 digits) exponent
  String.ofList (if decimal.negative then '-' :: magnitude else magnitude)

end Decimal

end InterfaceSchema
