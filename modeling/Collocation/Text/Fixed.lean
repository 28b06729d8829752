/-!
# Reals with a fixed number of decimal places

A binary real is `mantissa · 2 ^ exponent` exactly.  Its text with a given number of places is the
decimal nearest to that value; a tie goes to the neighbour with an even last digit.
-/

namespace Collocation
namespace Text

/-- A finite real taken apart. -/
structure Binary where
  /-- Whether the sign bit is set. -/
  negative : Bool
  /-- The significant bits as a whole number. -/
  mantissa : Nat
  /-- The power of two that scales them. -/
  exponent : Int

/-- The leading bit of a significand, which a double leaves out: the fifty-third. -/
def hiddenBit : Nat := 0x10000000000000

/-- The parts of a double, or `none` for an infinity or an undefined value. -/
def Binary.ofFloat? (value : Float) : Option Binary :=
  let bits := value.toBits.toNat
  let negative := decide (0x8000000000000000 ≤ bits)
  let scale : Nat := bits / hiddenBit % 2048
  let fraction : Nat := bits % hiddenBit
  if scale = 2047 then none
  else if scale = 0 then some ⟨negative, fraction, -1074⟩
  else some ⟨negative, hiddenBit + fraction, (scale : Int) - 1075⟩

/-- The quotient rounded to the nearest whole number, a tie to the even one. -/
def roundHalfEven (numerator denominator : Nat) : Nat :=
  let quotient := numerator / denominator
  let twice := 2 * (numerator % denominator)
  if twice < denominator then quotient
  else if denominator < twice then quotient + 1
  else quotient + quotient % 2

/-- The magnitude in units of the last decimal place. -/
def Binary.units (parts : Binary) (places : Nat) : Nat :=
  if 0 ≤ parts.exponent then
    (parts.mantissa <<< parts.exponent.toNat) * Nat.pow 10 places
  else
    roundHalfEven (parts.mantissa * Nat.pow 10 places) (1 <<< (-parts.exponent).toNat)

/-- Decimal digits, with zeros in front up to a least number. -/
def paddedDecimal (width value : Nat) : List Char :=
  let digits := Nat.toDigits 10 value
  List.replicate (width - digits.length) '0' ++ digits

/-- Decimal text of a number of units of the last place. -/
def placedDecimal (places units : Nat) : List Char :=
  let digits := paddedDecimal (places + 1) units
  let whole := digits.take (digits.length - places)
  let part := digits.drop (digits.length - places)
  if places = 0 then whole else whole ++ '.' :: part

/-- The text of a real with a fixed number of decimal places. -/
def fixed (places : Nat) (value : Float) : String :=
  match Binary.ofFloat? value with
  | some parts =>
      let digits := placedDecimal places (parts.units places)
      String.ofList (if parts.negative then '-' :: digits else digits)
  | none =>
      if value.isNaN then "NaN" else if 0 < value then "inf" else "-inf"

/-- A rounded quotient lies within half a unit of the exact one. -/
theorem roundHalfEven_near (numerator denominator : Nat) (positive : 0 < denominator) :
    2 * numerator ≤ (2 * roundHalfEven numerator denominator + 1) * denominator ∧
      2 * roundHalfEven numerator denominator * denominator ≤ 2 * numerator + denominator := by
  have exact := Nat.div_add_mod numerator denominator
  have small := Nat.mod_lt numerator positive
  simp only [roundHalfEven]
  generalize numerator / denominator = quotient at exact ⊢
  generalize numerator % denominator = rest at exact small ⊢
  subst exact
  have parity : quotient % 2 = 0 ∨ quotient % 2 = 1 := by omega
  have spread : ∀ unit : Nat, 2 * (quotient + unit) * denominator =
      2 * (denominator * quotient) + 2 * (unit * denominator) := fun unit => by
    rw [Nat.mul_assoc, Nat.add_mul, Nat.mul_comm quotient, Nat.mul_add]
  have spread' : ∀ unit : Nat, (2 * (quotient + unit) + 1) * denominator =
      2 * (denominator * quotient) + 2 * (unit * denominator) + denominator := fun unit => by
    rw [Nat.add_mul, spread, Nat.one_mul]
  split
  · have := spread 0
    have := spread' 0
    simp only [Nat.add_zero, Nat.zero_mul] at *
    omega
  · split
    · rw [spread, spread', Nat.one_mul]
      omega
    · rw [spread, spread']
      rcases parity with even | odd
      · rw [even, Nat.zero_mul]
        omega
      · rw [odd, Nat.one_mul]
        omega

end Text
end Collocation
