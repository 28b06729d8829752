/-!
# Whole numbers as text

Decimal digits are read most significant first.  A bounded number may carry a sign; a text that is
empty, holds anything but digits, or leaves the range is refused.
-/

namespace Collocation
namespace Text

/-- The value of decimal digits; every other character counts as the digit its code suggests. -/
def decimalValue (digits : List Char) : Nat :=
  digits.foldl (fun value digit => 10 * value + (digit.toNat - '0'.toNat)) 0

/-- The value of a non-empty text of decimal digits. -/
def natural? (text : List Char) : Option Nat :=
  if text ≠ [] ∧ text.all Char.isDigit then some (decimalValue text) else none

/-- An unsigned word of 64 bits, a plus sign allowed in front. -/
def word? : List Char → Option UInt64
  | text =>
      let digits := match text with
        | '+' :: rest => rest
        | _ => text
      (natural? digits).bind fun value =>
        if value < UInt64.size then some (UInt64.ofNat value) else none

/-- The least number that is too large for a signed number of 64 bits. -/
def signedSize : Nat := 0x8000000000000000

/-- A signed number of 64 bits, a sign allowed in front. -/
def signed? (text : List Char) : Option Int :=
  let positive? := fun (digits : List Char) =>
    (natural? digits).bind fun value => if value < signedSize then some (value : Int) else none
  match text with
  | '-' :: digits =>
      (natural? digits).bind fun value => if value ≤ signedSize then some (-(value : Int)) else none
  | '+' :: digits => positive? digits
  | digits => positive? digits

end Text
end Collocation
