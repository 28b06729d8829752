/-!
# Hexadecimal digits

Digits are read in either case and written in lower case, the most significant first.
-/

namespace Collocation
namespace Text

/-- The value of a hexadecimal digit. -/
def hexDigit? (char : Char) : Option Nat :=
  if '0' ≤ char ∧ char ≤ '9' then some (char.toNat - '0'.toNat)
  else if 'a' ≤ char ∧ char ≤ 'f' then some (char.toNat - 'a'.toNat + 10)
  else if 'A' ≤ char ∧ char ≤ 'F' then some (char.toNat - 'A'.toNat + 10)
  else none

/-- The value of hexadecimal digits. -/
def hexValue (digits : List Char) : Nat :=
  digits.foldl (fun value digit => 16 * value + (hexDigit? digit).getD 0) 0

/-- The value of hexadecimal digits, if there are no other characters. -/
def hexNumber? (digits : List Char) : Option Nat :=
  if digits.all fun digit => (hexDigit? digit).isSome then some (hexValue digits) else none

/-- Hexadecimal digits of a number, without zeros in front. -/
def hexadecimal (value : Nat) : List Char :=
  Nat.toDigits 16 value

/-- The two hexadecimal digits of a byte. -/
def hexByte (byte : UInt8) : List Char :=
  [Nat.digitChar (byte.toNat / 16), Nat.digitChar (byte.toNat % 16)]

/-- The hexadecimal digits of bytes, two for each. -/
def hexBytes (bytes : List UInt8) : String :=
  String.ofList (bytes.flatMap hexByte)

/-- The sixteen hexadecimal digits of a word. -/
def hexWord (word : UInt64) : String :=
  let digits := hexadecimal word.toNat
  String.ofList (List.replicate (16 - digits.length) '0' ++ digits)

/-- The bytes that hexadecimal digits spell, two for each. -/
def bytesOfHex? : List Char → Option (List UInt8)
  | [] => some []
  | high :: low :: rest => do
      let value ← hexNumber? [high, low]
      some (UInt8.ofNat value :: (← bytesOfHex? rest))
  | [_] => none

end Text
end Collocation
