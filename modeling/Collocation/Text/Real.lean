import Collocation.Text.Integer

/-!
# Reading reals

A real is written as a sign, digits with a point somewhere among them, and an exponent; or as the
word for an infinity or an undefined value, in any case.  The value is the double nearest to what
is written.
-/

namespace Collocation
namespace Text

/-- The double nearest to `digits · 10 ^ exponent`.  A value too large or too small for any double is
settled by its order of magnitude alone. -/
def nearestDouble (digits : Nat) (exponent : Int) : Float :=
  let magnitude := exponent + (Nat.toDigits 10 digits).length
  if digits = 0 ∨ magnitude < -400 then 0
  else if 400 < magnitude then 1 / 0
  else if 0 ≤ exponent then Float.ofScientific digits false exponent.toNat
  else Float.ofScientific digits true (-exponent).toNat

/-- The digits before an exponent mark, the digits after it, and whether there is a mark. -/
def splitExponent : List Char → List Char × Option (List Char)
  | [] => ([], none)
  | char :: rest =>
      if char = 'e' ∨ char = 'E' then ([], some rest)
      else
        let parts := splitExponent rest
        (char :: parts.1, parts.2)

/-- A whole exponent with an optional sign. -/
def exponent? : List Char → Option Int
  | '-' :: digits => (natural? digits).map fun value => -(value : Int)
  | '+' :: digits => (natural? digits).map Int.ofNat
  | digits => (natural? digits).map Int.ofNat

/-- Digits with at most one point among them: the digits as one number, and how many follow the
point. -/
def pointed? (text : List Char) : Option (Nat × Nat) :=
  let whole := text.takeWhile Char.isDigit
  match text.dropWhile Char.isDigit with
  | [] => if whole = [] then none else some (decimalValue whole, 0)
  | '.' :: part =>
      if part.all Char.isDigit ∧ ¬(whole = [] ∧ part = []) then
        some (decimalValue (whole ++ part), part.length)
      else none
  | _ => none

/-- A real without a sign. -/
def magnitude? (text : List Char) : Option Float :=
  let word := String.ofList (text.map Char.toLower)
  if word = "inf" ∨ word = "infinity" then some (1 / 0)
  else if word = "nan" then some (0 / 0)
  else
    let parts := splitExponent text
    match pointed? parts.1, parts.2.elim (some 0) exponent? with
    | some (digits, places), some exponent => some (nearestDouble digits (exponent - places))
    | _, _ => none

/-- A real with an optional sign. -/
def real? : List Char → Option Float
  | '-' :: text => (magnitude? text).map Neg.neg
  | '+' :: text => magnitude? text
  | text => magnitude? text

end Text
end Collocation
