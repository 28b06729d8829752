import Collocation.Dictionary
import Collocation.Text.Integer

/-!
# JSON values

A value keeps what a document says and no more is decided about it: numbers stay numerals, an object
keeps its members in order with repeated names, and a string whose escapes name half of a surrogate
pair is kept as a string without text.
-/

namespace Collocation

/-- A number as written. -/
structure Numeral where
  /-- Whether a minus sign stands in front. -/
  negative : Bool
  /-- The digits before the point. -/
  whole : List Char
  /-- The digits after the point, none without a point. -/
  part : List Char
  /-- Whether a minus sign stands in the exponent. -/
  exponentNegative : Bool
  /-- The digits of the exponent, absent without an exponent mark. -/
  exponent : Option (List Char)
  deriving DecidableEq, Repr

/-- A JSON value. -/
inductive Json where
  /-- The null value. -/
  | null
  /-- A truth value. -/
  | bool (value : Bool)
  /-- A number. -/
  | number (numeral : Numeral)
  /-- A string; its text is absent if the escapes do not spell one. -/
  | string (text : Option String)
  /-- An array. -/
  | array (elements : List Json)
  /-- An object: its members in the order of the document. -/
  | object (members : List (Option String × Json))

instance : Inhabited Json :=
  ⟨.null⟩

namespace Numeral

/-- Whether the numeral has neither a point nor an exponent. -/
def isWhole (numeral : Numeral) : Bool :=
  numeral.part.isEmpty && numeral.exponent.isNone

/-- The value of a whole numeral of 64 bits, signed or unsigned.  A minus sign before zero makes it a
real. -/
def integer? (numeral : Numeral) : Option Int :=
  let magnitude := Text.decimalValue numeral.whole
  if !numeral.isWhole then none
  else if numeral.negative then
    if 0 < magnitude ∧ magnitude ≤ Text.signedSize then some (-(magnitude : Int)) else none
  else if magnitude < UInt64.size then some magnitude
  else none

/-- Append digits to a significand of 64 bits until one does not fit; how many were left over. -/
def accumulate (significand : Nat) : List Char → Nat × Nat
  | [] => (significand, 0)
  | digit :: digits =>
      let next := 10 * significand + Text.decimalValue [digit]
      if next < UInt64.size then accumulate next digits else (significand, digits.length + 1)

/-- Scale a significand by a power of ten, in steps that a double can hold.  Two divisions by the largest
power make zero of every significand of 64 bits, and zero ends the steps, so four rounds are fuel
enough. -/
def scaled? : Nat → Float → Int → Option Float
  | 0, value, _ => some value
  | fuel + 1, value, exponent =>
      let power := Float.ofScientific 1 false (min exponent.natAbs 308)
      if exponent.natAbs ≤ 308 then
        if 0 ≤ exponent then
          if (value * power).isInf then none else some (value * power)
        else some (value / power)
      else if value == 0 then some value
      else if 0 ≤ exponent then none
      else scaled? fuel (value / power) (exponent + 308)

/-- The double of a numeral.  At most 64 bits of significand are kept: further digits before the point
count as places, and further digits after it are dropped.  A value beyond the doubles has none. -/
def real? (numeral : Numeral) : Option Float :=
  let signed := fun value : Float => if numeral.negative then -value else value
  let (whole, dropped) := accumulate 0 numeral.whole
  let (significand, unread) := accumulate whole numeral.part
  let places := (dropped : Int) - ((numeral.part.length - unread : Nat) : Int)
  let size := Text.decimalValue (numeral.exponent.getD [])
  if 0x80000000 ≤ size then
    if significand ≠ 0 ∧ !numeral.exponentNegative then none else some (signed 0)
  else
    let exponent := places + (if numeral.exponentNegative then -(size : Int) else size)
    let exponent := max (-0x80000000) (min 0x7fffffff exponent)
    (scaled? 4 (Float.ofNat significand) exponent).map signed

end Numeral

namespace Json

/-- The text of a string. -/
def text? : Json → Option String
  | string text => text
  | _ => none

/-- A truth value. -/
def bool? : Json → Option Bool
  | bool value => some value
  | _ => none

/-- An unsigned whole number of 64 bits. -/
def word? : Json → Option UInt64
  | number numeral =>
      numeral.integer?.bind fun value =>
        if 0 ≤ value then some (UInt64.ofNat value.toNat) else none
  | _ => none

/-- A signed whole number of 32 bits. -/
def signed32? : Json → Option Int
  | number numeral =>
      numeral.integer?.bind fun value =>
        if -0x80000000 ≤ value ∧ value < 0x80000000 then some value else none
  | _ => none

/-- A real number. -/
def real? : Json → Option Float
  | number numeral =>
      match numeral.integer? with
      | some value =>
          some (if 0 ≤ value then Float.ofNat value.toNat else -Float.ofNat (-value).toNat)
      | none => numeral.real?
  | _ => none

/-- An array, its elements decoded one by one. -/
def list? {α : Type} (decode : Json → Option α) : Json → Option (List α)
  | array elements => elements.mapM decode
  | _ => none

/-- A pair as an array of two elements. -/
def pair? {α β : Type} (first : Json → Option α) (second : Json → Option β) :
    Json → Option (α × β)
  | array [left, right] => do some (← first left, ← second right)
  | _ => none

/-- An object as a dictionary, its values decoded; the last value of a repeated name counts. -/
def dictionary? {α : Type} (decode : Json → Option α) : Json → Option (Dictionary α)
  | object members =>
      let entry? := fun (member : Option String × Json) => do
        some (← member.1, ← decode member.2)
      (members.mapM entry?).map Dictionary.ofList
  | _ => none

/-- The fields of a record with the given names, each of them present or not.  An object gives them by
name, in any order and each at most once, other names being ignored; an array gives the first ones in
order. -/
def fields? (names : List String) : Json → Option (List (Option Json))
  | object members =>
      if members.all fun member => member.1.isSome then
        names.mapM fun name =>
          match members.filter fun member => member.1 == some name with
          | [] => some none
          | [member] => some (some member.2)
          | _ => none
      else none
  | array elements =>
      if elements.length ≤ names.length then
        some (elements.map some ++ List.replicate (names.length - elements.length) none)
      else none
  | _ => none

/-- A field that has to be there. -/
def required? {α : Type} (decode : Json → Option α) (field : Option Json) : Option α :=
  field.bind decode

/-- A field that may be left out. -/
def optional? {α : Type} (default : α) (decode : Json → Option α) (field : Option Json) :
    Option α :=
  match field with
  | none => some default
  | some json => decode json

end Json
end Collocation
