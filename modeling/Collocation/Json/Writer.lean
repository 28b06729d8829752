import Collocation.Json.Value
import Collocation.Text.Hexadecimal

/-!
# Writing JSON

A value is written on one line without blanks.  A string without text is written as an empty one.
-/

namespace Collocation

/-- A whole number as written. -/
def Numeral.ofInt (value : Int) : Numeral :=
  ⟨decide (value < 0), Nat.toDigits 10 value.natAbs, [], false, none⟩

/-- The text of a numeral. -/
def Numeral.write (numeral : Numeral) : String :=
  let sign := fun (negative : Bool) => if negative then "-" else ""
  let part := if numeral.part.isEmpty then "" else "." ++ String.ofList numeral.part
  let exponent := match numeral.exponent with
    | none => ""
    | some digits => "e" ++ sign numeral.exponentNegative ++ String.ofList digits
  sign numeral.negative ++ String.ofList numeral.whole ++ part ++ exponent

namespace Json

/-- A whole number. -/
def ofInt (value : Int) : Json :=
  number (.ofInt value)

/-- A string. -/
def ofText (text : String) : Json :=
  string (some text)

/-- An array of values. -/
def ofList {α : Type} (encode : α → Json) (values : List α) : Json :=
  array (values.map encode)

/-- An object with the given members. -/
def ofFields (fields : List (String × Json)) : Json :=
  object (fields.map fun field => (some field.1, field.2))

/-- The written form of a character of a string. -/
def writeChar (char : Char) : List Char :=
  match char with
  | '"' => ['\\', '"']
  | '\\' => ['\\', '\\']
  | _ =>
      if char.toNat < 0x20 then ['\\', 'u', '0', '0'] ++ Text.hexByte (UInt8.ofNat char.toNat)
      else [char]

/-- A string between quotes. -/
def writeText (text : String) : String :=
  String.ofList ('"' :: text.toList.flatMap writeChar ++ ['"'])

mutual

/-- The text of a value. -/
def write : Json → String
  | null => "null"
  | bool value => if value then "true" else "false"
  | number numeral => numeral.write
  | string text => writeText (text.getD "")
  | array elements => "[" ++ ",".intercalate (writeElements elements) ++ "]"
  | object members => "\x7b" ++ ",".intercalate (writeMembers members) ++ "\x7d"

/-- The texts of elements. -/
def writeElements : List Json → List String
  | [] => []
  | element :: elements => write element :: writeElements elements

/-- The texts of members. -/
def writeMembers : List (Option String × Json) → List String
  | [] => []
  | (name, value) :: members => (writeText (name.getD "") ++ ":" ++ write value) :: writeMembers members

end

end Json
end Collocation
