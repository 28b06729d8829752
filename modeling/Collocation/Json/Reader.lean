import Collocation.Json.Value
import Collocation.Text.Hexadecimal

/-!
# Reading JSON

`Json.ofText?` reads a whole document.  Each part of the reader takes the text still to be read and
gives what it found together with the rest.
-/

namespace Collocation
namespace Json

/-- Whether a character is a blank of JSON. -/
def isSpace (char : Char) : Bool :=
  char == ' ' || char == '\t' || char == '\n' || char == '\r'

/-- The text after blanks. -/
def afterSpace (text : List Char) : List Char :=
  text.dropWhile isSpace

/-! ## Strings -/

/-- One step of a string: a character, or the code of an escape that may be half a pair. -/
inductive StringPart where
  /-- A character as it stands, or by a short escape. -/
  | char (char : Char)
  /-- A code of sixteen bits. -/
  | code (code : Nat)

/-- The character of a short escape. -/
def shortEscape? : Char → Option Char
  | '"' => some '"'
  | '\\' => some '\\'
  | '/' => some '/'
  | 'b' => some '\x08'
  | 'f' => some '\x0c'
  | 'n' => some '\n'
  | 'r' => some '\r'
  | 't' => some '\t'
  | _ => none

/-- The parts of a string up to its closing quote. -/
def parts? : List Char → Option (List StringPart × List Char)
  | [] => none
  | '"' :: rest => some ([], rest)
  | '\\' :: 'u' :: first :: second :: third :: fourth :: rest => do
      let code ← Text.hexNumber? [first, second, third, fourth]
      let (parts, rest) ← parts? rest
      some (.code code :: parts, rest)
  | '\\' :: char :: rest => do
      let char ← shortEscape? char
      let (parts, rest) ← parts? rest
      some (.char char :: parts, rest)
  | char :: rest =>
      if char.toNat < 0x20 ∨ char = '\\' then none
      else do
        let (parts, rest) ← parts? rest
        some (.char char :: parts, rest)

/-- Whether a code is the first half of a pair. -/
def isHigh (code : Nat) : Bool :=
  0xD800 ≤ code && code < 0xDC00

/-- Whether a code is the second half of a pair. -/
def isLow (code : Nat) : Bool :=
  0xDC00 ≤ code && code < 0xE000

/-- The characters that parts spell; half a pair spells none. -/
def spell? : List StringPart → Option (List Char)
  | [] => some []
  | .char char :: parts => (spell? parts).map (char :: ·)
  | .code high :: .code low :: parts =>
      if isHigh high ∧ isLow low then
        (spell? parts).map
          (Char.ofNat (0x10000 + (high - 0xD800) * 0x400 + (low - 0xDC00)) :: ·)
      else if isHigh high ∨ isLow high then none
      else (spell? (.code low :: parts)).map (Char.ofNat high :: ·)
  | .code code :: parts =>
      if isHigh code ∨ isLow code then none else (spell? parts).map (Char.ofNat code :: ·)

/-- A string, its opening quote already read. -/
def string? (text : List Char) : Option (Option String × List Char) :=
  (parts? text).map fun found => ((spell? found.1).map String.ofList, found.2)

/-! ## Numbers -/

/-- The digits before a point: a zero alone, or digits that do not begin with one. -/
def wholeDigits? (text : List Char) : Option (List Char × List Char) :=
  match text.takeWhile Char.isDigit, text.dropWhile Char.isDigit with
  | [], _ => none
  | ['0'], rest => some (['0'], rest)
  | '0' :: _, _ => none
  | digits, rest => some (digits, rest)

/-- The digits after a point, none without a point. -/
def partDigits? : List Char → Option (List Char × List Char)
  | '.' :: text =>
      match text.takeWhile Char.isDigit with
      | [] => none
      | digits => some (digits, text.dropWhile Char.isDigit)
  | text => some ([], text)

/-- The sign and the digits of an exponent. -/
def exponentDigits? (text : List Char) : Option (Bool × Option (List Char) × List Char) :=
  let digits? := fun (negative : Bool) (text : List Char) =>
    match text.takeWhile Char.isDigit with
    | [] => none
    | digits => some (negative, some digits, text.dropWhile Char.isDigit)
  match text with
  | mark :: rest =>
      if mark = 'e' ∨ mark = 'E' then
        match rest with
        | '-' :: rest => digits? true rest
        | '+' :: rest => digits? false rest
        | rest => digits? false rest
      else some (false, none, text)
  | [] => some (false, none, [])

/-- A number. -/
def numeral? (text : List Char) : Option (Numeral × List Char) := do
  let (negative, text) := match text with
    | '-' :: rest => (true, rest)
    | text => (false, text)
  let (whole, text) ← wholeDigits? text
  let (part, text) ← partDigits? text
  let (exponentNegative, exponent, text) ← exponentDigits? text
  some (⟨negative, whole, part, exponentNegative, exponent⟩, text)

/-! ## Values -/

/-- The text after a word that it begins with. -/
def afterWord? : List Char → List Char → Option (List Char)
  | [], text => some text
  | char :: word, next :: text => if char = next then afterWord? word text else none
  | _ :: _, [] => none

mutual

/-- A value.  Every part of it reads a character, so the length of the text is fuel enough. -/
def value? : Nat → List Char → Option (Json × List Char)
  | 0, _ => none
  | fuel + 1, text =>
      match afterSpace text with
      | 'n' :: rest => (afterWord? "ull".toList rest).map (null, ·)
      | 't' :: rest => (afterWord? "rue".toList rest).map (bool true, ·)
      | 'f' :: rest => (afterWord? "alse".toList rest).map (bool false, ·)
      | '"' :: rest => (string? rest).map fun found => (string found.1, found.2)
      | '[' :: rest =>
          match afterSpace rest with
          | ']' :: rest => some (array [], rest)
          | rest => (elements? fuel rest).map fun found => (array found.1, found.2)
      | '\x7b' :: rest =>
          match afterSpace rest with
          | '\x7d' :: rest => some (object [], rest)
          | rest => (members? fuel rest).map fun found => (object found.1, found.2)
      | rest => (numeral? rest).map fun found => (number found.1, found.2)

/-- The elements of an array up to its closing bracket, at least one. -/
def elements? : Nat → List Char → Option (List Json × List Char)
  | 0, _ => none
  | fuel + 1, text => do
      let (element, rest) ← value? fuel text
      match afterSpace rest with
      | ',' :: rest => do
          let (elements, rest) ← elements? fuel rest
          some (element :: elements, rest)
      | ']' :: rest => some ([element], rest)
      | _ => none

/-- The members of an object up to its closing brace, at least one. -/
def members? : Nat → List Char → Option (List (Option String × Json) × List Char)
  | 0, _ => none
  | fuel + 1, text =>
      match afterSpace text with
      | '"' :: rest => do
          let (name, rest) ← string? rest
          match afterSpace rest with
          | ':' :: rest => do
              let (value, rest) ← value? fuel rest
              match afterSpace rest with
              | ',' :: rest => do
                  let (members, rest) ← members? fuel rest
                  some ((name, value) :: members, rest)
              | '\x7d' :: rest => some ([(name, value)], rest)
              | _ => none
          | _ => none
      | _ => none

end

/-- The value of a whole document. -/
def ofText? (text : String) : Option Json :=
  match value? (2 * text.length + 2) text.toList with
  | some (json, rest) => if rest.all isSpace then some json else none
  | none => none

end Json
end Collocation
