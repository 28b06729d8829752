import Collocation.Pattern.Written

/-!
# Reading patterns

`Written.Pattern.ofText?` reads the text of a pattern.  Blanks, line ends, and comments from two slashes
to the end of the line may stand between any two parts; names, numbers, values and references hold
none.  Each part of the reader takes the text still to be read and gives what it found together with
the rest.
-/

namespace Collocation
namespace Written

/-- Whether a character may stand between two parts. -/
def isGap (char : Char) : Bool :=
  char == ' ' || char == '\t' || char == '\r' || char == '\n'

/-- The text after blanks and comments; the flag says whether a comment is open. -/
def afterGaps : Bool → List Char → List Char
  | _, [] => []
  | true, char :: rest => afterGaps (char != '\n') rest
  | false, '/' :: '/' :: rest => afterGaps true rest
  | false, char :: rest => if isGap char then afterGaps false rest else char :: rest

/-- The text after blanks and comments. -/
def skip (text : List Char) : List Char :=
  afterGaps false text

/-- The text that was read before the rest. -/
def clauseOf (text rest : List Char) : String :=
  String.ofList (text.take (text.length - rest.length))

/-- Whether a character may stand in a label. -/
def isLabelChar (char : Char) : Bool :=
  char.isAlphanum || char == '_'

/-- Whether a character may stand in the key of a feature, behind its first letter. -/
def isKeyChar (char : Char) : Bool :=
  isLabelChar char || char == '[' || char == ']'

/-- A word that begins with a letter. -/
def word? (isWordChar : Char → Bool) : List Char → Option (List Char × List Char)
  | [] => none
  | char :: rest =>
      if char.isAlpha then some (char :: rest.takeWhile isWordChar, rest.dropWhile isWordChar)
      else none

/-- What a test looks at. -/
def attribute? (text : List Char) : Option (Attribute × List Char) :=
  let plain := (word? isLabelChar text).map fun found =>
    (Attribute.plain (String.ofList found.1), found.2)
  match text with
  | 'f' :: 'e' :: 'a' :: 't' :: 's' :: '.' :: rest =>
      match word? isKeyChar rest with
      | some (key, rest) => some (.feature (String.ofList key), rest)
      | none => plain
  | _ => plain

/-- The comparison of a test: whether it has to fail. -/
def comparison? : List Char → Option (Bool × List Char)
  | '!' :: '=' :: rest => some (true, rest)
  | '=' :: rest => some (false, rest)
  | _ => none

/-- The value of a test. -/
def value? : List Char → Option (Value × List Char)
  | '"' :: rest => (Text.cut? '"' rest).map fun sides => (.literal (String.ofList sides.1), sides.2)
  | '/' :: rest => (Text.cut? '/' rest).map fun sides => (.regex (String.ofList sides.1), sides.2)
  | _ => none

/-- A test. -/
def test? (text : List Char) : Option (Test × List Char) := do
  let (subject, rest) ← attribute? text
  let (negated, rest) ← comparison? (skip rest)
  let (value, rest) ← value? (skip rest)
  some (⟨subject, negated, value, clauseOf text rest⟩, rest)

/-- All of some conditions; a single one stands for itself. -/
def Condition.allOf : List Condition → Condition
  | [single] => single
  | parts => .all parts

/-- One of some conditions; a single one stands for itself. -/
def Condition.anyOf : List Condition → Condition
  | [single] => single
  | parts => .oneOf parts

mutual

/-- Conditions with bars between them, at least one.  Of four steps down at least one reads a character,
so four times the length of the text is fuel enough. -/
def alternatives? : Nat → List Char → Option (List Condition × List Char)
  | 0, _ => none
  | fuel + 1, text => do
      let (parts, rest) ← conjuncts? fuel text
      match skip rest with
      | '|' :: rest => do
          let (others, rest) ← alternatives? fuel (skip rest)
          some (.allOf parts :: others, rest)
      | _ => some ([.allOf parts], rest)

/-- Conditions with ampersands or commas between them, at least one. -/
def conjuncts? : Nat → List Char → Option (List Condition × List Char)
  | 0, _ => none
  | fuel + 1, text => do
      let (part, rest) ← operand? fuel text
      match skip rest with
      | char :: rest' =>
          if char = '&' ∨ char = ',' then do
            let (others, rest) ← conjuncts? fuel (skip rest')
            some (part :: others, rest)
          else some ([part], rest)
      | [] => some ([part], rest)

/-- A test, a condition between parentheses, or either of them negated. -/
def operand? : Nat → List Char → Option (Condition × List Char)
  | 0, _ => none
  | fuel + 1, '!' :: rest => (positive? fuel (skip rest)).map fun found => (.not found.1, found.2)
  | fuel + 1, text => positive? fuel text

/-- A test, or a condition between parentheses. -/
def positive? : Nat → List Char → Option (Condition × List Char)
  | 0, _ => none
  | fuel + 1, '(' :: rest => do
      let (parts, rest) ← alternatives? fuel (skip rest)
      match skip rest with
      | ')' :: rest => some (.anyOf parts, rest)
      | _ => none
  | _ + 1, text => (test? text).map fun found => (.test found.1, found.2)

end

/-- A label and the colon after it, if there is one. -/
def label? (text : List Char) : Option String × List Char :=
  match text.takeWhile isLabelChar, skip (text.dropWhile isLabelChar) with
  | first :: label, ':' :: rest => (some (String.ofList (first :: label)), skip rest)
  | _, _ => (none, text)

/-- A slot. -/
def slot? (text : List Char) : Option (Slot × List Char) :=
  match label? text with
  | (label, '[' :: rest) =>
      match skip rest with
      | ']' :: rest => some (⟨label, none, clauseOf text rest⟩, rest)
      | inner => do
          let (parts, rest) ← alternatives? (4 * inner.length + 4) inner
          match skip rest with
          | ']' :: rest => some (⟨label, some (.anyOf parts), clauseOf text rest⟩, rest)
          | _ => none
  | _ => none

/-- A bound: digits, perhaps behind a minus sign. -/
def bound? (text : List Char) : Option (List Char × List Char) :=
  let (sign, text) := match text with
    | '-' :: rest => (['-'], rest)
    | text => ([], text)
  match text.takeWhile Char.isDigit with
  | [] => none
  | digits => some (sign ++ digits, text.dropWhile Char.isDigit)

/-- Bounds between two slots, if an opening brace says so. -/
def bounds? (text : List Char) : Option (Option Bounds × List Char) :=
  match text with
  | '\x7b' :: rest => do
      let (least, rest) ← bound? (skip rest)
      match skip rest with
      | ',' :: rest => do
          let (most, rest) ← bound? (skip rest)
          match skip rest with
          | '\x7d' :: rest => some (some ⟨least, most, clauseOf text rest⟩, skip rest)
          | _ => none
      | _ => none
  | _ => some (none, text)

/-- Whether a text goes on with bounds or a slot. -/
def beginsSlot : List Char → Bool
  | [] => false
  | char :: _ => isLabelChar char || char == '[' || char == '\x7b'

/-- The slots after the first.  Each reads a character, so the length of the text is fuel enough. -/
def furtherSlots? : Nat → List Char → Option (List (Option Bounds × Slot) × List Char)
  | 0, _ => none
  | fuel + 1, text =>
      let next := skip text
      if beginsSlot next then do
        let (bounds, rest) ← bounds? next
        let (slot, rest) ← slot? rest
        let (slots, rest) ← furtherSlots? fuel rest
        some ((bounds, slot) :: slots, rest)
      else some ([], next)

/-- A feature of a labeled slot. -/
def reference? (text : List Char) : Option (Reference × List Char) :=
  match text.takeWhile isLabelChar, text.dropWhile isLabelChar with
  | first :: label, '.' :: rest =>
      (word? isKeyChar rest).map fun found =>
        (⟨String.ofList (first :: label), String.ofList found.1⟩, found.2)
  | _, _ => none

/-- An agreement rule. -/
def agreement? (text : List Char) : Option (Agreement × List Char) :=
  match text with
  | 'a' :: 'g' :: 'r' :: 'e' :: 'e' :: rest => do
      let (left, rest) ← reference? (skip rest)
      match skip rest with
      | '=' :: rest => do
          let (right, rest) ← reference? (skip rest)
          some (⟨left, right, clauseOf text rest⟩, rest)
      | _ => none
  | _ => none

/-- Agreement rules, a semicolon before each and perhaps one at the end of the text.  Each reads a
character, so the length of the text is fuel enough. -/
def agreements? : Nat → List Char → Option (List Agreement)
  | 0, _ => none
  | fuel + 1, text =>
      match skip text with
      | [] => some []
      | ';' :: rest =>
          match skip rest with
          | [] => some []
          | rest => do
              let (agreement, rest) ← agreement? rest
              let agreements ← agreements? fuel rest
              some (agreement :: agreements)
      | _ => none

/-- The pattern of a whole text. -/
def Pattern.ofText? (text : List Char) : Option Pattern := do
  let (first, text) ← slot? (skip text)
  let (rest, text) ← furtherSlots? (text.length + 1) text
  let agreements ← agreements? (text.length + 1) text
  some ⟨first, rest, agreements⟩

end Written
end Collocation
