import Collocation.Regex.Tree
import Collocation.Text.Blank
import Collocation.Text.Hexadecimal
import Collocation.Text.Integer
import Collocation.Unicode.Display

/-!
# Reading regular expressions

`Tree.ofText?` reads the text of a regular expression.  A part of the reader takes the text still to
be read and gives what it found together with the rest, or nothing where the text is malformed.  In
verbose mode blanks and comments are passed over between any two tokens.
-/

namespace Collocation
namespace Regex

open Text

/-- The text after blanks and comments; the flag says whether a comment is open. -/
def afterBlanks : Bool → List Char → List Char
  | _, [] => []
  | true, char :: rest => afterBlanks (char != '\n') rest
  | false, char :: rest =>
      if isBlank char then afterBlanks false rest
      else if char = '#' then afterBlanks true rest
      else char :: rest

/-- In verbose mode the text after blanks and comments, else the text itself. -/
def skip (verbose : Bool) (text : List Char) : List Char :=
  if verbose then afterBlanks false text else text

/-- The longest run of accepted characters and the rest.  In verbose mode blanks and comments between
them are left out; the last flag says whether a comment is open. -/
def collect (accepts : Char → Bool) (verbose : Bool) : Bool → List Char → List Char × List Char
  | _, [] => ([], [])
  | true, char :: rest => collect accepts verbose (char != '\n') rest
  | false, char :: rest =>
      if verbose ∧ isBlank char then collect accepts verbose false rest
      else if verbose ∧ char = '#' then collect accepts verbose true rest
      else if accepts char then
        let taken := collect accepts verbose false rest
        (char :: taken.1, taken.2)
      else ([], char :: rest)

/-- The character of a code, if there is one. -/
def charOfCode? (code : Nat) : Option Char :=
  if code.isValidChar then some (Char.ofNat code) else none

/-- A fixed number of hexadecimal digits. -/
def hexDigits? (verbose : Bool) : Nat → List Char → Option (List Char × List Char)
  | 0, text => some ([], text)
  | count + 1, char :: rest => do
      let _ ← hexDigit? char
      let (digits, rest) ← hexDigits? verbose count (skip verbose rest)
      some (char :: digits, rest)
  | _ + 1, [] => none

/-- A character by its code: so many hexadecimal digits, or any number of them between braces. -/
def hexEscape? (verbose : Bool) (count : Nat) (text : List Char) :
    Option (Literal × List Char) :=
  match skip verbose text with
  | '\x7b' :: text =>
      let (digits, rest) := collect (fun char => (hexDigit? char).isSome) verbose false text
      match digits, rest with
      | _ :: _, '\x7d' :: rest => do
          let char ← charOfCode? (hexValue digits)
          some (⟨char, false⟩, skip verbose rest)
      | _, _ => none
  | text => do
      let (digits, rest) ← hexDigits? verbose count text
      let char ← charOfCode? (hexValue digits)
      some (⟨char, count == 2⟩, rest)

/-- The two sides of the first occurrence of two characters in a row. -/
def cutPair? (first second : Char) : List Char → Option (List Char × List Char)
  | char :: next :: rest =>
      if char = first ∧ next = second then some ([], rest)
      else (cutPair? first second (next :: rest)).map fun sides => (char :: sides.1, sides.2)
  | _ => none

/-- The property that a text between braces names, and whether it has to be absent. -/
def Property.ofText (text : List Char) : Property × Bool :=
  match cutPair? '!' '=' text with
  | some (name, value) => (.valued (String.ofList name) (String.ofList value), true)
  | none =>
      match cut? ':' text <|> cut? '=' text with
      | some (name, value) => (.valued (String.ofList name) (String.ofList value), false)
      | none => (.named (String.ofList text), false)

/-- A property: a letter, or a name between braces.  The flag says whether it has to be absent. -/
def property? (verbose : Bool) (text : List Char) : Option (Property × Bool × List Char) :=
  match skip verbose text with
  | [] => none
  | '\x7b' :: text =>
      match collect (· != '\x7d') verbose false text with
      | (name, _ :: rest) =>
          let (property, absent) := Property.ofText name
          some (property, absent, rest)
      | (_, []) => none
  | char :: rest =>
      if char = '\\' then none
      else some (.named (String.ofList [char]), false, skip verbose rest)

/-- The characters with a meaning of their own outside classes or inside them. -/
def isMeta (char : Char) : Bool :=
  "\\.+*?()|[]\x7b\x7d^$#&-~".toList.contains char

/-- Whether a backslash before the character makes it stand for itself: so it is with every ASCII
character but letters, digits and angle brackets. -/
def isEscapable (char : Char) : Bool :=
  isMeta char || (char.toNat < 128 && !char.isAlphanum && char != '<' && char != '>')

/-- The boundary that a name between braces stands for. -/
def boundaryNamed? (name : String) : Option Assertion :=
  match name with
  | "start" => some .wordStart
  | "end" => some .wordEnd
  | "start-half" => some .wordStartHalf
  | "end-half" => some .wordEndHalf
  | _ => none

/-- What follows a boundary escape: a name between braces makes it a special boundary.  Braces that
do not open with a letter or a hyphen belong to a repetition. -/
def boundary? (verbose : Bool) (text : List Char) : Option (Tree × List Char) :=
  let isName := fun char : Char => char.isAlpha || char == '-'
  match text with
  | '\x7b' :: inner =>
      match skip verbose inner with
      | [] => none
      | char :: rest =>
          if isName char then
            match collect isName verbose false (char :: rest) with
            | (name, '\x7d' :: rest) => do
                let kind ← boundaryNamed? (String.ofList name)
                some (.assertion kind, rest)
            | _ => none
          else some (.assertion .wordBoundary, text)
  | _ => some (.assertion .wordBoundary, text)

/-- What follows a backslash. -/
def escape? (verbose : Bool) : List Char → Option (Tree × List Char)
  | [] => none
  | char :: rest =>
      let literal := fun char : Char => some (Tree.literal ⟨char, false⟩, rest)
      let hex := fun count : Nat =>
        (hexEscape? verbose count rest).map fun found => (Tree.literal found.1, found.2)
      match char with
      | 'x' => hex 2
      | 'u' => hex 4
      | 'U' => hex 8
      | 'p' => (property? verbose rest).map fun found => (.property found.1 found.2.1, found.2.2)
      | 'P' => (property? verbose rest).map fun found => (.property found.1 !found.2.1, found.2.2)
      | 'd' => some (.shorthand .digit false, rest)
      | 'D' => some (.shorthand .digit true, rest)
      | 's' => some (.shorthand .space false, rest)
      | 'S' => some (.shorthand .space true, rest)
      | 'w' => some (.shorthand .word false, rest)
      | 'W' => some (.shorthand .word true, rest)
      | 'a' => literal '\x07'
      | 'f' => literal '\x0c'
      | 't' => literal '\t'
      | 'n' => literal '\n'
      | 'r' => literal '\r'
      | 'v' => literal '\x0b'
      | 'A' => some (.assertion .textStart, rest)
      | 'z' => some (.assertion .textEnd, rest)
      | 'b' => boundary? verbose rest
      | 'B' => some (.assertion .notWordBoundary, rest)
      | '<' => some (.assertion .wordStart, rest)
      | '>' => some (.assertion .wordEnd, rest)
      | _ => if isEscapable char then literal char else none

/-! ## Classes -/

/-- The class that a name between colons stands for. -/
def asciiClassNamed? (name : String) : Option AsciiClass :=
  match name with
  | "alnum" => some .alnum
  | "alpha" => some .alpha
  | "ascii" => some .ascii
  | "blank" => some .blank
  | "cntrl" => some .cntrl
  | "digit" => some .digit
  | "graph" => some .graph
  | "lower" => some .lower
  | "print" => some .print
  | "punct" => some .punct
  | "space" => some .space
  | "upper" => some .upper
  | "word" => some .word
  | "xdigit" => some .xdigit
  | _ => none

/-- A class named between colons, its opening bracket already read. -/
def asciiClass? : List Char → Option (ClassTree × List Char)
  | ':' :: text =>
      let (negated, text) := match text with
        | '^' :: text => (true, text)
        | text => (false, text)
      match cut? ':' text with
      | some (name, ']' :: rest) => do
          let kind ← asciiClassNamed? (String.ofList name)
          some (.ascii kind negated, rest)
      | _ => none
  | _ => none

/-- An escape or a plain character inside a class. -/
def classToken? (verbose : Bool) : List Char → Option (Tree × List Char)
  | [] => none
  | '\\' :: rest => escape? verbose rest
  | char :: rest => some (.literal ⟨char, false⟩, rest)

/-- A token of a class as a class; an assertion is none. -/
def ClassTree.ofToken? : Tree → Option ClassTree
  | .literal literal => some (.char literal)
  | .shorthand kind negated => some (.shorthand kind negated)
  | .property name negated => some (.property name negated)
  | _ => none

/-- In verbose mode, the first character after blanks and after one number sign among them; the whole
text is the fallback where there is none. -/
def peekVerbose (fallback : Option Char) : Bool → List Char → Option Char
  | _, [] => fallback
  | marked, char :: rest =>
      if isBlank char then peekVerbose fallback marked rest
      else if !marked ∧ char = '#' then peekVerbose fallback true rest
      else some char

/-- The character that decides whether a hyphen makes a range. -/
def peek (verbose : Bool) (text : List Char) : Option Char :=
  if verbose then peekVerbose text.head? false text else text.head?

/-- One part of a class: a token, or a range of characters. -/
def classRange? (verbose : Bool) (text : List Char) : Option (ClassTree × List Char) := do
  let (first, rest) ← classToken? verbose text
  match skip verbose rest with
  | [] => none
  | '-' :: tail =>
      if peek verbose tail = some ']' ∨ peek verbose tail = some '-' then
        let part ← ClassTree.ofToken? first
        some (part, '-' :: tail)
      else
        let (last, rest) ← classToken? verbose (skip verbose tail)
        match first, last with
        | .literal low, .literal high =>
            if low.char ≤ high.char then some (.range low high, rest) else none
        | _, _ => none
  | rest => do
      let part ← ClassTree.ofToken? first
      some (part, rest)

/-- The opening of a class after its bracket: whether it is negated, and the hyphens or the bracket
that stand for themselves because they come first. -/
def classOpening? (verbose : Bool) (text : List Char) :
    Option (Bool × List ClassTree × List Char) :=
  let plain := fun char : Char => ClassTree.char ⟨char, false⟩
  let (negated, text) := match skip verbose text with
    | '^' :: rest => (true, skip verbose rest)
    | text => (false, text)
  let (hyphens, text) := collect (· == '-') verbose false text
  match hyphens, text with
  | _, [] => none
  | [], ']' :: rest =>
      match skip verbose rest with
      | [] => none
      | rest => some (negated, [plain ']'], rest)
  | _, text => some (negated, hyphens.map plain, text)

/-- A class so far: the parts since the last operator combined with what stands before it. -/
def classSoFar (before : Option (ClassOperator × ClassTree)) (parts : List ClassTree) : ClassTree :=
  match before with
  | none => .anyOf parts
  | some (operator, left) => .binary operator left (.anyOf parts)

/-- The inside of a class up to its closing bracket.  Operators associate to the left.  Every round
reads a character, so the length of the text is fuel enough. -/
def classBody? (verbose : Bool) :
    Nat → Option (ClassOperator × ClassTree) → List ClassTree → List Char →
      Option (ClassTree × List Char)
  | 0, _, _, _ => none
  | fuel + 1, before, parts, text =>
      let operate := fun operator rest =>
        classBody? verbose fuel (some (operator, classSoFar before parts)) [] rest
      match skip verbose text with
      | [] => none
      | ']' :: rest => some (classSoFar before parts, rest)
      | '&' :: '&' :: rest => operate .intersection rest
      | '-' :: '-' :: rest => operate .difference rest
      | '~' :: '~' :: rest => operate .symmetricDifference rest
      | '[' :: rest =>
          match asciiClass? rest with
          | some (part, rest) => classBody? verbose fuel before (parts ++ [part]) rest
          | none => do
              let (negated, opening, rest) ← classOpening? verbose rest
              let (inner, rest) ← classBody? verbose fuel none opening rest
              classBody? verbose fuel before (parts ++ [.bracketed negated inner]) rest
      | text => do
          let (part, rest) ← classRange? verbose text
          classBody? verbose fuel before (parts ++ [part]) rest

/-- A class, its opening bracket already read. -/
def class? (verbose : Bool) (text : List Char) : Option (Tree × List Char) := do
  let (negated, opening, rest) ← classOpening? verbose text
  let (inner, rest) ← classBody? verbose (rest.length + 1) none opening rest
  some (.bracketed negated inner, rest)

/-! ## Repetitions -/

/-- A decimal count, blanks around it allowed. -/
def count? (verbose : Bool) (text : List Char) : Option Nat × List Char :=
  let (digits, rest) := collect Char.isDigit verbose false (text.dropWhile isBlank)
  let value := (natural? digits).bind fun value => if value < UInt32.size then some value else none
  (value, rest.dropWhile isBlank)

/-- The bounds between the braces of a counted repetition, and the text from the closing brace on. -/
def bounds? (verbose : Bool) (text : List Char) : Option (Nat × Option Nat × List Char) :=
  match count? verbose (skip verbose text) with
  | (least, ',' :: rest) =>
      match skip verbose rest with
      | '\x7d' :: rest => least.map fun least => (least, none, rest)
      | rest => do
          let least ← least
          match count? verbose rest with
          | (some most, '\x7d' :: rest) => if least ≤ most then some (least, some most, rest) else none
          | _ => none
  | (least, '\x7d' :: rest) => least.map fun least => (least, some least, rest)
  | _ => none

/-- Whether a question mark follows that changes how many rounds are preferred, and the text after
it. -/
def lazyMark : List Char → Bool × List Char
  | '?' :: rest => (true, rest)
  | text => (false, text)

/-- Replace the last expression by its repetition; there has to be one that can be repeated. -/
def repeatLast? (least : Nat) (most : Option Nat) (marked : Bool) :
    List Tree → Option (List Tree)
  | [] => none
  | .empty :: _ => none
  | .switches _ :: _ => none
  | last :: earlier => some (.repetition last least most marked :: earlier)

/-! ## Groups -/

/-- The switch of a letter. -/
def switchOf? : Char → Option Switch
  | 'i' => some .ignoreCase
  | 'm' => some .multiLine
  | 's' => some .dotAll
  | 'U' => some .lazy
  | 'u' => some .unicode
  | 'R' => some .carriage
  | 'x' => some .verbose
  | _ => none

/-- The switches up to a colon or a closing parenthesis, and the text from there on.  Each letter
occurs once, and so does the hyphen after which switches are cleared; a letter follows the hyphen. -/
def switches? : Option Bool → List (Switch × Bool) → List Char →
    Option (List (Switch × Bool) × List Char)
  | _, _, [] => none
  | cleared, changes, char :: rest =>
      if char = ':' ∨ char = ')' then
        if cleared = some true then none else some (changes, char :: rest)
      else if char = '-' then
        if cleared = none then switches? (some true) changes rest else none
      else do
        let switch ← switchOf? char
        if changes.any fun change => change.1 = switch then none
        else switches? (cleared.map fun _ => false) (changes ++ [(switch, cleared.isNone)]) rest

/-- The setting of a switch after some changes. -/
def settingOf (switch : Switch) (changes : List (Switch × Bool)) (setting : Bool) : Bool :=
  ((changes.find? fun change => change.1 = switch).map Prod.snd).getD setting

/-- Whether a character may stand in the name of a group. -/
def isNameChar (first : Bool) (char : Char) : Bool :=
  char == '_' || Unicode.letters.contains char ||
    (!first && (char == '.' || char == '[' || char == ']' || Unicode.numerals.contains char))

/-- The name of a group up to its closing angle bracket. -/
def groupName? (text : List Char) : Option (String × List Char) :=
  match cut? '>' text with
  | some (first :: name, rest) =>
      if isNameChar true first ∧ name.all (isNameChar false) then
        some (String.ofList (first :: name), rest)
      else none
  | _ => none

/-- What an opening parenthesis begins. -/
inductive Opening where
  /-- Switches for the rest of the enclosing group. -/
  | switches (changes : List (Switch × Bool))
  /-- A group, perhaps with a name. -/
  | group (captures : Bool) (name : Option String) (changes : List (Switch × Bool))

/-- The text after an opening parenthesis.  Looking ahead or behind is not supported. -/
def opening? (verbose : Bool) (text : List Char) : Option (Opening × List Char) :=
  let named := fun text =>
    (groupName? text).map fun found => (Opening.group true (some found.1) [], found.2)
  match skip verbose text with
  | '?' :: '=' :: _ => none
  | '?' :: '!' :: _ => none
  | '?' :: '<' :: '=' :: _ => none
  | '?' :: '<' :: '!' :: _ => none
  | '?' :: 'P' :: '<' :: rest => named rest
  | '?' :: '<' :: rest => named rest
  | '?' :: rest =>
      match switches? none [] rest with
      | some (changes, ':' :: rest) => some (.group false none changes, rest)
      | some (changes, _ :: rest) =>
          if changes = [] then none else some (.switches changes, rest)
      | _ => none
  | text => some (.group true none [], text)

/-! ## Expressions -/

/-- An expression up to the end of the text or to a closing parenthesis that it does not open.
`alternatives` and `parts` hold what has been read, last first; `names` are the group names so far.
Every round reads a character, so the length of the text is fuel enough. -/
def expression? : Nat → Bool → List String → List Tree → List Tree → List Char →
    Option (Tree × List String × List Char)
  | 0, _, _, _, _, _ => none
  | fuel + 1, verbose, names, alternatives, parts, text =>
      let finished := Tree.choice (Tree.sequence parts.reverse :: alternatives).reverse
      let rounds := fun (least : Nat) (most : Option Nat) (rest : List Char) => do
        let (marked, rest) := lazyMark rest
        let parts ← repeatLast? least most marked parts
        expression? fuel verbose names alternatives parts rest
      match skip verbose text with
      | [] => some (finished, names, [])
      | ')' :: rest => some (finished, names, ')' :: rest)
      | '|' :: rest =>
          expression? fuel verbose names (Tree.sequence parts.reverse :: alternatives) [] rest
      | '(' :: rest =>
          match opening? verbose rest with
          | none => none
          | some (.switches changes, rest) =>
              expression? fuel (settingOf .verbose changes verbose) names alternatives
                (.switches changes :: parts) rest
          | some (.group captures name changes, rest) =>
              if name.any names.contains then none
              else
                match expression? fuel (settingOf .verbose changes verbose)
                    (name.toList ++ names) [] [] rest with
                | some (body, names, ')' :: rest) =>
                    expression? fuel verbose names alternatives
                      (.group captures changes body :: parts) rest
                | _ => none
      | '[' :: rest => do
          let (part, rest) ← class? verbose rest
          expression? fuel verbose names alternatives (part :: parts) rest
      | '?' :: rest => rounds 0 (some 1) rest
      | '*' :: rest => rounds 0 none rest
      | '+' :: rest => rounds 1 none rest
      | '\x7b' :: rest => do
          let (least, most, rest) ← bounds? verbose rest
          rounds least most (skip verbose rest)
      | '\\' :: rest => do
          let (part, rest) ← escape? verbose rest
          expression? fuel verbose names alternatives (part :: parts) rest
      | '.' :: rest => expression? fuel verbose names alternatives (.dot :: parts) rest
      | '^' :: rest =>
          expression? fuel verbose names alternatives (.assertion .lineStart :: parts) rest
      | '$' :: rest =>
          expression? fuel verbose names alternatives (.assertion .lineEnd :: parts) rest
      | char :: rest =>
          expression? fuel verbose names alternatives (.literal ⟨char, false⟩ :: parts) rest

/-- The deepest nesting that is read. -/
def depthLimit : Nat :=
  250

/-- The regular expression of a whole text. -/
def Tree.ofText? (text : List Char) : Option Tree :=
  match expression? (text.length + 1) false [] [] [] text with
  | some (tree, _, []) => if tree.depth ≤ depthLimit then some tree else none
  | _ => none

end Regex
end Collocation
