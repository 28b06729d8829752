import Collocation.Regex.Tree
import Collocation.Unicode.Age
import Collocation.Unicode.Break
import Collocation.Unicode.CaseFold
import Collocation.Unicode.Category
import Collocation.Unicode.Property
import Collocation.Unicode.Script

/-!
# The characters of a class

`ClassTree.set?` gives the set of characters that a class stands for, by edition 16 of the Unicode
standard.  With Unicode switched off a class may hold ASCII characters only, and a class that could
hold others is refused.
-/

namespace Collocation
namespace Regex

open Unicode

/-- The settings of the switches that change what a part of an expression means. -/
structure Settings where
  /-- Letters match in either case. -/
  ignoreCase : Bool
  /-- The line assertions hold at every line. -/
  multiLine : Bool
  /-- The dot matches a line feed too. -/
  dotAll : Bool
  /-- Classes and boundaries go by Unicode. -/
  unicode : Bool
  /-- A carriage return ends a line as well. -/
  carriage : Bool
  /-- Repetitions prefer few rounds. -/
  lazy : Bool
  deriving DecidableEq, Repr

/-- The settings at the start of every expression. -/
def Settings.standard : Settings :=
  ⟨false, false, false, true, false, false⟩

/-- Change one setting. -/
def Settings.set (settings : Settings) : Switch × Bool → Settings
  | (.ignoreCase, on) => { settings with ignoreCase := on }
  | (.multiLine, on) => { settings with multiLine := on }
  | (.dotAll, on) => { settings with dotAll := on }
  | (.unicode, on) => { settings with unicode := on }
  | (.carriage, on) => { settings with carriage := on }
  | (.lazy, on) => { settings with lazy := on }
  | (.verbose, _) => settings

/-- Change settings one after another. -/
def Settings.setAll (settings : Settings) (changes : List (Switch × Bool)) : Settings :=
  changes.foldl Settings.set settings

/-- The classes of characters that match each other in place of one another, if case is ignored. -/
def Settings.caseClasses (settings : Settings) : List (List Char) :=
  if settings.unicode then Unicode.caseClasses else asciiCaseClasses

/-- A set with the other cases of its letters, if case is ignored. -/
def Settings.close (settings : Settings) (set : CodeSet) : CodeSet :=
  if settings.ignoreCase then set.closeCase settings.caseClasses else set

/-- The complement, if asked for. -/
def negateIf (negated : Bool) (set : CodeSet) : CodeSet :=
  if negated then set.complement else set

/-- The characters of two sets that an operator keeps. -/
def ClassOperator.combine : ClassOperator → CodeSet → CodeSet → CodeSet
  | .intersection => CodeSet.inter
  | .difference => CodeSet.difference
  | .symmetricDifference => CodeSet.symmetricDifference

/-- The ASCII characters of a class with a name. -/
def AsciiClass.set : AsciiClass → CodeSet
  | .alnum => ⟨[(0x30, 0x3A), (0x41, 0x5B), (0x61, 0x7B)]⟩
  | .alpha => ⟨[(0x41, 0x5B), (0x61, 0x7B)]⟩
  | .ascii => .ascii
  | .blank => ⟨[(0x09, 0x0A), (0x20, 0x21)]⟩
  | .cntrl => ⟨[(0, 0x20), (0x7F, 0x80)]⟩
  | .digit => ⟨[(0x30, 0x3A)]⟩
  | .graph => ⟨[(0x21, 0x7F)]⟩
  | .lower => ⟨[(0x61, 0x7B)]⟩
  | .print => ⟨[(0x20, 0x7F)]⟩
  | .punct => ⟨[(0x21, 0x30), (0x3A, 0x41), (0x5B, 0x61), (0x7B, 0x7F)]⟩
  | .space => ⟨[(0x09, 0x0E), (0x20, 0x21)]⟩
  | .upper => ⟨[(0x41, 0x5B)]⟩
  | .word => ⟨[(0x30, 0x3A), (0x41, 0x5B), (0x5F, 0x60), (0x61, 0x7B)]⟩
  | .xdigit => ⟨[(0x30, 0x3A), (0x41, 0x47), (0x61, 0x67)]⟩

/-- Word characters: letters, marks, decimal digits, connectors and joiners. -/
def wordSet : CodeSet :=
  (alphabetic.union joinControl).union (categorySet ["Mn", "Mc", "Me", "Nd", "Pc"])

/-- Decimal digits. -/
def digitSet : CodeSet :=
  categorySet ["Nd"]

/-- White space. -/
def spaceSet : CodeSet :=
  CodeSet.ofGaps whiteSpaceGaps

/-- The characters of a class with a one-letter escape. -/
def Shorthand.set (kind : Shorthand) (unicode : Bool) : CodeSet :=
  match kind with
  | .digit => if unicode then digitSet else AsciiClass.digit.set
  | .space => if unicode then spaceSet else AsciiClass.space.set
  | .word => if unicode then wordSet else AsciiClass.word.set

/-- Whether a name begins with `is` in any case. -/
def beginsWithIs : List Char → Bool
  | first :: second :: _ => first.toLower == 'i' && second.toLower == 's'
  | _ => false

/-- A name as the tables of properties have it: in lower case, without separators, characters beyond
ASCII, or `is` in front.  The name `isc` keeps its front, as `c` alone is a category. -/
def looseName (name : String) : String :=
  let text := name.toList
  let marked := beginsWithIs text
  let plain := ((if marked then text.drop 2 else text).filter fun char =>
    char.toNat < 128 && char != ' ' && char != '_' && char != '-').map Char.toLower
  if marked ∧ plain = ['c'] then "isc" else String.ofList plain

/-- The characters of a general category, or of one of the three sets that are named like one. -/
def generalCategory? (name : String) : Option CodeSet :=
  match name with
  | "any" => some .whole
  | "ascii" => some .ascii
  | "assigned" => some (categorySet ["Cn"]).complement
  | _ => (categoriesNamed? name).map categorySet

/-- The characters of a script. -/
def script? (name : String) : Option CodeSet :=
  (scriptNamed? name).map Script.members

/-- The characters of a binary property.  Three abbreviations mean a category instead. -/
def binary? (name : String) : Option CodeSet :=
  if name = "cf" ∨ name = "sc" ∨ name = "lc" then none else setNamed? name properties

/-- A property that has one of several values for each character. -/
inductive ValuedProperty where
  | age | generalCategory | graphemeBreak | script | scriptExtensions | sentenceBreak | wordBreak
  deriving DecidableEq, Repr

/-- The valued property of a name, the name written in lower case without separators. -/
def ValuedProperty.named? (name : String) : Option ValuedProperty :=
  match name with
  | "age" => some .age
  | "gc" => some .generalCategory
  | "generalcategory" => some .generalCategory
  | "gcb" => some .graphemeBreak
  | "graphemeclusterbreak" => some .graphemeBreak
  | "sc" => some .script
  | "script" => some .script
  | "scx" => some .scriptExtensions
  | "scriptextensions" => some .scriptExtensions
  | "sb" => some .sentenceBreak
  | "sentencebreak" => some .sentenceBreak
  | "wb" => some .wordBreak
  | "wordbreak" => some .wordBreak
  | _ => none

/-- The characters for which a property has the value of a name.  An age takes in all lower ones. -/
def ValuedProperty.set? (value : String) : ValuedProperty → Option CodeSet
  | .age => editionNamed? value
  | .generalCategory => generalCategory? value
  | .graphemeBreak => setNamed? value graphemeBreaks
  | .script => script? value
  | .scriptExtensions => (scriptNamed? value).map Script.extensions
  | .sentenceBreak => setNamed? value sentenceBreaks
  | .wordBreak => setNamed? value wordBreaks

/-- The characters with a property, if the property is known. -/
def Property.set? : Property → Option CodeSet
  | .named name =>
      let name := looseName name
      binary? name <|> generalCategory? name <|> script? name
  | .valued name value => do
      let property ← ValuedProperty.named? (looseName name)
      property.set? (looseName value)

/-- Whether a literal may stand in a class; without Unicode it has to be ASCII. -/
def Literal.allowed (settings : Settings) (literal : Literal) : Bool :=
  settings.unicode || literal.char.toNat < 128

/-- Whether a class may be negated; without Unicode the complement holds more than ASCII. -/
def negationAllowed (settings : Settings) (negated : Bool) : Bool :=
  settings.unicode || !negated

/-- The set of a class with a one-letter escape. -/
def Shorthand.classSet? (settings : Settings) (kind : Shorthand) (negated : Bool) :
    Option CodeSet :=
  if negationAllowed settings negated then
    some (negateIf negated (kind.set settings.unicode))
  else none

/-- The set of a property, which needs Unicode. -/
def Property.classSet? (settings : Settings) (name : Property) (negated : Bool) :
    Option CodeSet :=
  if settings.unicode then
    name.set?.map fun set => negateIf negated (settings.close set)
  else none

/-- The set between brackets. -/
def bracketedSet? (settings : Settings) (negated : Bool) (inner : CodeSet) : Option CodeSet :=
  if negationAllowed settings negated then
    some (negateIf negated (settings.close inner))
  else none

mutual

/-- The set of a class; `none` if it names an unknown property or leaves ASCII where it must not. -/
def ClassTree.set? (settings : Settings) : ClassTree → Option CodeSet
  | .char literal => if literal.allowed settings then some (.singleton literal.char) else none
  | .range first last =>
      if first.allowed settings ∧ last.allowed settings then
        some (.between first.char last.char)
      else none
  | .ascii kind negated => bracketedSet? settings negated kind.set
  | .shorthand kind negated => kind.classSet? settings negated
  | .property name negated => name.classSet? settings negated
  | .union parts => ClassTree.setOfAll? settings parts
  | .bracketed negated inner => do
      let set ← inner.set? settings
      bracketedSet? settings negated set
  | .binary operator left right => do
      let leftSet ← left.set? settings
      let rightSet ← right.set? settings
      some (operator.combine (settings.close leftSet) (settings.close rightSet))

/-- The union of the sets of some classes. -/
def ClassTree.setOfAll? (settings : Settings) : List ClassTree → Option CodeSet
  | [] => some .empty
  | part :: parts => do
      let set ← part.set? settings
      let others ← ClassTree.setOfAll? settings parts
      some (others.union set)

end

end Regex
end Collocation
