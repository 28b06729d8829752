/-!
# Regular expressions as written

A tree keeps what the reader of a regular expression finds in its text: literals, classes,
assertions, groups, repetitions, and the switches that change the meaning of what follows them.
`Tree.depth` counts how deep these are nested.
-/

namespace Collocation
namespace Regex

/-- A switch that a group can set or clear. -/
inductive Switch where
  /-- Letters match in either case. -/
  | ignoreCase
  /-- The line assertions hold at every line, not at the ends of the text only. -/
  | multiLine
  /-- The dot matches a line feed too. -/
  | dotAll
  /-- Repetitions prefer few rounds; this never changes whether a text matches. -/
  | lazy
  /-- Classes and boundaries go by Unicode and not by ASCII. -/
  | unicode
  /-- A carriage return ends a line as well. -/
  | carriage
  /-- Blanks and comments in the expression mean nothing. -/
  | verbose
  deriving DecidableEq, Repr

/-- A character of the expression that stands for itself. -/
structure Literal where
  /-- The character. -/
  char : Char
  /-- Whether it was written as two hexadecimal digits, and so could stand for a byte. -/
  isByte : Bool
  deriving DecidableEq, Repr

/-- A condition on a position that consumes nothing. -/
inductive Assertion where
  /-- The start of a line or of the text. -/
  | lineStart
  /-- The end of a line or of the text. -/
  | lineEnd
  /-- The start of the text. -/
  | textStart
  /-- The end of the text. -/
  | textEnd
  /-- A word character on one side only. -/
  | wordBoundary
  /-- A word character on both sides or on neither. -/
  | notWordBoundary
  /-- A word character after the position and none before it. -/
  | wordStart
  /-- A word character before the position and none after it. -/
  | wordEnd
  /-- No word character before the position. -/
  | wordStartHalf
  /-- No word character after the position. -/
  | wordEndHalf
  deriving DecidableEq, Repr

/-- The classes with a one-letter escape. -/
inductive Shorthand where
  /-- Decimal digits. -/
  | digit
  /-- White space. -/
  | space
  /-- Word characters. -/
  | word
  deriving DecidableEq, Repr

/-- The classes that a name between colons stands for; all are ASCII. -/
inductive AsciiClass where
  | alnum | alpha | ascii | blank | cntrl | digit | graph | lower | print | punct | space | upper
  | word | xdigit
  deriving DecidableEq, Repr

/-- A property of characters by name. -/
inductive Property where
  /-- A single name. -/
  | named (name : String)
  /-- The name of a property and one of its values. -/
  | valued (name value : String)
  deriving DecidableEq, Repr

/-- How two classes are combined. -/
inductive ClassOperator where
  | intersection | difference | symmetricDifference
  deriving DecidableEq, Repr

/-- A class between brackets, or a part of one. -/
inductive ClassTree where
  /-- One character. -/
  | char (literal : Literal)
  /-- The characters from one to another. -/
  | range (first last : Literal)
  /-- A class named between colons. -/
  | ascii (kind : AsciiClass) (negated : Bool)
  /-- A class with a one-letter escape. -/
  | shorthand (kind : Shorthand) (negated : Bool)
  /-- The characters with a property. -/
  | property (name : Property) (negated : Bool)
  /-- The characters of any of some classes. -/
  | union (parts : List ClassTree)
  /-- A class between brackets. -/
  | bracketed (negated : Bool) (inner : ClassTree)
  /-- Two classes combined. -/
  | binary (operator : ClassOperator) (left right : ClassTree)

/-- A regular expression as written. -/
inductive Tree where
  /-- The empty expression. -/
  | empty
  /-- A character that stands for itself. -/
  | literal (literal : Literal)
  /-- Any character but a line feed. -/
  | dot
  /-- A condition on the position. -/
  | assertion (kind : Assertion)
  /-- A class with a one-letter escape. -/
  | shorthand (kind : Shorthand) (negated : Bool)
  /-- The characters with a property. -/
  | property (name : Property) (negated : Bool)
  /-- A class between brackets. -/
  | bracketed (negated : Bool) (inner : ClassTree)
  /-- Switches for the rest of the group. -/
  | switches (changes : List (Switch × Bool))
  /-- A group, with switches for its inside. -/
  | group (captures : Bool) (changes : List (Switch × Bool)) (body : Tree)
  /-- A number of rounds, without an upper bound if `most` is absent; the flag marks one that prefers
  few rounds where others prefer many, and the other way round. -/
  | repetition (body : Tree) (least : Nat) (most : Option Nat) (marked : Bool)
  /-- Expressions one after another. -/
  | concat (parts : List Tree)
  /-- A choice between expressions. -/
  | alternation (parts : List Tree)

mutual

/-- How deep the parts of a class are nested. -/
def ClassTree.depth : ClassTree → Nat
  | .union parts => ClassTree.depthOfAll parts + 1
  | .bracketed _ inner => inner.depth + 1
  | .binary _ left right => max left.depth right.depth + 1
  | _ => 0

/-- The greatest depth among some classes. -/
def ClassTree.depthOfAll : List ClassTree → Nat
  | [] => 0
  | part :: parts => max part.depth (ClassTree.depthOfAll parts)

end

mutual

/-- How deep groups, repetitions, sequences, choices and classes are nested. -/
def Tree.depth : Tree → Nat
  | .bracketed _ inner => inner.depth + 1
  | .group _ _ body => body.depth + 1
  | .repetition body _ _ _ => body.depth + 1
  | .concat parts => Tree.depthOfAll parts + 1
  | .alternation parts => Tree.depthOfAll parts + 1
  | _ => 0

/-- The greatest depth among some expressions. -/
def Tree.depthOfAll : List Tree → Nat
  | [] => 0
  | part :: parts => max part.depth (Tree.depthOfAll parts)

end

/-- Expressions one after another; a single one stands for itself. -/
def Tree.sequence : List Tree → Tree
  | [] => .empty
  | [part] => part
  | parts => .concat parts

/-- A choice between expressions; a single one stands for itself. -/
def Tree.choice : List Tree → Tree
  | [part] => part
  | parts => .alternation parts

/-- The class of all characters of some classes; a single one stands for itself. -/
def ClassTree.anyOf : List ClassTree → ClassTree
  | [part] => part
  | parts => .union parts

end Regex
end Collocation
