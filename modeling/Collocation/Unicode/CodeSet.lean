import Collocation.Text.Fields
import Collocation.Text.Integer

/-!
# Sets of characters

A set is a list of half-open ranges of code points in ascending order, with a gap between each two.
Surrogates are no characters and belong to no set.  In a table a set is written as numbers that take
turns: how many code points to skip, then how many to take.
-/

namespace Collocation
namespace Unicode

/-- A set of characters as ascending ranges of code points, the end of each left out. -/
structure CodeSet where
  /-- First code point of each range and the first one behind it. -/
  ranges : List (Nat × Nat)
  deriving DecidableEq, Repr

/-- The first surrogate. -/
def surrogateStart : Nat :=
  0xD800

/-- The first code point behind the surrogates. -/
def surrogateStop : Nat :=
  0xE000

/-- The first number that is no code point. -/
def codeStop : Nat :=
  0x110000

namespace CodeSet

/-- Whether some range holds the code point; the search ends at the first range above it. -/
def within (code : Nat) : List (Nat × Nat) → Bool
  | [] => false
  | (start, stop) :: rest =>
      if code < start then false else code < stop || within code rest

/-- Membership of a character. -/
def contains (set : CodeSet) (char : Char) : Bool :=
  within char.toNat set.ranges

/-- Ranges from numbers that skip and take in turn, the first skip counted from `position`. -/
def rangesFrom (position : Nat) : List Nat → List (Nat × Nat)
  | skip :: take :: rest =>
      (position + skip, position + skip + take) :: rangesFrom (position + skip + take) rest
  | _ => []

/-- The set that lines of numbers describe. -/
def ofGaps (lines : List String) : CodeSet :=
  ⟨rangesFrom 0 ((lines.flatMap fun line => Text.fields ' ' line.toList).map Text.decimalValue)⟩

/-- No character. -/
def empty : CodeSet :=
  ⟨[]⟩

/-- The parts of a range on either side of the surrogates. -/
def withoutSurrogates (range : Nat × Nat) : List (Nat × Nat) :=
  [(range.1, min range.2 surrogateStart), (max range.1 surrogateStop, range.2)].filter
    fun part => part.1 < part.2

/-- The characters from one to another, both included. -/
def between (first last : Char) : CodeSet :=
  ⟨withoutSurrogates (first.toNat, last.toNat + 1)⟩

/-- One character. -/
def singleton (char : Char) : CodeSet :=
  ⟨[(char.toNat, char.toNat + 1)]⟩

/-- Every character. -/
def whole : CodeSet :=
  ⟨withoutSurrogates (0, codeStop)⟩

/-- The ASCII characters. -/
def ascii : CodeSet :=
  ⟨[(0, 128)]⟩

/-- Ranges with one range more, which takes in all those that it touches. -/
def insertRange (start stop : Nat) : List (Nat × Nat) → List (Nat × Nat)
  | [] => [(start, stop)]
  | (first, last) :: rest =>
      if stop < first then (start, stop) :: (first, last) :: rest
      else if last < start then (first, last) :: insertRange start stop rest
      else insertRange (min start first) (max stop last) rest

/-- The characters of either set. -/
def union (left right : CodeSet) : CodeSet :=
  ⟨right.ranges.foldr (fun range ranges => insertRange range.1 range.2 ranges) left.ranges⟩

/-- The set with one character more. -/
def insert (char : Char) (set : CodeSet) : CodeSet :=
  ⟨insertRange char.toNat (char.toNat + 1) set.ranges⟩

/-- What lies between the ranges from `position` on. -/
def gapsFrom (position : Nat) : List (Nat × Nat) → List (Nat × Nat)
  | [] => [(position, codeStop)]
  | (start, stop) :: rest => (position, start) :: gapsFrom stop rest

/-- The characters outside a set. -/
def complement (set : CodeSet) : CodeSet :=
  ⟨(gapsFrom 0 set.ranges).flatMap withoutSurrogates⟩

/-- The characters of both sets. -/
def inter (left right : CodeSet) : CodeSet :=
  (left.complement.union right.complement).complement

/-- The characters of the left set outside the right one. -/
def difference (left right : CodeSet) : CodeSet :=
  (left.complement.union right).complement

/-- The characters of exactly one of the sets. -/
def symmetricDifference (left right : CodeSet) : CodeSet :=
  (left.difference right).union (right.difference left)

/-- The code point of the only character of a set, if there is exactly one. -/
def only? (set : CodeSet) : Option Nat :=
  match set.ranges with
  | [(start, stop)] => if start + 1 = stop then some start else none
  | _ => none

/-- Whether all characters of a set are ASCII. -/
def isAscii (set : CodeSet) : Bool :=
  set.ranges.all fun range => range.2 ≤ 128

end CodeSet

/-- A set of characters under the names that it goes by. -/
structure NamedSet where
  /-- The names, in lower case and without separators. -/
  names : List String
  /-- The characters, as gaps and lengths. -/
  gaps : List String

/-- The characters of a named set. -/
def NamedSet.set (named : NamedSet) : CodeSet :=
  CodeSet.ofGaps named.gaps

/-- The set of a name, the name written in lower case without separators. -/
def setNamed? (name : String) (sets : List NamedSet) : Option CodeSet :=
  (sets.find? fun named => named.names.contains name).map NamedSet.set

end Unicode
end Collocation
