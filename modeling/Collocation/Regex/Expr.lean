import Collocation.Regex.ClassSet

/-!
# What an expression matches

An expression with its switches resolved matches a stretch of a text, given by the positions where it
starts and ends.  `Matches` is the relation; `Expr.ends` computes every end for a start.
-/

namespace Collocation
namespace Regex

open Unicode

/-- A condition on whether word characters stand before and after a position. -/
inductive WordEdge where
  /-- On one side only. -/
  | boundary
  /-- On both sides or on neither. -/
  | noBoundary
  /-- After the position and not before it. -/
  | start
  /-- Before the position and not after it. -/
  | stop
  /-- Not before the position. -/
  | halfStart
  /-- Not after the position. -/
  | halfStop
  deriving DecidableEq, Repr

/-- Whether the condition holds, given whether word characters stand before and after. -/
def WordEdge.holds (before after : Bool) : WordEdge → Bool
  | boundary => before != after
  | noBoundary => before == after
  | start => !before && after
  | stop => before && !after
  | halfStart => !before
  | halfStop => !after

/-- A condition on a position of a text. -/
inductive Look where
  /-- The start of the text. -/
  | textStart
  /-- The end of the text. -/
  | textEnd
  /-- The start of a line; the flag says whether a carriage return ends a line too. -/
  | lineStart (carriage : Bool)
  /-- The end of a line; the flag says whether a carriage return ends a line too. -/
  | lineEnd (carriage : Bool)
  /-- Word characters about the position as asked for; the flag says whether these go by Unicode. -/
  | word (unicode : Bool) (edge : WordEdge)
  deriving DecidableEq, Repr

/-- An expression with its switches resolved. -/
inductive Expr where
  /-- The empty stretch. -/
  | empty
  /-- One character of a set. -/
  | one (set : CodeSet)
  /-- The empty stretch where a condition holds. -/
  | look (condition : Look)
  /-- One expression and then another. -/
  | seq (first second : Expr)
  /-- Either expression. -/
  | alt (left right : Expr)
  /-- A number of rounds, without an upper bound if `most` is absent. -/
  | rounds (body : Expr) (least : Nat) (most : Option Nat)

namespace Look

/-- The character before a position. -/
def before (text : Array Char) : Nat → Option Char
  | 0 => none
  | position + 1 => text[position]?

/-- Whether there is a word character. -/
def isWord (unicode : Bool) (char : Option Char) : Bool :=
  char.any (Shorthand.word.set unicode).contains

/-- Whether the condition holds at a position. -/
def holds (text : Array Char) (position : Nat) : Look → Bool
  | textStart => position == 0
  | textEnd => position == text.size
  | lineStart false => position == 0 || before text position == some '\n'
  | lineStart true =>
      position == 0 || before text position == some '\n' ||
        (before text position == some '\r' && text[position]? != some '\n')
  | lineEnd false => position == text.size || text[position]? == some '\n'
  | lineEnd true =>
      position == text.size || text[position]? == some '\r' ||
        (text[position]? == some '\n' && before text position != some '\r')
  | word unicode edge =>
      edge.holds (isWord unicode (before text position)) (isWord unicode text[position]?)

end Look

mutual

/-- An expression matches the stretch of a text between two positions. -/
inductive Matches (text : Array Char) : Expr → Nat → Nat → Prop where
  | empty (position : Nat) : Matches text .empty position position
  | one {set : CodeSet} {position : Nat} {char : Char} (found : text[position]? = some char)
      (member : set.contains char) : Matches text (.one set) position (position + 1)
  | look {condition : Look} {position : Nat} (holds : condition.holds text position) :
      Matches text (.look condition) position position
  | seq {first second : Expr} {start middle stop : Nat} (early : Matches text first start middle)
      (late : Matches text second middle stop) : Matches text (.seq first second) start stop
  | left {left right : Expr} {start stop : Nat} (inner : Matches text left start stop) :
      Matches text (.alt left right) start stop
  | right {left right : Expr} {start stop : Nat} (inner : Matches text right start stop) :
      Matches text (.alt left right) start stop
  | rounds {body : Expr} {least : Nat} {most : Option Nat} {count start stop : Nat}
      (enough : least ≤ count) (within : ∀ bound ∈ most, count ≤ bound)
      (inner : Repeats text body count start stop) :
      Matches text (.rounds body least most) start stop

/-- An expression matches a number of stretches in a row. -/
inductive Repeats (text : Array Char) : Expr → Nat → Nat → Nat → Prop where
  | none (body : Expr) (position : Nat) : Repeats text body 0 position position
  | more {body : Expr} {count start middle stop : Nat} (early : Matches text body start middle)
      (late : Repeats text body count middle stop) : Repeats text body (count + 1) start stop

end

/-! ## Sets of positions

A set of positions is the number whose bits are set there. -/

/-- The positions below a bound that satisfy a test. -/
def positionsBelow (test : Nat → Bool) : Nat → Nat
  | 0 => 0
  | bound + 1 =>
      if test bound then 1 <<< bound ||| positionsBelow test bound else positionsBelow test bound

/-- A step taken an exact number of times; once it leads nowhere else, it never will. -/
def stepTimes (step : Nat → Nat) : Nat → Nat → Nat
  | 0, positions => positions
  | count + 1, positions =>
      let reached := step positions
      if reached = positions then positions else stepTimes step count reached

/-- A step taken at most a number of times; once it reaches nothing new, it never will. -/
def stepUpTo (step : Nat → Nat) : Nat → Nat → Nat
  | 0, positions => positions
  | count + 1, positions =>
      let reached := positions ||| step positions
      if reached = positions then positions else stepUpTo step count reached

namespace Expr

/-- The ends of all matches that start at one of some positions.  Without an upper bound no more
rounds are needed than the text has characters, as a round that consumes nothing reaches nothing
new. -/
def advance (text : Array Char) : Expr → Nat → Nat
  | empty, starts => starts
  | one set, starts =>
      positionsBelow (fun position => starts.testBit position && text[position]?.any set.contains)
        text.size <<< 1
  | look condition, starts =>
      positionsBelow (fun position => starts.testBit position && condition.holds text position)
        (text.size + 1)
  | seq first second, starts => second.advance text (first.advance text starts)
  | alt left right, starts => left.advance text starts ||| right.advance text starts
  | rounds body least most, starts =>
      let further := (most.map (· - least)).getD text.size
      stepUpTo (body.advance text) further (stepTimes (body.advance text) least starts)

/-- Whether the expression matches some stretch of a text. -/
def matchesWithin (expr : Expr) (text : Array Char) : Bool :=
  expr.advance text ((1 <<< (text.size + 1)) - 1) != 0

end Expr

end Regex
end Collocation
