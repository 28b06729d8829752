import Collocation.Regex.Assembly
import Collocation.Regex.ByteRanges

/-!
# Expressions in simplest form

An automaton is not built from an expression as it is written but from its outline, in which
neighbouring characters are one literal, a choice between characters is one set, and parts that a choice
has in common at the start of every alternative stand before it.  The functions `Outline.ofSet`,
`ofRounds`, `ofSequence` and `ofChoice` build outlines and keep them simple.
-/

namespace Collocation
namespace Regex

open Unicode

/-- An expression in simplest form. -/
inductive Outline where
  /-- The empty stretch. -/
  | empty
  /-- The bytes of some characters. -/
  | literal (bytes : List Nat)
  /-- One character of a set, which never has exactly one member. -/
  | oneOf (set : CodeSet)
  /-- The empty stretch where a condition holds. -/
  | look (condition : Look)
  /-- A number of rounds, without an upper bound if `most` is absent. -/
  | rounds (body : Outline) (least : Nat) (most : Option Nat) (lazy : Bool)
  /-- A part whose stretch is remembered. -/
  | group (body : Outline)
  /-- Two or more parts one after another. -/
  | sequence (parts : List Outline)
  /-- A choice between two or more parts. -/
  | choice (parts : List Outline)

namespace Outline

/-! ## Lengths -/

mutual

/-- The number of bytes of the shortest match; none if a part never matches. -/
def minLength : Outline → Option Nat
  | empty => some 0
  | literal bytes => some bytes.length
  | oneOf set => set.ranges.head?.map fun range => encodedLength range.1
  | look _ => some 0
  | rounds body least _ _ => body.minLength.map (· * least)
  | group body => body.minLength
  | sequence parts => (minLengths parts).map fun lengths => lengths.foldl (· + ·) 0
  | choice parts => (minLengths parts).bind List.min?

/-- The shortest lengths of some parts, if all have one. -/
def minLengths : List Outline → Option (List Nat)
  | [] => some []
  | part :: parts => do
      let length ← part.minLength
      let lengths ← minLengths parts
      some (length :: lengths)

end

mutual

/-- The number of bytes of the longest match; none if there is no bound or a part never matches. -/
def maxLength : Outline → Option Nat
  | empty => some 0
  | literal bytes => some bytes.length
  | oneOf set => set.ranges.getLast?.map fun range => encodedLength (range.2 - 1)
  | look _ => some 0
  | rounds body _ most _ => do
      let count ← most
      let length ← body.maxLength
      some (length * count)
  | group body => body.maxLength
  | sequence parts => (maxLengths parts).map fun lengths => lengths.foldl (· + ·) 0
  | choice parts => (maxLengths parts).bind List.max?

/-- The longest lengths of some parts, if all have one. -/
def maxLengths : List Outline → Option (List Nat)
  | [] => some []
  | part :: parts => do
      let length ← part.maxLength
      let lengths ← maxLengths parts
      some (length :: lengths)

end

/-! ## Ends of the text -/

mutual

/-- Whether every match begins at the start of the text, as far as the form shows it. -/
def isStartBound : Outline → Bool
  | look condition => condition = .textStart
  | rounds body least _ _ => 0 < least && body.isStartBound
  | group body => body.isStartBound
  | sequence parts => isStartBoundBefore parts
  | choice parts => isStartBoundAll parts
  | _ => false

/-- Whether one of some parts is bound to the start, before or at the first that consumes. -/
def isStartBoundBefore : List Outline → Bool
  | [] => false
  | part :: parts => part.isStartBound || (part.maxLength = some 0 && isStartBoundBefore parts)

/-- Whether all of some parts are bound to the start. -/
def isStartBoundAll : List Outline → Bool
  | [] => true
  | part :: parts => part.isStartBound && isStartBoundAll parts

end

mutual

/-- Whether every match stops at the end of the text, as far as the form shows it. -/
def isEndBound : Outline → Bool
  | look condition => condition = .textEnd
  | rounds body least _ _ => 0 < least && body.isEndBound
  | group body => body.isEndBound
  | sequence parts => (isEndBoundBehind parts).1
  | choice parts => isEndBoundAll parts
  | _ => false

/-- Whether one of some parts is bound to the end, behind or at the last that consumes, and whether
none of them consumes. -/
def isEndBoundBehind : List Outline → Bool × Bool
  | [] => (false, true)
  | part :: parts =>
      let behind := isEndBoundBehind parts
      (behind.1 || (behind.2 && part.isEndBound), behind.2 && part.maxLength = some 0)

/-- Whether all of some parts are bound to the end. -/
def isEndBoundAll : List Outline → Bool
  | [] => true
  | part :: parts => part.isEndBound && isEndBoundAll parts

end

/-! ## Equal parts -/

mutual

/-- Whether two parts are the same.  No two groups are, as each of them remembers a stretch of its
own. -/
def same : Outline → Outline → Bool
  | empty, empty => true
  | literal left, literal right => left = right
  | oneOf left, oneOf right => left = right
  | look left, look right => left = right
  | rounds left least most lazy, rounds right least' most' lazy' =>
      least = least' && most = most' && lazy = lazy' && left.same right
  | sequence left, sequence right => sameAll left right
  | choice left, choice right => sameAll left right
  | _, _ => false

/-- Whether two lists of parts are the same. -/
def sameAll : List Outline → List Outline → Bool
  | [], [] => true
  | left :: lefts, right :: rights => left.same right && sameAll lefts rights
  | _, _ => false

end

/-- How many parts two lists have in common at their start. -/
def commonLength : List Outline → List Outline → Nat
  | left :: lefts, right :: rights => if left.same right then commonLength lefts rights + 1 else 0
  | _, _ => 0

/-! ## Building outlines -/

/-- One character of a set; a set with one member is a literal. -/
def ofSet (set : CodeSet) : Outline :=
  match set.only? with
  | some code => literal (encoded code)
  | none => oneOf set

/-- A number of rounds.  Of a part that consumes nothing one round is as good as many. -/
def ofRounds (body : Outline) (least : Nat) (most : Option Nat) (lazy : Bool) : Outline :=
  let (least, most) :=
    if body.maxLength = some 0 then (min least 1, some (min (most.getD 1) 1)) else (least, most)
  if least = 0 ∧ most = some 0 then empty
  else if least = 1 ∧ most = some 1 then body
  else rounds body least most lazy

/-- The parts of a sequence; anything else is a single part, and nothing is none. -/
def parts : Outline → List Outline
  | empty => []
  | sequence parts => parts
  | part => [part]

/-- Put a part before others, neighbouring literals joined. -/
def joinLiteral : Outline → List Outline → List Outline
  | literal left, literal right :: rest => literal (left ++ right) :: rest
  | part, rest => part :: rest

/-- Parts one after another. -/
def ofSequence (outlines : List Outline) : Outline :=
  match (outlines.flatMap parts).foldr joinLiteral [] with
  | [] => empty
  | [part] => part
  | parts => sequence parts

/-- The alternatives of a choice; anything else is a single alternative. -/
def alternatives : Outline → List Outline
  | choice parts => parts
  | part => [part]

/-- The character of a literal that has only one. -/
def char? : Outline → Option CodeSet
  | literal bytes => (decoded? bytes).map fun code => ⟨[(code, code + 1)]⟩
  | _ => none

/-- The characters of a part that is a set. -/
def set? : Outline → Option CodeSet
  | oneOf set => some set
  | _ => none

/-- The parts of a sequence proper. -/
def sequence? : Outline → Option (List Outline)
  | sequence parts => some parts
  | _ => none

/-- The union of some sets. -/
def unionOf (sets : List CodeSet) : CodeSet :=
  sets.foldl CodeSet.union .empty

/-- The number of parts that all of some sequences have in common at their start. -/
def commonLengthOf : List (List Outline) → Nat
  | [] => 0
  | first :: others => others.foldl (fun length other => min length (commonLength first other)) first.length

/-- A choice between parts.  What all alternatives begin with is put before the choice; this makes
them shorter, so that the nesting of the parts is fuel enough. -/
def ofAlternatives : Nat → List Outline → Outline
  | fuel, outlines =>
      match outlines.flatMap alternatives with
      | [] => oneOf .empty
      | [part] => part
      | parts =>
          match parts.mapM char? <|> parts.mapM set?, fuel, parts.mapM sequence? with
          | some sets, _, _ => ofSet (unionOf sets)
          | none, fuel + 1, some sequences =>
              let count := commonLengthOf sequences
              if count = 0 then choice parts
              else
                let rests := sequences.map fun parts => ofSequence (parts.drop count)
                ofSequence ((sequences.headD []).take count ++ [ofAlternatives fuel rests])
          | none, _, _ => choice parts

mutual

/-- How deep the parts are nested. -/
def depth : Outline → Nat
  | rounds body _ _ _ => body.depth + 1
  | group body => body.depth + 1
  | sequence parts => depthOfAll parts + 1
  | choice parts => depthOfAll parts + 1
  | _ => 0

/-- The greatest depth among some parts. -/
def depthOfAll : List Outline → Nat
  | [] => 0
  | part :: parts => max part.depth (depthOfAll parts)

end

/-- A choice between parts. -/
def ofChoice (outlines : List Outline) : Outline :=
  ofAlternatives (depthOfAll outlines + 1) outlines

/-- How an outline is built from the parts of an expression. -/
def assembly : Assembly Outline where
  empty := empty
  one := ofSet
  look := look
  sequence := ofSequence
  choice := ofChoice
  group := group
  rounds := ofRounds

end Outline

end Regex
end Collocation
