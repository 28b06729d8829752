import Collocation.Regex.Outline
import Std.Data.HashMap

/-!
# The size of an automaton

A regular expression is run by two automata, one that reads a text forwards and one that reads it
backwards.  Neither is built here; `Outline.extent?` counts the states of one and the bytes they take,
and gives up as soon as these exceed the limit.  `Outline.fits` says that both automata keep to it.

A state takes a fixed number of bytes; a state that picks its successor by the byte read takes more
for every range of bytes, and one with several successors more for every successor.  A set beyond ASCII
is read byte by byte.  States that lead the same way are shared as far as a table of bounded size
remembers them; a state in the same place of the table replaces an earlier one.
-/

namespace Collocation
namespace Regex

open Unicode

/-- The direction in which an automaton reads. -/
inductive Direction where
  | forward | backward
  deriving DecidableEq, Repr

/-- How far an automaton has been counted. -/
structure Extent where
  /-- The number of states. -/
  states : Nat
  /-- The number of bytes beside those that every state takes. -/
  extra : Nat
  deriving DecidableEq, Repr

/-- The bytes of every state. -/
def stateSize : Nat :=
  32

/-- The further bytes for each range of bytes that a state tells apart. -/
def transitionSize : Nat :=
  8

/-- The further bytes for each successor of a state that has several. -/
def branchSize : Nat :=
  4

/-- The most bytes that an automaton may take. -/
def sizeLimit : Nat :=
  10 * 1024 * 1024

/-- More states and bytes, unless they exceed the limit. -/
def Extent.grow? (extent : Extent) (states extra : Nat) : Option Extent :=
  let grown : Extent := ⟨extent.states + states, extent.extra + extra⟩
  if grown.states * stateSize + grown.extra ≤ sizeLimit then some grown else none

/-! ## Sets beyond ASCII -/

/-- A number that tells lists of numbers apart, mostly. -/
def fingerprint (numbers : List Nat) : UInt64 :=
  numbers.foldl (fun print number => (print ^^^ number.toUInt64) * 0x100000001B3) 0xCBF29CE484222325

/-- The states of a set so far.  Equal descriptions share a state as long as the table remembers them. -/
structure Sharing where
  /-- The number of the next state. -/
  next : Nat
  /-- Bytes beside those that every state takes. -/
  extra : Nat
  /-- The number of places in the table. -/
  places : Nat
  /-- What stands in each place: a description and the number of its state. -/
  table : Std.HashMap Nat (List Nat × Nat)

/-- The state of a description, found in the table or added. -/
def Sharing.state (sharing : Sharing) (description : List Nat) (extra : Nat) : Sharing × Nat :=
  let place := (fingerprint description).toNat % sharing.places
  let known := (sharing.table[place]?).bind fun entry =>
    if entry.1 = description then some entry.2 else none
  match known with
  | some number => (sharing, number)
  | none =>
      ({ sharing with
          next := sharing.next + 1
          extra := sharing.extra + extra
          table := sharing.table.insert place (description, sharing.next) },
        sharing.next)

/-- Give some sequences the states that read them, all of them leading to one last state.  Sequences in
a row that begin alike share that beginning.  No encoding is longer than the fuel at the start. -/
def Sharing.readAll (target : Nat) :
    Nat → List (List ByteRange) → Sharing → Sharing × Nat
  | 0, _, sharing => (sharing, target)
  | fuel + 1, sequences, sharing =>
      let groups := sequences.splitBy fun left right => left.head? == right.head?
      let (sharing, description) := groups.foldl (fun (found : Sharing × List Nat) group =>
        let (sharing, description) := found
        let tails := group.map List.tail
        let (sharing, next) :=
          if tails.all List.isEmpty then (sharing, target) else readAll target fuel tails sharing
        match group.head?.bind List.head? with
        | some (low, high) => (sharing, next :: high :: low :: description)
        | none => (sharing, description)) (sharing, [])
      sharing.state description.reverse (transitionSize * groups.length)

/-- Give a sequence the states that read it from its last byte back to its first, which leads to
`target`.  The result is the state of the last byte. -/
def Sharing.readBack (target : Nat) (sequence : List ByteRange) (sharing : Sharing) :
    Sharing × Nat :=
  sequence.foldl (fun (found : Sharing × Nat) range =>
    found.1.state [found.2, range.1, range.2] 0) (sharing, target)

/-- The places of the table for reading forwards. -/
def forwardPlaces : Nat :=
  10000

/-- The places of the table for reading backwards. -/
def backwardPlaces : Nat :=
  1000

/-- The states that read a character of a set.  An ASCII set takes a state and its successor. -/
def setExtent? (direction : Direction) (set : CodeSet) (extent : Extent) : Option Extent :=
  if set.isAscii then extent.grow? 2 (transitionSize * set.ranges.length)
  else
    match direction with
    | .forward =>
        let target := extent.states
        let start : Sharing := ⟨target + 1, 0, forwardPlaces, ∅⟩
        let (sharing, _) := start.readAll target 4 (setSequences set)
        extent.grow? (sharing.next - target) sharing.extra
    | .backward =>
        let sequences := setSequences set
        let target := extent.states + 1
        let start : Sharing := ⟨target + 1, 0, backwardPlaces, ∅⟩
        let sharing := sequences.foldl (fun sharing sequence =>
          (sharing.readBack target sequence).1) start
        extent.grow? (sharing.next - extent.states) (branchSize * sequences.length)

/-! ## Choices between literals -/

/-- The parts of a list between empty words.  Empty words at the start count as one. -/
def splitAtEmpty : Bool → List (List Nat) → List (List (List Nat))
  | _, [] => [[]]
  | started, [] :: words =>
      if started then [] :: splitAtEmpty true words
      else [] :: splitAtEmpty true (words.dropWhile List.isEmpty)
  | _, word :: words =>
      match splitAtEmpty true words with
      | [] => [[word]]
      | part :: parts => (word :: part) :: parts
termination_by _ words => words.length
decreasing_by
  all_goals simp_wf
  have := (List.dropWhile_sublist (List.isEmpty (α := Nat)) (l := words)).length_le
  omega

/-- Put a word before those that begin with the same byte. -/
def addByHead (byte : Nat) (tail : List Nat) :
    List (Nat × List (List Nat)) → List (Nat × List (List Nat))
  | [] => [(byte, [tail])]
  | (head, tails) :: rest =>
      if byte = head then (head, tail :: tails) :: rest
      else (head, tails) :: addByHead byte tail rest

/-- Words by their first byte, those with the same one in their order. -/
def byHead (words : List (List Nat)) : List (Nat × List (List Nat)) :=
  words.foldr (fun word groups =>
    match word with
    | [] => groups
    | byte :: tail => addByHead byte tail groups) []

/-- States and further bytes of a tree that reads words in the order of a choice.  A word that ends
where others go on splits those behind it from those before it.  No word is longer than the fuel. -/
def wordTree : Nat → List (List Nat) → Extent
  | 0, _ => ⟨0, 0⟩
  | fuel + 1, words =>
      let parts := splitAtEmpty false words
      let filled := parts.filter fun part => !part.isEmpty
      let successors := filled.length + (parts.length - 1)
      filled.foldl (fun extent part =>
        let groups := byHead part
        let extra := if groups.length = 1 then 0 else transitionSize * groups.length
        groups.foldl (fun extent group =>
          if group.2.all List.isEmpty then extent
          else
            let inner := wordTree fuel group.2
            ⟨extent.states + inner.states, extent.extra + inner.extra⟩)
          ⟨extent.states + 1, extent.extra + extra⟩)
        ⟨1, branchSize * successors⟩

/-! ## Whole outlines -/

/-- What has been counted, and whether the last state may have several successors, so that one more
takes further bytes. -/
abbrev Fragment :=
  Extent × Bool

/-- Lead the last state of a fragment on to another. -/
def Fragment.link? (fragment : Fragment) : Option Extent :=
  if fragment.2 then fragment.1.grow? 0 branchSize else some fragment.1

/-- The bytes of a literal. -/
def Outline.literal? : Outline → Option (List Nat)
  | literal bytes => some bytes
  | _ => none

/-- A number of further rounds, one behind another. -/
def roundsBehind? (round : Extent → Option Fragment) : Nat → Fragment → Option Fragment
  | 0, fragment => some fragment
  | count + 1, fragment =>
      match fragment.link?.bind round with
      | none => none
      | some fragment => roundsBehind? round count fragment

/-- An exact number of rounds. -/
def roundsExactly? (round : Extent → Option Fragment) : Nat → Extent → Option Fragment
  | 0, extent => (extent.grow? 1 0).map (·, false)
  | count + 1, extent => (round extent).bind (roundsBehind? round count)

/-- A number of rounds that may each be the last. -/
def roundsUpTo? (round : Extent → Option Fragment) : Nat → Fragment → Option Fragment
  | 0, fragment => some fragment
  | count + 1, fragment =>
      match fragment.link?.bind fun extent => (extent.grow? 1 (2 * branchSize)).bind round with
      | none => none
      | some fragment => roundsUpTo? round count fragment

/-- Rounds without an upper bound.  `consumes` says that a round never stays in place. -/
def roundsFrom? (round : Extent → Option Fragment) (consumes : Bool) :
    Nat → Extent → Option Fragment
  | 0, extent =>
      if consumes then do
        let fragment ← (extent.grow? 1 branchSize).bind round
        some (← fragment.link?, true)
      else do
        let fragment ← round extent
        let extent ← fragment.link?
        some (← extent.grow? 3 (4 * branchSize), false)
  | 1, extent => do
      let fragment ← round extent
      let extent ← fragment.link?
      some (← extent.grow? 1 branchSize, true)
  | least + 2, extent => do
      let fragment ← roundsExactly? round (least + 1) extent
      let extent ← fragment.link?
      let fragment ← round extent
      let extent ← fragment.link?
      some (← extent.grow? 1 branchSize, true)

/-- Rounds with both bounds. -/
def roundsBetween? (round : Extent → Option Fragment) (least most : Nat) (extent : Extent) :
    Option Fragment :=
  if least = 0 ∧ most = 1 then do
    let fragment ← (extent.grow? 1 (2 * branchSize)).bind round
    let extent ← fragment.link?
    some (← extent.grow? 1 0, false)
  else if least = most then roundsExactly? round least extent
  else do
    let (extent, last) ← roundsExactly? round least extent
    let extent ← extent.grow? 1 0
    let fragment ← roundsUpTo? round (most - least) (extent, last)
    some (← fragment.link?, false)

mutual

/-- The states of an outline, added to those before it. -/
def Outline.extend? (direction : Direction) : Outline → Extent → Option Fragment
  | .empty, extent => (extent.grow? 1 0).map (·, false)
  | .literal bytes, extent => (extent.grow? bytes.length 0).map (·, false)
  | .oneOf set, extent => (setExtent? direction set extent).map (·, false)
  | .look _, extent => (extent.grow? 1 0).map (·, false)
  | .rounds body least most _, extent =>
      let round := fun extent => body.extend? direction extent
      match most with
      | none => roundsFrom? round (body.minLength.any (0 < ·)) least extent
      | some most => roundsBetween? round least most extent
  | .group body, extent =>
      match direction with
      | .forward => do
          let extent ← extent.grow? 1 0
          let fragment ← body.extend? direction extent
          let extent ← fragment.link?
          some (← extent.grow? 1 0, false)
      | .backward => body.extend? direction extent
  | .sequence parts, extent =>
      match direction with
      | .forward => Outline.extendEach? direction parts (extent, false)
      | .backward => Outline.extendBack? direction parts (extent, false)
  | .choice parts, extent =>
      match parts.mapM Outline.literal? with
      | some words =>
          let words := if direction = .forward then words else words.map List.reverse
          let tree := wordTree ((words.map List.length).foldl max 0 + 1) words
          (extent.grow? (tree.states + 1) tree.extra).map (·, false)
      | none => (Outline.extendAny? direction 0 parts extent).map (·, false)

/-- The states of parts one after another, behind a fragment. -/
def Outline.extendEach? (direction : Direction) : List Outline → Fragment → Option Fragment
  | [], fragment => some fragment
  | part :: parts, fragment => do
      let extent ← fragment.link?
      let fragment ← part.extend? direction extent
      Outline.extendEach? direction parts fragment

/-- The states of parts one after another, the last of them first. -/
def Outline.extendBack? (direction : Direction) : List Outline → Fragment → Option Fragment
  | [], fragment => some fragment
  | part :: parts, fragment => do
      let fragment ← Outline.extendBack? direction parts fragment
      let extent ← fragment.link?
      part.extend? direction extent

/-- The states of the alternatives of a choice, `done` of them counted already.  The states where the
choice begins and ends are counted behind the second. -/
def Outline.extendAny? (direction : Direction) (done : Nat) :
    List Outline → Extent → Option Extent
  | [], extent => some extent
  | part :: parts, extent => do
      let fragment ← part.extend? direction extent
      let extent ← fragment.link?
      let extent ← extent.grow? (if done = 1 then 2 else 0) branchSize
      Outline.extendAny? direction (done + 1) parts extent

end

/-- Whether every match is bound to the side of the text where an automaton begins to read. -/
def Outline.isBound (outline : Outline) : Direction → Bool
  | .forward => outline.isStartBound
  | .backward => outline.isEndBound

/-- The whole automaton of an outline.  Unless it is bound to a side it can begin anywhere, which takes
two more states.  Reading forwards it remembers the whole match, in two states more. -/
def Outline.extent? (direction : Direction) (outline : Outline) : Option Extent := do
  let start : Extent := ⟨0, 0⟩
  let start ← if outline.isBound direction then start.grow? 1 0
    else start.grow? 3 (transitionSize + 2 * branchSize)
  let fragment ← (Outline.group outline).extend? direction start
  let extent ← fragment.link?
  extent.grow? 1 0

/-- Whether both automata of an outline keep to the limit. -/
def Outline.fits (outline : Outline) : Bool :=
  (outline.extent? .forward).isSome && (outline.extent? .backward).isSome

end Regex
end Collocation
