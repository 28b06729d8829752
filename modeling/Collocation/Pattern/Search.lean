import Collocation.Pattern.Basic

/-!
# Finding a pattern in a sentence

A match binds every slot to a position.  `Pattern.matchesIn` lists all matches from left to right;
`Pattern.Fits` says what a match is.
-/

namespace Collocation

/-- The positions that a pattern binds in a sentence. -/
structure Match where
  /-- The position of each slot. -/
  positions : List Nat
  /-- The position of the head. -/
  head : Nat
  /-- The position of the collocate. -/
  collocate : Nat
  deriving DecidableEq, Repr

/-- The position of the first slot. -/
def Match.anchor (found : Match) : Nat :=
  found.positions.headD 0

namespace Pattern

/-- The token at a position satisfies a slot. -/
def Slot.acceptsAt (slot : Slot) (tokens : List Token) (position : Nat) : Bool :=
  tokens[position]?.any fun token => slot.constraint.accepts token

/-- The positions in a sentence that a gap allows after a position. -/
def Gap.reach (gap : Gap) (length previous : Nat) : List Nat :=
  let start := previous + 1 + gap.least
  let stop := min (previous + 1 + gap.most + 1) length
  List.range' start (stop - start)

/-- All ways to bind slots after a position, in lexicographic order. -/
def bindings (tokens : List Token) : List (Gap × Slot) → Nat → List (List Nat)
  | [], _ => [[]]
  | (gap, slot) :: steps, previous =>
      ((gap.reach tokens.length previous).filter (slot.acceptsAt tokens)).flatMap fun position =>
        (bindings tokens steps position).map (position :: ·)

/-- All ways to bind all slots, in lexicographic order. -/
def allBindings (pattern : Pattern) (tokens : List Token) : List (List Nat) :=
  ((List.range tokens.length).filter (pattern.first.acceptsAt tokens)).flatMap fun position =>
    (bindings tokens pattern.rest position).map (position :: ·)

/-- The value of a feature of the token that a slot is bound to. -/
def featureAt? (tokens : List Token) (positions : List Nat) (slot : Nat) (key : String) :
    Option String := do
  let position ← positions[slot]?
  let token ← tokens[position]?
  token.features.get? key

/-- Both features are there and have the same value. -/
def Filter.holds (filter : Filter) (tokens : List Token) (positions : List Nat) : Bool :=
  match featureAt? tokens positions filter.leftSlot filter.leftFeature,
      featureAt? tokens positions filter.rightSlot filter.rightFeature with
  | some left, some right => left == right
  | _, _ => false

/-- The match that binds the slots to some positions. -/
def matchAt (pattern : Pattern) (positions : List Nat) : Match :=
  ⟨positions, positions.getD pattern.head 0, positions.getD pattern.collocate 0⟩

/-- All matches in a sequence of tokens, in lexicographic order of their positions.  A sequence shorter
than the span of the pattern is not searched. -/
def matchesIn (pattern : Pattern) (tokens : List Token) : List Match :=
  if tokens.length < pattern.minSpan.toNat then []
  else
    ((pattern.allBindings tokens).filter fun positions =>
      pattern.filters.all fun filter => filter.holds tokens positions).map pattern.matchAt

/-- Slots are bound to positions after a position, each as far on as its gap says. -/
inductive Bound (tokens : List Token) : List (Gap × Slot) → Nat → List Nat → Prop where
  | nil (previous : Nat) : Bound tokens [] previous []
  | cons {gap : Gap} {slot : Slot} {steps : List (Gap × Slot)} {previous position : Nat}
      {positions : List Nat} (least : previous + 1 + gap.least ≤ position)
      (most : position ≤ previous + 1 + gap.most) (accepts : slot.acceptsAt tokens position)
      (further : Bound tokens steps position positions) :
      Bound tokens ((gap, slot) :: steps) previous (position :: positions)

/-- The slots of a pattern are bound to positions of a sequence of tokens, and its rules hold. -/
structure Fits (pattern : Pattern) (tokens : List Token) (positions : List Nat) : Prop where
  /-- The first slot and the further ones are bound. -/
  bound : ∃ anchor others, positions = anchor :: others ∧
    pattern.first.acceptsAt tokens anchor ∧ Bound tokens pattern.rest anchor others
  /-- Every rule holds. -/
  agrees : ∀ filter ∈ pattern.filters, filter.holds tokens positions

end Pattern
end Collocation
