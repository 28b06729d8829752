import Collocation.Pattern.Error
import Collocation.Pattern.Reader

/-!
# Patterns with their constraints

A draft has the tests of a written pattern turned into constraints and its bounds into numbers.  Labels,
parts of speech and the sizes of bounds are still unchecked.
-/

namespace Collocation
namespace Draft

/-- A slot with its constraint. -/
structure Slot where
  /-- Its label. -/
  label : Option String
  /-- What its token has to satisfy. -/
  constraint : Constraint
  /-- Its text, for messages. -/
  clause : String

/-- Bounds on the number of tokens between two slots. -/
structure Gap where
  /-- The lower bound. -/
  least : Int
  /-- The upper bound. -/
  most : Int
  /-- Their text, for messages. -/
  clause : String
  deriving DecidableEq, Repr

end Draft

/-- A pattern whose labels, parts of speech and bounds are unchecked. -/
structure Draft where
  /-- The first slot. -/
  first : Draft.Slot
  /-- The further slots, each with the bounds in front of it. -/
  rest : List (Option Draft.Gap × Draft.Slot)
  /-- The agreement rules. -/
  agreements : List Written.Agreement

namespace Draft

/-- The slots in order. -/
def slots (draft : Draft) : List Slot :=
  draft.first :: draft.rest.map Prod.snd

/-- The bounds between neighbouring slots. -/
def gaps (draft : Draft) : List (Option Gap) :=
  draft.rest.map Prod.fst

/-- The comparison that a value asks for. -/
def textTest (test : Written.Test) : Except PatternError TextTest :=
  match test.value with
  | .literal text => .ok (.literal text)
  | .regex source =>
      match Regex.ofSource? source with
      | some regex => .ok (.regex regex)
      | none => .error (.invalidRegex test.clause)

/-- The constraint of an attribute and a comparison; `clause` is the text of the slot. -/
def attributeTest (clause : String) (test : Written.Test) (comparison : TextTest) :
    Except PatternError Constraint :=
  match test.subject with
  | .feature key => .ok (.feature key comparison)
  | .plain "lemma" => .ok (.base comparison)
  | .plain "form" => .ok (.form comparison)
  | .plain "word" => .ok (.form comparison)
  | .plain name =>
      if name = "pos" ∨ name = "tag" then
        match comparison with
        | .literal tag => .ok (.tag tag)
        | .regex _ => .error (.regexTag test.clause)
      else .error (.unknownAttribute name clause)

/-- The constraint of a single test.  A bad regular expression is noticed before a bad attribute. -/
def constraintOfTest (clause : String) (test : Written.Test) : Except PatternError Constraint := do
  let comparison ← textTest test
  let constraint ← attributeTest clause test comparison
  return if test.negated then .not constraint else constraint

mutual

/-- The constraint of a condition; the first bad test is the error. -/
def constraintOf (clause : String) : Written.Condition → Except PatternError Constraint
  | .test test => constraintOfTest clause test
  | .all parts => (constraintsOf clause parts).map .all
  | .oneOf parts => (constraintsOf clause parts).map .oneOf
  | .not inner => (constraintOf clause inner).map .not

/-- The constraints of some conditions. -/
def constraintsOf (clause : String) : List Written.Condition → Except PatternError (List Constraint)
  | [] => .ok []
  | part :: parts => do
      let constraint ← constraintOf clause part
      let constraints ← constraintsOf clause parts
      return constraint :: constraints

end

/-- A slot with the constraint of its condition; no condition lets every token pass. -/
def Slot.ofWritten (slot : Written.Slot) : Except PatternError Slot :=
  match slot.condition with
  | none => .ok ⟨slot.label, .any, slot.clause⟩
  | some condition => do
      let constraint ← constraintOf slot.clause condition
      return ⟨slot.label, constraint, slot.clause⟩

/-- The numbers of written bounds, each of 64 bits. -/
def Gap.ofWritten (bounds : Written.Bounds) : Except PatternError Gap :=
  match Text.signed? bounds.least, Text.signed? bounds.most with
  | some least, some most => .ok ⟨least, most, bounds.clause⟩
  | _, _ => .error (.malformedBounds bounds.clause)

/-- Slots with the bounds in front of them; the first fault from left to right is the error. -/
def stepsOfWritten :
    List (Option Written.Bounds × Written.Slot) → Except PatternError (List (Option Gap × Slot))
  | [] => .ok []
  | (bounds, slot) :: rest => do
      let gap ← match bounds with
        | none => pure none
        | some bounds => some <$> Gap.ofWritten bounds
      let slot ← Slot.ofWritten slot
      let rest ← stepsOfWritten rest
      return (gap, slot) :: rest

/-- The draft of a written pattern. -/
def ofWritten (pattern : Written.Pattern) : Except PatternError Draft := do
  let first ← Slot.ofWritten pattern.first
  let rest ← stepsOfWritten pattern.rest
  return ⟨first, rest, pattern.agreements⟩

/-- The draft of the text of a pattern. -/
def ofText (source : String) : Except PatternError Draft :=
  match Written.Pattern.ofText? source.toList with
  | none => .error .malformed
  | some pattern => ofWritten pattern

end Draft
end Collocation
