import Collocation.Pattern.Draft
import Collocation.Tagset

/-!
# Patterns

A pattern is a draft that passed every check: its labels are distinct, the head and the collocate have
their slots, every part of speech is known for the language, bounds are ordered and not negative, and
agreement rules speak of declared labels.  The checks run in this order and the first fault decides.  Then
the least number of tokens is added up, which a word of 64 bits has to hold.
-/

namespace Collocation

/-- The label of the head. -/
def headLabel : String := "1"

/-- The label of the collocate. -/
def collocateLabel : String := "2"

namespace Pattern

/-- A slot of a pattern. -/
structure Slot where
  /-- Its label. -/
  label : Option String
  /-- What its token has to satisfy. -/
  constraint : Constraint

/-- How many tokens may stand between two slots. -/
structure Gap where
  /-- The least number. -/
  least : Nat
  /-- The greatest number. -/
  most : Nat
  deriving DecidableEq, Repr

/-- Nothing between two slots. -/
def Gap.adjacent : Gap :=
  ⟨0, 0⟩

/-- A rule that the tokens of two slots agree in a feature. -/
structure Filter where
  /-- The place of the left slot in the sequence. -/
  leftSlot : Nat
  /-- The feature of its token. -/
  leftFeature : String
  /-- The place of the right slot in the sequence. -/
  rightSlot : Nat
  /-- The feature of its token. -/
  rightFeature : String
  deriving DecidableEq, Repr

end Pattern

/-- A pattern that can be searched for. -/
structure Pattern where
  /-- Its text. -/
  source : String
  /-- The language of its parts of speech. -/
  language : String
  /-- The first slot. -/
  first : Pattern.Slot
  /-- The further slots, each with the gap in front of it. -/
  rest : List (Pattern.Gap × Pattern.Slot)
  /-- The agreement rules. -/
  filters : List Pattern.Filter
  /-- The place of the head's slot. -/
  head : Nat
  /-- The place of the collocate's slot. -/
  collocate : Nat
  /-- The number of slots and the least numbers of all gaps, added up. -/
  minSpan : UInt64

namespace Pattern

/-- The slots in order. -/
def slots (pattern : Pattern) : List Slot :=
  pattern.first :: pattern.rest.map Prod.snd

/-- The gaps between neighbouring slots. -/
def gaps (pattern : Pattern) : List Gap :=
  pattern.rest.map Prod.fst

end Pattern

namespace Draft

/-- The place of the slot with a label. -/
def placeOf? (draft : Draft) (label : String) : Option Nat :=
  draft.slots.findIdx? fun slot => slot.label == some label

/-- The first slot whose label an earlier slot has. -/
def repeatedLabel? (seen : List String) : List Slot → Option PatternError
  | [] => none
  | slot :: slots =>
      match slot.label with
      | none => repeatedLabel? seen slots
      | some label =>
          if seen.contains label then some (.duplicateLabel label slot.clause)
          else repeatedLabel? (label :: seen) slots

/-- The first part of speech that is not known for a language. -/
def unknownTag? (tagsets : Tagsets) (language : String) : List Slot → Option PatternError
  | [] => none
  | slot :: slots =>
      match slot.constraint.tags.find? fun tag => !tagsets.isKnown language tag with
      | some tag => some (.unknownTag tag language slot.clause)
      | none => unknownTag? tagsets language slots

/-- Nothing, or the error that was found. -/
def refuse : Option PatternError → Except PatternError Unit
  | none => .ok ()
  | some error => .error error

/-- The place of a slot that every pattern has. -/
def requiredPlace (draft : Draft) (label : String) : Except PatternError Nat :=
  match draft.placeOf? label with
  | some place => .ok place
  | none => .error (.missingSlot label)

/-- The gap of checked bounds. -/
def checkedGap : Option Gap → Except PatternError Pattern.Gap
  | none => .ok .adjacent
  | some gap =>
      if gap.least < 0 ∨ gap.most < 0 then .error (.negativeBound gap.clause)
      else if gap.most < gap.least then .error (.invertedBounds gap.least gap.most gap.clause)
      else .ok ⟨gap.least.toNat, gap.most.toNat⟩

/-- The place of a slot that a rule speaks of. -/
def declaredPlace (draft : Draft) (clause label : String) : Except PatternError Nat :=
  match draft.placeOf? label with
  | some place => .ok place
  | none => .error (.undeclaredLabel label clause)

/-- The filter of an agreement rule. -/
def filterOf (draft : Draft) (rule : Written.Agreement) : Except PatternError Pattern.Filter := do
  let left ← draft.declaredPlace rule.clause rule.left.label
  let right ← draft.declaredPlace rule.clause rule.right.label
  return ⟨left, rule.left.feature, right, rule.right.feature⟩

/-- The least number of tokens that slots with gaps between them take. -/
def spanOf (gaps : List Pattern.Gap) : Nat :=
  gaps.foldr (fun gap span => gap.least + span) (gaps.length + 1)

/-- The sum is made of additions that are checked: one that a word does not hold stops the program. -/
def checkedSpan (gaps : List Pattern.Gap) : Except PatternError UInt64 :=
  if spanOf gaps < UInt64.size then .ok (UInt64.ofNat (spanOf gaps)) else .error .overflow

/-- Check a draft. -/
def checked (draft : Draft) (source language : String) (tagsets : Tagsets) :
    Except PatternError Pattern := do
  refuse (repeatedLabel? [] draft.slots)
  let head ← draft.requiredPlace headLabel
  let collocate ← draft.requiredPlace collocateLabel
  refuse (unknownTag? tagsets language draft.slots)
  let gaps ← draft.gaps.mapM checkedGap
  let filters ← draft.agreements.mapM draft.filterOf
  let span ← checkedSpan gaps
  let rest := gaps.zip (draft.rest.map fun step => ⟨step.2.label, step.2.constraint⟩)
  return ⟨source, language, ⟨draft.first.label, draft.first.constraint⟩, rest, filters, head,
    collocate, span⟩

end Draft

/-- The pattern of a text for a language. -/
def Pattern.ofText (source language : String) (tagsets : Tagsets) : Except PatternError Pattern := do
  let draft ← Draft.ofText source
  draft.checked source language tagsets

end Collocation
