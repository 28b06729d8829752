import Collocation.Digest.Sha256
import Collocation.Grammar.Basic
import Collocation.Pattern.Search
import Collocation.Text.Quoted

/-!
# Relations

A relation is a grammar whose pattern passed all checks, narrowed by what the grammar says outside the
text.  The relations of a set stand in the order of their priorities, and of their names where those
are equal; the set carries a fingerprint of all its definitions.
-/

namespace Collocation

/-- Why a grammar is rejected. -/
structure GrammarError where
  /-- The name of the grammar. -/
  grammar : String
  /-- What is wrong with its pattern. -/
  cause : PatternError
  deriving DecidableEq, Repr

/-- The wording of the error. -/
def GrammarError.message (error : GrammarError) : String :=
  s!"grammar `{error.grammar}`: {error.cause.message}"

/-- A grammatical relation that can be looked for. -/
structure Relation where
  /-- Its name. -/
  name : String
  /-- Its pattern. -/
  pattern : Pattern
  /-- Whether head and collocate may change roles. -/
  bidirectional : Bool
  /-- Its place among the others. -/
  priority : Int
  /-- Whether it is looked for. -/
  active : Bool

/-- The relations of a grammar set. -/
structure RelationSet where
  /-- The version of the grammar set. -/
  version : String
  /-- A digest of all definitions, in hexadecimal digits. -/
  fingerprint : String
  /-- The relations in ascending order of priority and name. -/
  relations : List Relation

/-- The relations that are looked for, in order. -/
def RelationSet.active (set : RelationSet) : List Relation :=
  set.relations.filter Relation.active

namespace Draft

/-- Narrow a slot to some parts of speech. -/
def narrowSlot (clause : String) (tags : List String) (slot : Slot) : Slot :=
  { slot with
    constraint := slot.constraint.merge (.ofTags tags)
    clause := s!"{slot.clause} + {clause}" }

/-- Narrow the first of some slots that has a label. -/
def narrowSteps (label clause : String) (tags : List String) :
    List (Option Gap × Slot) → List (Option Gap × Slot)
  | [] => []
  | (gap, slot) :: steps =>
      if slot.label = some label then (gap, narrowSlot clause tags slot) :: steps
      else (gap, slot) :: narrowSteps label clause tags steps

/-- Narrow the slot with a label to some parts of speech; no parts of speech leave it as it is. -/
def narrow (draft : Draft) (entry : String × List String) : Except PatternError Draft :=
  let (label, tags) := entry
  let clause := s!"pos_constraints[{label}] = {Text.quotedList tags}"
  if draft.first.label = some label then
    .ok { draft with first := narrowSlot clause tags draft.first }
  else if draft.rest.any fun step => step.2.label = some label then
    .ok { draft with rest := narrowSteps label clause tags draft.rest }
  else .error (.undeclaredLabel label clause)

/-- Add an agreement rule. -/
def agree (draft : Draft) (sides : String × String) : Except PatternError Draft :=
  let clause := s!"agree {sides.1} = {sides.2}"
  match Written.Reference.ofText? sides.1, Written.Reference.ofText? sides.2 with
  | some left, some right =>
      .ok { draft with agreements := draft.agreements ++ [⟨left, right, clause⟩] }
  | _, _ => .error (.malformedReference clause)

end Draft

namespace Grammar

/-- The pattern of a grammar: its text narrowed by its parts of speech in the order of their labels,
then with its agreement rules, and checked. -/
def pattern (grammar : Grammar) (tagsets : Tagsets) : Except PatternError Pattern := do
  let written ← Draft.ofText grammar.source
  let narrowed ← grammar.allowed.entries.foldlM Draft.narrow written
  let whole ← grammar.agreements.foldlM Draft.agree narrowed
  whole.checked grammar.source grammar.language tagsets

/-- The relation of a grammar. -/
def relation (grammar : Grammar) (tagsets : Tagsets) : Except GrammarError Relation :=
  match grammar.pattern tagsets with
  | .ok pattern =>
      .ok ⟨grammar.name, pattern, grammar.bidirectional, grammar.priority, grammar.active⟩
  | .error cause => .error ⟨grammar.name, cause⟩

/-- The byte that stands before each grammar in the stream of a set. -/
def grammarMark : UInt8 := 0x1e

/-- The byte that ends a field. -/
def fieldMark : UInt8 := 0x1f

/-- The bytes of a text. -/
def textBytes (text : String) : List UInt8 :=
  text.toUTF8.toList

/-- The four bytes of a priority, the least significant first. -/
def priorityBytes (priority : Int) : List UInt8 :=
  let word := (priority % 0x100000000).toNat
  [0, 8, 16, 24].map fun shift => UInt8.ofNat (word >>> shift)

/-- The bytes of a grammar: every field that makes a difference to what it matches. -/
def stream (grammar : Grammar) : List UInt8 :=
  grammarMark :: textBytes grammar.name ++ fieldMark :: textBytes grammar.source ++
    fieldMark :: textBytes grammar.language ++ fieldMark ::
    grammar.allowed.entries.flatMap (fun entry =>
      textBytes entry.1 ++ textBytes ("|".intercalate entry.2) ++ [fieldMark]) ++
    grammar.agreements.flatMap (fun sides => textBytes sides.1 ++ textBytes sides.2 ++ [fieldMark]) ++
    [grammar.bidirectional.toUInt8, grammar.active.toUInt8] ++ priorityBytes grammar.priority

end Grammar

namespace GrammarSet

/-- The bytes that the fingerprint is taken of. -/
def stream (set : GrammarSet) : List UInt8 :=
  Grammar.textBytes set.version ++ set.grammars.flatMap Grammar.stream

/-- The fingerprint of a set. -/
def fingerprint (set : GrammarSet) : String :=
  Text.hexBytes (Sha256.digest set.stream)

/-- Whether a relation may stand before another. -/
def inOrder (left right : Relation) : Bool :=
  left.priority < right.priority || (left.priority == right.priority && left.name ≤ right.name)

/-- The relations of a set; the first grammar that is rejected rejects the set. -/
def relations (set : GrammarSet) (tagsets : Tagsets) : Except GrammarError RelationSet := do
  let relations ← set.grammars.mapM fun grammar => grammar.relation tagsets
  return ⟨set.version, set.fingerprint, relations.mergeSort inOrder⟩

end GrammarSet
end Collocation
