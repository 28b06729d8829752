import Collocation.Pattern.Constraint
import Collocation.Text.Integer

/-!
# Patterns as written

A pattern is a sequence of slots, each with an optional label and constraint, with bounds on the number
of tokens between neighbours, followed by agreement rules.  A written pattern keeps the text of every
part for messages about it; which labels and tags it names is not yet looked at.
-/

namespace Collocation
namespace Written

/-- What a test looks at. -/
inductive Attribute where
  /-- An attribute by name. -/
  | plain (name : String)
  /-- A morphological feature. -/
  | feature (key : String)
  deriving DecidableEq, Repr

/-- The value of a test. -/
inductive Value where
  /-- A text between double quotes. -/
  | literal (text : String)
  /-- A regular expression between slashes. -/
  | regex (source : String)
  deriving DecidableEq, Repr

/-- A test of one attribute. -/
structure Test where
  /-- What is tested. -/
  subject : Attribute
  /-- Whether the test has to fail. -/
  negated : Bool
  /-- What it is compared with. -/
  value : Value
  /-- Its text. -/
  clause : String
  deriving DecidableEq, Repr

/-- A test, or a combination of conditions. -/
inductive Condition where
  /-- A single test. -/
  | test (test : Test)
  /-- All of some conditions. -/
  | all (parts : List Condition)
  /-- At least one of some conditions. -/
  | oneOf (parts : List Condition)
  /-- Not a condition. -/
  | not (inner : Condition)

/-- A slot of the sequence. -/
structure Slot where
  /-- Its label. -/
  label : Option String
  /-- The condition between its brackets. -/
  condition : Option Condition
  /-- Its text. -/
  clause : String

/-- Bounds on the number of tokens between two slots. -/
structure Bounds where
  /-- The digits of the lower bound, with its sign. -/
  least : List Char
  /-- The digits of the upper bound, with its sign. -/
  most : List Char
  /-- Their text. -/
  clause : String
  deriving DecidableEq, Repr

/-- A feature of the token in a labeled slot. -/
structure Reference where
  /-- The label of the slot. -/
  label : String
  /-- The key of the feature. -/
  feature : String
  deriving DecidableEq, Repr

/-- A rule that two features have to be equal. -/
structure Agreement where
  /-- The feature on the left. -/
  left : Reference
  /-- The feature on the right. -/
  right : Reference
  /-- Its text. -/
  clause : String
  deriving DecidableEq, Repr

/-- A pattern. -/
structure Pattern where
  /-- The first slot. -/
  first : Slot
  /-- The further slots, each with the bounds in front of it. -/
  rest : List (Option Bounds × Slot)
  /-- The agreement rules. -/
  agreements : List Agreement

/-- The reference that a text such as `1.Case` names; both sides of the point have to be there. -/
def Reference.ofText? (text : String) : Option Reference :=
  match Text.cut? '.' (Text.trim text.toList) with
  | some (first :: label, key :: feature) =>
      some ⟨String.ofList (first :: label), String.ofList (key :: feature)⟩
  | _ => none

end Written
end Collocation
