import Collocation.Regex.Pattern
import Collocation.Sentence.Basic

/-!
# Constraints on a token

A constraint is a test of one token, or a combination of constraints.  A text is tested against a
literal or against a regular expression that has to match all of it; a part of speech only against a
literal.
-/

namespace Collocation

/-- What a text is compared with. -/
inductive TextTest where
  /-- The text itself. -/
  | literal (text : String)
  /-- A regular expression for the whole text. -/
  | regex (regex : Regex)
  deriving DecidableEq

/-- Whether a text passes. -/
def TextTest.accepts (text : String) : TextTest → Bool
  | literal expected => expected == text
  | regex pattern => pattern.accepts text

/-- A condition on a token. -/
inductive Constraint where
  /-- Every token. -/
  | any
  /-- A test of the lemma. -/
  | base (test : TextTest)
  /-- A part of speech. -/
  | tag (tag : String)
  /-- A test of the form. -/
  | form (test : TextTest)
  /-- A test of the value of a feature, which has to be there. -/
  | feature (key : String) (test : TextTest)
  /-- All of some constraints. -/
  | all (parts : List Constraint)
  /-- At least one of some constraints. -/
  | oneOf (parts : List Constraint)
  /-- Not a constraint. -/
  | not (inner : Constraint)
  deriving BEq

namespace Constraint

instance : Inhabited Constraint :=
  ⟨any⟩

mutual

/-- Whether a token satisfies a constraint. -/
def accepts (token : Token) : Constraint → Bool
  | any => true
  | base test => test.accepts token.base
  | tag expected => token.tag == expected
  | form test => test.accepts token.form
  | feature key test => (token.features.get? key).any fun value => test.accepts value
  | all parts => acceptsAll token parts
  | oneOf parts => acceptsOneOf token parts
  | not inner => !accepts token inner

/-- Whether a token satisfies every one of some constraints. -/
def acceptsAll (token : Token) : List Constraint → Bool
  | [] => true
  | part :: parts => accepts token part && acceptsAll token parts

/-- Whether a token satisfies at least one of some constraints. -/
def acceptsOneOf (token : Token) : List Constraint → Bool
  | [] => false
  | part :: parts => accepts token part || acceptsOneOf token parts

end

mutual

/-- Every part of speech that a constraint names, in the order of its text. -/
def tags : Constraint → List String
  | tag name => [name]
  | all parts => tagsOfAll parts
  | oneOf parts => tagsOfAll parts
  | not inner => tags inner
  | _ => []

/-- Every part of speech that some constraints name. -/
def tagsOfAll : List Constraint → List String
  | [] => []
  | part :: parts => tags part ++ tagsOfAll parts

end

/-- Whether the constraint is the one that every token satisfies. -/
def isAny : Constraint → Bool
  | any => true
  | _ => false

/-- The conjunction of two constraints.  A conjunction among them takes up the parts of the other
instead of being nested in a new one. -/
def merge : Constraint → Constraint → Constraint
  | left, any => left
  | any, right => right
  | all left, all right => all (left ++ right)
  | all left, right => all (left ++ [right])
  | left, all right => all (right ++ [left])
  | left, right => all [left, right]

/-- Any of some parts of speech; no list of them is a constraint at all if it is empty. -/
def ofTags : List String → Constraint
  | [] => any
  | [single] => tag single
  | tags => oneOf (tags.map tag)

@[simp]
theorem acceptsAll_eq_all (token : Token) (parts : List Constraint) :
    acceptsAll token parts = parts.all (accepts token) := by
  induction parts with
  | nil => rfl
  | cons part parts ih => simp [acceptsAll, ih]

@[simp]
theorem acceptsOneOf_eq_any (token : Token) (parts : List Constraint) :
    acceptsOneOf token parts = parts.any (accepts token) := by
  induction parts with
  | nil => rfl
  | cons part parts ih => simp [acceptsOneOf, ih]

/-- A merged constraint accepts what both constraints accept. -/
@[simp]
theorem accepts_merge (token : Token) (left right : Constraint) :
    (left.merge right).accepts token = (left.accepts token && right.accepts token) := by
  cases left <;> cases right <;>
    simp [merge, accepts, Bool.and_comm]

/-- A list of parts of speech accepts the tokens with one of them, or all tokens if it is empty. -/
theorem accepts_ofTags (token : Token) (tags : List String) :
    (ofTags tags).accepts token = (tags.isEmpty || tags.contains token.tag) := by
  match tags with
  | [] => rfl
  | [single] =>
      simp only [ofTags, accepts, List.isEmpty_cons, Bool.false_or, List.contains_eq_any_beq,
        List.any_cons, List.any_nil, Bool.or_false]
  | first :: second :: rest =>
      simp only [ofTags, accepts, acceptsOneOf_eq_any, List.any_map, List.contains_eq_any_beq]
      simp [accepts, Function.comp_def]

end Constraint
end Collocation
