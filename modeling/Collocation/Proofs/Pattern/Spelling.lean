import Collocation.Pattern.Draft
import Collocation.Proofs.Pattern.Labels

/-!
# Ways to write a pattern

A pattern can be written in many ways.  Blanks and comments may stand between any two parts, some attributes have
two names, a negated test has two forms, and any condition may be put between parentheses.  `Draft.Spelling` holds
of a draft and the texts that write it, and `Draft.IsExpressible` of the drafts that can be written.
-/

namespace Collocation

/-! ## Conditions -/

namespace TextTest

/-- The comparison as it is written, with the marks around it. -/
def text : TextTest → List Char
  | literal text => '"' :: text.toList ++ ['"']
  | regex pattern => '/' :: pattern.source.toList ++ ['/']

/-- Whether the comparison ends where its closing mark stands, and does not look like a comment. -/
def IsExpressible : TextTest → Prop
  | literal text => '"' ∉ text.toList
  | regex pattern => pattern.source ≠ "" ∧ '/' ∉ pattern.source.toList

end TextTest

namespace Constraint

/-- All of some constraints; a single one stands for itself. -/
def allOf : List Constraint → Constraint
  | [single] => single
  | parts => all parts

/-- At least one of some constraints; a single one stands for itself. -/
def anyOf : List Constraint → Constraint
  | [single] => single
  | parts => oneOf parts

end Constraint

namespace Written

/-- Blanks and comments, each comment with the line feed that ends it. -/
inductive Spacing : List Char → Prop where
  /-- Nothing. -/
  | empty : Spacing []
  /-- A blank. -/
  | blank {char : Char} {gap : List Char} (blank : isGap char = true) (further : Spacing gap) : Spacing (char :: gap)
  /-- A comment. -/
  | comment {body gap : List Char} (line : '\n' ∉ body) (further : Spacing gap) :
      Spacing ('/' :: '/' :: body ++ '\n' :: gap)

/-- A word that may be the key of a feature. -/
def IsKey (key : String) : Prop :=
  ∃ first others, key.toList = first :: others ∧ first.isAlpha = true ∧ ∀ char ∈ others, isKeyChar char = true

/-- The names of what a test looks at, with the constraint that a comparison makes; a part of speech is compared
with literals only. -/
inductive Subject : TextTest → Constraint → List Char → Prop where
  /-- The lemma. -/
  | base {test : TextTest} : Subject test (.base test) "lemma".toList
  /-- The form. -/
  | form {test : TextTest} : Subject test (.form test) "form".toList
  /-- The form by its other name. -/
  | word {test : TextTest} : Subject test (.form test) "word".toList
  /-- The part of speech. -/
  | partOfSpeech {tag : String} : Subject (.literal tag) (.tag tag) "pos".toList
  /-- The part of speech by its other name. -/
  | tag {tag : String} : Subject (.literal tag) (.tag tag) "tag".toList
  /-- A feature. -/
  | feature {test : TextTest} {key : String} (named : IsKey key) :
      Subject test (.feature key test) ("feats.".toList ++ key.toList)

/-- How tightly the parts of a written condition hold together. -/
inductive Level where
  /-- A test, or a condition between parentheses. -/
  | positive
  /-- Either of them, or one of them negated. -/
  | operand
  /-- Operands with ampersands or commas between them. -/
  | conjuncts
  /-- Conjunctions with bars between them. -/
  | alternatives
  deriving DecidableEq, Repr

/-- The ways to write conditions: at the two tighter levels a single one, at the others those that stand between
the marks. -/
inductive Phrase : Level → List Constraint → List Char → Prop where
  /-- A test. -/
  | test {test : TextTest} {constraint : Constraint} {name before behind : List Char}
      (subject : Subject test constraint name) (expressible : test.IsExpressible) (left : Spacing before)
      (right : Spacing behind) : Phrase .positive [constraint] (name ++ before ++ '=' :: behind ++ test.text)
  /-- A test that has to fail. -/
  | unequal {test : TextTest} {constraint : Constraint} {name before behind : List Char}
      (subject : Subject test constraint name) (expressible : test.IsExpressible) (left : Spacing before)
      (right : Spacing behind) :
      Phrase .positive [.not constraint] (name ++ before ++ '!' :: '=' :: behind ++ test.text)
  /-- Parentheses around a condition. -/
  | group {parts : List Constraint} {before inner behind : List Char} (left : Spacing before)
      (phrase : Phrase .alternatives parts inner) (right : Spacing behind) :
      Phrase .positive [.anyOf parts] ('(' :: before ++ inner ++ behind ++ [')'])
  /-- A condition without an exclamation mark. -/
  | plain {constraint : Constraint} {text : List Char} (phrase : Phrase .positive [constraint] text) :
      Phrase .operand [constraint] text
  /-- A condition behind an exclamation mark. -/
  | negated {constraint : Constraint} {between text : List Char} (gap : Spacing between)
      (phrase : Phrase .positive [constraint] text) :
      Phrase .operand [.not constraint] ('!' :: between ++ text)
  /-- A single operand. -/
  | operand {constraint : Constraint} {text : List Char} (phrase : Phrase .operand [constraint] text) :
      Phrase .conjuncts [constraint] text
  /-- An operand before others. -/
  | conjunct {constraint : Constraint} {parts : List Constraint} {first before behind others : List Char}
      {mark : Char} (marked : mark = '&' ∨ mark = ',') (phrase : Phrase .operand [constraint] first)
      (left : Spacing before) (right : Spacing behind) (further : Phrase .conjuncts parts others) :
      Phrase .conjuncts (constraint :: parts) (first ++ before ++ mark :: behind ++ others)
  /-- A single conjunction. -/
  | conjuncts {parts : List Constraint} {text : List Char} (phrase : Phrase .conjuncts parts text) :
      Phrase .alternatives [.allOf parts] text
  /-- A conjunction before others. -/
  | alternative {parts alternatives : List Constraint} {first before behind others : List Char}
      (phrase : Phrase .conjuncts parts first) (left : Spacing before) (right : Spacing behind)
      (further : Phrase .alternatives alternatives others) :
      Phrase .alternatives (.allOf parts :: alternatives) (first ++ before ++ '|' :: behind ++ others)

end Written

/-! ## Slots, gaps and rules -/

namespace Draft

open Written (IsLabel IsKey Phrase)

/-- The label of a slot and the colon behind it, if it has one. -/
inductive Header : Option String → List Char → Prop where
  /-- No label. -/
  | none : Header none []
  /-- A label. -/
  | label {label : String} {before behind : List Char} (word : IsLabel label) (left : Written.Spacing before)
      (right : Written.Spacing behind) : Header (some label) (label.toList ++ before ++ ':' :: behind)

/-- What stands between the brackets of a slot. -/
inductive Body : Constraint → List Char → Prop where
  /-- Nothing, for every token. -/
  | free {gap : List Char} (inner : Written.Spacing gap) : Body .any gap
  /-- A condition. -/
  | constrained {parts : List Constraint} {before text behind : List Char} (left : Written.Spacing before)
      (phrase : Phrase .alternatives parts text) (right : Written.Spacing behind) :
      Body (.anyOf parts) (before ++ text ++ behind)

/-- The texts of a slot. -/
def Slot.Spelling (slot : Slot) (text : List Char) : Prop :=
  slot.clause = String.ofList text ∧
    ∃ header body, Header slot.label header ∧ Body slot.constraint body ∧ text = header ++ '[' :: body ++ [']']

/-- The texts of a number of 64 bits with its sign. -/
inductive Bound : Int → List Char → Prop where
  /-- A number that is not negative. -/
  | plain {digits : List Char} (nonempty : digits ≠ []) (only : ∀ digit ∈ digits, digit.isDigit = true)
      (bounded : Text.decimalValue digits < Text.signedSize) : Bound (Text.decimalValue digits) digits
  /-- A number behind a minus sign. -/
  | minus {digits : List Char} (nonempty : digits ≠ []) (only : ∀ digit ∈ digits, digit.isDigit = true)
      (bounded : Text.decimalValue digits ≤ Text.signedSize) :
      Bound (-Text.decimalValue digits) ('-' :: digits)

/-- The texts of a gap between two slots. -/
def Gap.Spelling (gap : Gap) (text : List Char) : Prop :=
  gap.clause = String.ofList text ∧
    ∃ opened least between behind most closed, Bound gap.least least ∧ Bound gap.most most ∧
      Written.Spacing opened ∧ Written.Spacing between ∧ Written.Spacing behind ∧ Written.Spacing closed ∧
      text = '\x7b' :: opened ++ least ++ between ++ ',' :: behind ++ most ++ closed ++ ['\x7d']

/-- The texts of the slots behind the first, each perhaps with a gap in front of it. -/
inductive Steps : List (Option Gap × Slot) → List Char → Prop where
  /-- No further slot. -/
  | nil : Steps [] []
  /-- A slot that follows its neighbour at once. -/
  | slot {slot : Slot} {rest : List (Option Gap × Slot)} {before text others : List Char}
      (left : Written.Spacing before) (written : slot.Spelling text) (further : Steps rest others) :
      Steps ((none, slot) :: rest) (before ++ text ++ others)
  /-- A slot behind a gap. -/
  | gap {gap : Gap} {slot : Slot} {rest : List (Option Gap × Slot)} {before bounds between text others : List Char}
      (left : Written.Spacing before) (bounded : gap.Spelling bounds) (inner : Written.Spacing between)
      (written : slot.Spelling text) (further : Steps rest others) :
      Steps ((some gap, slot) :: rest) (before ++ bounds ++ between ++ text ++ others)

end Draft

namespace Written

/-- Whether a reference can be written. -/
def Reference.IsExpressible (reference : Reference) : Prop :=
  IsLabel reference.label ∧ IsKey reference.feature

/-- The text of a reference. -/
def Reference.text (reference : Reference) : List Char :=
  reference.label.toList ++ '.' :: reference.feature.toList

/-- The texts of an agreement rule. -/
def Agreement.Spelling (agreement : Agreement) (text : List Char) : Prop :=
  agreement.clause = String.ofList text ∧ agreement.left.IsExpressible ∧ agreement.right.IsExpressible ∧
    ∃ opened between behind, Spacing opened ∧ Spacing between ∧ Spacing behind ∧
      text = "agree".toList ++ opened ++ agreement.left.text ++ between ++ '=' :: behind ++ agreement.right.text

/-- The texts of agreement rules, a semicolon before each and perhaps one at the end. -/
inductive Rules : List Agreement → List Char → Prop where
  /-- No further rule. -/
  | nil {gap : List Char} (last : Spacing gap) : Rules [] gap
  /-- The semicolon at the end. -/
  | final {before behind : List Char} (left : Spacing before) (right : Spacing behind) :
      Rules [] (before ++ ';' :: behind)
  /-- A rule. -/
  | cons {agreement : Agreement} {agreements : List Agreement} {before behind text others : List Char}
      (left : Spacing before) (right : Spacing behind) (written : agreement.Spelling text)
      (further : Rules agreements others) :
      Rules (agreement :: agreements) (before ++ ';' :: behind ++ text ++ others)

end Written

/-- The texts of a draft. -/
def Draft.Spelling (draft : Draft) (text : List Char) : Prop :=
  ∃ opened first steps rules, Written.Spacing opened ∧ draft.first.Spelling first ∧ Draft.Steps draft.rest steps ∧
    Written.Rules draft.agreements rules ∧ text = opened ++ first ++ steps ++ rules

/-! ## What can be written -/

/-- Whether a constraint can be written. -/
inductive Constraint.IsExpressible : Constraint → Prop where
  /-- A test of the lemma. -/
  | base {test : TextTest} (writable : test.IsExpressible) : IsExpressible (.base test)
  /-- A test of the form. -/
  | form {test : TextTest} (writable : test.IsExpressible) : IsExpressible (.form test)
  /-- A part of speech. -/
  | tag {tag : String} (free : '"' ∉ tag.toList) : IsExpressible (.tag tag)
  /-- A test of a feature. -/
  | feature {key : String} {test : TextTest} (named : Written.IsKey key) (writable : test.IsExpressible) :
      IsExpressible (.feature key test)
  /-- All of several constraints. -/
  | all {parts : List Constraint} (several : 2 ≤ parts.length) (each : ∀ part ∈ parts, IsExpressible part) :
      IsExpressible (.all parts)
  /-- At least one of several constraints. -/
  | oneOf {parts : List Constraint} (several : 2 ≤ parts.length) (each : ∀ part ∈ parts, IsExpressible part) :
      IsExpressible (.oneOf parts)
  /-- Not a constraint. -/
  | not {inner : Constraint} (writable : IsExpressible inner) : IsExpressible (.not inner)

namespace Draft

/-- Whether a slot can be written. -/
structure Slot.IsExpressible (slot : Slot) : Prop where
  /-- Its label is a word. -/
  label : ∀ label ∈ slot.label, Written.IsLabel label
  /-- Its constraint stands between its brackets, or lets every token pass. -/
  constraint : slot.constraint = .any ∨ slot.constraint.IsExpressible

/-- Whether the bounds of a gap are numbers of 64 bits. -/
structure Gap.IsExpressible (gap : Gap) : Prop where
  /-- The lower bound. -/
  least : -Text.signedSize ≤ gap.least ∧ gap.least < Text.signedSize
  /-- The upper bound. -/
  most : -Text.signedSize ≤ gap.most ∧ gap.most < Text.signedSize

/-- Whether a draft can be written. -/
structure IsExpressible (draft : Draft) : Prop where
  /-- Its first slot can. -/
  first : draft.first.IsExpressible
  /-- The further slots can, and what stands in front of them. -/
  rest : ∀ step ∈ draft.rest, (∀ gap ∈ step.1, gap.IsExpressible) ∧ step.2.IsExpressible
  /-- Its agreement rules can. -/
  agreements : ∀ agreement ∈ draft.agreements, agreement.left.IsExpressible ∧ agreement.right.IsExpressible

/-- The slot without its text. -/
def Slot.bare (slot : Slot) : Slot :=
  { slot with clause := "" }

/-- The gap without its text. -/
def Gap.bare (gap : Gap) : Gap :=
  { gap with clause := "" }

/-- The draft without the texts that its messages quote. -/
def bare (draft : Draft) : Draft where
  first := draft.first.bare
  rest := draft.rest.map fun step => (step.1.map Gap.bare, step.2.bare)
  agreements := draft.agreements.map fun agreement => { agreement with clause := "" }

end Draft

namespace Constraint

theorem allOf_of_several {parts : List Constraint} (several : 2 ≤ parts.length) : allOf parts = all parts := by
  match parts, several with
  | _ :: _ :: _, _ => rfl

theorem anyOf_of_several {parts : List Constraint} (several : 2 ≤ parts.length) : anyOf parts = oneOf parts := by
  match parts, several with
  | _ :: _ :: _, _ => rfl

end Constraint

namespace Written

variable {constraint : Constraint} {parts : List Constraint} {text : List Char}

theorem Phrase.alone (phrase : Phrase .operand [constraint] text) : Phrase .alternatives [constraint] text :=
  .conjuncts (.operand phrase)

theorem Phrase.enclosed (phrase : Phrase .alternatives parts text) :
    Phrase .positive [.anyOf parts] ('(' :: text ++ [')']) := by
  have whole := Phrase.group .empty phrase .empty
  simpa only [List.append_nil, List.cons_append, List.nil_append] using whole

theorem exists_conjuncts (nonempty : parts ≠ []) (each : ∀ part ∈ parts, ∃ text, Phrase .positive [part] text) :
    ∃ text, Phrase .conjuncts parts text := by
  induction parts with
  | nil => exact absurd rfl nonempty
  | cons part parts induction =>
      obtain ⟨⟨first, phrase⟩, others⟩ := List.forall_mem_cons.mp each
      cases parts with
      | nil => exact ⟨first, .operand (.plain phrase)⟩
      | cons next parts =>
          obtain ⟨text, further⟩ := induction (List.cons_ne_nil _ _) others
          exact ⟨_, .conjunct (.inl rfl) (.plain phrase) .empty .empty further⟩

theorem exists_alternatives (nonempty : parts ≠ []) (each : ∀ part ∈ parts, ∃ text, Phrase .positive [part] text) :
    ∃ text, Phrase .alternatives parts text := by
  induction parts with
  | nil => exact absurd rfl nonempty
  | cons part parts induction =>
      obtain ⟨⟨first, phrase⟩, others⟩ := List.forall_mem_cons.mp each
      cases parts with
      | nil => exact ⟨first, (Phrase.plain phrase).alone⟩
      | cons next parts =>
          obtain ⟨text, further⟩ := induction (List.cons_ne_nil _ _) others
          exact ⟨_, .alternative (.operand (.plain phrase)) .empty .empty further⟩

theorem exists_phrase_of_isExpressible (expressible : constraint.IsExpressible) :
    ∃ text, Phrase .positive [constraint] text := by
  induction expressible with
  | base writable => exact ⟨_, .test .base writable .empty .empty⟩
  | form writable => exact ⟨_, .test .form writable .empty .empty⟩
  | tag free => exact ⟨_, .test .partOfSpeech free .empty .empty⟩
  | feature named writable => exact ⟨_, .test (.feature named) writable .empty .empty⟩
  | @all parts several each induction =>
      obtain ⟨text, phrase⟩ := exists_conjuncts (List.ne_nil_of_length_pos (by omega)) induction
      have whole := phrase.conjuncts.enclosed
      rw [Constraint.allOf_of_several several] at whole
      exact ⟨_, whole⟩
  | @oneOf parts several each induction =>
      obtain ⟨text, phrase⟩ := exists_alternatives (List.ne_nil_of_length_pos (by omega)) induction
      have whole := phrase.enclosed
      rw [Constraint.anyOf_of_several several] at whole
      exact ⟨_, whole⟩
  | not writable induction =>
      obtain ⟨text, phrase⟩ := induction
      exact ⟨_, (Phrase.negated .empty phrase).alone.enclosed⟩

theorem Agreement.exists_spelling (agreement : Agreement) (left : agreement.left.IsExpressible)
    (right : agreement.right.IsExpressible) :
    ∃ text, Agreement.Spelling { agreement with clause := String.ofList text } text :=
  ⟨"agree".toList ++ [] ++ agreement.left.text ++ [] ++ '=' :: [] ++ agreement.right.text, rfl, left, right,
    [], [], [], .empty, .empty, .empty, rfl⟩

theorem exists_rules {agreements : List Agreement}
    (each : ∀ agreement ∈ agreements, agreement.left.IsExpressible ∧ agreement.right.IsExpressible) :
    ∃ written text, written.map (fun agreement => { agreement with clause := "" }) =
      agreements.map (fun agreement => { agreement with clause := "" }) ∧ Rules written text := by
  induction agreements with
  | nil => exact ⟨[], [], rfl, .nil .empty⟩
  | cons agreement agreements induction =>
      obtain ⟨⟨left, right⟩, others⟩ := List.forall_mem_cons.mp each
      obtain ⟨text, spelled⟩ := agreement.exists_spelling left right
      obtain ⟨written, rest, same, further⟩ := induction others
      exact ⟨_ :: written, _, by rw [List.map_cons, List.map_cons, same], .cons .empty .empty spelled further⟩

end Written

namespace Draft

theorem decimalValue_toDigits (value : Nat) : Text.decimalValue (Nat.toDigits 10 value) = value :=
  Nat.ofDigitChars_toDigits (by decide) (by decide)

theorem exists_bound {value : Int} (least : -Text.signedSize ≤ value) (most : value < Text.signedSize) :
    ∃ text, Bound value text := by
  have only (size : Nat) : ∀ digit ∈ Nat.toDigits 10 size, digit.isDigit = true := fun digit member =>
    Nat.isDigit_of_mem_toDigits (by decide) (by decide) member
  have same := decimalValue_toDigits value.natAbs
  rcases Int.natAbs_eq value with positive | negative
  · have written := Bound.plain Nat.toDigits_ne_nil (only value.natAbs) (by omega)
    rw [same, ← positive] at written
    exact ⟨_, written⟩
  · have written := Bound.minus Nat.toDigits_ne_nil (only value.natAbs) (by omega)
    rw [same, ← negative] at written
    exact ⟨_, written⟩

theorem Gap.IsExpressible.exists_spelling {gap : Gap} (expressible : gap.IsExpressible) :
    ∃ text, Gap.Spelling { gap with clause := String.ofList text } text := by
  obtain ⟨least, leastBound⟩ := exists_bound expressible.least.1 expressible.least.2
  obtain ⟨most, mostBound⟩ := exists_bound expressible.most.1 expressible.most.2
  exact ⟨_, rfl, _, _, _, _, _, _, leastBound, mostBound, .empty, .empty, .empty, .empty, rfl⟩

theorem Slot.IsExpressible.exists_spelling {slot : Slot} (expressible : slot.IsExpressible) :
    ∃ text, Slot.Spelling { slot with clause := String.ofList text } text := by
  have header : ∃ header, Header slot.label header := by
    cases named : slot.label with
    | none => exact ⟨[], .none⟩
    | some label => exact ⟨_, .label (expressible.label label named) .empty .empty⟩
  have body : ∃ body, Body slot.constraint body := by
    rcases expressible.constraint with free | writable
    · exact ⟨[], free ▸ .free .empty⟩
    · obtain ⟨text, phrase⟩ := Written.exists_phrase_of_isExpressible writable
      exact ⟨_, .constrained .empty (Written.Phrase.plain phrase).alone .empty⟩
  obtain ⟨header, headed⟩ := header
  obtain ⟨body, constrained⟩ := body
  exact ⟨_, rfl, header, body, headed, constrained, rfl⟩

theorem exists_steps {steps : List (Option Gap × Slot)}
    (each : ∀ step ∈ steps, (∀ gap ∈ step.1, gap.IsExpressible) ∧ step.2.IsExpressible) :
    ∃ written text, written.map (fun step : Option Gap × Slot => (step.1.map Gap.bare, step.2.bare)) =
      steps.map (fun step => (step.1.map Gap.bare, step.2.bare)) ∧ Steps written text := by
  induction steps with
  | nil => exact ⟨[], [], rfl, .nil⟩
  | cons step steps induction =>
      obtain ⟨⟨bounded, expressible⟩, others⟩ := List.forall_mem_cons.mp each
      obtain ⟨text, spelled⟩ := expressible.exists_spelling
      obtain ⟨written, rest, same, further⟩ := induction others
      obtain ⟨gap, slot⟩ := step
      cases gap with
      | none =>
          refine ⟨(none, _) :: written, _, ?_, .slot .empty spelled further⟩
          rw [List.map_cons, List.map_cons, same]
          rfl
      | some gap =>
          obtain ⟨bounds, bound⟩ := (bounded gap rfl).exists_spelling
          refine ⟨(some _, _) :: written, _, ?_, .gap .empty bound .empty spelled further⟩
          rw [List.map_cons, List.map_cons, same]
          rfl

/-- Every draft that can be written has a text, up to the texts that its messages quote. -/
theorem IsExpressible.exists_spelling {draft : Draft} (expressible : draft.IsExpressible) :
    ∃ (written : Draft) (text : List Char), written.bare = draft.bare ∧ written.Spelling text := by
  obtain ⟨first, firstSpelled⟩ := expressible.first.exists_spelling
  obtain ⟨steps, rest, sameSteps, stepsSpelled⟩ := exists_steps expressible.rest
  obtain ⟨agreements, rules, sameRules, rulesSpelled⟩ := Written.exists_rules expressible.agreements
  refine ⟨⟨_, steps, agreements⟩, _, ?_, _, _, _, _, .empty, firstSpelled, stepsSpelled, rulesSpelled, rfl⟩
  rw [bare, bare, sameSteps, sameRules]
  rfl

end Draft
end Collocation
