import Collocation.Proofs.Pattern.Labels
import Collocation.Proofs.Regex.Anchoring

/-!
# Tests with regular expressions

A draft accepts what the conditions of its written pattern say.  A test that compares with a regular expression looks
for one that matches the whole of a text, unless the text of the expression closes a group that it does not open.  Such
an expression is no expression on its own, and still its test can be accepted.
-/

namespace Collocation
namespace Written

/-- What a test of the lemma, the form or a feature looks at. -/
def Test.subjectOf (test : Test) (token : Token) : Option String :=
  match test.subject with
  | .feature key => token.features.get? key
  | .plain "lemma" => some token.base
  | .plain "form" => some token.form
  | .plain "word" => some token.form
  | .plain _ => none

mutual

/-- The tests of a condition. -/
def Condition.tests : Condition → List Test
  | .test single => [single]
  | .all parts => Condition.testsOfAll parts
  | .oneOf parts => Condition.testsOfAll parts
  | .not inner => inner.tests

/-- The tests of some conditions. -/
def Condition.testsOfAll : List Condition → List Test
  | [] => []
  | part :: parts => part.tests ++ Condition.testsOfAll parts

end

mutual

/-- A condition holds, given which tests pass. -/
def Condition.Holds (passes : Test → Prop) : Condition → Prop
  | .test single => passes single
  | .all parts => Condition.AllHold passes parts
  | .oneOf parts => Condition.OneHolds passes parts
  | .not inner => ¬ inner.Holds passes

/-- All of some conditions hold. -/
def Condition.AllHold (passes : Test → Prop) : List Condition → Prop
  | [] => True
  | part :: parts => part.Holds passes ∧ Condition.AllHold passes parts

/-- At least one of some conditions holds. -/
def Condition.OneHolds (passes : Test → Prop) : List Condition → Prop
  | [] => False
  | part :: parts => part.Holds passes ∨ Condition.OneHolds passes parts

end

/-- The tests of a slot. -/
def Slot.tests (slot : Slot) : List Test :=
  slot.condition.elim [] Condition.tests

/-- The condition of a slot holds, if it has one. -/
def Slot.Holds (slot : Slot) (passes : Test → Prop) : Prop :=
  ∀ condition ∈ slot.condition, condition.Holds passes

/-- The slots in order. -/
def Pattern.slots (pattern : Pattern) : List Slot :=
  pattern.first :: pattern.rest.map Prod.snd

end Written

namespace Draft

open Written (Condition Test)

/-! ## Conditions -/

/-- The test has a constraint that the token satisfies. -/
def TestPasses (clause : String) (token : Token) (test : Test) : Prop :=
  ∃ constraint, constraintOfTest clause test = .ok constraint ∧ constraint.accepts token

variable {clause : String} {token : Token}

mutual

theorem accepts_iff_holds (token : Token) {condition : Condition} {constraint : Constraint}
    (made : constraintOf clause condition = .ok constraint) :
    (∀ test ∈ condition.tests, ∃ single, constraintOfTest clause test = .ok single) ∧
      (constraint.accepts token ↔ condition.Holds (TestPasses clause token)) := by
  cases condition with
  | test test =>
      rw [constraintOf] at made
      simp [Condition.tests, Condition.Holds, TestPasses, made]
  | all parts =>
      obtain ⟨constraints, parts', rfl⟩ := map_eq_ok_iff.mp made
      obtain ⟨tests, all, -⟩ := acceptsAll_iff_allHold token parts'
      exact ⟨tests, by rw [Constraint.accepts, Constraint.acceptsAll_eq_all]; exact all⟩
  | oneOf parts =>
      obtain ⟨constraints, parts', rfl⟩ := map_eq_ok_iff.mp made
      obtain ⟨tests, -, any⟩ := acceptsAll_iff_allHold token parts'
      exact ⟨tests, by rw [Constraint.accepts, Constraint.acceptsOneOf_eq_any]; exact any⟩
  | not inner =>
      obtain ⟨constraint, inner', rfl⟩ := map_eq_ok_iff.mp made
      obtain ⟨tests, holds⟩ := accepts_iff_holds token inner'
      exact ⟨tests, by rw [Constraint.accepts, Condition.Holds, ← holds]; simp⟩

theorem acceptsAll_iff_allHold (token : Token) {conditions : List Condition} {constraints : List Constraint}
    (made : constraintsOf clause conditions = .ok constraints) :
    (∀ test ∈ Condition.testsOfAll conditions, ∃ single, constraintOfTest clause test = .ok single) ∧
      (constraints.all (Constraint.accepts token) ↔ Condition.AllHold (TestPasses clause token) conditions) ∧
      (constraints.any (Constraint.accepts token) ↔ Condition.OneHolds (TestPasses clause token) conditions) := by
  cases conditions with
  | nil =>
      cases made
      simp [Condition.testsOfAll, Condition.AllHold, Condition.OneHolds]
  | cons condition conditions =>
      simp only [constraintsOf, bind_eq_ok_iff, pure_eq_ok_iff] at made
      obtain ⟨constraint, here, constraints, further, rfl⟩ := made
      obtain ⟨tests, holds⟩ := accepts_iff_holds token here
      obtain ⟨others, all, any⟩ := acceptsAll_iff_allHold token further
      refine ⟨List.forall_mem_append.mpr ⟨tests, others⟩, ?_, ?_⟩
      · rw [List.all_cons, Bool.and_eq_true, holds, all, Condition.AllHold]
      · rw [List.any_cons, Bool.or_eq_true, holds, any, Condition.OneHolds]

end

/-- A slot accepts the tokens of which its condition holds, and all of its tests have constraints. -/
def Follows (written : Written.Slot) (slot : Slot) : Prop :=
  (∀ test ∈ written.tests, ∃ constraint, constraintOfTest written.clause test = .ok constraint) ∧
    ∀ token, slot.constraint.accepts token ↔ written.Holds (TestPasses written.clause token)

theorem follows_ofWritten {written : Written.Slot} {slot : Slot} (made : Slot.ofWritten written = .ok slot) :
    Follows written slot := by
  unfold Slot.ofWritten at made
  split at made
  · next free =>
    cases made
    simp [Follows, Written.Slot.tests, Written.Slot.Holds, free, Constraint.accepts]
  · next condition some' =>
    simp only [bind_eq_ok_iff, pure_eq_ok_iff] at made
    obtain ⟨constraint, here, rfl⟩ := made
    refine ⟨?_, fun token => ?_⟩
    · rw [Written.Slot.tests, some']
      exact (accepts_iff_holds default here).1
    · simp [Written.Slot.Holds, some', (accepts_iff_holds token here).2]

theorem follows_slots {pattern : Written.Pattern} {draft : Draft} (made : ofWritten pattern = .ok draft) :
    List.Forall₂ Follows pattern.slots draft.slots := by
  simp only [ofWritten, bind_eq_ok_iff, pure_eq_ok_iff] at made
  obtain ⟨first, firstMade, rest, restMade, rfl⟩ := made
  refine .cons (follows_ofWritten firstMade) ?_
  rw [List.forall₂_map_left_iff, List.forall₂_map_right_iff]
  exact (made_of_stepsOfWritten restMade).imp fun _ _ => follows_ofWritten

theorem exists_constraint_of_mem {pattern : Written.Pattern} {draft : Draft} (made : ofWritten pattern = .ok draft) :
    ∀ slot ∈ pattern.slots, ∀ test ∈ slot.tests, ∃ constraint, constraintOfTest slot.clause test = .ok constraint := by
  have all := follows_slots made
  generalize pattern.slots = written, draft.slots = slots at all ⊢
  induction all with
  | nil => simp
  | cons here others induction => exact List.forall_mem_cons.mpr ⟨here.1, induction⟩

/-! ## Faults -/

/-- The cause is that of a test, or of bounds that are no numbers. -/
def IsFault (pattern : Written.Pattern) (cause : PatternError) : Prop :=
  (∃ slot ∈ pattern.slots, ∃ test ∈ slot.tests, constraintOfTest slot.clause test = .error cause) ∨
    ∃ step ∈ pattern.rest, ∃ bounds ∈ step.1, Gap.ofWritten bounds = .error cause

mutual

theorem exists_bad_test {condition : Condition} {cause : PatternError}
    (refused : constraintOf clause condition = .error cause) :
    ∃ test ∈ condition.tests, constraintOfTest clause test = .error cause := by
  cases condition with
  | test test => exact ⟨test, List.mem_singleton_self test, refused⟩
  | all parts => exact exists_bad_test_of_all (map_eq_error_iff.mp refused)
  | oneOf parts => exact exists_bad_test_of_all (map_eq_error_iff.mp refused)
  | not inner =>
      obtain ⟨test, among, bad⟩ := exists_bad_test (map_eq_error_iff.mp refused)
      exact ⟨test, among, bad⟩

theorem exists_bad_test_of_all {conditions : List Condition} {cause : PatternError}
    (refused : constraintsOf clause conditions = .error cause) :
    ∃ test ∈ Condition.testsOfAll conditions, constraintOfTest clause test = .error cause := by
  cases conditions with
  | nil => cases refused
  | cons condition conditions =>
      simp only [constraintsOf, bind_eq_error_iff, pure_ne_error, and_false, exists_false, or_false] at refused
      obtain here | ⟨-, -, further⟩ := refused
      · obtain ⟨test, among, bad⟩ := exists_bad_test here
        exact ⟨test, List.mem_append_left _ among, bad⟩
      · obtain ⟨test, among, bad⟩ := exists_bad_test_of_all further
        exact ⟨test, List.mem_append_right _ among, bad⟩

end

theorem exists_bad_test_of_slot {written : Written.Slot} {cause : PatternError}
    (refused : Slot.ofWritten written = .error cause) :
    ∃ test ∈ written.tests, constraintOfTest written.clause test = .error cause := by
  unfold Slot.ofWritten at refused
  split at refused
  · cases refused
  · next condition some' =>
    simp only [bind_eq_error_iff, pure_ne_error, and_false, exists_false, or_false] at refused
    rw [Written.Slot.tests, some']
    exact exists_bad_test refused

theorem exists_fault_of_steps {written : List (Option Written.Bounds × Written.Slot)} {cause : PatternError}
    (refused : stepsOfWritten written = .error cause) :
    ∃ step ∈ written, (∃ bounds ∈ step.1, Gap.ofWritten bounds = .error cause) ∨
      ∃ test ∈ step.2.tests, constraintOfTest step.2.clause test = .error cause := by
  induction written with
  | nil => cases refused
  | cons origin written induction =>
      obtain ⟨bounds, slot⟩ := origin
      have parts : (∃ found ∈ bounds, Gap.ofWritten found = .error cause) ∨ Slot.ofWritten slot = .error cause ∨
          stepsOfWritten written = .error cause := by
        cases bounds with
        | none =>
            simp only [stepsOfWritten, bind_eq_error_iff, pure_ne_error, and_false, exists_false, or_false] at refused
            obtain impossible | ⟨-, -, here | ⟨-, -, further⟩⟩ := refused
            · cases impossible
            · exact Or.inr (Or.inl here)
            · exact Or.inr (Or.inr further)
        | some found =>
            simp only [stepsOfWritten, bind_eq_error_iff, pure_ne_error, and_false, exists_false, or_false,
              Functor.map, map_eq_error_iff] at refused
            obtain unread | ⟨-, -, here | ⟨-, -, further⟩⟩ := refused
            · exact Or.inl ⟨found, rfl, unread⟩
            · exact Or.inr (Or.inl here)
            · exact Or.inr (Or.inr further)
      obtain bounds | here | further := parts
      · exact ⟨_, List.mem_cons_self, Or.inl bounds⟩
      · exact ⟨_, List.mem_cons_self, Or.inr (exists_bad_test_of_slot here)⟩
      · obtain ⟨step, inside, fault⟩ := induction further
        exact ⟨step, List.mem_cons_of_mem _ inside, fault⟩

/-- A pattern is refused for one of its faults. -/
theorem isFault_of_ofWritten {pattern : Written.Pattern} {cause : PatternError}
    (refused : ofWritten pattern = .error cause) : IsFault pattern cause := by
  simp only [ofWritten, bind_eq_error_iff, pure_ne_error, and_false, exists_false, or_false] at refused
  obtain here | ⟨-, -, further⟩ := refused
  · obtain ⟨test, among, bad⟩ := exists_bad_test_of_slot here
    exact Or.inl ⟨pattern.first, List.mem_cons_self, test, among, bad⟩
  · obtain ⟨step, inside, ⟨bounds, some', bad⟩ | ⟨test, among, bad⟩⟩ := exists_fault_of_steps further
    · exact Or.inr ⟨step, inside, bounds, some', bad⟩
    · exact Or.inl ⟨step.2, List.mem_cons_of_mem _ (List.mem_map_of_mem inside), test, among, bad⟩

/-! ## Tests -/

theorem constraintOfTest_of_no_regex (clause : String) {test : Test} {source : String}
    (value : test.value = .regex source) (none : Regex.ofSource? source = none) :
    constraintOfTest clause test = .error (.invalidRegex test.clause) := by
  simp [constraintOfTest, textTest, value, none, bind, Except.bind]

theorem accepts_of_attributeTest {test : Test} {regex : Regex} {constraint : Constraint}
    (made : attributeTest clause test (.regex regex) = .ok constraint) :
    constraint.accepts token = (test.subjectOf token).any regex.accepts := by
  unfold attributeTest at made
  split at made
  · next key subject =>
    cases made
    simp [Constraint.accepts, Test.subjectOf, subject, TextTest.accepts]
  · next subject =>
    cases made
    simp [Constraint.accepts, Test.subjectOf, subject, TextTest.accepts]
  · next subject =>
    cases made
    simp [Constraint.accepts, Test.subjectOf, subject, TextTest.accepts]
  · next subject =>
    cases made
    simp [Constraint.accepts, Test.subjectOf, subject, TextTest.accepts]
  · split at made <;> cases made

theorem exists_regex_of_constraintOfTest {test : Test} {source : String} {constraint : Constraint}
    (value : test.value = .regex source) (made : constraintOfTest clause test = .ok constraint) :
    ∃ regex : Regex, regex.source = source ∧ ∀ token,
      constraint.accepts token ↔ (test.negated = false ↔ (test.subjectOf token).any regex.accepts) := by
  simp only [constraintOfTest, textTest, value, bind_eq_ok_iff, pure_eq_ok_iff] at made
  obtain ⟨comparison, compared, inner, here, rfl⟩ := made
  split at compared
  · next regex found =>
    cases compared
    refine ⟨regex, Regex.source_of_ofSource? found, fun token => ?_⟩
    rw [← accepts_of_attributeTest here]
    cases test.negated <;> simp [Constraint.accepts]
  · cases compared

theorem passes_iff {test : Test} {constraint : Constraint} (made : constraintOfTest clause test = .ok constraint) :
    TestPasses clause token test ↔ constraint.accepts token := by
  simp [TestPasses, made]

/-- Take any text that is read as a pattern, and any of its tests that compares with a regular expression.  If the
expression is none on its own and does not close a group that it does not open, then the test is refused as a bad
regular expression, and the pattern is refused for this or another of its faults.  If the pattern is accepted, then its
slots accept the tokens of which their conditions hold.  The expression is one on its own exactly if it does not close a
group that it does not open, and then its test passes exactly if the expression matches the whole of what the test looks
at, or exactly if not where the test is negated. -/
theorem regex_tests_match_whole_texts {source : String} {pattern : Written.Pattern}
    (read : Written.Pattern.ofText? source.toList = some pattern) :
    (∀ slot ∈ pattern.slots, ∀ test ∈ slot.tests, ∀ text, test.value = .regex text →
      Regex.meaning? text = none → ¬ Regex.ClosesEarly text →
        constraintOfTest slot.clause test = .error (.invalidRegex test.clause) ∧
          ∃ cause, ofText source = .error cause ∧ IsFault pattern cause) ∧
    ∀ draft, ofText source = .ok draft →
      List.Forall₂ (fun written slot => ∀ token,
        slot.constraint.accepts token ↔ written.Holds (TestPasses written.clause token)) pattern.slots draft.slots ∧
      ∀ slot ∈ pattern.slots, ∀ test ∈ slot.tests, ∀ text, test.value = .regex text →
        ((Regex.meaning? text).isSome ↔ ¬ Regex.ClosesEarly text) ∧
        ∀ meaning ∈ Regex.meaning? text, ∀ token, TestPasses slot.clause token test ↔ (test.negated = false ↔
          ∃ value ∈ test.subjectOf token, Regex.Matches value.toList.toArray meaning 0 value.toList.length) := by
  rw [show ofText source = ofWritten pattern by rw [ofText, read]]
  refine ⟨fun slot member test among text value absent stays => ?_, fun draft accepted => ⟨?_, ?_⟩⟩
  · have refused := constraintOfTest_of_no_regex slot.clause value (Regex.ofSource?_eq_none absent stays)
    refine ⟨refused, ?_⟩
    cases accepted : ofWritten pattern with
    | error cause => exact ⟨cause, rfl, isFault_of_ofWritten accepted⟩
    | ok draft =>
        obtain ⟨constraint, here⟩ := exists_constraint_of_mem accepted slot member test among
        cases refused.symm.trans here
  · exact (follows_slots accepted).imp fun _ _ follows => follows.2
  · intro slot member test among text value
    obtain ⟨constraint, here⟩ := exists_constraint_of_mem accepted slot member test among
    obtain ⟨regex, rfl, passes⟩ := exists_regex_of_constraintOfTest value here
    refine ⟨regex.isSome_meaning?_iff, fun meaning own token => ?_⟩
    rw [passes_iff here, passes, Option.any_eq_true]
    simp only [Regex.accepts_iff_of_meaning own, Option.mem_def]

/-- A choice at the top level of an expression is a choice between whole texts. -/
theorem regex_tests_of_top_level_choice :
    let test : Test := ⟨.plain "lemma", false, .regex "ab|c", "lemma=/ab|c/"⟩
    ∃ pattern draft meaning, Written.Pattern.ofText? "1:[lemma=/ab|c/] 2:[]".toList = some pattern ∧
      ofText "1:[lemma=/ab|c/] 2:[]" = .ok draft ∧ Regex.meaning? "ab|c" = some meaning ∧
      ∀ token, TestPasses "1:[lemma=/ab|c/]" token test ↔
        Regex.Matches token.base.toList.toArray meaning 0 token.base.toList.length := by
  intro test
  have tests : (Written.Pattern.ofText? "1:[lemma=/ab|c/] 2:[]".toList).map
      (fun pattern => (pattern.first.clause, pattern.first.tests)) = some ("1:[lemma=/ab|c/]", [test]) := by
    decide +kernel
  obtain ⟨pattern, read, first⟩ := Option.map_eq_some_iff.mp tests
  obtain ⟨clause, single⟩ := Prod.mk.inj first
  have slots : (ofText "1:[lemma=/ab|c/] 2:[]").toOption.map (fun draft => draft.slots.length) = some 2 := by
    decide +kernel
  obtain ⟨draft, accepted, -⟩ := exists_ok_of_toOption slots
  obtain ⟨meaning, own⟩ := Option.isSome_iff_exists.mp (show (Regex.meaning? "ab|c").isSome by decide +kernel)
  obtain ⟨-, further⟩ := regex_tests_match_whole_texts read
  have among : test ∈ pattern.first.tests := single ▸ List.mem_singleton_self test
  have whole := ((further draft accepted).2 pattern.first List.mem_cons_self test among "ab|c" rfl).2 meaning own
  refine ⟨pattern, draft, meaning, read, accepted, own, fun token => ?_⟩
  rw [← clause, whole token]
  simp [test, Test.subjectOf]

/-- A text that closes the group around it and opens another is no expression on its own, and yet its test is accepted;
a lemma passes that only begins as the text does. -/
theorem accepts_regex_that_closes_early :
    Regex.meaning? "a)|(b" = none ∧ ∃ draft, ofText "1:[lemma=/a)|(b/] 2:[]" = .ok draft ∧
      draft.first.constraint.accepts ⟨"ax", "ax", "NOUN", .empty⟩ := by
  have accepted : (ofText "1:[lemma=/a)|(b/] 2:[]").toOption.map
      (fun draft => draft.first.constraint.accepts ⟨"ax", "ax", "NOUN", .empty⟩) = some true := by
    decide +kernel
  have absent : (Regex.meaning? "a)|(b").isNone := by decide +kernel
  exact ⟨Option.isNone_iff_eq_none.mp absent, exists_ok_of_toOption accepted⟩

end Draft
end Collocation
