import Collocation.Proofs.Pattern.Spelling
import Mathlib.Data.List.Forall2

/-!
# Reading conditions

Blanks and comments are skipped, and each part of a condition is read up to what follows it, as long as that does not
go on with the same part.  `Phrase.recovers` says so for whole conditions, by induction on how they are written.
-/

namespace Collocation
namespace Written

/-! ## Blanks, comments and words -/

theorem afterGaps_comment {body : List Char} (line : '\n' ∉ body) (rest : List Char) :
    afterGaps true (body ++ '\n' :: rest) = afterGaps false rest := by
  induction body with
  | nil => rfl
  | cons char body induction =>
      obtain ⟨here, others⟩ := not_or.mp fun member => line (List.mem_cons.mpr member)
      rw [List.cons_append, afterGaps, bne_iff_ne.mpr (Ne.symm here), induction others]

theorem skip_blank {char : Char} (blank : isGap char = true) (rest : List Char) :
    skip (char :: rest) = skip rest := by
  have solid : char ≠ '/' := by
    rintro rfl
    cases blank
  rw [skip, afterGaps, if_pos blank]
  · rfl
  · rintro - same -
    exact solid same

theorem skip_solid {char : Char} (solid : isGap char = false ∧ char ≠ '/') (rest : List Char) :
    skip (char :: rest) = char :: rest := by
  rw [skip, afterGaps, solid.1, if_neg Bool.false_ne_true]
  rintro - same -
  exact solid.2 same

theorem Spacing.skip {gap : List Char} (spacing : Spacing gap) (rest : List Char) :
    skip (gap ++ rest) = skip rest := by
  induction spacing with
  | empty => rfl
  | blank blank further induction => rw [List.cons_append, skip_blank blank, induction]
  | comment line further induction =>
      rw [Written.skip, List.append_assoc, List.cons_append, List.cons_append, afterGaps, List.cons_append,
        afterGaps_comment line]
      exact induction

theorem Spacing.skip_eq_nil {gap : List Char} (spacing : Spacing gap) : Written.skip gap = [] := by
  have whole := spacing.skip []
  rwa [List.append_nil] at whole

theorem Spacing.skip_cons {gap : List Char} (spacing : Spacing gap) {char : Char}
    (solid : isGap char = false ∧ char ≠ '/') (rest : List Char) :
    Written.skip (gap ++ char :: rest) = char :: rest := by
  rw [spacing.skip, skip_solid solid]

/-- The characters that blanks and comments begin with. -/
def spacingMarks : List Char :=
  [' ', '\t', '\r', '\n', '/']

theorem mem_spacingMarks_iff {char : Char} : char ∈ spacingMarks ↔ isGap char = true ∨ char = '/' := by
  simp [spacingMarks, isGap, or_assoc]

section Words

variable {isWordChar : Char → Bool} {word rest : List Char}

theorem eq_false_of_mem_spacingMarks (apart : spacingMarks.any isWordChar = false) {char : Char}
    (member : char ∈ spacingMarks) : isWordChar char = false :=
  Bool.eq_false_iff.mpr (List.any_eq_false.mp apart char member)

theorem solid_of_apart (apart : spacingMarks.any isWordChar = false) {char : Char} (inside : isWordChar char = true) :
    isGap char = false ∧ char ≠ '/' := by
  have outside : char ∉ spacingMarks := by
    intro member
    rw [eq_false_of_mem_spacingMarks apart member] at inside
    cases inside
  rw [mem_spacingMarks_iff, not_or] at outside
  exact ⟨Bool.eq_false_iff.mpr outside.1, outside.2⟩

theorem Spacing.takeWhile {gap : List Char} (spacing : Spacing gap) (apart : spacingMarks.any isWordChar = false)
    (stop : rest.takeWhile isWordChar = []) : (gap ++ rest).takeWhile isWordChar = [] := by
  have ends {first : Char} (marked : isGap first = true ∨ first = '/') (others : List Char) :
      (first :: others).takeWhile isWordChar = [] := by
    rw [List.takeWhile_cons, eq_false_of_mem_spacingMarks apart (mem_spacingMarks_iff.mpr marked),
      if_neg Bool.false_ne_true]
  cases spacing with
  | empty => exact stop
  | blank blank further => exact ends (.inl blank) _
  | comment line further => exact ends (.inr rfl) _

theorem takeWhile_word (inside : ∀ char ∈ word, isWordChar char = true) (stop : rest.takeWhile isWordChar = []) :
    (word ++ rest).takeWhile isWordChar = word := by
  rw [List.takeWhile_append_of_pos inside, stop, List.append_nil]

theorem dropWhile_word (inside : ∀ char ∈ word, isWordChar char = true) (stop : rest.takeWhile isWordChar = []) :
    (word ++ rest).dropWhile isWordChar = rest := by
  have whole : rest.takeWhile isWordChar ++ rest.dropWhile isWordChar = rest := List.takeWhile_append_dropWhile
  rw [stop, List.nil_append] at whole
  rw [List.dropWhile_append_of_pos inside, whole]

theorem word?_append {first : Char} (letter : first.isAlpha = true)
    (inside : ∀ char ∈ word, isWordChar char = true) (stop : rest.takeWhile isWordChar = []) :
    word? isWordChar (first :: word ++ rest) = some (first :: word, rest) := by
  rw [List.cons_append, word?, if_pos letter, takeWhile_word inside stop, dropWhile_word inside stop]

end Words

theorem takeWhile_isLabelChar {rest : List Char} (stop : rest.takeWhile isKeyChar = []) :
    rest.takeWhile isLabelChar = [] := by
  cases rest with
  | nil => rfl
  | cons char rest =>
      have foreign : isLabelChar char = false := by
        refine Bool.eq_false_iff.mpr fun label => ?_
        rw [List.takeWhile_cons, isKeyChar, label, Bool.true_or, Bool.true_or, if_pos rfl] at stop
        cases stop
      rw [List.takeWhile_cons, foreign, if_neg Bool.false_ne_true]

theorem clauseOf_append (text rest : List Char) : clauseOf (text ++ rest) rest = String.ofList text := by
  rw [clauseOf, List.length_append, Nat.add_sub_cancel, List.take_left]

/-! ## Tests -/

theorem attribute?_plain {name : String} {rest : List Char} (letter : name.toList.head?.any Char.isAlpha = true)
    (inside : name.toList.all isLabelChar = true) (other : name ≠ "feats")
    (stop : rest.takeWhile isLabelChar = []) : attribute? (name.toList ++ rest) = some (.plain name, rest) := by
  rw [List.all_eq_true] at inside
  rw [attribute?]
  · cases chars : name.toList with
    | nil =>
        rw [chars] at letter
        cases letter
    | cons first word =>
        rw [chars] at letter inside
        rw [word?_append letter (List.forall_mem_cons.mp inside).2 stop, Option.map_some, ← chars,
          String.ofList_toList]
  · intro found same
    have taken := congrArg (List.takeWhile isLabelChar) same
    rw [takeWhile_word inside stop] at taken
    exact other (String.toList_injective taken)

theorem attribute?_feature {key : String} (named : IsKey key) {rest : List Char}
    (stop : rest.takeWhile isKeyChar = []) :
    attribute? ("feats.".toList ++ key.toList ++ rest) = some (.feature key, rest) := by
  obtain ⟨first, others, chars, letter, inside⟩ := named
  have found := word?_append letter inside stop
  rw [← chars] at found
  have begun : "feats.".toList ++ key.toList ++ rest =
      'f' :: 'e' :: 'a' :: 't' :: 's' :: '.' :: (key.toList ++ rest) := rfl
  rw [begun, attribute?, found]
  simp only [String.ofList_toList]

/-- The name of what a test looks at is read, and it makes the constraint. -/
theorem Subject.reads {test : TextTest} {constraint : Constraint} {name : List Char}
    (subject : Subject test constraint name) :
    ∃ looksAt,
      (∀ rest : List Char, rest.takeWhile isKeyChar = [] → attribute? (name ++ rest) = some (looksAt, rest)) ∧
      ∀ clause negated value part,
        Draft.attributeTest clause ⟨looksAt, negated, value, part⟩ test = .ok constraint := by
  have plain (name : String) (letter : name.toList.head?.any Char.isAlpha = true)
      (inside : name.toList.all isLabelChar = true) (other : name ≠ "feats") :
      ∀ rest : List Char, rest.takeWhile isKeyChar = [] →
        attribute? (name.toList ++ rest) = some (.plain name, rest) := fun rest stop =>
    attribute?_plain letter inside other (takeWhile_isLabelChar stop)
  cases subject with
  | base => exact ⟨_, plain "lemma" (by decide) (by decide) (by decide), fun _ _ _ _ => rfl⟩
  | form => exact ⟨_, plain "form" (by decide) (by decide) (by decide), fun _ _ _ _ => rfl⟩
  | word => exact ⟨_, plain "word" (by decide) (by decide) (by decide), fun _ _ _ _ => rfl⟩
  | partOfSpeech => exact ⟨_, plain "pos" (by decide) (by decide) (by decide), fun _ _ _ _ => rfl⟩
  | tag => exact ⟨_, plain "tag" (by decide) (by decide) (by decide), fun _ _ _ _ => rfl⟩
  | feature named => exact ⟨_, fun rest stop => attribute?_feature named stop, fun _ _ _ _ => rfl⟩

theorem skip_text {test : TextTest} (expressible : test.IsExpressible) (rest : List Char) :
    skip (test.text ++ rest) = test.text ++ rest := by
  cases test with
  | literal text => exact skip_solid (by decide) _
  | regex pattern =>
      cases chars : pattern.source.toList with
      | nil => exact absurd (String.toList_eq_nil_iff.mp chars) expressible.1
      | cons first others =>
          have free := expressible.2
          rw [chars] at free
          rw [TextTest.text, chars, List.cons_append, List.cons_append, skip, afterGaps]
          · rfl
          · rintro later - same
            exact free ((List.cons.inj same).1 ▸ List.mem_cons_self)

theorem value?_text {test : TextTest} (expressible : test.IsExpressible) :
    ∃ value, (∀ rest, value? (test.text ++ rest) = some (value, rest)) ∧
      ∀ looksAt negated part, Draft.textTest ⟨looksAt, negated, value, part⟩ = .ok test := by
  cases test with
  | literal text =>
      refine ⟨.literal text, fun rest => ?_, fun _ _ _ => rfl⟩
      rw [TextTest.text, List.append_assoc, List.cons_append, value?, List.singleton_append,
        Text.cut?_append rest expressible, Option.map_some, String.ofList_toList]
  | regex pattern =>
      refine ⟨.regex pattern.source, fun rest => ?_, fun _ _ _ => ?_⟩
      · rw [TextTest.text, List.append_assoc, List.cons_append, value?, List.singleton_append,
          Text.cut?_append rest expressible.2, Option.map_some, String.ofList_toList]
      · simp only [Draft.textTest, Regex.ofSource?_source]

theorem test?_text {test : TextTest} {constraint : Constraint} {name before behind : List Char} (mark : List Char)
    (negated : Bool) (subject : Subject test constraint name) (expressible : test.IsExpressible)
    (left : Spacing before) (right : Spacing behind) (begun : ∀ rest, skip (mark ++ rest) = mark ++ rest)
    (ended : ∀ rest, (mark ++ rest).takeWhile isKeyChar = [])
    (compared : ∀ rest, comparison? (mark ++ rest) = some (negated, rest)) :
    ∃ written : Test,
      (∀ rest, test? (name ++ before ++ (mark ++ behind) ++ test.text ++ rest) = some (written, rest)) ∧
      ∀ clause, Draft.constraintOfTest clause written =
        .ok (if negated then .not constraint else constraint) := by
  obtain ⟨looksAt, named, constrains⟩ := subject.reads
  obtain ⟨value, valued, compares⟩ := value?_text expressible
  refine ⟨⟨looksAt, negated, value, String.ofList (name ++ before ++ (mark ++ behind) ++ test.text)⟩,
    fun rest => ?_, fun clause => ?_⟩
  · have clause := clauseOf_append (name ++ before ++ (mark ++ behind) ++ test.text) rest
    have stop := left.takeWhile (by decide) (ended (behind ++ (test.text ++ rest)))
    simp only [List.append_assoc] at clause ⊢
    rw [test?, named _ stop]
    simp only [Option.bind_eq_bind, Option.bind_some, left.skip, begun, compared, right.skip,
      skip_text expressible, valued, clause]
  · rw [Draft.constraintOfTest, compares]
    exact congrArg (Except.map _) (constrains clause negated value _)

/-! ## Conditions -/

/-- How a text with conditions begins: an exclamation mark does not stand before a positive one. -/
def Opens (level : Level) (text : List Char) : Prop :=
  ∃ first others, text = first :: others ∧
    (first.isAlpha = true ∨ first = '(' ∨ first = '!' ∧ level ≠ .positive)

theorem Opens.append {level other : Level} {text : List Char} (opens : Opens level text) (loose : other ≠ .positive)
    (more : List Char) : Opens other (text ++ more) := by
  obtain ⟨first, others, rfl, letter | parenthesis | mark⟩ := opens
  · exact ⟨first, others ++ more, rfl, .inl letter⟩
  · exact ⟨first, others ++ more, rfl, .inr (.inl parenthesis)⟩
  · exact ⟨first, others ++ more, rfl, .inr (.inr ⟨mark.1, loose⟩)⟩

theorem Opens.loosen {level other : Level} {text : List Char} (opens : Opens level text) (loose : other ≠ .positive) :
    Opens other text := by
  have whole := opens.append loose []
  rwa [List.append_nil] at whole

theorem Subject.letter {test : TextTest} {constraint : Constraint} {name : List Char}
    (subject : Subject test constraint name) :
    ∃ first others, name = first :: others ∧ first.isAlpha = true := by
  cases subject <;> exact ⟨_, _, rfl, by decide⟩

theorem Phrase.opens {level : Level} {parts : List Constraint} {text : List Char} (phrase : Phrase level parts text) :
    Opens level text := by
  induction phrase with
  | test subject expressible left right =>
      obtain ⟨first, others, rfl, letter⟩ := subject.letter
      exact ⟨first, _, rfl, .inl letter⟩
  | unequal subject expressible left right =>
      obtain ⟨first, others, rfl, letter⟩ := subject.letter
      exact ⟨first, _, rfl, .inl letter⟩
  | group left phrase right => exact ⟨_, _, rfl, .inr (.inl rfl)⟩
  | plain phrase induction => exact induction.loosen (by decide)
  | negated gap phrase => exact ⟨_, _, rfl, .inr (.inr ⟨rfl, by decide⟩)⟩
  | operand phrase induction => exact induction.loosen (by decide)
  | conjunct marked phrase left right further induction =>
      rw [List.append_assoc, List.append_assoc]
      exact induction.append (by decide) _
  | conjuncts phrase induction => exact induction.loosen (by decide)
  | alternative phrase left right further induction =>
      rw [List.append_assoc, List.append_assoc]
      exact induction.append (by decide) _

theorem Opens.solid {level : Level} {text : List Char} (opens : Opens level text) :
    ∃ first others, text = first :: others ∧ (isGap first = false ∧ first ≠ '/') ∧ first ≠ ']' := by
  obtain ⟨first, others, same, letter | rfl | ⟨rfl, -⟩⟩ := opens
  · refine ⟨first, others, same, solid_of_apart (by decide) letter, ?_⟩
    rintro rfl
    cases letter
  · exact ⟨_, others, same, by decide⟩
  · exact ⟨_, others, same, by decide⟩

theorem Opens.skip {level : Level} {text : List Char} (opens : Opens level text) (rest : List Char) :
    skip (text ++ rest) = text ++ rest := by
  obtain ⟨first, others, rfl, solid, -⟩ := opens.solid
  exact skip_solid solid _

/-- A condition that has a constraint, whatever text a message about it would quote. -/
def Means (condition : Condition) (constraint : Constraint) : Prop :=
  ∀ clause, Draft.constraintOf clause condition = .ok constraint

section Means

variable {conditions : List Condition} {parts : List Constraint}

theorem constraintsOf_of_means (means : List.Forall₂ Means conditions parts) (clause : String) :
    Draft.constraintsOf clause conditions = .ok parts := by
  induction means with
  | nil => rfl
  | cons first means induction =>
      rw [Draft.constraintsOf, first clause, induction]
      rfl

theorem means_all (means : List.Forall₂ Means conditions parts) : Means (.all conditions) (.all parts) := by
  intro clause
  rw [Draft.constraintOf, constraintsOf_of_means means]
  rfl

theorem means_oneOf (means : List.Forall₂ Means conditions parts) : Means (.oneOf conditions) (.oneOf parts) := by
  intro clause
  rw [Draft.constraintOf, constraintsOf_of_means means]
  rfl

theorem means_allOf (means : List.Forall₂ Means conditions parts) : Means (.allOf conditions) (.allOf parts) := by
  cases means with
  | nil => exact means_all .nil
  | cons first others =>
      cases others with
      | nil => exact first
      | cons second others => exact means_all (.cons first (.cons second others))

theorem means_anyOf (means : List.Forall₂ Means conditions parts) : Means (.anyOf conditions) (.anyOf parts) := by
  cases means with
  | nil => exact means_oneOf .nil
  | cons first others =>
      cases others with
      | nil => exact first
      | cons second others => exact means_oneOf (.cons first (.cons second others))

theorem Means.not {condition : Condition} {constraint : Constraint} (means : Means condition constraint) :
    Means (.not condition) (.not constraint) := by
  intro clause
  rw [Draft.constraintOf, means clause]
  rfl

end Means

/-- What follows conditions and does not go on with them: behind blanks and comments stands none of some marks. -/
def Ends (marks : List Char) (rest : List Char) : Prop :=
  ∀ mark ∈ marks, ∀ others, skip rest ≠ mark :: others

/-- Reading a text at a level gives, whatever follows, conditions with some constraints.  Four units of fuel for each
character are enough for alternatives, and a level further down needs one unit less. -/
def Recovers : Level → List Constraint → List Char → Prop
  | .positive, parts, text => ∃ condition, List.Forall₂ Means [condition] parts ∧
      ∀ fuel rest, 4 * text.length ≤ fuel + 3 → positive? fuel (text ++ rest) = some (condition, rest)
  | .operand, parts, text => ∃ condition, List.Forall₂ Means [condition] parts ∧
      ∀ fuel rest, 4 * text.length ≤ fuel + 2 → operand? fuel (text ++ rest) = some (condition, rest)
  | .conjuncts, parts, text => ∃ conditions, List.Forall₂ Means conditions parts ∧
      ∀ fuel rest, 4 * text.length ≤ fuel + 1 → Ends ['&', ','] rest →
        conjuncts? fuel (text ++ rest) = some (conditions, rest)
  | .alternatives, parts, text => ∃ conditions, List.Forall₂ Means conditions parts ∧
      ∀ fuel rest, 4 * text.length ≤ fuel → Ends ['&', ',', '|'] rest →
        alternatives? fuel (text ++ rest) = some (conditions, rest)

theorem Spacing.ends {gap marks : List Char} {char : Char} (spacing : Spacing gap)
    (solid : isGap char = false ∧ char ≠ '/') (foreign : char ∉ marks) (rest : List Char) :
    Ends marks (gap ++ char :: rest) := by
  intro mark member others
  rw [spacing.skip_cons solid]
  exact fun same => foreign ((List.cons.inj same).1 ▸ member)

section Steps

variable {constraint : Constraint} {parts alternatives : List Constraint}
  {text before inner behind first others : List Char}

theorem recovers_test {written : Test} (named : ∃ first others, text = first :: others ∧ first.isAlpha = true)
    (reads : ∀ rest, test? (text ++ rest) = some (written, rest))
    (means : ∀ clause, Draft.constraintOfTest clause written = .ok constraint) :
    Recovers .positive [constraint] text := by
  obtain ⟨first, others, rfl, letter⟩ := named
  refine ⟨.test written, .cons means .nil, fun fuel rest enough => ?_⟩
  rw [List.length_cons] at enough
  obtain ⟨fuel, rfl⟩ := Nat.exists_eq_add_one_of_ne_zero (show fuel ≠ 0 by omega)
  have parenthesis : first ≠ '(' := by
    rintro rfl
    cases letter
  rw [List.cons_append, positive?]
  · rw [← List.cons_append, reads, Option.map_some]
  · intro later same
    exact parenthesis (List.cons.inj same).1

theorem recovers_group (left : Spacing before) (opens : Opens .alternatives inner)
    (recovers : Recovers .alternatives parts inner) (right : Spacing behind) :
    Recovers .positive [.anyOf parts] ('(' :: before ++ inner ++ behind ++ [')']) := by
  obtain ⟨conditions, means, reads⟩ := recovers
  refine ⟨.anyOf conditions, .cons (means_anyOf means) .nil, fun fuel rest enough => ?_⟩
  simp only [List.length_append, List.length_cons, List.length_nil] at enough
  have whole : '(' :: before ++ inner ++ behind ++ [')'] ++ rest =
      '(' :: (before ++ (inner ++ (behind ++ ')' :: rest))) := by simp
  obtain ⟨fuel, rfl⟩ := Nat.exists_eq_add_one_of_ne_zero (show fuel ≠ 0 by omega)
  have ends : Ends ['&', ',', '|'] (behind ++ ')' :: rest) := right.ends (by decide) (by decide) rest
  rw [whole, positive?, left.skip, opens.skip, reads fuel _ (by omega) ends]
  simp only [Option.bind_eq_bind, Option.bind_some, right.skip_cons (by decide : isGap ')' = false ∧ ')' ≠ '/')]

theorem recovers_plain (opens : Opens .positive text) (recovers : Recovers .positive [constraint] text) :
    Recovers .operand [constraint] text := by
  obtain ⟨condition, means, reads⟩ := recovers
  refine ⟨condition, means, fun fuel rest enough => ?_⟩
  obtain ⟨first, others, rfl, begun⟩ := opens
  rw [List.length_cons] at enough
  obtain ⟨fuel, rfl⟩ := Nat.exists_eq_add_one_of_ne_zero (show fuel ≠ 0 by omega)
  have mark : first ≠ '!' := by
    rintro rfl
    revert begun
    decide
  rw [List.cons_append, operand?, ← List.cons_append, reads fuel rest (by omega)]
  intro later same
  exact mark (List.cons.inj same).1

theorem recovers_negated (gap : Spacing before) (opens : Opens .positive text)
    (recovers : Recovers .positive [constraint] text) :
    Recovers .operand [.not constraint] ('!' :: before ++ text) := by
  obtain ⟨condition, means, reads⟩ := recovers
  obtain ⟨means, -⟩ := List.forall₂_cons.mp means
  refine ⟨.not condition, .cons means.not .nil, fun fuel rest enough => ?_⟩
  simp only [List.length_append, List.length_cons] at enough
  obtain ⟨fuel, rfl⟩ := Nat.exists_eq_add_one_of_ne_zero (show fuel ≠ 0 by omega)
  rw [List.cons_append, List.cons_append, List.append_assoc, operand?, gap.skip, opens.skip,
    reads fuel rest (by omega), Option.map_some]

theorem recovers_operand (opens : Opens .operand text) (recovers : Recovers .operand [constraint] text) :
    Recovers .conjuncts [constraint] text := by
  obtain ⟨condition, means, reads⟩ := recovers
  refine ⟨[condition], means, fun fuel rest enough ends => ?_⟩
  obtain ⟨first, others, rfl, -⟩ := opens
  rw [List.length_cons] at enough
  obtain ⟨fuel, rfl⟩ := Nat.exists_eq_add_one_of_ne_zero (show fuel ≠ 0 by omega)
  have apart {char : Char} {later : List Char} (next : skip rest = char :: later) : ¬(char = '&' ∨ char = ',') := by
    rintro (rfl | rfl)
    · exact ends '&' (by decide) later next
    · exact ends ',' (by decide) later next
  rw [conjuncts?, reads fuel rest (by omega)]
  simp only [Option.bind_eq_bind, Option.bind_some]
  cases next : skip rest with
  | nil => rfl
  | cons char later => exact if_neg (apart next)

theorem recovers_conjunct {mark : Char} (marked : mark = '&' ∨ mark = ',')
    (recovers : Recovers .operand [constraint] first) (left : Spacing before) (right : Spacing behind)
    (opens : Opens .conjuncts others) (further : Recovers .conjuncts parts others) :
    Recovers .conjuncts (constraint :: parts) (first ++ before ++ mark :: behind ++ others) := by
  obtain ⟨condition, means, reads⟩ := recovers
  obtain ⟨conditions, moreMeans, moreReads⟩ := further
  obtain ⟨means, -⟩ := List.forall₂_cons.mp means
  refine ⟨condition :: conditions, .cons means moreMeans, fun fuel rest enough ends => ?_⟩
  simp only [List.length_append, List.length_cons] at enough
  have solid : isGap mark = false ∧ mark ≠ '/' := by rcases marked with rfl | rfl <;> decide
  obtain ⟨fuel, rfl⟩ := Nat.exists_eq_add_one_of_ne_zero (show fuel ≠ 0 by omega)
  simp only [List.append_assoc, List.cons_append]
  rw [conjuncts?, reads fuel _ (by omega)]
  simp only [Option.bind_eq_bind, Option.bind_some, left.skip_cons solid, if_pos marked, right.skip, opens.skip,
    moreReads fuel rest (by omega) ends]

theorem recovers_conjuncts (opens : Opens .conjuncts text) (recovers : Recovers .conjuncts parts text) :
    Recovers .alternatives [.allOf parts] text := by
  obtain ⟨conditions, means, reads⟩ := recovers
  refine ⟨[.allOf conditions], .cons (means_allOf means) .nil, fun fuel rest enough ends => ?_⟩
  obtain ⟨first, others, rfl, -⟩ := opens
  rw [List.length_cons] at enough
  obtain ⟨fuel, rfl⟩ := Nat.exists_eq_add_one_of_ne_zero (show fuel ≠ 0 by omega)
  have inner : Ends ['&', ','] rest := fun mark member => ends mark (List.mem_append_left ['|'] member)
  rw [alternatives?, reads fuel rest (by omega) inner]
  simp only [Option.bind_eq_bind, Option.bind_some]
  split
  · next later next => exact absurd next (ends '|' (by decide) later)
  · rfl

theorem recovers_alternative (left : Spacing before) (right : Spacing behind)
    (recovers : Recovers .conjuncts parts first) (opens : Opens .alternatives others)
    (further : Recovers .alternatives alternatives others) :
    Recovers .alternatives (.allOf parts :: alternatives) (first ++ before ++ '|' :: behind ++ others) := by
  obtain ⟨conditions, means, reads⟩ := recovers
  obtain ⟨more, moreMeans, moreReads⟩ := further
  refine ⟨.allOf conditions :: more, .cons (means_allOf means) moreMeans, fun fuel rest enough ends => ?_⟩
  simp only [List.length_append, List.length_cons] at enough
  obtain ⟨fuel, rfl⟩ := Nat.exists_eq_add_one_of_ne_zero (show fuel ≠ 0 by omega)
  have bar : isGap '|' = false ∧ '|' ≠ '/' := by decide
  have inner : Ends ['&', ','] (before ++ '|' :: (behind ++ (others ++ rest))) := left.ends bar (by decide) _
  simp only [List.append_assoc, List.cons_append]
  rw [alternatives?, reads fuel _ (by omega) inner]
  simp only [Option.bind_eq_bind, Option.bind_some, left.skip_cons bar, right.skip, opens.skip,
    moreReads fuel rest (by omega) ends]

end Steps

/-- Every way to write conditions is read back, whatever follows. -/
theorem Phrase.recovers {level : Level} {parts : List Constraint} {text : List Char}
    (phrase : Phrase level parts text) : Recovers level parts text := by
  induction phrase with
  | test subject expressible left right =>
      obtain ⟨written, reads, means⟩ := test?_text ['='] false subject expressible left right
        (skip_solid (by decide)) (fun _ => rfl) (fun _ => rfl)
      obtain ⟨first, others, rfl, letter⟩ := subject.letter
      exact recovers_test ⟨first, _, rfl, letter⟩ reads means
  | unequal subject expressible left right =>
      obtain ⟨written, reads, means⟩ := test?_text ['!', '='] true subject expressible left right
        (fun rest => skip_solid (by decide) ('=' :: rest)) (fun _ => rfl) (fun _ => rfl)
      obtain ⟨first, others, rfl, letter⟩ := subject.letter
      exact recovers_test ⟨first, _, rfl, letter⟩ reads means
  | group left phrase right induction => exact recovers_group left phrase.opens induction right
  | plain phrase induction => exact recovers_plain phrase.opens induction
  | negated gap phrase induction => exact recovers_negated gap phrase.opens induction
  | operand phrase induction => exact recovers_operand phrase.opens induction
  | conjunct marked phrase left right further induction furtherInduction =>
      exact recovers_conjunct marked induction left right further.opens furtherInduction
  | conjuncts phrase induction => exact recovers_conjuncts phrase.opens induction
  | alternative phrase left right further induction furtherInduction =>
      exact recovers_alternative left right induction further.opens furtherInduction

end Written
end Collocation
