import Collocation.Proofs.Pattern.Conditions

/-!
# Reading back what was written

The reader of patterns undoes every way to write a draft.  Slots, gaps and agreement rules are each read whatever
follows, and from the pieces the draft is put together again.
-/

namespace Collocation
namespace Written

/-! ## Slots and gaps -/

theorem IsLabel.exists_cons {label : String} (word : IsLabel label) :
    ∃ first others, label.toList = first :: others ∧ isLabelChar first = true := by
  cases chars : label.toList with
  | nil => exact absurd (String.toList_eq_nil_iff.mp chars) word.nonempty
  | cons first others => exact ⟨first, others, rfl, word.chars first (chars ▸ List.mem_cons_self)⟩

theorem solid_of_isLabelChar {char : Char} (label : isLabelChar char = true) : isGap char = false ∧ char ≠ '/' :=
  solid_of_apart (by decide) label

theorem label?_text {label : Option String} {header : List Char} (headed : Draft.Header label header)
    (rest : List Char) : label? (header ++ '[' :: rest) = (label, '[' :: rest) := by
  cases headed with
  | none => rfl
  | @label label before behind word left right =>
      obtain ⟨first, others, chars, -⟩ := word.exists_cons
      have whole : label.toList ++ before ++ ':' :: behind ++ '[' :: rest =
          label.toList ++ (before ++ ':' :: (behind ++ '[' :: rest)) := by simp
      have stop : (before ++ ':' :: (behind ++ '[' :: rest)).takeWhile isLabelChar = [] :=
        left.takeWhile (by decide) rfl
      rw [whole, label?, takeWhile_word word.chars stop, dropWhile_word word.chars stop,
        left.skip_cons (by decide), chars]
      change (some (String.ofList (first :: others)), skip (behind ++ '[' :: rest)) = _
      rw [right.skip_cons (by decide), ← chars, String.ofList_toList]

/-- The text of a slot begins with its label or with its bracket. -/
theorem begins_of_spelling {slot : Draft.Slot} {text : List Char} (spelled : slot.Spelling text) :
    ∃ first others, text = first :: others ∧ (isLabelChar first = true ∨ first = '[') := by
  obtain ⟨label, constraint, clause⟩ := slot
  obtain ⟨-, header, body, headed, -, rfl⟩ := spelled
  cases headed with
  | none => exact ⟨_, _, rfl, .inr rfl⟩
  | label word left right =>
      obtain ⟨first, others, chars, label⟩ := word.exists_cons
      rw [chars]
      exact ⟨first, _, rfl, .inl label⟩

theorem slot?_body {label : Option String} {constraint : Constraint} {header body : List Char}
    (headed : Draft.Header label header) (constrained : Draft.Body constraint body) :
    ∃ written : Slot, (∀ rest, slot? (header ++ '[' :: body ++ [']'] ++ rest) = some (written, rest)) ∧
      Draft.Slot.ofWritten written = .ok ⟨label, constraint, String.ofList (header ++ '[' :: body ++ [']'])⟩ := by
  have bracket : isGap ']' = false ∧ ']' ≠ '/' := by decide
  have split (body rest : List Char) :
      header ++ '[' :: body ++ [']'] ++ rest = header ++ '[' :: (body ++ ']' :: rest) := by simp
  have clause (body rest : List Char) : clauseOf (header ++ '[' :: (body ++ ']' :: rest)) rest =
      String.ofList (header ++ '[' :: body ++ [']']) := by
    rw [← split, clauseOf_append]
  cases constrained with
  | free inner =>
      refine ⟨⟨label, none, String.ofList (header ++ '[' :: body ++ [']'])⟩, fun rest => ?_, rfl⟩
      rw [split, slot?, label?_text headed]
      simp only [inner.skip_cons bracket, clause]
  | @constrained parts before text behind left phrase right =>
      obtain ⟨conditions, means, reads⟩ := phrase.recovers
      refine ⟨⟨label, some (.anyOf conditions), String.ofList (header ++ '[' :: (before ++ text ++ behind) ++ [']'])⟩,
        fun rest => ?_, ?_⟩
      · have inner : skip (before ++ text ++ behind ++ ']' :: rest) = text ++ (behind ++ ']' :: rest) := by
          rw [List.append_assoc, List.append_assoc, left.skip, phrase.opens.skip]
        have ends : Ends ['&', ',', '|'] (behind ++ ']' :: rest) := right.ends bracket (by decide) rest
        obtain ⟨first, others, same, -, closing⟩ := phrase.opens.solid
        rw [split, slot?, label?_text headed]
        simp only [inner]
        split
        · next later next =>
            rw [same] at next
            exact absurd (List.cons.inj next).1 closing
        · have enough : 4 * text.length ≤ 4 * (text ++ (behind ++ ']' :: rest)).length + 4 := by
            rw [List.length_append]
            omega
          simp only [reads _ _ enough ends, Option.bind_eq_bind, Option.bind_some, right.skip_cons bracket, clause]
      · rw [Draft.Slot.ofWritten]
        simp only [means_anyOf means _]
        rfl

theorem slot?_text {slot : Draft.Slot} {text : List Char} (spelled : slot.Spelling text) :
    ∃ written : Slot, (∀ rest, slot? (text ++ rest) = some (written, rest)) ∧
      Draft.Slot.ofWritten written = .ok slot := by
  obtain ⟨clause, header, body, headed, constrained, rfl⟩ := spelled
  obtain ⟨written, reads, made⟩ := slot?_body headed constrained
  exact ⟨written, reads, made.trans (congrArg _ (by rw [← clause]))⟩

theorem natural?_digits {digits : List Char} (nonempty : digits ≠ [])
    (only : ∀ digit ∈ digits, digit.isDigit = true) : Text.natural? digits = some (Text.decimalValue digits) := by
  rw [Text.natural?, if_pos ⟨nonempty, List.all_eq_true.mpr only⟩]

theorem bound?_text {value : Int} {text rest : List Char} (bound : Draft.Bound value text)
    (stop : rest.takeWhile Char.isDigit = []) :
    bound? (text ++ rest) = some (text, rest) ∧ Text.signed? text = some value := by
  cases bound with
  | plain nonempty only bounded =>
      obtain ⟨first, others, rfl⟩ := List.exists_cons_of_ne_nil nonempty
      have digit := only first List.mem_cons_self
      have unsigned (sign : Char) (foreign : sign.isDigit = false) : first ≠ sign := by
        rintro rfl
        rw [foreign] at digit
        cases digit
      constructor
      · unfold bound?
        split
        next sign text read =>
          split at read
          · next later same => exact absurd (List.cons.inj same).1 (unsigned '-' (by decide))
          · cases read
            simp only [takeWhile_word only stop, dropWhile_word only stop, List.nil_append]
      · unfold Text.signed?
        split
        · next later same => exact absurd (List.cons.inj same).1 (unsigned '-' (by decide))
        · next later same => exact absurd (List.cons.inj same).1 (unsigned '+' (by decide))
        · simp only [natural?_digits nonempty only, Option.bind_some, if_pos bounded]
  | minus nonempty only bounded =>
      obtain ⟨first, others, rfl⟩ := List.exists_cons_of_ne_nil nonempty
      constructor
      · rw [List.cons_append, bound?]
        simp only [takeWhile_word only stop, dropWhile_word only stop, List.singleton_append]
      · rw [Text.signed?]
        simp only [natural?_digits nonempty only, Option.bind_some, if_pos bounded]

theorem solid_of_bound {value : Int} {text : List Char} (bound : Draft.Bound value text) :
    ∃ first others, text = first :: others ∧ isGap first = false ∧ first ≠ '/' := by
  cases bound with
  | plain nonempty only bounded =>
      obtain ⟨first, others, rfl⟩ := List.exists_cons_of_ne_nil nonempty
      have digit := only first List.mem_cons_self
      exact ⟨first, others, rfl, solid_of_apart (by decide) digit⟩
  | minus nonempty only bounded => exact ⟨_, _, rfl, by decide⟩

theorem bounds?_text {gap : Draft.Gap} {text : List Char} (spelled : gap.Spelling text) :
    ∃ written : Bounds, (∀ rest, bounds? (text ++ rest) = some (some written, skip rest)) ∧
      Draft.Gap.ofWritten written = .ok gap := by
  obtain ⟨clause, opened, least, between, behind, most, closed, leastBound, mostBound, left, inner, right, last,
    rfl⟩ := spelled
  have digits : spacingMarks.any Char.isDigit = false := by decide
  have comma : isGap ',' = false ∧ ',' ≠ '/' := by decide
  have brace : isGap '\x7d' = false ∧ '\x7d' ≠ '/' := by decide
  have skipped {value : Int} {gap text : List Char} (spacing : Spacing gap) (bound : Draft.Bound value text)
      (rest : List Char) : skip (gap ++ (text ++ rest)) = text ++ rest := by
    obtain ⟨first, others, rfl, solid⟩ := solid_of_bound bound
    exact spacing.skip_cons solid _
  refine ⟨⟨least, most, gap.clause⟩, fun rest => ?_, ?_⟩
  · have part := clauseOf_append
      ('\x7b' :: opened ++ least ++ between ++ ',' :: behind ++ most ++ closed ++ ['\x7d']) rest
    have leastEnds (later : List Char) : (between ++ ',' :: later).takeWhile Char.isDigit = [] :=
      inner.takeWhile digits rfl
    have mostEnds : (closed ++ '\x7d' :: rest).takeWhile Char.isDigit = [] := last.takeWhile digits rfl
    rw [← clause] at part
    simp only [List.append_assoc, List.cons_append, List.nil_append] at part ⊢
    rw [bounds?, skipped left leastBound, (bound?_text leastBound (leastEnds _)).1]
    simp only [Option.bind_eq_bind, Option.bind_some, inner.skip_cons comma, skipped right mostBound,
      (bound?_text mostBound mostEnds).1, last.skip_cons brace, part]
  · have nothing : ([] : List Char).takeWhile Char.isDigit = [] := rfl
    rw [Draft.Gap.ofWritten, (bound?_text leastBound nothing).2, (bound?_text mostBound nothing).2]

/-! ## Sequences of slots -/

/-- Where a slot begins, the reader goes on with a slot and finds no gap. -/
theorem slot_of_spelling {slot : Draft.Slot} {text : List Char} (spelled : slot.Spelling text) (rest : List Char) :
    0 < text.length ∧ skip (text ++ rest) = text ++ rest ∧ beginsSlot (text ++ rest) = true ∧
      bounds? (text ++ rest) = some (none, text ++ rest) := by
  obtain ⟨first, others, rfl, begun⟩ := begins_of_spelling spelled
  have solid : isGap first = false ∧ first ≠ '/' := by
    rcases begun with label | rfl
    · exact solid_of_isLabelChar label
    · decide
  have brace : first ≠ '\x7b' := by
    rintro rfl
    revert begun
    decide
  refine ⟨Nat.succ_pos _, skip_solid solid _, ?_, ?_⟩
  · rcases begun with label | rfl
    · simp [beginsSlot, label]
    · rfl
  · rw [List.cons_append, bounds?]
    intro later same
    exact brace (List.cons.inj same).1

theorem gap_of_spelling {gap : Draft.Gap} {text : List Char} (spelled : gap.Spelling text) (rest : List Char) :
    skip (text ++ rest) = text ++ rest ∧ beginsSlot (text ++ rest) = true := by
  obtain ⟨-, opened, least, between, behind, most, closed, -, -, -, -, -, -, rfl⟩ := spelled
  exact ⟨skip_solid (by decide) _, rfl⟩

theorem furtherSlots?_text {steps : List (Option Draft.Gap × Draft.Slot)} {text : List Char}
    (spelled : Draft.Steps steps text) :
    ∃ written, (∀ fuel more, text.length < fuel → beginsSlot (skip more) = false →
        furtherSlots? fuel (text ++ more) = some (written, skip more)) ∧
      Draft.stepsOfWritten written = .ok steps := by
  induction spelled with
  | nil =>
      refine ⟨[], fun fuel more enough ended => ?_, rfl⟩
      cases fuel with
      | zero => exact absurd enough (Nat.not_lt_zero _)
      | succ fuel => simp only [List.nil_append, furtherSlots?, ended, Bool.false_eq_true, if_false]
  | @slot slot rest before text others left spelled further induction =>
      obtain ⟨slots, reads, made⟩ := induction
      obtain ⟨written, slotReads, slotMade⟩ := slot?_text spelled
      refine ⟨(none, written) :: slots, fun fuel more enough ended => ?_, ?_⟩
      · obtain ⟨nonempty, begun, isSlot, noGap⟩ := slot_of_spelling spelled (others ++ more)
        simp only [List.length_append] at enough
        cases fuel with
        | zero => exact absurd enough (Nat.not_lt_zero _)
        | succ fuel =>
            simp only [List.append_assoc, furtherSlots?, left.skip, begun, isSlot, noGap, slotReads,
              reads fuel more (by omega) ended, if_true, Option.bind_eq_bind, Option.bind_some]
      · simp only [Draft.stepsOfWritten, slotMade, made]
        rfl
  | @gap gap slot rest before bounds between text others left bounded inner spelled further induction =>
      obtain ⟨slots, reads, made⟩ := induction
      obtain ⟨written, slotReads, slotMade⟩ := slot?_text spelled
      obtain ⟨range, rangeReads, rangeMade⟩ := bounds?_text bounded
      refine ⟨(some range, written) :: slots, fun fuel more enough ended => ?_, ?_⟩
      · obtain ⟨nonempty, begun, -, -⟩ := slot_of_spelling spelled (others ++ more)
        obtain ⟨gapBegun, isSlot⟩ := gap_of_spelling bounded (between ++ (text ++ (others ++ more)))
        simp only [List.length_append] at enough
        cases fuel with
        | zero => exact absurd enough (Nat.not_lt_zero _)
        | succ fuel =>
            simp only [List.append_assoc, furtherSlots?, left.skip, gapBegun, isSlot, rangeReads, inner.skip, begun,
              slotReads, reads fuel more (by omega) ended, if_true, Option.bind_eq_bind, Option.bind_some]
      · simp only [Draft.stepsOfWritten, rangeMade, slotMade, made]
        rfl

/-! ## Agreement rules -/

theorem reference?_text {reference : Reference} (expressible : reference.IsExpressible) {rest : List Char}
    (stop : rest.takeWhile isKeyChar = []) : reference? (reference.text ++ rest) = some (reference, rest) := by
  obtain ⟨word, first, others, keyChars, letter, inside⟩ := expressible
  obtain ⟨front, label, chars, -⟩ := word.exists_cons
  have whole : reference.text ++ rest = reference.label.toList ++ '.' :: (first :: others ++ rest) := by
    rw [Reference.text, keyChars, List.append_assoc, List.cons_append]
  have point (later : List Char) : ('.' :: later).takeWhile isLabelChar = [] := rfl
  rw [whole, reference?, takeWhile_word word.chars (point _), dropWhile_word word.chars (point _), chars]
  simp only [word?_append letter inside stop, Option.map_some]
  rw [← chars, ← keyChars, String.ofList_toList, String.ofList_toList]

theorem skip_reference {reference : Reference} (expressible : reference.IsExpressible) (rest : List Char) :
    skip (reference.text ++ rest) = reference.text ++ rest := by
  obtain ⟨first, others, chars, label⟩ := expressible.1.exists_cons
  rw [Reference.text, chars]
  exact skip_solid (solid_of_isLabelChar label) _

theorem agreement?_text {agreement : Agreement} {text : List Char} (spelled : agreement.Spelling text)
    {rest : List Char} (stop : rest.takeWhile isKeyChar = []) :
    agreement? (text ++ rest) = some (agreement, rest) := by
  obtain ⟨clause, leftExpressible, rightExpressible, opened, between, behind, left, inner, right, rfl⟩ := spelled
  have equals : isGap '=' = false ∧ '=' ≠ '/' := by decide
  have part := clauseOf_append
    ("agree".toList ++ opened ++ agreement.left.text ++ between ++ '=' :: behind ++ agreement.right.text) rest
  have ends (later : List Char) : (between ++ '=' :: later).takeWhile isKeyChar = [] :=
    inner.takeWhile (by decide) rfl
  have word : "agree".toList = ['a', 'g', 'r', 'e', 'e'] := rfl
  rw [← clause, word] at part
  rw [word]
  simp only [List.append_assoc, List.cons_append, List.nil_append] at part ⊢
  rw [agreement?, left.skip, skip_reference leftExpressible, reference?_text leftExpressible (ends _)]
  simp only [Option.bind_eq_bind, Option.bind_some, inner.skip_cons equals, right.skip,
    skip_reference rightExpressible, reference?_text rightExpressible stop, part]

variable {agreements : List Agreement} {text : List Char}

/-- What is left of agreement rules behind blanks and comments are the same rules, and no slot begins there. -/
theorem Rules.skip (rules : Rules agreements text) :
    Rules agreements (Written.skip text) ∧ beginsSlot (Written.skip text) = false := by
  have semicolon : isGap ';' = false ∧ ';' ≠ '/' := by decide
  cases rules with
  | nil last =>
      rw [last.skip_eq_nil]
      exact ⟨.nil .empty, rfl⟩
  | final left right =>
      rw [left.skip_cons semicolon]
      exact ⟨.final .empty right, rfl⟩
  | cons left right spelled further =>
      rw [List.append_assoc, List.append_assoc, List.cons_append, left.skip_cons semicolon, ← List.append_assoc]
      exact ⟨.cons .empty right spelled further, rfl⟩

theorem Rules.takeWhile (rules : Rules agreements text) : text.takeWhile isKeyChar = [] := by
  cases rules with
  | nil last =>
      have whole : (text ++ []).takeWhile isKeyChar = [] := last.takeWhile (by decide) rfl
      rwa [List.append_nil] at whole
  | final left right => exact left.takeWhile (by decide) rfl
  | cons left right spelled further =>
      rw [List.append_assoc, List.append_assoc]
      exact left.takeWhile (by decide) rfl

theorem Agreement.Spelling.exists_cons {agreement : Agreement} (spelled : agreement.Spelling text)
    (rest : List Char) : ∃ others, text ++ rest = 'a' :: others := by
  obtain ⟨-, -, -, opened, between, behind, -, -, -, rfl⟩ := spelled
  exact ⟨_, rfl⟩

theorem agreements?_text (rules : Rules agreements text) {fuel : Nat} (enough : text.length < fuel) :
    agreements? fuel text = some agreements := by
  have semicolon : isGap ';' = false ∧ ';' ≠ '/' := by decide
  induction rules generalizing fuel with
  | nil last =>
      cases fuel with
      | zero => exact absurd enough (Nat.not_lt_zero _)
      | succ fuel => simp only [agreements?, last.skip_eq_nil]
  | final left right =>
      cases fuel with
      | zero => exact absurd enough (Nat.not_lt_zero _)
      | succ fuel => simp only [agreements?, left.skip_cons semicolon, right.skip_eq_nil]
  | @cons agreement agreements before behind text others left right spelled further induction =>
      simp only [List.length_append, List.length_cons] at enough
      cases fuel with
      | zero => exact absurd enough (Nat.not_lt_zero _)
      | succ fuel =>
          obtain ⟨later, same⟩ := spelled.exists_cons others
          have begun : Written.skip (behind ++ (text ++ others)) = text ++ others := by
            rw [same]
            exact right.skip_cons (by decide) later
          rw [List.append_assoc, List.append_assoc, List.cons_append, agreements?, left.skip_cons semicolon]
          simp only [begun]
          split
          · next ended =>
              rw [same] at ended
              cases ended
          · rw [agreement?_text spelled further.takeWhile]
            simp only [Option.bind_eq_bind, Option.bind_some, induction (show others.length < fuel by omega)]

end Written

namespace Draft

/-- Every text of a draft is read as the draft. -/
theorem ofText_of_spelling {draft : Draft} {text : List Char} (spelled : draft.Spelling text) :
    Draft.ofText (String.ofList text) = .ok draft := by
  obtain ⟨opened, first, steps, rules, spacing, firstSpelled, stepsSpelled, rulesSpelled, rfl⟩ := spelled
  obtain ⟨slot, slotReads, slotMade⟩ := Written.slot?_text firstSpelled
  obtain ⟨written, reads, made⟩ := Written.furtherSlots?_text stepsSpelled
  obtain ⟨rulesLeft, ended⟩ := rulesSpelled.skip
  have enough : steps.length < (steps ++ rules).length + 1 := by
    rw [List.length_append]
    omega
  have read : Written.Pattern.ofText? (opened ++ first ++ steps ++ rules) =
      some ⟨slot, written, draft.agreements⟩ := by
    rw [List.append_assoc, List.append_assoc, Written.Pattern.ofText?, spacing.skip,
      (Written.slot_of_spelling firstSpelled _).2.1, slotReads]
    simp only [Option.bind_eq_bind, Option.bind_some, reads _ rules enough ended,
      Written.agreements?_text rulesLeft (Nat.lt_succ_self _)]
  rw [ofText, String.toList_ofList, read]
  simp only [ofWritten, slotMade, made]
  rfl

end Draft
end Collocation
