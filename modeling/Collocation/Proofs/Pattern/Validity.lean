import Collocation.Proofs.Pattern.Backtracking
import Collocation.Proofs.Pattern.Labels

/-!
# Valid patterns

`Draft.IsValid` says what a draft has to be for a pattern, and `Draft.Rejects` which fault is reported when there are
several: that of the first check that fails, at the first place where it does.  The checks accept exactly the valid
drafts whose span a word of 64 bits holds, and a pattern that they accept can be searched for without reading outside
of its lists.
-/

namespace Collocation
namespace Constraint

/-- A constraint speaks of a part of speech, in itself or in one of its parts. -/
inductive Names (tag : String) : Constraint → Prop where
  /-- It is the part of speech. -/
  | tag : Names tag (.tag tag)
  /-- One of all parts speaks of it. -/
  | all {parts : List Constraint} {part : Constraint} (member : part ∈ parts) (inside : Names tag part) :
      Names tag (.all parts)
  /-- One of some alternatives speaks of it. -/
  | oneOf {parts : List Constraint} {part : Constraint} (member : part ∈ parts) (inside : Names tag part) :
      Names tag (.oneOf parts)
  /-- What is negated speaks of it. -/
  | not {inner : Constraint} (inside : Names tag inner) : Names tag (.not inner)

theorem mem_tagsOfAll_iff {tag : String} {parts : List Constraint} :
    tag ∈ tagsOfAll parts ↔ ∃ part ∈ parts, tag ∈ part.tags := by
  induction parts with
  | nil => simp [tagsOfAll]
  | cons part parts induction => simp [tagsOfAll, induction]

theorem names_of_mem_tags {tag : String} : ∀ constraint : Constraint, tag ∈ constraint.tags → Names tag constraint
  | .any, member => absurd member List.not_mem_nil
  | .base _, member => absurd member List.not_mem_nil
  | .form _, member => absurd member List.not_mem_nil
  | .feature _ _, member => absurd member List.not_mem_nil
  | .tag _, member => by
      obtain rfl := List.mem_singleton.mp member
      exact .tag
  | .not inner, member => .not (names_of_mem_tags inner member)
  | .all parts, member => by
      obtain ⟨part, known, inside⟩ := mem_tagsOfAll_iff.mp member
      exact .all known (names_of_mem_tags part inside)
  | .oneOf parts, member => by
      obtain ⟨part, known, inside⟩ := mem_tagsOfAll_iff.mp member
      exact .oneOf known (names_of_mem_tags part inside)

theorem mem_tags_iff {tag : String} {constraint : Constraint} : tag ∈ constraint.tags ↔ Names tag constraint := by
  refine ⟨names_of_mem_tags constraint, fun names => ?_⟩
  induction names with
  | tag => exact List.mem_singleton.mpr rfl
  | all member _ induction => exact mem_tagsOfAll_iff.mpr ⟨_, member, induction⟩
  | oneOf member _ induction => exact mem_tagsOfAll_iff.mpr ⟨_, member, induction⟩
  | not _ induction => exact induction

end Constraint

/-- An element comes after elements that are all as they should be. -/
def ComesAfter {α : Type} (fine : α → Prop) (item : α) (list : List α) : Prop :=
  ∃ before after, list = before ++ item :: after ∧ ∀ earlier ∈ before, fine earlier

namespace Draft

/-- No two of some slots have the same label. -/
def AreDistinct (slots : List Slot) : Prop :=
  slots.Pairwise fun first second => ∀ label, first.label = some label → second.label ≠ some label

/-- Every part of speech that a slot speaks of is known for the language. -/
def Slot.IsKnown (language : String) (tagsets : Tagsets) (slot : Slot) : Prop :=
  ∀ tag, slot.constraint.Names tag → tagsets.isKnown language tag = true

/-- Bounds, where they are written, are ordered and not negative. -/
def AreOrdered (bounds : Option Gap) : Prop :=
  ∀ gap, bounds = some gap → 0 ≤ gap.least ∧ gap.least ≤ gap.most

/-- Both labels of a rule are declared. -/
def DeclaresBoth (draft : Draft) (rule : Written.Agreement) : Prop :=
  draft.Declares rule.left.label ∧ draft.Declares rule.right.label

/-- The labels differ, and those of the head and of the collocate are among them. -/
structure IsLabelled (draft : Draft) : Prop where
  distinct : AreDistinct draft.slots
  head : draft.Declares headLabel
  collocate : draft.Declares collocateLabel

/-- What a draft has to be for a pattern. -/
structure IsValid (draft : Draft) (language : String) (tagsets : Tagsets) : Prop where
  labelled : draft.IsLabelled
  known : ∀ slot ∈ draft.slots, slot.IsKnown language tagsets
  ordered : ∀ bounds ∈ draft.gaps, AreOrdered bounds
  declared : ∀ rule ∈ draft.agreements, draft.DeclaresBoth rule

/-- The first fault of a draft, with the label, part of speech or text that it is about. -/
inductive Rejects (draft : Draft) (language : String) (tagsets : Tagsets) : PatternError → Prop where
  /-- A label was declared before. -/
  | repeated {before after : List Slot} {slot : Slot} {label : String}
      (whole : draft.slots = before ++ slot :: after) (distinct : AreDistinct before)
      (named : slot.label = some label) (again : ∃ earlier ∈ before, earlier.label = some label) :
      Rejects draft language tagsets (.duplicateLabel label slot.clause)
  /-- The head has no slot. -/
  | noHead (distinct : AreDistinct draft.slots) (missing : ¬ draft.Declares headLabel) :
      Rejects draft language tagsets (.missingSlot headLabel)
  /-- The collocate has no slot. -/
  | noCollocate (distinct : AreDistinct draft.slots) (head : draft.Declares headLabel)
      (missing : ¬ draft.Declares collocateLabel) : Rejects draft language tagsets (.missingSlot collocateLabel)
  /-- A part of speech is not known for the language. -/
  | unknownTag (labelled : draft.IsLabelled) {slot : Slot} {tag : String}
      (first : ComesAfter (Slot.IsKnown language tagsets) slot draft.slots)
      (unknown : ComesAfter (fun earlier => tagsets.isKnown language earlier = true) tag slot.constraint.tags)
      (strange : tagsets.isKnown language tag = false) :
      Rejects draft language tagsets (.unknownTag tag language slot.clause)
  /-- A bound is negative. -/
  | negative (labelled : draft.IsLabelled) (known : ∀ slot ∈ draft.slots, slot.IsKnown language tagsets)
      {gap : Gap} (first : ComesAfter AreOrdered (some gap) draft.gaps) (negative : gap.least < 0 ∨ gap.most < 0) :
      Rejects draft language tagsets (.negativeBound gap.clause)
  /-- The lower bound exceeds the upper one. -/
  | inverted (labelled : draft.IsLabelled) (known : ∀ slot ∈ draft.slots, slot.IsKnown language tagsets)
      {gap : Gap} (first : ComesAfter AreOrdered (some gap) draft.gaps) (least : 0 ≤ gap.least)
      (most : 0 ≤ gap.most) (inverted : gap.most < gap.least) :
      Rejects draft language tagsets (.invertedBounds gap.least gap.most gap.clause)
  /-- The left label of a rule is not declared, or else the right one. -/
  | undeclared (labelled : draft.IsLabelled) (known : ∀ slot ∈ draft.slots, slot.IsKnown language tagsets)
      (ordered : ∀ bounds ∈ draft.gaps, AreOrdered bounds) {rule : Written.Agreement} {label : String}
      (first : ComesAfter draft.DeclaresBoth rule draft.agreements) (missing : ¬ draft.Declares label)
      (side : label = rule.left.label ∨ draft.Declares rule.left.label ∧ label = rule.right.label) :
      Rejects draft language tagsets (.undeclaredLabel label rule.clause)

/-! ## One check after another -/

variable {draft : Draft} {source language : String} {tagsets : Tagsets} {cause : PatternError}

theorem refuse_eq_error_iff {found : Option PatternError} : refuse found = .error cause ↔ found = some cause := by
  cases found <;> simp [refuse]

theorem areDistinct_iff {slots : List Slot} :
    AreDistinct slots ↔ ((slots.map Slot.label).filterMap id).Nodup := by
  rw [AreDistinct, List.Nodup, List.filterMap_map, List.pairwise_filterMap]
  constructor
  · refine List.Pairwise.imp fun apart label here other there same => ?_
    exact apart label here (same ▸ there)
  · exact List.Pairwise.imp fun apart label here there => apart label here label there rfl

theorem noRepetition_iff {slots : List Slot} : repeatedLabel? [] slots = none ↔ AreDistinct slots := by
  rw [repeatedLabel?_eq_none_iff, areDistinct_iff]
  exact and_iff_left fun label _ => List.not_mem_nil

theorem repeatedLabel?_append_cons {seen : List String} {before after : List Slot} {slot : Slot}
    (fine : repeatedLabel? seen before = none) :
    repeatedLabel? seen (before ++ slot :: after) =
      repeatedLabel? ((before.filterMap Slot.label).reverse ++ seen) (slot :: after) := by
  induction before generalizing seen with
  | nil => rfl
  | cons earlier before induction =>
      obtain ⟨label, constraint, clause⟩ := earlier
      cases label with
      | none => simpa [repeatedLabel?] using induction fine
      | some label =>
          by_cases again : label ∈ seen
          · simp [repeatedLabel?, again] at fine
          · simp only [repeatedLabel?, List.contains_iff_mem, again, if_false] at fine
            simp only [List.cons_append, repeatedLabel?, List.contains_iff_mem, again, if_false, induction fine,
              List.filterMap_cons, List.reverse_cons, List.append_assoc, List.nil_append]

theorem repeatedLabel?_append_of_mem {before after : List Slot} {slot : Slot} {label : String}
    (distinct : AreDistinct before) (named : slot.label = some label)
    (again : ∃ earlier ∈ before, earlier.label = some label) :
    repeatedLabel? [] (before ++ slot :: after) = some (.duplicateLabel label slot.clause) := by
  have fine := noRepetition_iff.mpr distinct
  have seen : label ∈ (before.filterMap Slot.label).reverse ++ [] := by
    simpa [List.mem_filterMap] using again
  simp only [repeatedLabel?_append_cons fine, repeatedLabel?, named, List.contains_iff_mem, seen, if_true]

theorem exists_repetition {seen : List String} {slots : List Slot} (found : repeatedLabel? seen slots = some cause) :
    ∃ before slot after label, slots = before ++ slot :: after ∧ repeatedLabel? seen before = none ∧
      slot.label = some label ∧ (label ∈ seen ∨ ∃ earlier ∈ before, earlier.label = some label) ∧
      cause = .duplicateLabel label slot.clause := by
  induction slots generalizing seen with
  | nil => cases found
  | cons slot slots induction =>
      obtain ⟨label, constraint, clause⟩ := slot
      cases label with
      | none =>
          obtain ⟨before, slot, after, label, rfl, fine, named, again, same⟩ := induction found
          refine ⟨_ :: before, slot, after, label, rfl, fine, named, again.imp_right ?_, same⟩
          exact fun ⟨earlier, member, labelled⟩ => ⟨earlier, List.mem_cons_of_mem _ member, labelled⟩
      | some label =>
          by_cases again : label ∈ seen
          · simp only [repeatedLabel?, List.contains_iff_mem, again, if_true, Option.some.injEq] at found
            exact ⟨[], _, slots, label, rfl, rfl, rfl, .inl again, found.symm⟩
          · simp only [repeatedLabel?, List.contains_iff_mem, again, if_false] at found
            obtain ⟨before, slot, after, other, rfl, fine, named, further, same⟩ := induction found
            refine ⟨⟨some label, constraint, clause⟩ :: before, slot, after, other, rfl, ?_, named, ?_, same⟩
            · simp only [repeatedLabel?, List.contains_iff_mem, again, if_false, fine]
            · rcases further with known | ⟨earlier, member, labelled⟩
              · rcases List.mem_cons.mp known with rfl | known
                · exact .inr ⟨_, List.mem_cons_self, rfl⟩
                · exact .inl known
              · exact .inr ⟨earlier, List.mem_cons_of_mem _ member, labelled⟩

theorem requiredPlace_eq_error_iff {label : String} :
    draft.requiredPlace label = .error cause ↔ ¬ draft.Declares label ∧ cause = .missingSlot label := by
  rw [requiredPlace, ← placeOf?_eq_none_iff]
  cases draft.placeOf? label <;> simp [eq_comm]

theorem declaredPlace_eq_error_iff {clause label : String} :
    draft.declaredPlace clause label = .error cause ↔
      ¬ draft.Declares label ∧ cause = .undeclaredLabel label clause := by
  rw [declaredPlace, ← placeOf?_eq_none_iff]
  cases draft.placeOf? label <;> simp [eq_comm]

theorem isKnown_iff {slot : Slot} : slot.IsKnown language tagsets ↔
    (slot.constraint.tags.find? fun tag => !tagsets.isKnown language tag) = none := by
  simp only [Slot.IsKnown, List.find?_eq_none, Constraint.mem_tags_iff, Bool.not_eq_true', Bool.not_eq_false]

theorem noStranger_iff {slots : List Slot} :
    unknownTag? tagsets language slots = none ↔ ∀ slot ∈ slots, slot.IsKnown language tagsets := by
  simp only [unknownTag?_eq_none_iff, Slot.IsKnown, Constraint.mem_tags_iff]

theorem unknownTag?_eq_findSome? {slots : List Slot} :
    unknownTag? tagsets language slots = slots.findSome? fun slot =>
      (slot.constraint.tags.find? fun tag => !tagsets.isKnown language tag).map fun tag =>
        .unknownTag tag language slot.clause := by
  induction slots with
  | nil => rfl
  | cons slot slots induction =>
      rw [unknownTag?, List.findSome?_cons, induction]
      cases slot.constraint.tags.find? fun tag => !tagsets.isKnown language tag <;> rfl

theorem unknownTag?_eq_some_iff {slots : List Slot} :
    unknownTag? tagsets language slots = some cause ↔
      ∃ slot tag, ComesAfter (Slot.IsKnown language tagsets) slot slots ∧
        ComesAfter (fun earlier => tagsets.isKnown language earlier = true) tag slot.constraint.tags ∧
        tagsets.isKnown language tag = false ∧ cause = .unknownTag tag language slot.clause := by
  simp only [unknownTag?_eq_findSome?, List.findSome?_eq_some_iff, Option.map_eq_some_iff, Option.map_eq_none_iff,
    ← isKnown_iff, List.find?_eq_some_iff_append, ComesAfter, Bool.not_not, Bool.not_eq_true']
  constructor
  · rintro ⟨before, slot, after, whole, ⟨tag, ⟨strange, known⟩, rfl⟩, fine⟩
    exact ⟨slot, tag, ⟨before, after, whole, fine⟩, known, strange, rfl⟩
  · rintro ⟨slot, tag, ⟨before, after, whole, fine⟩, known, strange, rfl⟩
    exact ⟨before, slot, after, whole, ⟨tag, ⟨strange, known⟩, rfl⟩, fine⟩

/-- The gap that ordered bounds allow; slots without bounds between them are neighbours. -/
def allowedGap : Option Gap → Pattern.Gap
  | none => ⟨0, 0⟩
  | some gap => ⟨gap.least.toNat, gap.most.toNat⟩

theorem checkedGap_eq_ok_iff {bounds : Option Gap} {gap : Pattern.Gap} :
    checkedGap bounds = .ok gap ↔ AreOrdered bounds ∧ gap = allowedGap bounds := by
  cases bounds with
  | none => simp [checkedGap, AreOrdered, allowedGap, Pattern.Gap.adjacent, eq_comm]
  | some bounds =>
      simp only [checkedGap, AreOrdered, allowedGap, Option.some.injEq, forall_eq']
      split
      · simp; omega
      · split
        · simp; omega
        · simp only [Except.ok.injEq, eq_comm (a := gap)]
          refine (and_iff_right ?_).symm
          omega

/-- The least number of tokens that a draft takes. -/
def leastSpan (draft : Draft) : Nat :=
  spanOf (draft.gaps.map allowedGap)

theorem exists_checkedGap_iff {bounds : Option Gap} : (∃ gap, checkedGap bounds = .ok gap) ↔ AreOrdered bounds := by
  simp only [checkedGap_eq_ok_iff, exists_and_left, exists_eq, and_true]

theorem checkedGap_eq_error_iff {bounds : Option Gap} :
    checkedGap bounds = .error cause ↔ ∃ gap, bounds = some gap ∧
      ((gap.least < 0 ∨ gap.most < 0) ∧ cause = .negativeBound gap.clause ∨
        0 ≤ gap.least ∧ 0 ≤ gap.most ∧ gap.most < gap.least ∧
          cause = .invertedBounds gap.least gap.most gap.clause) := by
  cases bounds with
  | none => simp [checkedGap]
  | some bounds =>
      simp only [checkedGap, Option.some.injEq, exists_eq_left', eq_comm (a := cause)]
      split
      · next negative =>
          rw [Except.error.injEq]
          refine ⟨fun same => .inl ⟨negative, same⟩, ?_⟩
          rintro (⟨-, same⟩ | ⟨least, most, -⟩)
          · exact same
          · omega
      · next positive =>
          split
          · next inverted =>
              rw [Except.error.injEq]
              refine ⟨fun same => .inr ⟨by omega, by omega, inverted, same⟩, ?_⟩
              rintro (⟨negative, -⟩ | ⟨-, -, -, same⟩)
              · exact absurd negative positive
              · exact same
          · next ordered =>
              refine ⟨fun same => (nomatch same), ?_⟩
              rintro (⟨negative, -⟩ | ⟨-, -, inverted, -⟩)
              · exact absurd negative positive
              · exact absurd inverted ordered

theorem exists_filterOf_iff {rule : Written.Agreement} :
    (∃ filter, draft.filterOf rule = .ok filter) ↔ draft.DeclaresBoth rule := by
  simp only [filterOf, bind_eq_ok_iff, pure_eq_ok_iff, declaredPlace_eq_ok_iff, DeclaresBoth, ← exists_placeOf?_iff]
  constructor
  · rintro ⟨_, left, leftFound, right, rightFound, -⟩
    exact ⟨⟨left, leftFound⟩, right, rightFound⟩
  · rintro ⟨⟨left, leftFound⟩, right, rightFound⟩
    exact ⟨_, left, leftFound, right, rightFound, rfl⟩

theorem filterOf_eq_error_iff {rule : Written.Agreement} :
    draft.filterOf rule = .error cause ↔ ∃ label, ¬ draft.Declares label ∧
      (label = rule.left.label ∨ draft.Declares rule.left.label ∧ label = rule.right.label) ∧
        cause = .undeclaredLabel label rule.clause := by
  simp only [filterOf, bind_eq_error_iff, pure_ne_error, and_false, exists_false, or_false,
    declaredPlace_eq_ok_iff, declaredPlace_eq_error_iff]
  constructor
  · rintro (⟨missing, same⟩ | ⟨left, leftFound, missing, same⟩)
    · exact ⟨_, missing, .inl rfl, same⟩
    · exact ⟨_, missing, .inr ⟨exists_placeOf?_iff.mp ⟨left, leftFound⟩, rfl⟩, same⟩
  · rintro ⟨label, missing, rfl | ⟨declared, rfl⟩, same⟩
    · exact .inl ⟨missing, same⟩
    · obtain ⟨left, leftFound⟩ := exists_placeOf?_iff.mpr declared
      exact .inr ⟨left, leftFound, missing, same⟩

/-! ## All checks -/

theorem exists_gaps_iff :
    (∃ gaps, draft.gaps.mapM checkedGap = .ok gaps) ↔ ∀ bounds ∈ draft.gaps, AreOrdered bounds := by
  simp only [exists_mapM_eq_ok_iff, exists_checkedGap_iff]

theorem exists_filters_iff : (∃ filters, draft.agreements.mapM draft.filterOf = .ok filters) ↔
    ∀ rule ∈ draft.agreements, draft.DeclaresBoth rule := by
  simp only [exists_mapM_eq_ok_iff, exists_filterOf_iff]

theorem gaps_eq_allowed {gaps : List Pattern.Gap} (checked : draft.gaps.mapM checkedGap = .ok gaps) :
    gaps = draft.gaps.map allowedGap :=
  eq_map_of_mapM_eq_ok (fun _ _ made => (checkedGap_eq_ok_iff.mp made).2) checked

/-- The checks accept the valid drafts whose spans words hold. -/
theorem exists_checked_iff :
    (∃ pattern, draft.checked source language tagsets = .ok pattern) ↔
      draft.IsValid language tagsets ∧ draft.leastSpan < UInt64.size := by
  simp only [checked, bind_eq_ok_iff, pure_eq_ok_iff, refuse_eq_ok_iff, requiredPlace_eq_ok_iff, noRepetition_iff,
    noStranger_iff, checkedSpan_eq_ok_iff]
  constructor
  · rintro ⟨_, -, distinct, head, headFound, collocate, collocateFound, -, known, gaps, gapsChecked, filters,
      filtersMade, span, ⟨small, -⟩, -⟩
    refine ⟨⟨⟨distinct, exists_placeOf?_iff.mp ⟨head, headFound⟩, exists_placeOf?_iff.mp ⟨collocate, collocateFound⟩⟩,
      known, exists_gaps_iff.mp ⟨gaps, gapsChecked⟩, exists_filters_iff.mp ⟨filters, filtersMade⟩⟩, ?_⟩
    rwa [leastSpan, ← gaps_eq_allowed gapsChecked]
  · rintro ⟨⟨⟨distinct, head, collocate⟩, known, ordered, declared⟩, small⟩
    obtain ⟨head, headFound⟩ := exists_placeOf?_iff.mpr head
    obtain ⟨collocate, collocateFound⟩ := exists_placeOf?_iff.mpr collocate
    obtain ⟨gaps, gapsChecked⟩ := exists_gaps_iff.mpr ordered
    obtain ⟨filters, filtersMade⟩ := exists_filters_iff.mpr declared
    rw [leastSpan, ← gaps_eq_allowed gapsChecked] at small
    exact ⟨_, (), distinct, head, headFound, collocate, collocateFound, (), known, gaps, gapsChecked, filters,
      filtersMade, UInt64.ofNat (spanOf gaps), ⟨small, UInt64.toNat_ofNat_of_lt' small⟩, rfl⟩

theorem gaps_eq_error_iff : draft.gaps.mapM checkedGap = .error cause ↔
    ∃ gap, ComesAfter AreOrdered (some gap) draft.gaps ∧
      ((gap.least < 0 ∨ gap.most < 0) ∧ cause = .negativeBound gap.clause ∨
        0 ≤ gap.least ∧ 0 ≤ gap.most ∧ gap.most < gap.least ∧
          cause = .invertedBounds gap.least gap.most gap.clause) := by
  simp only [mapM_eq_error_iff, exists_checkedGap_iff, checkedGap_eq_error_iff]
  constructor
  · rintro ⟨before, _, after, whole, fine, gap, rfl, bad⟩
    exact ⟨gap, ⟨before, after, whole, fine⟩, bad⟩
  · rintro ⟨gap, ⟨before, after, whole, fine⟩, bad⟩
    exact ⟨before, _, after, whole, fine, gap, rfl, bad⟩

theorem filters_eq_error_iff : draft.agreements.mapM draft.filterOf = .error cause ↔
    ∃ rule label, ComesAfter draft.DeclaresBoth rule draft.agreements ∧ ¬ draft.Declares label ∧
      (label = rule.left.label ∨ draft.Declares rule.left.label ∧ label = rule.right.label) ∧
        cause = .undeclaredLabel label rule.clause := by
  simp only [mapM_eq_error_iff, exists_filterOf_iff, filterOf_eq_error_iff]
  constructor
  · rintro ⟨before, rule, after, whole, fine, label, undeclared⟩
    exact ⟨rule, label, ⟨before, after, whole, fine⟩, undeclared⟩
  · rintro ⟨rule, label, ⟨before, after, whole, fine⟩, undeclared⟩
    exact ⟨before, rule, after, whole, fine, label, undeclared⟩

/-- A check decides where the earlier ones find nothing. -/
theorem checked_eq_error_iff_in_order :
    draft.checked source language tagsets = .error cause ↔
      repeatedLabel? [] draft.slots = some cause ∨ AreDistinct draft.slots ∧
        (¬ draft.Declares headLabel ∧ cause = .missingSlot headLabel ∨ draft.Declares headLabel ∧
          (¬ draft.Declares collocateLabel ∧ cause = .missingSlot collocateLabel ∨
            draft.Declares collocateLabel ∧
              (unknownTag? tagsets language draft.slots = some cause ∨
                (∀ slot ∈ draft.slots, slot.IsKnown language tagsets) ∧
                  (draft.gaps.mapM checkedGap = .error cause ∨
                    (∀ bounds ∈ draft.gaps, AreOrdered bounds) ∧
                      (draft.agreements.mapM draft.filterOf = .error cause ∨
                        (∀ rule ∈ draft.agreements, draft.DeclaresBoth rule) ∧
                          UInt64.size ≤ draft.leastSpan ∧ cause = .overflow))))) := by
  have summed : (∃ gaps, draft.gaps.mapM checkedGap = .ok gaps ∧
        (draft.agreements.mapM draft.filterOf = .error cause ∨
          (∃ filters, draft.agreements.mapM draft.filterOf = .ok filters) ∧
            UInt64.size ≤ spanOf gaps ∧ cause = .overflow)) ↔
      (∀ bounds ∈ draft.gaps, AreOrdered bounds) ∧
        (draft.agreements.mapM draft.filterOf = .error cause ∨
          (∀ rule ∈ draft.agreements, draft.DeclaresBoth rule) ∧
            UInt64.size ≤ draft.leastSpan ∧ cause = .overflow) := by
    rw [← exists_gaps_iff, ← exists_filters_iff, leastSpan]
    constructor
    · rintro ⟨gaps, made, later⟩
      rw [← gaps_eq_allowed made]
      exact ⟨⟨gaps, made⟩, later⟩
    · rintro ⟨⟨gaps, made⟩, later⟩
      rw [← gaps_eq_allowed made] at later
      exact ⟨gaps, made, later⟩
  simp only [checked, bind_eq_error_iff, pure_ne_error, and_false, exists_false, or_false, refuse_eq_ok_iff,
    refuse_eq_error_iff, requiredPlace_eq_ok_iff, requiredPlace_eq_error_iff, noRepetition_iff, noStranger_iff,
    checkedSpan_eq_error_iff, exists_const, exists_and_right, summed, exists_placeOf?_iff]

/-- The checks report the first fault; without one, adding up the span may still stop the program. -/
theorem checked_eq_error_iff :
    draft.checked source language tagsets = .error cause ↔ draft.Rejects language tagsets cause ∨
      draft.IsValid language tagsets ∧ UInt64.size ≤ draft.leastSpan ∧ cause = .overflow := by
  rw [checked_eq_error_iff_in_order, unknownTag?_eq_some_iff, gaps_eq_error_iff, filters_eq_error_iff]
  constructor
  · rintro (repeated | ⟨distinct, ⟨missing, rfl⟩ | ⟨head, ⟨missing, rfl⟩ | ⟨collocate, later⟩⟩⟩)
    · obtain ⟨before, slot, after, label, whole, fine, named, again, rfl⟩ := exists_repetition repeated
      exact .inl (.repeated whole (noRepetition_iff.mp fine) named (again.resolve_left List.not_mem_nil))
    · exact .inl (.noHead distinct missing)
    · exact .inl (.noCollocate distinct head missing)
    · have labelled : draft.IsLabelled := ⟨distinct, head, collocate⟩
      obtain ⟨slot, tag, first, unknown, strange, rfl⟩ | ⟨known, ⟨gap, first, bad⟩ |
        ⟨ordered, ⟨rule, label, first, missing, side, rfl⟩ | ⟨declared, large, rfl⟩⟩⟩ := later
      · exact .inl (.unknownTag labelled first unknown strange)
      · rcases bad with ⟨negative, rfl⟩ | ⟨least, most, inverted, rfl⟩
        · exact .inl (.negative labelled known first negative)
        · exact .inl (.inverted labelled known first least most inverted)
      · exact .inl (.undeclared labelled known ordered first missing side)
      · exact .inr ⟨⟨labelled, known, ordered, declared⟩, large, rfl⟩
  · rintro (rejects | ⟨⟨⟨distinct, head, collocate⟩, known, ordered, declared⟩, large, rfl⟩)
    case inr =>
      exact .inr ⟨distinct, .inr ⟨head, .inr ⟨collocate, .inr ⟨known, .inr ⟨ordered,
        .inr ⟨declared, large, rfl⟩⟩⟩⟩⟩⟩
    cases rejects with
    | repeated whole distinct named again =>
        rw [whole]
        exact .inl (repeatedLabel?_append_of_mem distinct named again)
    | noHead distinct missing => exact .inr ⟨distinct, .inl ⟨missing, rfl⟩⟩
    | noCollocate distinct head missing => exact .inr ⟨distinct, .inr ⟨head, .inl ⟨missing, rfl⟩⟩⟩
    | unknownTag labelled first unknown strange =>
        obtain ⟨distinct, head, collocate⟩ := labelled
        exact .inr ⟨distinct, .inr ⟨head, .inr ⟨collocate, .inl ⟨_, _, first, unknown, strange, rfl⟩⟩⟩⟩
    | negative labelled known first negative =>
        obtain ⟨distinct, head, collocate⟩ := labelled
        exact .inr ⟨distinct, .inr ⟨head, .inr ⟨collocate, .inr ⟨known, .inl ⟨_, first, .inl ⟨negative, rfl⟩⟩⟩⟩⟩⟩
    | inverted labelled known first least most inverted =>
        obtain ⟨distinct, head, collocate⟩ := labelled
        exact .inr ⟨distinct, .inr ⟨head, .inr ⟨collocate,
          .inr ⟨known, .inl ⟨_, first, .inr ⟨least, most, inverted, rfl⟩⟩⟩⟩⟩⟩
    | undeclared labelled known ordered first missing side =>
        obtain ⟨distinct, head, collocate⟩ := labelled
        exact .inr ⟨distinct, .inr ⟨head, .inr ⟨collocate,
          .inr ⟨known, .inr ⟨ordered, .inl ⟨_, _, first, missing, side, rfl⟩⟩⟩⟩⟩⟩

/-- Only a valid draft stops the program. -/
theorem isValid_of_overflow (stops : draft.checked source language tagsets = .error .overflow) :
    draft.IsValid language tagsets ∧ UInt64.size ≤ draft.leastSpan := by
  rcases checked_eq_error_iff.mp stops with rejects | ⟨valid, large, -⟩
  · cases rejects
  · exact ⟨valid, large⟩

end Draft

namespace Pattern

theorem ofText_eq_checked {draft : Draft} {source : String} (read : Draft.ofText source = .ok draft)
    (language : String) (tagsets : Tagsets) :
    ofText source language tagsets = draft.checked source language tagsets := by
  rw [ofText, read]
  rfl

/-- A text that can be read gives a pattern if its draft is valid and a word holds its span.  A draft that is not valid is
refused for the first fault, and one that is valid otherwise stops the program.  The pattern has the slots of the draft,
one gap fewer, and places of its own for the head, the collocate and the rules, so that a search for it never reads
outside of its lists. -/
theorem ofText_of_draft {draft : Draft} {source : String} (read : Draft.ofText source = .ok draft)
    (language : String) (tagsets : Tagsets) :
    ((∃ pattern, ofText source language tagsets = .ok pattern) ↔
        draft.IsValid language tagsets ∧ draft.leastSpan < UInt64.size) ∧
      (∀ cause, ofText source language tagsets = .error cause ↔ draft.Rejects language tagsets cause ∨
        draft.IsValid language tagsets ∧ UInt64.size ≤ draft.leastSpan ∧ cause = .overflow) ∧
      ∀ pattern, ofText source language tagsets = .ok pattern →
        pattern.slots = draft.slots.map (fun slot => ⟨slot.label, slot.constraint⟩) ∧
          pattern.gaps = draft.gaps.map Draft.allowedGap ∧ pattern.gaps.length + 1 = pattern.slots.length ∧
          pattern.IsPlaceOf headLabel pattern.head ∧ pattern.IsPlaceOf collocateLabel pattern.collocate ∧
          pattern.head ≠ pattern.collocate ∧
          (∀ filter ∈ pattern.filters,
            filter.leftSlot < pattern.slots.length ∧ filter.rightSlot < pattern.slots.length) ∧
          ∀ tokens, (pattern.search? tokens).isSome = true := by
  rw [ofText_eq_checked read]
  refine ⟨Draft.exists_checked_iff, fun cause => Draft.checked_eq_error_iff, fun pattern passes => ?_⟩
  have gives := (Draft.checked_eq_ok_iff.mp passes).2
  have wellFormed := Draft.wellFormed_of_checked passes
  exact ⟨gives.slots, Draft.gaps_eq_allowed gives.gaps, pattern.length_gaps, wellFormed.head, wellFormed.collocate,
    wellFormed.head_ne_collocate, wellFormed.filters, wellFormed.isSome_search?⟩

/-- A part of speech that is not known is reported, wherever it stands in its slot, before bounds out of order and a
rule without its slot. -/
theorem ofText_of_unknown_tag :
    let source := "1:[pos=\"NOUN\"] \x7b2,1\x7d 2:[!(pos=\"ADJ\" | pos=\"Adj\")]; agree 1.Case = 3.Case"
    let cause := PatternError.unknownTag "Adj" "sl" "2:[!(pos=\"ADJ\" | pos=\"Adj\")]"
    ∃ draft, Draft.ofText source = .ok draft ∧ ofText source "sl" .empty = .error cause ∧
      draft.Rejects "sl" .empty cause ∧ ¬ draft.IsValid "sl" .empty := by
  intro source cause
  have refused : ofText source "sl" .empty = .error cause := fault?_eq_some_iff.mp (by decide +kernel)
  obtain ⟨draft, read, span⟩ : ∃ draft, Draft.ofText source = .ok draft ∧ draft.leastSpan = 4 :=
    exists_ok_of_toOption (by decide +kernel)
  obtain ⟨accepts, rejects, -⟩ := ofText_of_draft read "sl" .empty
  refine ⟨draft, read, refused, ?_, fun valid => ?_⟩
  · rcases (rejects cause).mp refused with rejects | ⟨-, -, same⟩
    · exact rejects
    · simp [cause] at same
  · obtain ⟨pattern, made⟩ := accepts.mpr ⟨valid, span ▸ by decide⟩
    cases refused.symm.trans made

/-- Every bound can be written, and the two of them together are too large: the draft is valid and the program stops. -/
theorem ofText_of_widest_gaps :
    let source := "1:[] \x7b9223372036854775807,9223372036854775807\x7d 2:[] " ++
      "\x7b9223372036854775807,9223372036854775807\x7d []"
    ∃ draft, Draft.ofText source = .ok draft ∧ draft.IsValid "en" .empty ∧
      ofText source "en" .empty = .error .overflow := by
  intro source
  have stops : ofText source "en" .empty = .error .overflow := fault?_eq_some_iff.mp (by decide +kernel)
  obtain ⟨draft, read, -⟩ : ∃ draft, Draft.ofText source = .ok draft ∧ draft.agreements.length = 0 :=
    exists_ok_of_toOption (by decide +kernel)
  exact ⟨draft, read, (Draft.isValid_of_overflow (ofText_eq_checked read "en" .empty ▸ stops)).1, stops⟩

end Pattern
end Collocation
