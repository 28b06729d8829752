import Collocation.Proofs.Pattern.Checks

/-!
# Well-formed patterns

A pattern that passed the checks has one slot for the head and one for the collocate, its rules speak of slots
of its own, and its span is that of its gaps.  This holds of the pattern of a text and of that of a grammar.
-/

namespace Collocation
namespace Pattern

/-- The slot at a place has a label, and no other slot has it. -/
def IsPlaceOf (pattern : Pattern) (label : String) (place : Nat) : Prop :=
  ∀ other, pattern.slots[other]?.bind Slot.label = some label ↔ other = place

/-- What the checks make sure of. -/
structure WellFormed (pattern : Pattern) : Prop where
  /-- The head has its slot. -/
  head : pattern.IsPlaceOf headLabel pattern.head
  /-- The collocate has its slot. -/
  collocate : pattern.IsPlaceOf collocateLabel pattern.collocate
  /-- Rules speak of slots of the pattern. -/
  filters : ∀ filter ∈ pattern.filters,
    filter.leftSlot < pattern.slots.length ∧ filter.rightSlot < pattern.slots.length
  /-- The span is that of the gaps. -/
  span : pattern.minSpan.toNat = Draft.spanOf pattern.gaps

variable {pattern : Pattern} {label : String} {place : Nat}

theorem IsPlaceOf.lt_length (labelled : pattern.IsPlaceOf label place) : place < pattern.slots.length := by
  refine Decidable.byContradiction fun outside => ?_
  have named := (labelled place).mpr rfl
  rw [List.getElem?_eq_none (Nat.le_of_not_lt outside)] at named
  cases named

theorem IsPlaceOf.ne {other : String} {further : Nat} (labelled : pattern.IsPlaceOf label place)
    (also : pattern.IsPlaceOf other further) (apart : label ≠ other) : place ≠ further := by
  rintro rfl
  exact apart (Option.some.inj (((labelled place).mpr rfl).symm.trans ((also place).mpr rfl)))

theorem WellFormed.head_ne_collocate (wellFormed : pattern.WellFormed) : pattern.head ≠ pattern.collocate :=
  wellFormed.head.ne wellFormed.collocate (by decide)

theorem length_gaps (pattern : Pattern) : pattern.gaps.length + 1 = pattern.slots.length := by
  rw [gaps, slots, List.length_cons, List.length_map, List.length_map]

/-- The patterns of texts and of grammars. -/
inductive Accepted (tagsets : Tagsets) : Pattern → Prop where
  /-- The text of a pattern is accepted. -/
  | ofText {source language : String} {pattern : Pattern}
      (read : Pattern.ofText source language tagsets = .ok pattern) : Accepted tagsets pattern
  /-- The pattern of a grammar is accepted. -/
  | ofGrammar {grammar : Grammar} {pattern : Pattern} (read : grammar.pattern tagsets = .ok pattern) :
      Accepted tagsets pattern

theorem Accepted.exists_checked {tagsets : Tagsets} (accepted : Accepted tagsets pattern) :
    ∃ (draft : Draft) (source language : String), draft.checked source language tagsets = .ok pattern := by
  cases accepted with
  | @ofText source language _ read =>
      obtain ⟨draft, -, passes⟩ := bind_eq_ok_iff.mp read
      exact ⟨draft, source, language, passes⟩
  | @ofGrammar grammar _ read =>
      simp only [Grammar.pattern, bind_eq_ok_iff] at read
      obtain ⟨written, -, narrowed, -, whole, -, passes⟩ := read
      exact ⟨whole, grammar.source, grammar.language, passes⟩

end Pattern

namespace Draft

variable {draft : Draft} {source language : String} {tagsets : Tagsets} {pattern : Pattern}

theorem eq_of_distinct {labels : List (Option String)} (distinct : (labels.filterMap id).Nodup)
    {first second : Nat} {label : String} (here : labels[first]? = some (some label))
    (there : labels[second]? = some (some label)) : first = second := by
  have apart := List.pairwise_iff_getElem.mp (List.pairwise_filterMap.mp distinct)
  obtain ⟨firstInside, firstNamed⟩ := List.getElem?_eq_some_iff.mp here
  obtain ⟨secondInside, secondNamed⟩ := List.getElem?_eq_some_iff.mp there
  rcases Nat.lt_trichotomy first second with before | same | after
  · exact absurd rfl (apart first second firstInside secondInside before label firstNamed label secondNamed)
  · exact same
  · exact absurd rfl (apart second first secondInside firstInside after label secondNamed label firstNamed)

theorem Gives.isPlaceOf (gives : draft.Gives source language pattern)
    (distinct : ((draft.slots.map Slot.label).filterMap id).Nodup) {label : String} {place : Nat}
    (found : draft.placeOf? label = some place) : pattern.IsPlaceOf label place := by
  have labelAt (other : Nat) :
      pattern.slots[other]?.bind Pattern.Slot.label = some label ↔
        (draft.slots.map Slot.label)[other]? = some (some label) := by
    rw [← gives.labels, List.getElem?_map, Option.bind_eq_some_iff, Option.map_eq_some_iff]
  obtain ⟨inside, named, -⟩ := List.findIdx?_eq_some_iff_getElem.mp found
  have here : (draft.slots.map Slot.label)[place]? = some (some label) := by
    rw [List.getElem?_map, List.getElem?_eq_getElem inside, Option.map_some, beq_iff_eq.mp named]
  intro other
  rw [labelAt]
  exact ⟨fun there => eq_of_distinct distinct there here, fun same => same ▸ here⟩

theorem Gives.filters_inside (gives : draft.Gives source language pattern) :
    ∀ filter ∈ pattern.filters,
      filter.leftSlot < pattern.slots.length ∧ filter.rightSlot < pattern.slots.length := by
  intro filter member
  obtain ⟨rule, -, made⟩ := exists_of_mem_of_mapM_eq_ok gives.filters member
  simp only [filterOf, bind_eq_ok_iff, pure_eq_ok_iff, declaredPlace_eq_ok_iff] at made
  obtain ⟨left, leftFound, right, rightFound, rfl⟩ := made
  rw [gives.length_slots]
  exact ⟨placeOf?_lt leftFound, placeOf?_lt rightFound⟩

theorem wellFormed_of_checked (passes : draft.checked source language tagsets = .ok pattern) :
    pattern.WellFormed := by
  obtain ⟨⟨distinct, -⟩, gives⟩ := checked_eq_ok_iff.mp passes
  exact ⟨gives.isPlaceOf distinct gives.head, gives.isPlaceOf distinct gives.collocate,
    gives.filters_inside, gives.span⟩

end Draft

theorem Pattern.Accepted.wellFormed {pattern : Pattern} {tagsets : Tagsets}
    (accepted : Accepted tagsets pattern) : pattern.WellFormed := by
  obtain ⟨draft, source, language, passes⟩ := accepted.exists_checked
  exact Draft.wellFormed_of_checked passes

end Collocation
