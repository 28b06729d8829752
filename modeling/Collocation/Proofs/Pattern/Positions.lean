import Collocation.Pattern.Search
import Collocation.Proofs.Answers

/-!
# Positions of a match

The search for a pattern binds every slot to a position of the sentence, and nothing else.  The head and the
collocate of a pattern that passed the checks are slots of its own, so they are bound as well.
-/

namespace Collocation
namespace Pattern

theorem Slot.lt_length_of_acceptsAt {slot : Slot} {tokens : List Token} {position : Nat}
    (accepts : slot.acceptsAt tokens position = true) : position < tokens.length := by
  refine Decidable.byContradiction fun outside => ?_
  rw [Slot.acceptsAt, List.getElem?_eq_none (Nat.le_of_not_lt outside)] at accepts
  cases accepts

theorem Gap.mem_reach_iff {gap : Gap} {length previous position : Nat} :
    position ∈ gap.reach length previous ↔
      previous + 1 + gap.least ≤ position ∧ position ≤ previous + 1 + gap.most ∧ position < length := by
  rw [reach, List.mem_range'_1]
  omega

theorem mem_bindings_iff {tokens : List Token} {steps : List (Gap × Slot)} {previous : Nat}
    {positions : List Nat} :
    positions ∈ bindings tokens steps previous ↔ Bound tokens steps previous positions := by
  induction steps generalizing previous positions with
  | nil =>
      rw [bindings, List.mem_singleton]
      constructor
      · rintro rfl
        exact .nil previous
      · rintro ⟨⟩
        rfl
  | cons step steps induction =>
      obtain ⟨gap, slot⟩ := step
      simp only [bindings, List.mem_flatMap, List.mem_filter, List.mem_map, Gap.mem_reach_iff]
      constructor
      · rintro ⟨position, ⟨⟨least, most, -⟩, accepts⟩, further, bound, rfl⟩
        exact .cons least most accepts (induction.mp bound)
      · rintro (_ | ⟨least, most, accepts, further⟩)
        exact ⟨_, ⟨⟨least, most, slot.lt_length_of_acceptsAt accepts⟩, accepts⟩, _,
          induction.mpr further, rfl⟩

theorem Bound.within {tokens : List Token} {steps : List (Gap × Slot)} {previous : Nat}
    {positions : List Nat} (bound : Bound tokens steps previous positions) :
    positions.length = steps.length ∧ ∀ position ∈ positions, position < tokens.length := by
  induction bound with
  | nil => exact ⟨rfl, fun position member => absurd member List.not_mem_nil⟩
  | @cons gap slot steps previous position positions least most accepts further induction =>
      obtain ⟨sized, inside⟩ := induction
      refine ⟨by rw [List.length_cons, List.length_cons, sized], fun other member => ?_⟩
      rcases List.mem_cons.mp member with rfl | later
      · exact slot.lt_length_of_acceptsAt accepts
      · exact inside other later

variable {pattern : Pattern} {tokens : List Token}

theorem Fits.within {positions : List Nat} (fits : pattern.Fits tokens positions) :
    positions.length = pattern.slots.length ∧ ∀ position ∈ positions, position < tokens.length := by
  obtain ⟨anchor, others, rfl, accepts, bound⟩ := fits.bound
  obtain ⟨sized, inside⟩ := bound.within
  refine ⟨by simp [slots, sized], fun position member => ?_⟩
  rcases List.mem_cons.mp member with rfl | later
  · exact pattern.first.lt_length_of_acceptsAt accepts
  · exact inside position later

/-- Whatever is found fits. -/
theorem exists_fits_of_mem_matchesIn {found : Match} (member : found ∈ pattern.matchesIn tokens) :
    ∃ positions, pattern.Fits tokens positions ∧ found = pattern.matchAt positions := by
  rw [matchesIn] at member
  split at member
  · cases member
  · obtain ⟨positions, bound, rfl⟩ := List.mem_map.mp member
    obtain ⟨bound, agrees⟩ := List.mem_filter.mp bound
    simp only [allBindings, List.mem_flatMap, List.mem_filter, List.mem_map] at bound
    obtain ⟨anchor, ⟨-, accepts⟩, others, further, rfl⟩ := bound
    refine ⟨anchor :: others, ⟨⟨anchor, others, rfl, accepts, mem_bindings_iff.mp further⟩, ?_⟩, rfl⟩
    exact fun filter known => List.all_eq_true.mp agrees filter known

/-! ## Head and collocate -/

/-- The head and the collocate have their slots. -/
structure WellPlaced (pattern : Pattern) : Prop where
  /-- The head is one of the slots. -/
  head : pattern.head < pattern.slots.length
  /-- The collocate is one of the slots. -/
  collocate : pattern.collocate < pattern.slots.length

/-- Head and collocate of a match are tokens of the sentence. -/
theorem WellPlaced.within (placed : pattern.WellPlaced) {found : Match}
    (member : found ∈ pattern.matchesIn tokens) :
    found.head < tokens.length ∧ found.collocate < tokens.length := by
  obtain ⟨positions, fits, rfl⟩ := exists_fits_of_mem_matchesIn member
  obtain ⟨sized, inside⟩ := fits.within
  have bound {place : Nat} (slot : place < pattern.slots.length) :
      positions.getD place 0 < tokens.length := by
    rw [← sized] at slot
    rw [List.getD_eq_getElem?_getD, List.getElem?_eq_getElem slot, Option.getD_some]
    exact inside _ (List.getElem_mem slot)
  exact ⟨bound placed.head, bound placed.collocate⟩

end Pattern

namespace Draft

theorem placeOf?_lt {draft : Draft} {label : String} {place : Nat}
    (found : draft.placeOf? label = some place) : place < draft.slots.length :=
  (List.findIdx?_eq_some_iff_getElem.mp found).1

theorem requiredPlace_eq_ok_iff {draft : Draft} {label : String} {place : Nat} :
    draft.requiredPlace label = .ok place ↔ draft.placeOf? label = some place := by
  rw [requiredPlace]
  cases draft.placeOf? label <;> simp

/-- A draft that passes the checks gives its slots to the pattern, the head and the collocate among them. -/
theorem wellPlaced_of_checked {draft : Draft} {source language : String} {tagsets : Tagsets}
    {pattern : Pattern} (passes : draft.checked source language tagsets = .ok pattern) :
    pattern.WellPlaced := by
  simp only [checked, bind_eq_ok_iff, pure_eq_ok_iff, requiredPlace_eq_ok_iff] at passes
  obtain ⟨-, -, head, headFound, collocate, collocateFound, -, -, gaps, gapsChecked, filters, -,
    span, -, built⟩ := passes
  have sized : gaps.length = draft.rest.length := by
    rw [length_of_mapM_eq_ok gapsChecked, Draft.gaps, List.length_map]
  have whole : pattern.slots.length = draft.slots.length := by
    rw [← built]
    simp [Pattern.slots, Draft.slots, sized]
  constructor
  · rw [whole, ← built]
    exact placeOf?_lt headFound
  · rw [whole, ← built]
    exact placeOf?_lt collocateFound

end Draft
end Collocation
