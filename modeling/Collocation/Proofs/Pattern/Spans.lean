import Collocation.Proofs.Pattern.Validity

/-!
# Spans

The least number of tokens that a pattern needs is that of its slots and of the lower bounds of its gaps.  No match is
shorter, and positions as close together as the gaps allow take no more.  The span of an accepted pattern is this number.
A draft with a larger number than a word of 64 bits holds has no pattern: adding it up stops the program.
-/

namespace Collocation

/-- The number of tokens from the first position of a match to its last. -/
def Match.extent (found : Match) : Nat :=
  found.positions.getLastD 0 + 1 - found.anchor

namespace Pattern

/-- The number of slots and the lower bounds of all gaps, added up. -/
def leastSpan (pattern : Pattern) : Nat :=
  pattern.gaps.foldr (fun gap span => gap.least + span) pattern.slots.length

/-- Some positions in a sequence of tokens are as far apart as the gaps say. -/
def HasRoomIn (pattern : Pattern) (length : Nat) : Prop :=
  ∃ anchor others, Spaced pattern.gaps anchor others ∧ ∀ position ∈ anchor :: others, position < length

variable {pattern : Pattern} {tagsets : Tagsets}

theorem leastSpan_eq (pattern : Pattern) : pattern.leastSpan = Draft.spanOf pattern.gaps := by
  rw [leastSpan, Draft.spanOf, length_gaps]

/-! ## The lower bound -/

/-- A match takes at least as many tokens as its slots and gaps. -/
theorem leastSpan_le_extent {tokens : List Token} {found : Match} (member : found ∈ pattern.matchesIn tokens) :
    pattern.leastSpan ≤ found.extent := by
  obtain ⟨positions, fits, rfl⟩ := exists_fits_of_mem_matchesIn member
  obtain ⟨anchor, others, rfl, -, bound⟩ := fits.bound
  have reaches : anchor + pattern.leastSpan ≤ others.getLastD anchor + 1 :=
    pattern.leastSpan_eq ▸ bound.spaced.span_le
  have extent : (pattern.matchAt (anchor :: others)).extent = others.getLastD anchor + 1 - anchor := by
    rw [Match.extent, Match.anchor, matchAt, List.getLastD_cons, List.headD_cons]
  omega

/-! ## The closest positions -/

/-- Positions after a position, each as close as the gap in front of it allows. -/
def closest : List Gap → Nat → List Nat
  | [], _ => []
  | gap :: gaps, previous => (previous + 1 + gap.least) :: closest gaps (previous + 1 + gap.least)

theorem spaced_closest {gaps : List Gap} (ordered : ∀ gap ∈ gaps, gap.least ≤ gap.most) (previous : Nat) :
    Spaced gaps previous (closest gaps previous) := by
  induction gaps generalizing previous with
  | nil => exact .nil previous
  | cons gap gaps induction =>
      obtain ⟨here, others⟩ := List.forall_mem_cons.mp ordered
      exact .cons (Nat.le_refl _) (Nat.add_le_add_left here _) (induction others _)

theorem lt_of_mem_closest {gaps : List Gap} {previous : Nat} :
    ∀ position ∈ previous :: closest gaps previous, position < previous + Draft.spanOf gaps := by
  induction gaps generalizing previous with
  | nil => simp [closest, Draft.spanOf]
  | cons gap gaps induction =>
      rw [spanOf_cons]
      refine List.forall_mem_cons.mpr ⟨by omega, fun position member => ?_⟩
      have further := induction position member
      omega

/-- Positions that are spaced as the gaps say leave room for the span of the gaps. -/
theorem leastSpan_le_of_hasRoomIn {length : Nat} (room : pattern.HasRoomIn length) : pattern.leastSpan ≤ length := by
  obtain ⟨anchor, others, spaced, inside⟩ := room
  have last : others.getLastD anchor < length := by
    rw [← List.getLast_eq_getLastD (List.cons_ne_nil anchor others)]
    exact inside _ (List.getLast_mem _)
  have reaches := spaced.span_le
  rw [leastSpan_eq]
  omega

theorem hasRoomIn_iff (ordered : ∀ gap ∈ pattern.gaps, gap.least ≤ gap.most) {length : Nat} :
    pattern.HasRoomIn length ↔ pattern.leastSpan ≤ length := by
  refine ⟨leastSpan_le_of_hasRoomIn, fun enough => ⟨0, closest pattern.gaps 0, spaced_closest ordered 0, ?_⟩⟩
  intro position member
  have before := lt_of_mem_closest position member
  rw [leastSpan_eq] at enough
  omega

/-! ## Accepted patterns -/

/-- The bounds of the gaps of an accepted pattern are ordered. -/
theorem Accepted.ordered (accepted : Accepted tagsets pattern) : ∀ gap ∈ pattern.gaps, gap.least ≤ gap.most := by
  obtain ⟨draft, source, language, passes⟩ := accepted.exists_checked
  intro gap member
  obtain ⟨bounds, -, checked⟩ := exists_of_mem_of_mapM_eq_ok (Draft.checked_eq_ok_iff.mp passes).2.gaps member
  obtain ⟨ordered, rfl⟩ := Draft.checkedGap_eq_ok_iff.mp checked
  cases bounds with
  | none => exact Nat.le_refl 0
  | some written => exact Int.toNat_le_toNat (ordered written rfl).2

/-- The span of an accepted pattern is the number of its slots and of the lower bounds of its gaps, however large the
bounds are: no match takes fewer tokens, and there is room for the pattern in sequences that have as many and in no
others.  The text of a valid draft gives a pattern as long as a word of 64 bits holds this number; otherwise adding it up
stops the program. -/
theorem minSpan_exact_or_overflow (tagsets : Tagsets) :
    (∀ pattern, Accepted tagsets pattern →
      pattern.minSpan.toNat = pattern.leastSpan ∧
      (∀ tokens, ∀ found ∈ pattern.matchesIn tokens, pattern.leastSpan ≤ found.extent) ∧
      ∀ length, pattern.HasRoomIn length ↔ pattern.leastSpan ≤ length) ∧
    ∀ (source language : String) (draft : Draft), Draft.ofText source = .ok draft → draft.IsValid language tagsets →
      (draft.leastSpan < UInt64.size →
        ∃ pattern, ofText source language tagsets = .ok pattern ∧ pattern.leastSpan = draft.leastSpan) ∧
      (UInt64.size ≤ draft.leastSpan → ofText source language tagsets = .error .overflow) := by
  refine ⟨fun pattern accepted => ⟨?_, fun _ _ => leastSpan_le_extent, fun length => hasRoomIn_iff accepted.ordered⟩,
    fun source language draft read valid => ?_⟩
  · rw [accepted.wellFormed.span, leastSpan_eq]
  · rw [ofText_eq_checked read]
    refine ⟨fun small => ?_, fun large => Draft.checked_eq_error_iff.mpr (.inr ⟨valid, large, rfl⟩)⟩
    obtain ⟨pattern, passes⟩ := Draft.exists_checked_iff.mpr ⟨valid, small⟩
    refine ⟨pattern, passes, ?_⟩
    rw [leastSpan_eq, Draft.gaps_eq_allowed (Draft.checked_eq_ok_iff.mp passes).2.gaps, Draft.leastSpan]

/-- Three slots with two tokens between the first two of them take five tokens. -/
theorem minSpan_of_narrow_gaps :
    ∃ pattern, ofText "1:[] \x7b2,4\x7d [] \x7b0,1\x7d 2:[]" "en" .empty = .ok pattern ∧
      pattern.minSpan.toNat = 5 ∧ pattern.leastSpan = 5 ∧ pattern.HasRoomIn 5 ∧ ¬ pattern.HasRoomIn 4 ∧
      ∀ tokens, ∀ found ∈ pattern.matchesIn tokens, 5 ≤ found.extent := by
  obtain ⟨pattern, read, least⟩ : ∃ pattern,
      ofText "1:[] \x7b2,4\x7d [] \x7b0,1\x7d 2:[]" "en" .empty = .ok pattern ∧ pattern.leastSpan = 5 :=
    exists_ok_of_toOption (by decide +kernel)
  obtain ⟨exact, extent, room⟩ := (minSpan_exact_or_overflow .empty).1 pattern (.ofText read)
  rw [least] at exact extent
  simp only [least] at room
  exact ⟨pattern, read, exact, least, (room 5).mpr (by decide), mt (room 4).mp (by decide), extent⟩

/-- Two gaps of the greatest number that can be written go beyond a word, and so does what they take with three slots. -/
theorem minSpan_of_widest_gaps :
    let source := "1:[] \x7b9223372036854775807,9223372036854775807\x7d [] " ++
      "\x7b9223372036854775807,9223372036854775807\x7d 2:[]"
    ∃ draft, Draft.ofText source = .ok draft ∧ draft.IsValid "en" .empty ∧
      draft.leastSpan = 18446744073709551617 ∧ ofText source "en" .empty = .error .overflow := by
  intro source
  have stops : ofText source "en" .empty = .error .overflow := fault?_eq_some_iff.mp (by decide +kernel)
  obtain ⟨draft, read, span⟩ : ∃ draft, Draft.ofText source = .ok draft ∧ draft.leastSpan = 18446744073709551617 :=
    exists_ok_of_toOption (by decide +kernel)
  exact ⟨draft, read, (Draft.isValid_of_overflow (ofText_eq_checked read "en" .empty ▸ stops)).1, span, stops⟩

end Pattern
end Collocation
