import Collocation.Proofs.Pattern.WellFormed

/-!
# Occurrences of a pattern

`Pattern.Occurs` says place by place how a sequence of tokens may bind the slots of a pattern.  The search lists
these ways and no others, each of them once, in strictly ascending lexicographic order; the span of a pattern
never exceeds that of an occurrence, so no sequence is left out for its length.
-/

namespace Collocation
namespace Pattern

/-- Every slot is bound to a token that it accepts, neighbouring slots are as far apart as the gap between them
says, and every rule finds both features with one value. -/
structure Occurs (pattern : Pattern) (tokens : List Token) (positions : List Nat) : Prop where
  /-- There is a position for each slot. -/
  length : positions.length = pattern.slots.length
  /-- The slots accept their tokens. -/
  accepts : ∀ (place : Nat) (slot : Slot) (position : Nat), pattern.slots[place]? = some slot →
    positions[place]? = some position →
      ∃ token, tokens[position]? = some token ∧ slot.constraint.accepts token = true
  /-- The tokens between two neighbours are as many as the gap allows. -/
  spaced : ∀ (place : Nat) (gap : Gap) (left right : Nat), pattern.gaps[place]? = some gap →
    positions[place]? = some left → positions[place + 1]? = some right →
      (gap.least : Int) ≤ right - left - 1 ∧ (right : Int) - left - 1 ≤ gap.most
  /-- The rules hold. -/
  agrees : ∀ filter ∈ pattern.filters, ∃ value,
    featureAt? tokens positions filter.leftSlot filter.leftFeature = some value ∧
      featureAt? tokens positions filter.rightSlot filter.rightFeature = some value

/-- A position is the one that the slot with a label is bound to. -/
def IsBound (pattern : Pattern) (positions : List Nat) (label : String) (position : Nat) : Prop :=
  ∃ place, pattern.IsPlaceOf label place ∧ positions[place]? = some position

/-! ## One binding -/

variable {tokens : List Token} {positions : List Nat}

theorem Slot.acceptsAt_iff {slot : Slot} {position : Nat} :
    slot.acceptsAt tokens position = true ↔
      ∃ token, tokens[position]? = some token ∧ slot.constraint.accepts token = true := by
  rw [acceptsAt, Option.any_eq_true]

theorem Filter.holds_iff {filter : Filter} :
    filter.holds tokens positions = true ↔ ∃ value,
      featureAt? tokens positions filter.leftSlot filter.leftFeature = some value ∧
        featureAt? tokens positions filter.rightSlot filter.rightFeature = some value := by
  rw [holds]
  split
  · next left right leftFound rightFound =>
      rw [beq_iff_eq, leftFound, rightFound]
      exact ⟨fun same => ⟨left, rfl, congrArg some same.symm⟩, fun ⟨value, here, there⟩ =>
        Option.some.inj (here.trans there.symm)⟩
  · next lacking =>
      refine ⟨fun holds => (nomatch holds), fun ⟨value, here, there⟩ => ?_⟩
      exact absurd there (lacking value value here)

theorem bound_iff {steps : List (Gap × Slot)} {previous : Nat} :
    Bound tokens steps previous positions ↔
      positions.length = steps.length ∧
        (∀ (place : Nat) (slot : Slot) (position : Nat), (steps.map Prod.snd)[place]? = some slot →
          positions[place]? = some position → slot.acceptsAt tokens position = true) ∧
        ∀ (place : Nat) (gap : Gap) (left right : Nat), (steps.map Prod.fst)[place]? = some gap →
          (previous :: positions)[place]? = some left → positions[place]? = some right →
            left + 1 + gap.least ≤ right ∧ right ≤ left + 1 + gap.most := by
  constructor
  · intro bound
    induction bound with
    | nil => exact ⟨rfl, fun _ _ _ step => (nomatch step), fun _ _ _ _ step => (nomatch step)⟩
    | @cons gap slot steps previous position positions least most accepts further induction =>
        obtain ⟨sized, accepted, spaced⟩ := induction
        refine ⟨congrArg (· + 1) sized, fun place => ?_, fun place => ?_⟩
        · cases place with
          | zero =>
              rintro _ _ ⟨⟩ ⟨⟩
              exact accepts
          | succ place => exact accepted place
        · cases place with
          | zero =>
              rintro _ _ _ ⟨⟩ ⟨⟩ ⟨⟩
              exact ⟨least, most⟩
          | succ place => exact spaced place
  · rintro ⟨sized, accepted, spaced⟩
    induction steps generalizing previous positions with
    | nil =>
        obtain rfl := List.length_eq_zero_iff.mp sized
        exact .nil previous
    | cons step steps induction =>
        obtain ⟨position, others, rfl⟩ := List.exists_cons_of_length_eq_add_one sized
        obtain ⟨least, most⟩ := spaced 0 step.1 previous position rfl rfl rfl
        exact .cons least most (accepted 0 step.2 position rfl rfl)
          (induction (Nat.succ.inj sized) (fun place => accepted (place + 1)) fun place => spaced (place + 1))

variable {pattern : Pattern}

/-- What the search binds are the occurrences. -/
theorem fits_iff_occurs : pattern.Fits tokens positions ↔ pattern.Occurs tokens positions := by
  constructor
  · rintro ⟨⟨anchor, others, rfl, accepts, bound⟩, agrees⟩
    obtain ⟨sized, accepted, spaced⟩ := bound_iff.mp bound
    refine ⟨by simp [slots, sized], fun place slot position step here => ?_,
      fun place gap left right step here there => ?_, fun filter member => Filter.holds_iff.mp (agrees filter member)⟩
    · rw [← Slot.acceptsAt_iff]
      cases place with
      | zero =>
          cases step
          cases here
          exact accepts
      | succ place => exact accepted place slot position step here
    · have apart := spaced place gap left right step here there
      omega
  · rintro ⟨sized, accepts, spaced, agrees⟩
    obtain ⟨anchor, others, rfl⟩ := List.exists_cons_of_length_eq_add_one sized
    refine ⟨⟨anchor, others, rfl, Slot.acceptsAt_iff.mpr (accepts 0 pattern.first anchor rfl rfl), ?_⟩,
      fun filter member => Filter.holds_iff.mpr (agrees filter member)⟩
    refine bound_iff.mpr ⟨?_, fun place slot position step here => ?_,
      fun place gap left right step here there => ?_⟩
    · simpa [slots] using sized
    · exact Slot.acceptsAt_iff.mpr (accepts (place + 1) slot position step here)
    · have apart := spaced place gap left right step here there
      omega

/-! ## The order of bindings -/

/-- Continuations of ascending positions are in lexicographic order if those of each position are. -/
theorem pairwise_lex_flatMap_cons {starts : List Nat} {further : Nat → List (List Nat)}
    (ascending : starts.Pairwise (· < ·)) (each : ∀ start, (further start).Pairwise (List.Lex (· < ·))) :
    (starts.flatMap fun start => (further start).map (start :: ·)).Pairwise (List.Lex (· < ·)) := by
  refine List.pairwise_flatMap.mpr ⟨fun start _ => ?_, ascending.imp fun before left here right there => ?_⟩
  · exact List.pairwise_map.mpr ((each start).imp .cons)
  · obtain ⟨_, -, rfl⟩ := List.mem_map.mp here
    obtain ⟨_, -, rfl⟩ := List.mem_map.mp there
    exact .rel before

theorem pairwise_bindings (tokens : List Token) (steps : List (Gap × Slot)) (previous : Nat) :
    (bindings tokens steps previous).Pairwise (List.Lex (· < ·)) := by
  induction steps generalizing previous with
  | nil => exact List.pairwise_singleton _ _
  | cons step steps induction =>
      exact pairwise_lex_flatMap_cons ((List.pairwise_lt_range' ..).filter _) induction

theorem pairwise_allBindings (pattern : Pattern) (tokens : List Token) :
    (pattern.allBindings tokens).Pairwise (List.Lex (· < ·)) :=
  pairwise_lex_flatMap_cons (List.pairwise_lt_range.filter _) (pairwise_bindings tokens pattern.rest)

/-- Matches are found in strictly ascending lexicographic order of their positions. -/
theorem pairwise_positions_matchesIn (pattern : Pattern) (tokens : List Token) :
    ((pattern.matchesIn tokens).map Match.positions).Pairwise (List.Lex (· < ·)) := by
  rw [matchesIn]
  split
  · exact .nil
  · rw [List.map_map]
    exact List.pairwise_map.mpr ((pairwise_allBindings pattern tokens).filter _)

/-! ## The span -/

theorem spanOf_cons (gap : Gap) (gaps : List Gap) :
    Draft.spanOf (gap :: gaps) = gap.least + 1 + Draft.spanOf gaps := by
  have shifted (start : Nat) :
      gaps.foldr (fun gap span => gap.least + span) (start + 1) =
        gaps.foldr (fun gap span => gap.least + span) start + 1 := by
    induction gaps with
    | nil => rfl
    | cons gap gaps induction => rw [List.foldr_cons, List.foldr_cons, induction, Nat.add_assoc]
  rw [Draft.spanOf, List.foldr_cons, List.length_cons, shifted, Draft.spanOf]
  omega

/-- Positions after a position, each as far on as the gap in front of it says. -/
inductive Spaced : List Gap → Nat → List Nat → Prop where
  /-- No gap is left. -/
  | nil (previous : Nat) : Spaced [] previous []
  /-- The next position, and those after it. -/
  | cons {gap : Gap} {gaps : List Gap} {previous position : Nat} {positions : List Nat}
      (least : previous + 1 + gap.least ≤ position) (most : position ≤ previous + 1 + gap.most)
      (further : Spaced gaps position positions) : Spaced (gap :: gaps) previous (position :: positions)

theorem Bound.spaced {steps : List (Gap × Slot)} {previous : Nat} (bound : Bound tokens steps previous positions) :
    Spaced (steps.map Prod.fst) previous positions := by
  induction bound with
  | nil previous => exact .nil previous
  | cons least most _ _ induction => exact .cons least most induction

theorem Spaced.span_le {gaps : List Gap} {previous : Nat} (spaced : Spaced gaps previous positions) :
    previous + Draft.spanOf gaps ≤ positions.getLastD previous + 1 := by
  induction spaced with
  | nil previous => exact Nat.le_refl _
  | cons least _ _ induction =>
      rw [spanOf_cons, List.getLastD_cons]
      omega

theorem Bound.span_le {steps : List (Gap × Slot)} {previous : Nat} (inside : previous < tokens.length)
    (bound : Bound tokens steps previous positions) :
    previous + Draft.spanOf (steps.map Prod.fst) ≤ tokens.length := by
  have last : positions.getLastD previous < tokens.length := by
    rw [List.getLastD_eq_getLast?]
    cases found : positions.getLast? with
    | none => exact inside
    | some position => exact bound.within.2 position (List.mem_of_getLast? found)
  exact Nat.le_trans bound.spaced.span_le last

theorem Fits.minSpan_le (fits : pattern.Fits tokens positions)
    (span : pattern.minSpan.toNat = Draft.spanOf pattern.gaps) : pattern.minSpan.toNat ≤ tokens.length := by
  obtain ⟨anchor, others, -, accepts, bound⟩ := fits.bound
  have whole := bound.span_le (pattern.first.lt_length_of_acceptsAt accepts)
  rw [span]
  exact Nat.le_trans (Nat.le_add_left _ anchor) whole

/-! ## All matches -/

theorem mem_allBindings_iff :
    positions ∈ pattern.allBindings tokens ↔ ∃ anchor others, positions = anchor :: others ∧
      pattern.first.acceptsAt tokens anchor ∧ Bound tokens pattern.rest anchor others := by
  simp only [allBindings, List.mem_flatMap, List.mem_filter, List.mem_map, List.mem_range, mem_bindings_iff]
  constructor
  · rintro ⟨anchor, ⟨-, accepts⟩, others, bound, rfl⟩
    exact ⟨anchor, others, rfl, accepts, bound⟩
  · rintro ⟨anchor, others, rfl, accepts, bound⟩
    exact ⟨anchor, ⟨pattern.first.lt_length_of_acceptsAt accepts, accepts⟩, others, bound, rfl⟩

/-- The matches are the occurrences. -/
theorem WellFormed.mem_matchesIn_iff (wellFormed : pattern.WellFormed) {found : Match} :
    found ∈ pattern.matchesIn tokens ↔
      pattern.Occurs tokens found.positions ∧ found = pattern.matchAt found.positions := by
  constructor
  · intro member
    obtain ⟨positions, fits, rfl⟩ := exists_fits_of_mem_matchesIn member
    exact ⟨fits_iff_occurs.mp fits, rfl⟩
  · rintro ⟨occurs, same⟩
    have fits := fits_iff_occurs.mpr occurs
    rw [matchesIn, if_neg (Nat.not_lt.mpr (fits.minSpan_le wellFormed.span)), same]
    refine List.mem_map_of_mem (List.mem_filter.mpr ⟨mem_allBindings_iff.mpr fits.bound, ?_⟩)
    exact List.all_eq_true.mpr fits.agrees

/-- The head and the collocate of an occurrence are what their slots are bound to. -/
theorem WellFormed.isBound_matchAt (wellFormed : pattern.WellFormed)
    (sized : positions.length = pattern.slots.length) :
    pattern.IsBound positions headLabel (pattern.matchAt positions).head ∧
      pattern.IsBound positions collocateLabel (pattern.matchAt positions).collocate := by
  have bound {label : String} {place : Nat} (labelled : pattern.IsPlaceOf label place) :
      pattern.IsBound positions label (positions.getD place 0) := by
    refine ⟨place, labelled, ?_⟩
    have inside : place < positions.length := sized ▸ labelled.lt_length
    rw [List.getD_eq_getElem?_getD, List.getElem?_eq_getElem inside, Option.getD_some]
  exact ⟨bound wellFormed.head, bound wellFormed.collocate⟩

end Pattern
end Collocation
