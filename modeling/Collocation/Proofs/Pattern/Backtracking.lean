import Collocation.Proofs.Pattern.Occurrences

/-!
# Searching step by step

`Pattern.search?` binds the slots from left to right in one buffer that holds a position for each slot, and comes
back to a slot to try its next position.  Additions stop at the greatest number of 64 bits, a window ends with the
sentence, and every read and write may fail.  For a pattern that passed the checks none of them does, and the
matches found are those of `Pattern.matchesIn`.
-/

namespace Collocation
namespace Pattern

/-- Addition that stops at the greatest number of 64 bits. -/
def saturatingAdd (left right : Nat) : Nat :=
  min (left + right) (UInt64.size - 1)

/-- The positions to try after a position: from the first that a gap allows to the last, or to the end of the
sentence. -/
def Gap.window (gap : Gap) (length previous : Nat) : List Nat :=
  let first := saturatingAdd (saturatingAdd previous 1) gap.least
  let last := min (saturatingAdd (saturatingAdd previous 1) gap.most) (length - 1)
  List.range' first (last + 1 - first)

/-- The state of a search. -/
structure Search where
  /-- A position for each slot.  Those of slots that are not bound yet are left from earlier tries. -/
  positions : List Nat
  /-- The matches found so far. -/
  found : List Match

/-- Bind a slot. -/
def Search.put? (search : Search) (place position : Nat) : Option Search :=
  if place < search.positions.length then
    some { search with positions := search.positions.set place position }
  else none

/-- Whether a rule holds, if its slots and their tokens are there. -/
def Filter.holds? (filter : Filter) (tokens : List Token) (positions : List Nat) : Option Bool := do
  let left ← positions[filter.leftSlot]?
  let leftToken ← tokens[left]?
  let right ← positions[filter.rightSlot]?
  let rightToken ← tokens[right]?
  return match leftToken.features.get? filter.leftFeature, rightToken.features.get? filter.rightFeature with
    | some left, some right => left == right
    | _, _ => false

/-- Note a match if all rules hold. -/
def accept? (pattern : Pattern) (tokens : List Token) (search : Search) : Option Search := do
  let agrees ← pattern.filters.allM fun filter => filter.holds? tokens search.positions
  if agrees then
    let head ← search.positions[pattern.head]?
    let collocate ← search.positions[pattern.collocate]?
    return { search with found := search.found ++ [⟨search.positions, head, collocate⟩] }
  else
    return search

/-- Bind a slot to a position if it accepts the token there, and go on. -/
def tryAt? (tokens : List Token) (slot : Slot) (place : Nat) (next : Search → Option Search) (search : Search)
    (position : Nat) : Option Search := do
  let token ← tokens[position]?
  if slot.constraint.accepts token then
    let bound ← search.put? place position
    next bound
  else
    return search

/-- Bind the last slots, as many as are left. -/
def extend? (pattern : Pattern) (tokens : List Token) : Nat → Search → Option Search
  | 0, search => accept? pattern tokens search
  | left + 1, search => do
      let place := pattern.slots.length - (left + 1)
      let gap ← pattern.gaps[place - 1]?
      let previous ← search.positions[place - 1]?
      let slot ← pattern.slots[place]?
      (gap.window tokens.length previous).foldlM (tryAt? tokens slot place (extend? pattern tokens left)) search

/-- The matches in a sequence of tokens. -/
def search? (pattern : Pattern) (tokens : List Token) : Option (List Match) :=
  if tokens.length < pattern.minSpan.toNat then some []
  else do
    let first ← pattern.slots[0]?
    let search ← (List.range tokens.length).foldlM
      (tryAt? tokens first 0 (extend? pattern tokens (pattern.slots.length - 1)))
      ⟨List.replicate pattern.slots.length 0, []⟩
    return search.found

/-! ## Windows -/

theorem Gap.lt_of_mem_window {gap : Gap} {length previous position : Nat} (inside : previous < length)
    (member : position ∈ gap.window length previous) : position < length := by
  rw [window, List.mem_range'_1] at member
  omega

theorem Gap.window_eq_reach {gap : Gap} {length previous : Nat} (short : length < UInt64.size)
    (inside : previous < length) : gap.window length previous = gap.reach length previous := by
  simp only [window, reach, saturatingAdd]
  generalize UInt64.size = size at short
  by_cases within : previous + 1 + gap.least < length
  · congr 1 <;> omega
  · have none : min (min (min (previous + 1) (size - 1) + gap.most) (size - 1)) (length - 1) + 1 -
        min (min (previous + 1) (size - 1) + gap.least) (size - 1) = 0 := by omega
    have empty : min (previous + 1 + gap.most + 1) length - (previous + 1 + gap.least) = 0 := by omega
    rw [none, empty, List.range'_zero, List.range'_zero]

/-- All ways to bind slots after a position within the windows of their gaps. -/
def windowed (tokens : List Token) : List (Gap × Slot) → Nat → List (List Nat)
  | [], _ => [[]]
  | (gap, slot) :: steps, previous =>
      ((gap.window tokens.length previous).filter (slot.acceptsAt tokens)).flatMap fun position =>
        (windowed tokens steps position).map (position :: ·)

variable {tokens : List Token}

theorem windowed_eq_bindings (short : tokens.length < UInt64.size) {steps : List (Gap × Slot)} {previous : Nat}
    (inside : previous < tokens.length) : windowed tokens steps previous = bindings tokens steps previous := by
  induction steps generalizing previous with
  | nil => rfl
  | cons step steps induction =>
      rw [windowed, bindings, Gap.window_eq_reach short inside, List.flatMap_def, List.flatMap_def]
      refine congrArg List.flatten (List.map_congr_left fun position member => ?_)
      rw [induction (step.2.lt_length_of_acceptsAt (List.mem_filter.mp member).2)]

/-! ## Complete bindings -/

/-- The matches of the ways to bind all slots under which the rules hold. -/
def completed (pattern : Pattern) (tokens : List Token) (candidates : List (List Nat)) : List Match :=
  (candidates.filter fun positions =>
    pattern.filters.all fun filter => filter.holds tokens positions).map pattern.matchAt

variable {pattern : Pattern}

theorem completed_flatMap (starts : List Nat) (further : Nat → List (List Nat)) :
    pattern.completed tokens (starts.flatMap further) =
      starts.flatMap fun start => pattern.completed tokens (further start) := by
  simp only [completed, List.filter_flatMap, List.map_flatMap]

/-- Slots are bound to tokens of a sentence. -/
structure Filled (pattern : Pattern) (tokens : List Token) (positions : List Nat) : Prop where
  length : positions.length = pattern.slots.length
  inside : ∀ position ∈ positions, position < tokens.length

theorem holds?_eq_holds {filter : Filter} {positions : List Nat}
    (inside : ∀ position ∈ positions, position < tokens.length) (left : filter.leftSlot < positions.length)
    (right : filter.rightSlot < positions.length) :
    filter.holds? tokens positions = some (filter.holds tokens positions) := by
  have leftToken := inside _ (List.getElem_mem left)
  have rightToken := inside _ (List.getElem_mem right)
  cases leftValue : tokens[positions[filter.leftSlot]].features.get? filter.leftFeature <;>
    cases rightValue : tokens[positions[filter.rightSlot]].features.get? filter.rightFeature <;>
    simp only [Filter.holds?, Filter.holds, featureAt?, List.getElem?_eq_getElem left,
      List.getElem?_eq_getElem right, List.getElem?_eq_getElem leftToken, List.getElem?_eq_getElem rightToken,
      Option.bind_eq_bind, Option.bind_some, Option.pure_def, leftValue, rightValue]

theorem allM_eq_all {α : Type} {list : List α} {test? : α → Option Bool} {test : α → Bool}
    (answered : ∀ item ∈ list, test? item = some (test item)) : list.allM test? = some (list.all test) := by
  induction list with
  | nil => rfl
  | cons item list induction =>
      obtain ⟨here, later⟩ := List.forall_mem_cons.mp answered
      rw [List.allM, here, List.all_cons, Option.bind_eq_bind, Option.bind_some]
      cases test item with
      | true => exact induction later
      | false => rfl

theorem WellFormed.accept?_eq (wellFormed : pattern.WellFormed) {positions : List Nat} {found : List Match}
    (filled : pattern.Filled tokens positions) :
    accept? pattern tokens ⟨positions, found⟩ =
      some ⟨positions, found ++ pattern.completed tokens [positions]⟩ := by
  have within {place : Nat} (slot : place < pattern.slots.length) :
      positions[place]? = some (positions.getD place 0) := by
    rw [← filled.length] at slot
    rw [List.getD_eq_getElem?_getD, List.getElem?_eq_getElem slot, Option.getD_some]
  have answered : ∀ filter ∈ pattern.filters,
      filter.holds? tokens positions = some (filter.holds tokens positions) := by
    intro filter member
    obtain ⟨left, right⟩ := wellFormed.filters filter member
    rw [← filled.length] at left right
    exact holds?_eq_holds filled.inside left right
  simp only [accept?, allM_eq_all answered, Option.bind_eq_bind, Option.bind_some, completed, List.filter_cons,
    List.filter_nil]
  split
  · simp only [within wellFormed.head.lt_length, within wellFormed.collocate.lt_length, Option.bind_some]
    rfl
  · rw [List.map_nil, List.append_nil]
    rfl

/-! ## The buffer -/

/-- What a step of a search finds when the slots in front are bound, whatever stands behind them in the buffer. -/
def Finds (front : List Nat) (behind : Nat) (step : Search → Option Search) (gain : List Match) : Prop :=
  ∀ stale found, stale.length = behind → ∃ left, left.length = behind ∧
    step ⟨front ++ stale, found⟩ = some ⟨front ++ left, found ++ gain⟩

theorem Finds.foldlM {front : List Nat} {behind : Nat} {step : Search → Nat → Option Search}
    {gain : Nat → List Match} {positions : List Nat}
    (each : ∀ position ∈ positions, Finds front behind (step · position) (gain position)) :
    Finds front behind (fun search => positions.foldlM step search) (positions.flatMap gain) := by
  intro stale found sized
  induction positions generalizing stale found with
  | nil => exact ⟨stale, sized, by rw [List.flatMap_nil, List.append_nil]; rfl⟩
  | cons position positions induction =>
      obtain ⟨here, later⟩ := List.forall_mem_cons.mp each
      obtain ⟨middle, middleSized, first⟩ := here stale found sized
      obtain ⟨last, lastSized, others⟩ := induction later middle (found ++ gain position) middleSized
      refine ⟨last, lastSized, ?_⟩
      dsimp only at first others ⊢
      rw [List.foldlM_cons, first, Option.bind_eq_bind, Option.bind_some, others, List.flatMap_cons,
        List.append_assoc]

theorem Finds.tryAt? {front : List Nat} {behind position : Nat} {slot : Slot} {next : Search → Option Search}
    {gain : List Match} (inside : position < tokens.length)
    (further : Finds (front ++ [position]) behind next gain) :
    Finds front (behind + 1) (Pattern.tryAt? tokens slot front.length next · position)
      (if slot.acceptsAt tokens position then gain else []) := by
  intro stale found sized
  obtain ⟨old, stale, rfl⟩ := List.exists_cons_of_length_eq_add_one sized
  have token : tokens[position]? = some tokens[position] := List.getElem?_eq_getElem inside
  have bound : (Search.mk (front ++ old :: stale) found).put? front.length position =
      some ⟨front ++ [position] ++ stale, found⟩ := by
    rw [Search.put?, if_pos (by simp), List.set_append_right _ _ (Nat.le_refl _), Nat.sub_self, List.set_cons_zero,
      List.append_assoc, List.singleton_append]
  simp only [Pattern.tryAt?, Slot.acceptsAt, token, bound, Option.bind_eq_bind, Option.bind_some, Option.any_some]
  split
  · obtain ⟨left, leftSized, done⟩ := further stale found (Nat.succ.inj sized)
    exact ⟨position :: left, congrArg (· + 1) leftSized, by
      rw [done, List.append_assoc, List.singleton_append]⟩
  · exact ⟨old :: stale, sized, by rw [List.append_nil]; rfl⟩

theorem flatMap_ite {α β : Type} (test : α → Bool) (make : α → List β) (list : List α) :
    (list.flatMap fun item => if test item then make item else []) = (list.filter test).flatMap make := by
  induction list with
  | nil => rfl
  | cons item list induction =>
      rw [List.flatMap_cons, induction, List.filter_cons]
      split
      · rw [List.flatMap_cons]
      · rw [List.nil_append]

theorem completed_windowed_cons (gap : Gap) (slot : Slot) (steps : List (Gap × Slot)) (previous : Nat)
    (front : List Nat) :
    pattern.completed tokens ((windowed tokens ((gap, slot) :: steps) previous).map (front ++ ·)) =
      (gap.window tokens.length previous).flatMap fun position =>
        if slot.acceptsAt tokens position then
          pattern.completed tokens ((windowed tokens steps position).map (front ++ [position] ++ ·))
        else [] := by
  rw [flatMap_ite, windowed, List.map_flatMap, completed_flatMap]
  simp only [List.map_map, Function.comp_def, List.append_assoc, List.singleton_append]

theorem WellFormed.finds_extend? (wellFormed : pattern.WellFormed) {past steps : List (Gap × Slot)}
    (whole : pattern.rest = past ++ steps) {earlier : List Nat} {previous : Nat}
    (sized : earlier.length = past.length)
    (inside : ∀ position ∈ earlier ++ [previous], position < tokens.length) :
    Finds (earlier ++ [previous]) steps.length (extend? pattern tokens steps.length)
      (pattern.completed tokens ((windowed tokens steps previous).map (earlier ++ [previous] ++ ·))) := by
  induction steps generalizing past earlier previous with
  | nil =>
      intro stale found nothing
      obtain rfl := List.length_eq_zero_iff.mp nothing
      rw [List.append_nil] at whole
      have filled : pattern.Filled tokens (earlier ++ [previous]) := ⟨by simp [slots, whole, sized], inside⟩
      refine ⟨[], rfl, ?_⟩
      simp only [windowed, List.map_cons, List.map_nil, List.append_nil, List.length_nil, extend?]
      exact wellFormed.accept?_eq filled
  | cons step steps induction =>
      obtain ⟨gap, slot⟩ := step
      have front : (earlier ++ [previous]).length = past.length + 1 := by simp [sized]
      have each : ∀ position ∈ gap.window tokens.length previous,
          Finds (earlier ++ [previous]) (steps.length + 1)
            (tryAt? tokens slot (past.length + 1) (extend? pattern tokens steps.length) · position)
            (if slot.acceptsAt tokens position then
              pattern.completed tokens
                ((windowed tokens steps position).map (earlier ++ [previous] ++ [position] ++ ·))
            else []) := by
        intro position member
        have here := Gap.lt_of_mem_window (inside previous (by simp)) member
        have onward : pattern.rest = (past ++ [(gap, slot)]) ++ steps := by
          rw [whole, List.append_assoc, List.singleton_append]
        rw [← front]
        refine Finds.tryAt? here (induction onward (by simp [sized]) fun other member => ?_)
        rcases List.mem_append.mp member with earlier | same
        · exact inside other earlier
        · exact List.mem_singleton.mp same ▸ here
      have place : pattern.slots.length - (steps.length + 1) = past.length + 1 := by
        simp [slots, whole]
        omega
      have gapHere : pattern.gaps[past.length]? = some gap := by simp [gaps, whole]
      have slotHere : pattern.slots[past.length + 1]? = some slot := by simp [slots, whole]
      rw [completed_windowed_cons]
      intro stale found stretch
      have last : (earlier ++ [previous] ++ stale)[past.length]? = some previous := by simp [← sized]
      obtain ⟨left, leftSized, done⟩ := Finds.foldlM each stale found stretch
      refine ⟨left, leftSized, ?_⟩
      simp only [List.length_cons, extend?, place, Nat.add_sub_cancel, gapHere, slotHere, last,
        Option.bind_eq_bind, Option.bind_some]
      exact done

/-! ## The whole search -/

/-- All ways to bind all slots within the windows of their gaps. -/
def allWindowed (pattern : Pattern) (tokens : List Token) : List (List Nat) :=
  ((List.range tokens.length).filter (pattern.first.acceptsAt tokens)).flatMap fun position =>
    (windowed tokens pattern.rest position).map (position :: ·)

theorem WellFormed.search?_eq (wellFormed : pattern.WellFormed) (tokens : List Token) :
    pattern.search? tokens = some (if tokens.length < pattern.minSpan.toNat then []
      else pattern.completed tokens (pattern.allWindowed tokens)) := by
  have each : ∀ anchor ∈ List.range tokens.length,
      Finds [] (pattern.rest.length + 1)
        (tryAt? tokens pattern.first 0 (extend? pattern tokens pattern.rest.length) · anchor)
        (if pattern.first.acceptsAt tokens anchor then
          pattern.completed tokens ((windowed tokens pattern.rest anchor).map (anchor :: ·)) else []) := by
    intro anchor member
    have inside := List.mem_range.mp member
    have whole : pattern.rest = [] ++ pattern.rest := rfl
    have none : ([] : List Nat).length = ([] : List (Gap × Slot)).length := rfl
    refine Finds.tryAt? inside (wellFormed.finds_extend? whole none ?_)
    exact fun position same => List.mem_singleton.mp same ▸ inside
  have slotCount : pattern.slots.length = pattern.rest.length + 1 := by simp [slots]
  obtain ⟨left, -, done⟩ :=
    Finds.foldlM each (List.replicate (pattern.rest.length + 1) 0) [] List.length_replicate
  simp only [flatMap_ite, ← completed_flatMap, List.nil_append] at done
  have first : pattern.slots[0]? = some pattern.first := rfl
  rw [search?]
  split
  · rfl
  · simp only [slotCount, Nat.add_sub_cancel, first, Option.bind_eq_bind, Option.bind_some, done]
    rfl

/-- The search never reads or writes outside of its lists. -/
theorem WellFormed.isSome_search? (wellFormed : pattern.WellFormed) (tokens : List Token) :
    (pattern.search? tokens).isSome = true := by
  rw [wellFormed.search?_eq, Option.isSome_some]

/-- The search finds the matches of a sequence whose positions are numbers of 64 bits. -/
theorem WellFormed.search?_eq_matchesIn (wellFormed : pattern.WellFormed) (short : tokens.length < UInt64.size) :
    pattern.search? tokens = some (pattern.matchesIn tokens) := by
  have same : pattern.allWindowed tokens = pattern.allBindings tokens := by
    rw [allWindowed, allBindings, List.flatMap_def, List.flatMap_def]
    refine congrArg List.flatten (List.map_congr_left fun position member => ?_)
    rw [windowed_eq_bindings short (List.mem_range.mp (List.mem_filter.mp member).1)]
  rw [wellFormed.search?_eq, same, matchesIn, completed]

/-! ## Accepted patterns -/

/-- With an accepted pattern, the matches in a sentence are its occurrences, each of them once and in strictly
ascending lexicographic order; their heads and collocates are what the slots of the head and the collocate are
bound to.  The search step by step finds the same. -/
theorem matchesIn_of_accepted {tagsets : Tagsets} (accepted : Accepted tagsets pattern) (tokens : List Token) :
    ((pattern.matchesIn tokens).map Match.positions).Pairwise (List.Lex (· < ·)) ∧
      (∀ positions, positions ∈ (pattern.matchesIn tokens).map Match.positions ↔
        pattern.Occurs tokens positions) ∧
      (∀ found ∈ pattern.matchesIn tokens, pattern.IsBound found.positions headLabel found.head ∧
        pattern.IsBound found.positions collocateLabel found.collocate) ∧
      (tokens.length < UInt64.size → pattern.search? tokens = some (pattern.matchesIn tokens)) := by
  have wellFormed := accepted.wellFormed
  refine ⟨pairwise_positions_matchesIn pattern tokens, fun positions => ?_, fun found member => ?_,
    wellFormed.search?_eq_matchesIn⟩
  · rw [List.mem_map]
    constructor
    · rintro ⟨found, member, rfl⟩
      exact (wellFormed.mem_matchesIn_iff.mp member).1
    · intro occurs
      exact ⟨pattern.matchAt positions, wellFormed.mem_matchesIn_iff.mpr ⟨occurs, rfl⟩, rfl⟩
  · obtain ⟨occurs, same⟩ := wellFormed.mem_matchesIn_iff.mp member
    rw [same]
    exact wellFormed.isBound_matchAt occurs.length

/-- A gap as wide as numbers go ends with the sentence, and a rule tells apart what the slots accept. -/
theorem matchesIn_of_wide_gap :
    let nominative := Dictionary.empty.insert "Case" "Nom"
    let genitive := Dictionary.empty.insert "Case" "Gen"
    let tokens : List Token := [⟨"velika", "velik", "ADJ", nominative⟩, ⟨"stare", "star", "ADJ", genitive⟩,
      ⟨"hiša", "hiša", "NOUN", nominative⟩, ⟨"vas", "vas", "NOUN", nominative⟩]
    ∃ pattern, ofText "2:[pos=\"ADJ\"] \x7b0,9223372036854775807\x7d 1:[pos=\"NOUN\"]; agree 1.Case = 2.Case"
        "sl" .empty = .ok pattern ∧
      (pattern.matchesIn tokens).map Match.positions = [[0, 2], [0, 3]] ∧
      (∀ positions, positions ∈ [[0, 2], [0, 3]] ↔ pattern.Occurs tokens positions) ∧
      pattern.search? tokens = some (pattern.matchesIn tokens) := by
  intro nominative genitive tokens
  obtain ⟨pattern, read, listed⟩ : ∃ pattern,
      ofText "2:[pos=\"ADJ\"] \x7b0,9223372036854775807\x7d 1:[pos=\"NOUN\"]; agree 1.Case = 2.Case" "sl" .empty =
        .ok pattern ∧ (pattern.matchesIn tokens).map Match.positions = [[0, 2], [0, 3]] :=
    exists_ok_of_toOption (by decide +kernel)
  obtain ⟨-, exact, -, stepwise⟩ := matchesIn_of_accepted (.ofText read) tokens
  rw [listed] at exact
  exact ⟨pattern, read, listed, exact, stepwise (by decide +kernel)⟩

end Pattern
end Collocation
