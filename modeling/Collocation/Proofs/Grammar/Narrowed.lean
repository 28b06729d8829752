import Collocation.Proofs.Grammar.Relations
import Collocation.Proofs.Pattern.Checks

/-!
# Narrowed patterns

What a grammar says outside the text of its pattern leaves out matches of the text and changes nothing else.
A slot that is narrowed while the pattern is searched for leaves out the matches that bind it to a token
with another part of speech; a rule that is added leaves out those in which its features differ.
-/

namespace Collocation

theorem map_modify {α β : Type} (change : α → α) (view : α → β) (seen : β → β)
    (shown : ∀ item, view (change item) = seen (view item)) (list : List α) (place : Nat) :
    (list.modify place change).map view = (list.map view).modify place seen := by
  induction list generalizing place with
  | nil => rw [List.modify_nil, List.map_nil, List.modify_nil]
  | cons item list induction =>
      cases place with
      | zero => rw [List.modify_zero_cons, List.map_cons, List.map_cons, List.modify_zero_cons, shown]
      | succ place =>
          rw [List.modify_succ_cons, List.map_cons, List.map_cons, List.modify_succ_cons, induction]

theorem map_modify_of_kept {α β : Type} (change : α → α) (view : α → β)
    (kept : ∀ item, view (change item) = view item) (list : List α) (place : Nat) :
    (list.modify place change).map view = list.map view :=
  (map_modify change view id kept list place).trans (List.modify_id place (list.map view))

theorem zip_modify {α β : Type} (change : β → β) (left : List α) (right : List β) (place : Nat) :
    left.zip (right.modify place change) = (left.zip right).modify place (Prod.map id change) := by
  induction right generalizing left place with
  | nil => rw [List.modify_nil, List.zip_nil_right, List.modify_nil]
  | cons item right induction =>
      cases left with
      | nil => rw [List.zip_nil_left, List.zip_nil_left, List.modify_nil]
      | cons first left =>
          cases place with
          | zero => rfl
          | succ place =>
              rw [List.modify_succ_cons, List.zip_cons_cons, List.zip_cons_cons, List.modify_succ_cons,
                induction]

namespace Constraint

theorem tagsOfAll_append (left right : List Constraint) :
    tagsOfAll (left ++ right) = tagsOfAll left ++ tagsOfAll right := by
  induction left with
  | nil => rfl
  | cons part left induction => rw [List.cons_append, tagsOfAll, tagsOfAll, induction, List.append_assoc]

theorem mem_tags_merge {left right : Constraint} {tag : String} (named : tag ∈ left.tags) :
    tag ∈ (left.merge right).tags := by
  cases left <;> cases right <;> simp_all [merge, tags, tagsOfAll, tagsOfAll_append]

end Constraint

namespace Pattern

/-! ## Narrowed slots -/

/-- The slot for tokens with one of some parts of speech, or for the same tokens if there are none. -/
def Slot.narrow (tags : List String) (slot : Slot) : Slot :=
  { slot with constraint := slot.constraint.merge (.ofTags tags) }

/-- The token at a position has one of some parts of speech, or there are none. -/
def tagAt (tokens : List Token) (tags : List String) (position : Nat) : Bool :=
  tokens[position]?.any fun token => tags.isEmpty || tags.contains token.tag

theorem Slot.acceptsAt_narrow (tags : List String) (slot : Slot) (tokens : List Token) :
    (slot.narrow tags).acceptsAt tokens = fun position =>
      tagAt tokens tags position && slot.acceptsAt tokens position := by
  funext position
  rw [acceptsAt, acceptsAt, tagAt, narrow]
  cases tokens[position]? with
  | none => rfl
  | some token =>
      simp only [Option.any_some, Constraint.accepts_merge, Constraint.accepts_ofTags]
      exact Bool.and_comm _ _

theorem filter_flatMap_cons_zero (test : Nat → Bool) (list : List Nat)
    (further : Nat → List (List Nat)) :
    (list.flatMap fun position => (further position).map (position :: ·)).filter
        (fun positions => positions[0]?.any test) =
      (list.filter test).flatMap fun position => (further position).map (position :: ·) := by
  induction list with
  | nil => rfl
  | cons position list induction =>
      rw [List.flatMap_cons, List.filter_append, induction, List.filter_map, List.filter_cons]
      cases passes : test position with
      | false => simp [Function.comp_def, passes]
      | true =>
          have all := List.filter_eq_self.mpr fun positions (_ : positions ∈ further position) => passes
          simp only [Function.comp_def, List.getElem?_cons_zero, Option.any_some, if_true,
            List.flatMap_cons, all]

theorem filter_flatMap_cons_succ (test : Nat → Bool) (place : Nat) (list : List Nat)
    (further : Nat → List (List Nat)) :
    (list.flatMap fun position => (further position).map (position :: ·)).filter
        (fun positions => positions[place + 1]?.any test) =
      list.flatMap fun position =>
        ((further position).filter fun positions => positions[place]?.any test).map (position :: ·) := by
  simp only [List.filter_flatMap, List.filter_map, Function.comp_def, List.getElem?_cons_succ]

theorem bindings_modify (tokens : List Token) (tags : List String) {steps : List (Gap × Slot)}
    {place : Nat} (inside : place < steps.length) (previous : Nat) :
    bindings tokens (steps.modify place (Prod.map id (Slot.narrow tags))) previous =
      (bindings tokens steps previous).filter fun positions =>
        positions[place]?.any (tagAt tokens tags) := by
  induction steps generalizing place previous with
  | nil => exact absurd inside (Nat.not_lt_zero place)
  | cons step steps induction =>
      obtain ⟨gap, slot⟩ := step
      cases place with
      | zero =>
          rw [List.modify_zero_cons, bindings, bindings, filter_flatMap_cons_zero, List.filter_filter]
          simp only [Prod.map, id, Slot.acceptsAt_narrow]
      | succ place =>
          have further := induction (Nat.lt_of_succ_lt_succ inside)
          rw [List.modify_succ_cons, bindings, bindings, filter_flatMap_cons_succ]
          simp only [further]

/-- The pattern with the slot at a place narrowed. -/
def narrowAt (tags : List String) (pattern : Pattern) : Nat → Pattern
  | 0 => { pattern with first := pattern.first.narrow tags }
  | place + 1 => { pattern with rest := pattern.rest.modify place (Prod.map id (Slot.narrow tags)) }

variable {pattern : Pattern} {tokens : List Token}

theorem allBindings_narrowAt (tags : List String) {place : Nat} (inside : place < pattern.slots.length) :
    (pattern.narrowAt tags place).allBindings tokens =
      (pattern.allBindings tokens).filter fun positions =>
        positions[place]?.any (tagAt tokens tags) := by
  cases place with
  | zero =>
      rw [allBindings, allBindings, filter_flatMap_cons_zero, List.filter_filter]
      simp only [narrowAt, Slot.acceptsAt_narrow]
  | succ place =>
      have within : place < pattern.rest.length := by simpa [slots] using inside
      rw [allBindings, allBindings, filter_flatMap_cons_succ]
      simp only [narrowAt, bindings_modify tokens tags within]

/-- Narrowing a slot leaves out matches. -/
theorem matchesIn_narrowAt (tags : List String) {place : Nat} (inside : place < pattern.slots.length) :
    (pattern.narrowAt tags place).matchesIn tokens =
      (pattern.matchesIn tokens).filter fun found =>
        found.positions[place]?.any (tagAt tokens tags) := by
  have span : (pattern.narrowAt tags place).minSpan = pattern.minSpan := by cases place <;> rfl
  have filters : (pattern.narrowAt tags place).filters = pattern.filters := by cases place <;> rfl
  have matched : (pattern.narrowAt tags place).matchAt = pattern.matchAt := by cases place <;> rfl
  rw [matchesIn, matchesIn, span]
  split
  · rfl
  · rw [allBindings_narrowAt tags inside, filters, matched, List.filter_map, List.filter_filter,
      List.filter_filter]
    refine congrArg (List.map pattern.matchAt) (List.filter_congr fun positions _ => ?_)
    exact Bool.and_comm _ _

theorem matchesIn_append_filters (more : List Filter) :
    ({ pattern with filters := pattern.filters ++ more } : Pattern).matchesIn tokens =
      (pattern.matchesIn tokens).filter fun found =>
        more.all fun filter => filter.holds tokens found.positions := by
  rw [matchesIn, matchesIn]
  split
  · rfl
  · rw [List.filter_map, List.filter_filter]
    refine congrArg (List.map pattern.matchAt) (List.filter_congr fun positions _ => ?_)
    simp only [List.all_append, Function.comp_apply, matchAt]
    exact Bool.and_comm _ _

/-! ## Matches by labels -/

/-- The place of the slot with a label. -/
def placeOf? (pattern : Pattern) (label : String) : Option Nat :=
  pattern.slots.findIdx? fun slot => slot.label == some label

/-- The token that the slot with a label is bound to. -/
def tokenOf? (pattern : Pattern) (tokens : List Token) (found : Match) (label : String) : Option Token := do
  let place ← pattern.placeOf? label
  let position ← found.positions[place]?
  tokens[position]?

/-- The value of a feature of the token that the slot of a reference is bound to. -/
def valueOf? (pattern : Pattern) (tokens : List Token) (found : Match) (reference : Written.Reference) :
    Option String :=
  (pattern.tokenOf? tokens found reference.label).bind fun token =>
    token.features.get? reference.feature

/-- The token of a slot has one of the parts of speech that are allowed there, if any are listed. -/
def allows (pattern : Pattern) (tokens : List Token) (found : Match) (entry : String × List String) :
    Bool :=
  entry.2.isEmpty ||
    (pattern.tokenOf? tokens found entry.1).any fun token => entry.2.contains token.tag

/-- Two features are there and have the same value. -/
def agrees (pattern : Pattern) (tokens : List Token) (found : Match) (left right : Written.Reference) :
    Bool :=
  match pattern.valueOf? tokens found left, pattern.valueOf? tokens found right with
  | some value, some other => value == other
  | _, _ => false

/-- Two references agree; texts that are no references do not. -/
def reconciles (pattern : Pattern) (tokens : List Token) (found : Match) (sides : String × String) : Bool :=
  match Written.Reference.ofText? sides.1, Written.Reference.ofText? sides.2 with
  | some left, some right => pattern.agrees tokens found left right
  | _, _ => false

theorem matchesIn_narrowAt_of_placeOf? {label : String} {tags : List String} {place : Nat}
    (declared : pattern.placeOf? label = some place) :
    (pattern.narrowAt tags place).matchesIn tokens =
      (pattern.matchesIn tokens).filter fun found => pattern.allows tokens found (label, tags) := by
  have inside : place < pattern.slots.length := (List.findIdx?_eq_some_iff_getElem.mp declared).1
  rw [matchesIn_narrowAt tags inside]
  refine List.filter_congr fun found member => ?_
  obtain ⟨positions, fits, rfl⟩ := exists_fits_of_mem_matchesIn member
  obtain ⟨sized, within⟩ := fits.within
  rw [← sized] at inside
  have bound := List.getElem?_eq_getElem (within _ (List.getElem_mem inside))
  simp only [allows, tokenOf?, declared, matchAt, List.getElem?_eq_getElem inside, Option.any_some, tagAt,
    bound, Option.bind_eq_bind, Option.bind_some]

theorem holds_eq_agrees {left right : Written.Reference} {leftPlace rightPlace : Nat}
    (leftDeclared : pattern.placeOf? left.label = some leftPlace)
    (rightDeclared : pattern.placeOf? right.label = some rightPlace) (found : Match) :
    (⟨leftPlace, left.feature, rightPlace, right.feature⟩ : Filter).holds tokens found.positions =
      pattern.agrees tokens found left right := by
  have value {reference : Written.Reference} {place : Nat}
      (declared : pattern.placeOf? reference.label = some place) :
      pattern.valueOf? tokens found reference =
        featureAt? tokens found.positions place reference.feature := by
    simp only [featureAt?, valueOf?, tokenOf?, declared, Option.bind_eq_bind, Option.bind_some,
      Option.bind_assoc]
  rw [agrees, value leftDeclared, value rightDeclared]
  rfl

theorem placeOf?_eq_of_labels {other : Pattern}
    (labels : other.slots.map Slot.label = pattern.slots.map Slot.label) :
    other.placeOf? = pattern.placeOf? := by
  funext label
  have byLabels (pattern : Pattern) :
      pattern.placeOf? label = (pattern.slots.map Slot.label).findIdx? (· == some label) := by
    rw [List.findIdx?_map]
    rfl
  rw [byLabels, byLabels, labels]

theorem labels_narrowAt (tags : List String) (place : Nat) :
    (pattern.narrowAt tags place).slots.map Slot.label = pattern.slots.map Slot.label := by
  cases place with
  | zero => rfl
  | succ place =>
      simp only [narrowAt, slots, List.map_cons, List.map_map]
      exact congrArg (List.cons pattern.first.label)
        (map_modify_of_kept (Prod.map id (Slot.narrow tags)) (Slot.label ∘ Prod.snd) (fun _ => rfl)
          pattern.rest place)

end Pattern

namespace Draft

/-! ## Narrowed drafts -/

/-- The draft with the slot at a place narrowed. -/
def narrowAt (clause : String) (tags : List String) (draft : Draft) : Nat → Draft
  | 0 => { draft with first := narrowSlot clause tags draft.first }
  | place + 1 =>
      { draft with rest := draft.rest.modify place (Prod.map id (narrowSlot clause tags)) }

theorem narrowSteps_eq_modify {label : String} (clause : String) (tags : List String)
    {steps : List (Option Gap × Slot)} {place : Nat}
    (found : steps.findIdx? (fun step => step.2.label == some label) = some place) :
    narrowSteps label clause tags steps =
      steps.modify place (Prod.map id (narrowSlot clause tags)) := by
  induction steps generalizing place with
  | nil => cases found
  | cons step steps induction =>
      obtain ⟨gap, slot⟩ := step
      rw [List.findIdx?_cons] at found
      by_cases here : slot.label = some label
      · simp only [here, beq_self_eq_true, if_true, Option.some.injEq] at found
        subst found
        simp [narrowSteps, here]
      · simp only [beq_iff_eq, here, if_false] at found
        obtain ⟨further, later, rfl⟩ := Option.map_eq_some_iff.mp found
        simp [narrowSteps, here, induction later]

theorem exists_narrowAt {draft narrowed : Draft} {label : String} {tags : List String}
    (narrows : draft.narrow (label, tags) = .ok narrowed) :
    ∃ clause place, draft.placeOf? label = some place ∧ narrowed = draft.narrowAt clause tags place := by
  refine ⟨s!"pos_constraints[{label}] = {Text.quotedList tags}", ?_⟩
  simp only [narrow] at narrows
  split at narrows
  · next first =>
      refine ⟨0, ?_, (Except.ok.inj narrows).symm⟩
      simp [placeOf?, slots, List.findIdx?_cons, first]
  · next first =>
      split at narrows
      · next later =>
          have declared : (draft.rest.findIdx? fun step => step.2.label == some label).isSome := by
            rw [List.findIdx?_isSome]
            simpa using later
          obtain ⟨place, found⟩ := Option.isSome_iff_exists.mp declared
          refine ⟨place + 1, ?_, ?_⟩
          · rw [placeOf?, slots, List.findIdx?_cons, List.findIdx?_map]
            simp only [beq_iff_eq, first, if_false]
            exact congrArg (Option.map (· + 1)) found
          · rw [← Except.ok.inj narrows, narrowSteps_eq_modify _ _ found]
            rfl
      · cases narrows

variable {draft : Draft} {source language : String} {tagsets : Tagsets} {clause : String}
  {tags : List String} {place : Nat}

theorem slots_narrowAt :
    (draft.narrowAt clause tags place).slots = draft.slots.modify place (narrowSlot clause tags) := by
  cases place with
  | zero => rfl
  | succ place =>
      rw [slots, slots, List.modify_succ_cons]
      refine congrArg (List.cons draft.first) ?_
      exact map_modify _ Prod.snd (narrowSlot clause tags) (fun _ => rfl) draft.rest place

theorem labels_narrowAt :
    (draft.narrowAt clause tags place).slots.map Slot.label = draft.slots.map Slot.label := by
  rw [slots_narrowAt]
  exact map_modify_of_kept (narrowSlot clause tags) Slot.label (fun _ => rfl) draft.slots place

theorem gaps_narrowAt : (draft.narrowAt clause tags place).gaps = draft.gaps := by
  cases place with
  | zero => rfl
  | succ place =>
      exact map_modify_of_kept (Prod.map id (narrowSlot clause tags)) Prod.fst (fun _ => rfl) draft.rest place

theorem agreements_narrowAt : (draft.narrowAt clause tags place).agreements = draft.agreements := by
  cases place <;> rfl

theorem placeOf?_eq_of_labels {other : Draft}
    (labels : other.slots.map Slot.label = draft.slots.map Slot.label) :
    other.placeOf? = draft.placeOf? := by
  funext label
  have byLabels (draft : Draft) :
      draft.placeOf? label = (draft.slots.map Slot.label).findIdx? (· == some label) := by
    rw [List.findIdx?_map]
    rfl
  rw [byLabels, byLabels, labels]

theorem filterOf_eq_of_placeOf? {other : Draft} (places : other.placeOf? = draft.placeOf?) :
    other.filterOf = draft.filterOf := by
  funext rule
  simp only [filterOf, declaredPlace, places]

theorem passes_of_narrowAt (passes : (draft.narrowAt clause tags place).Passes language tagsets) :
    draft.Passes language tagsets where
  distinct := labels_narrowAt ▸ passes.distinct
  known := fun slot member tag named => by
    obtain ⟨index, inside, rfl⟩ := List.mem_iff_getElem.mp member
    have found : draft.slots[index]? = some draft.slots[index] := List.getElem?_eq_getElem inside
    have later : (draft.narrowAt clause tags place).slots[index]? =
        some (if place = index then narrowSlot clause tags draft.slots[index] else draft.slots[index]) := by
      rw [slots_narrowAt, List.getElem?_modify, found]
      rfl
    refine passes.known _ (List.mem_of_getElem? later) tag ?_
    split
    · exact Constraint.mem_tags_merge named
    · exact named

/-- The pattern of a narrowed draft is the pattern of the draft with its slot narrowed. -/
theorem exists_gives_of_narrowAt {slim : Pattern}
    (gives : (draft.narrowAt clause tags place).Gives source language slim) :
    ∃ wide, draft.Gives source language wide ∧ slim = wide.narrowAt tags place := by
  obtain ⟨written, spoken, first, rest, filters, head, collocate, span⟩ := slim
  obtain ⟨rfl, rfl, rfl, ⟨gaps, checked, rfl, added⟩, filtersMade, headFound, collocateFound⟩ := gives
  have places : (draft.narrowAt clause tags place).placeOf? = draft.placeOf? :=
    placeOf?_eq_of_labels labels_narrowAt
  rw [gaps_narrowAt] at checked
  rw [agreements_narrowAt, filterOf_eq_of_placeOf? places] at filtersMade
  rw [places] at headFound collocateFound
  let strip (step : Option Gap × Slot) : Pattern.Slot := ⟨step.2.label, step.2.constraint⟩
  refine ⟨⟨written, spoken, ⟨draft.first.label, draft.first.constraint⟩,
    gaps.zip (draft.rest.map strip), filters, head, collocate, span⟩,
    ⟨rfl, rfl, rfl, ⟨gaps, checked, rfl, added⟩, filtersMade, headFound, collocateFound⟩, ?_⟩
  cases place with
  | zero => rfl
  | succ place =>
      have narrowed := map_modify (Prod.map id (narrowSlot clause tags)) strip (Pattern.Slot.narrow tags)
        (fun _ => rfl) draft.rest place
      simp only [Pattern.narrowAt, ← zip_modify, ← narrowed]
      rfl

/-! ## Further rules -/

theorem exists_agreement {draft agreed : Draft} {sides : String × String}
    (agrees : draft.agree sides = .ok agreed) :
    ∃ left right clause, Written.Reference.ofText? sides.1 = some left ∧
      Written.Reference.ofText? sides.2 = some right ∧
      agreed = { draft with agreements := draft.agreements ++ [⟨left, right, clause⟩] } := by
  refine Exists.imp (fun left => Exists.imp fun right found => ⟨s!"agree {sides.1} = {sides.2}", found⟩) ?_
  simp only [agree] at agrees
  split at agrees
  · next left right leftRead rightRead =>
      exact ⟨left, right, leftRead, rightRead, (Except.ok.inj agrees).symm⟩
  · cases agrees

theorem exists_gives_of_agreement {rule : Written.Agreement} {slim : Pattern}
    (gives : Gives { draft with agreements := draft.agreements ++ [rule] } source language slim) :
    ∃ wide filter, draft.Gives source language wide ∧ draft.filterOf rule = .ok filter ∧
      slim = { wide with filters := wide.filters ++ [filter] } := by
  obtain ⟨written, spoken, first, rest, filters, head, collocate, span⟩ := slim
  obtain ⟨rfl, rfl, rfl, ⟨gaps, checked, rfl, added⟩, filtersMade, headFound, collocateFound⟩ := gives
  simp only [List.mapM_append, bind_eq_ok_iff, pure_eq_ok_iff, mapM_cons_eq_ok_iff, List.mapM_nil]
    at filtersMade
  obtain ⟨others, made, _, ⟨filter, _, last, rfl, rfl⟩, rfl⟩ := filtersMade
  exact ⟨⟨written, spoken, _, _, others, head, collocate, _⟩, filter,
    ⟨rfl, rfl, rfl, ⟨gaps, checked, rfl, added⟩, made, headFound, collocateFound⟩, last, rfl⟩

theorem placeOf?_of_gives {pattern : Pattern} (gives : draft.Gives source language pattern) :
    pattern.placeOf? = draft.placeOf? := by
  funext label
  have byLabels : pattern.placeOf? label =
      (pattern.slots.map Pattern.Slot.label).findIdx? (· == some label) := by
    rw [List.findIdx?_map]
    rfl
  rw [byLabels, gives.labels, List.findIdx?_map]
  rfl

/-! ## Narrowed grammars -/

/-- The parts of speech outside a text leave out the matches that they do not allow. -/
theorem exists_gives_of_foldlM_narrow {entries : List (String × List String)} {whole : Draft}
    {slim : Pattern} (narrows : entries.foldlM Draft.narrow draft = .ok whole)
    (passes : whole.Passes language tagsets) (gives : whole.Gives source language slim) :
    ∃ wide, draft.Passes language tagsets ∧ draft.Gives source language wide ∧
      slim.placeOf? = wide.placeOf? ∧
      (∀ entry ∈ entries, ∃ place, wide.placeOf? entry.1 = some place) ∧
      ∀ tokens, slim.matchesIn tokens =
        (wide.matchesIn tokens).filter fun found => entries.all (wide.allows tokens found) := by
  induction entries generalizing draft with
  | nil =>
      obtain rfl := pure_eq_ok_iff.mp narrows
      refine ⟨slim, passes, gives, rfl, fun entry member => absurd member List.not_mem_nil, fun tokens => ?_⟩
      exact (List.filter_eq_self.mpr fun _ _ => rfl).symm
  | cons entry entries induction =>
      obtain ⟨label, tags⟩ := entry
      rw [List.foldlM_cons] at narrows
      obtain ⟨narrowed, here, further⟩ := bind_eq_ok_iff.mp narrows
      obtain ⟨middle, middlePasses, middleGives, places, declared, restricted⟩ := induction further
      obtain ⟨clause, place, found, rfl⟩ := exists_narrowAt here
      obtain ⟨wide, wideGives, rfl⟩ := exists_gives_of_narrowAt middleGives
      have same : (wide.narrowAt tags place).placeOf? = wide.placeOf? :=
        Pattern.placeOf?_eq_of_labels (Pattern.labels_narrowAt tags place)
      have first : wide.placeOf? label = some place := by rw [placeOf?_of_gives wideGives, found]
      refine ⟨wide, passes_of_narrowAt middlePasses, wideGives, places.trans same, ?_, fun tokens => ?_⟩
      · rw [same] at declared
        exact List.forall_mem_cons.mpr ⟨⟨place, first⟩, declared⟩
      · have allowed (found : Match) :
            (wide.narrowAt tags place).allows tokens found = wide.allows tokens found := by
          funext entry
          rw [Pattern.allows, Pattern.allows, Pattern.tokenOf?, Pattern.tokenOf?, same]
        rw [restricted, Pattern.matchesIn_narrowAt_of_placeOf? first, List.filter_filter]
        refine List.filter_congr fun found _ => ?_
        rw [allowed, List.all_cons, Bool.and_comm]

/-- The rules outside a text leave out the matches in which they do not hold. -/
theorem exists_gives_of_foldlM_agree {rules : List (String × String)} {whole : Draft} {slim : Pattern}
    (agrees : rules.foldlM Draft.agree draft = .ok whole) (gives : whole.Gives source language slim) :
    whole.slots = draft.slots ∧ ∃ wide, draft.Gives source language wide ∧
      (∀ sides ∈ rules, ∃ left right, Written.Reference.ofText? sides.1 = some left ∧
        Written.Reference.ofText? sides.2 = some right ∧
        (∃ place, wide.placeOf? left.label = some place) ∧
        ∃ place, wide.placeOf? right.label = some place) ∧
      ∀ tokens, slim.matchesIn tokens =
        (wide.matchesIn tokens).filter fun found => rules.all (wide.reconciles tokens found) := by
  induction rules generalizing draft with
  | nil =>
      obtain rfl := pure_eq_ok_iff.mp agrees
      refine ⟨rfl, slim, gives, fun sides member => absurd member List.not_mem_nil, fun tokens => ?_⟩
      exact (List.filter_eq_self.mpr fun _ _ => rfl).symm
  | cons sides rules induction =>
      rw [List.foldlM_cons] at agrees
      obtain ⟨agreed, here, further⟩ := bind_eq_ok_iff.mp agrees
      obtain ⟨slots, middle, middleGives, declared, restricted⟩ := induction further
      obtain ⟨left, right, clause, leftRead, rightRead, rfl⟩ := exists_agreement here
      obtain ⟨wide, filter, wideGives, filtered, rfl⟩ := exists_gives_of_agreement middleGives
      simp only [filterOf, bind_eq_ok_iff, pure_eq_ok_iff, declaredPlace_eq_ok_iff,
        ← placeOf?_of_gives wideGives] at filtered
      obtain ⟨leftPlace, leftDeclared, rightPlace, rightDeclared, rfl⟩ := filtered
      refine ⟨slots, wide, wideGives, List.forall_mem_cons.mpr ⟨?_, declared⟩, fun tokens => ?_⟩
      · exact ⟨left, right, leftRead, rightRead, ⟨leftPlace, leftDeclared⟩, rightPlace, rightDeclared⟩
      · rw [restricted, Pattern.matchesIn_append_filters, List.filter_filter]
        refine List.filter_congr fun found _ => ?_
        have first : wide.reconciles tokens found sides = wide.agrees tokens found left right := by
          rw [Pattern.reconciles, leftRead, rightRead]
        rw [List.all_cons, List.all_cons, List.all_nil, Bool.and_true, first,
          Pattern.holds_eq_agrees leftDeclared rightDeclared, Bool.and_comm]
        rfl

end Draft

/-- A match satisfies everything that a grammar says outside the text of its pattern. -/
def Grammar.permits (grammar : Grammar) (bare : Pattern) (tokens : List Token) (found : Match) : Bool :=
  grammar.allowed.entries.all (bare.allows tokens found) &&
    grammar.agreements.all (bare.reconciles tokens found)

/-- What the draft of the text alone gives is narrowed to what the grammar permits. -/
theorem Grammar.exists_gives_of_pattern {grammar : Grammar} {tagsets : Tagsets} {pattern : Pattern}
    (accepted : grammar.pattern tagsets = .ok pattern) :
    ∃ written bare, Draft.ofText grammar.source = .ok written ∧
      written.Passes grammar.language tagsets ∧ written.Gives grammar.source grammar.language bare ∧
      (∀ entry ∈ grammar.allowed.entries, ∃ place, bare.placeOf? entry.1 = some place) ∧
      (∀ sides ∈ grammar.agreements, ∃ left right, Written.Reference.ofText? sides.1 = some left ∧
        Written.Reference.ofText? sides.2 = some right ∧
        (∃ place, bare.placeOf? left.label = some place) ∧
        ∃ place, bare.placeOf? right.label = some place) ∧
      ∀ tokens, pattern.matchesIn tokens =
        (bare.matchesIn tokens).filter (grammar.permits bare tokens) := by
  simp only [Grammar.pattern, bind_eq_ok_iff] at accepted
  obtain ⟨written, read, narrowed, narrows, whole, agrees, passes⟩ := accepted
  obtain ⟨wholePasses, wholeGives⟩ := Draft.checked_eq_ok_iff.mp passes
  obtain ⟨slots, middle, middleGives, referred, reconciled⟩ :=
    Draft.exists_gives_of_foldlM_agree agrees wholeGives
  have middlePasses : narrowed.Passes grammar.language tagsets :=
    ⟨slots ▸ wholePasses.distinct, slots ▸ wholePasses.known⟩
  obtain ⟨bare, barePasses, bareGives, places, declared, allowed⟩ :=
    Draft.exists_gives_of_foldlM_narrow narrows middlePasses middleGives
  rw [places] at referred
  refine ⟨written, bare, read, barePasses, bareGives, declared, referred, fun tokens => ?_⟩
  have same (found : Match) : middle.reconciles tokens found = bare.reconciles tokens found := by
    funext sides
    simp only [Pattern.reconciles, Pattern.agrees, Pattern.valueOf?, Pattern.tokenOf?, places]
  rw [reconciled, allowed, List.filter_filter]
  refine List.filter_congr fun found _ => ?_
  rw [permits, same, Bool.and_comm]

/-- The text of an accepted grammar is accepted alone, and it declares every label that the grammar speaks of
outside it.  In every sequence of tokens the grammar has the matches of the text that it permits, in their
order: those that bind each slot with listed parts of speech to a token with one of them, and in which the
features of each agreement rule are there and are equal. -/
theorem Grammar.matchesIn_pattern {grammar : Grammar} {tagsets : Tagsets} {pattern : Pattern}
    (accepted : grammar.pattern tagsets = .ok pattern) :
    ∃ bare, Pattern.ofText grammar.source grammar.language tagsets = .ok bare ∧
      (∀ entry ∈ grammar.allowed.entries, ∃ place, bare.placeOf? entry.1 = some place) ∧
      (∀ sides ∈ grammar.agreements, ∃ left right, Written.Reference.ofText? sides.1 = some left ∧
        Written.Reference.ofText? sides.2 = some right ∧
        (∃ place, bare.placeOf? left.label = some place) ∧
        ∃ place, bare.placeOf? right.label = some place) ∧
      ∀ tokens, pattern.matchesIn tokens =
        (bare.matchesIn tokens).filter (grammar.permits bare tokens) := by
  obtain ⟨written, bare, read, passes, gives, rest⟩ := Grammar.exists_gives_of_pattern accepted
  have checked := Draft.checked_eq_ok_iff.mpr ⟨passes, gives⟩
  exact ⟨bare, bind_eq_ok_iff.mpr ⟨written, read, checked⟩, rest⟩

/-- A text with an alternative inside, narrowed from outside and with a rule that its features agree. -/
theorem Grammar.matchesIn_pattern_of_alternative :
    let grammar : Grammar :=
      { name := "modifier", source := "2:[pos=\"ADJ\" | pos=\"VERB\"] 1:[pos=\"NOUN\"]", language := "en"
        allowed := Dictionary.empty.insert "2" ["ADJ", "ADV"], agreements := [("1.Case", "2.Case")] }
    ∃ pattern bare, grammar.pattern .empty = .ok pattern ∧
      Pattern.ofText grammar.source grammar.language .empty = .ok bare ∧
      ∀ tokens, pattern.matchesIn tokens =
        (bare.matchesIn tokens).filter (grammar.permits bare tokens) := by
  intro grammar
  have accepted : (grammar.pattern .empty).isOk = true := by decide +kernel
  cases compiled : grammar.pattern .empty with
  | error cause => simp [compiled, Except.isOk, Except.toBool] at accepted
  | ok pattern =>
      obtain ⟨bare, read, -, -, same⟩ := matchesIn_pattern compiled
      exact ⟨pattern, bare, rfl, read, same⟩

end Collocation
