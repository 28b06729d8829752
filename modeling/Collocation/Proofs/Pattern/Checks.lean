import Collocation.Grammar.Relation
import Collocation.Proofs.Pattern.Positions

/-!
# Checked drafts

What a draft has to pass, and the pattern that it then gives.  The parts of speech of a language decide
whether a draft passes, but not what it gives.
-/

namespace Collocation
namespace Draft

variable {draft : Draft} {source language : String} {tagsets : Tagsets} {pattern : Pattern}

theorem refuse_eq_ok_iff {found : Option PatternError} {done : Unit} :
    refuse found = .ok done ↔ found = none := by
  cases found with
  | none => exact ⟨fun _ => rfl, fun _ => rfl⟩
  | some error => exact ⟨fun same => (nomatch same), fun same => (nomatch same)⟩

theorem repeatedLabel?_eq_none_iff {seen : List String} {slots : List Slot} :
    repeatedLabel? seen slots = none ↔
      ((slots.map Slot.label).filterMap id).Nodup ∧
        ∀ label ∈ (slots.map Slot.label).filterMap id, label ∉ seen := by
  induction slots generalizing seen with
  | nil => simp [repeatedLabel?]
  | cons slot slots induction =>
      obtain ⟨label, constraint, clause⟩ := slot
      cases label with
      | none => simp [repeatedLabel?, induction]
      | some label =>
          by_cases again : label ∈ seen
          · simp [repeatedLabel?, again]
          · simp only [repeatedLabel?, List.contains_iff_mem, again, if_false, induction, List.map_cons,
              List.filterMap_cons, id, List.nodup_cons, List.mem_cons, not_or]
            constructor
            · rintro ⟨distinct, apart⟩
              refine ⟨⟨fun member => (apart label member).1 rfl, distinct⟩, ?_⟩
              rintro other (rfl | member)
              · exact again
              · exact (apart other member).2
            · rintro ⟨⟨first, distinct⟩, apart⟩
              exact ⟨distinct, fun other member =>
                ⟨fun same => first (same ▸ member), apart other (Or.inr member)⟩⟩

theorem unknownTag?_eq_none_iff {slots : List Slot} :
    unknownTag? tagsets language slots = none ↔
      ∀ slot ∈ slots, ∀ tag ∈ slot.constraint.tags, tagsets.isKnown language tag = true := by
  induction slots with
  | nil => simp [unknownTag?]
  | cons slot slots induction =>
      rw [unknownTag?, List.forall_mem_cons, ← induction]
      cases unknown : slot.constraint.tags.find? fun tag => !tagsets.isKnown language tag with
      | none =>
          have known := List.find?_eq_none.mp unknown
          simp only [Bool.not_eq_true', Bool.not_eq_false] at known
          exact ⟨fun others => ⟨known, others⟩, fun both => both.2⟩
      | some tag =>
          have member := List.mem_of_find?_eq_some unknown
          have strange := List.find?_some unknown
          simp only [Bool.not_eq_true'] at strange
          refine ⟨fun same => (nomatch same), fun both => ?_⟩
          rw [both.1 tag member] at strange
          cases strange

theorem checkedSpan_eq_ok_iff {gaps : List Pattern.Gap} {span : UInt64} :
    checkedSpan gaps = .ok span ↔ spanOf gaps < UInt64.size ∧ span.toNat = spanOf gaps := by
  rw [checkedSpan]
  split
  · next small =>
      rw [Except.ok.injEq, and_iff_right small, ← UInt64.toNat_inj, UInt64.toNat_ofNat_of_lt' small]
      exact eq_comm
  · next large => exact ⟨fun same => (nomatch same), fun both => absurd both.1 large⟩

theorem checkedSpan_eq_error_iff {gaps : List Pattern.Gap} {cause : PatternError} :
    checkedSpan gaps = .error cause ↔ UInt64.size ≤ spanOf gaps ∧ cause = .overflow := by
  rw [checkedSpan]
  split
  · next small => exact ⟨fun same => (nomatch same), fun both => absurd both.1 (Nat.not_le.mpr small)⟩
  · next large => rw [Except.error.injEq, and_iff_right (Nat.not_lt.mp large), eq_comm]

/-- The pattern that a draft gives, whatever the parts of speech of the language. -/
structure Gives (draft : Draft) (source language : String) (pattern : Pattern) : Prop where
  source : pattern.source = source
  language : pattern.language = language
  first : pattern.first = ⟨draft.first.label, draft.first.constraint⟩
  rest : ∃ gaps, draft.gaps.mapM checkedGap = .ok gaps ∧
    pattern.rest = gaps.zip (draft.rest.map fun step => ⟨step.2.label, step.2.constraint⟩) ∧
    checkedSpan gaps = .ok pattern.minSpan
  filters : draft.agreements.mapM draft.filterOf = .ok pattern.filters
  head : draft.placeOf? headLabel = some pattern.head
  collocate : draft.placeOf? collocateLabel = some pattern.collocate

theorem Gives.unique {other : Pattern} (gives : draft.Gives source language pattern)
    (also : draft.Gives source language other) : pattern = other := by
  obtain ⟨rfl, rfl, first, ⟨gaps, checked, rest, span⟩, filters, head, collocate⟩ := gives
  obtain ⟨source, language, first', ⟨gaps', checked', rest', span'⟩, filters', head', collocate'⟩ := also
  obtain rfl := Except.ok.inj (checked.symm.trans checked')
  have span := Except.ok.inj (span.symm.trans span')
  have filters := Except.ok.inj (filters.symm.trans filters')
  have head := Option.some.inj (head.symm.trans head')
  have collocate := Option.some.inj (collocate.symm.trans collocate')
  cases pattern
  cases other
  simp_all

/-- The labels differ and the parts of speech are known. -/
structure Passes (draft : Draft) (language : String) (tagsets : Tagsets) : Prop where
  distinct : ((draft.slots.map Slot.label).filterMap id).Nodup
  known : ∀ slot ∈ draft.slots, ∀ tag ∈ slot.constraint.tags, tagsets.isKnown language tag = true

theorem checked_eq_ok_iff :
    draft.checked source language tagsets = .ok pattern ↔
      draft.Passes language tagsets ∧ draft.Gives source language pattern := by
  simp only [checked, bind_eq_ok_iff, pure_eq_ok_iff, refuse_eq_ok_iff, requiredPlace_eq_ok_iff,
    repeatedLabel?_eq_none_iff, unknownTag?_eq_none_iff]
  constructor
  · rintro ⟨-, ⟨distinct, -⟩, head, headFound, collocate, collocateFound, -, known, gaps, gapsChecked,
      filters, filtersMade, span, added, rfl⟩
    exact ⟨⟨distinct, known⟩, rfl, rfl, rfl, ⟨gaps, gapsChecked, rfl, added⟩, filtersMade, headFound,
      collocateFound⟩
  · rintro ⟨⟨distinct, known⟩, rfl, rfl, first, ⟨gaps, gapsChecked, rest, span⟩, filtersMade, headFound,
      collocateFound⟩
    refine ⟨(), ⟨distinct, fun label _ => List.not_mem_nil⟩, _, headFound, _, collocateFound, (), known,
      gaps, gapsChecked, _, filtersMade, _, span, ?_⟩
    rw [← first, ← rest]

/-! ## What a checked draft gives -/

theorem Gives.slots (gives : draft.Gives source language pattern) :
    pattern.slots = draft.slots.map fun slot => ⟨slot.label, slot.constraint⟩ := by
  obtain ⟨-, -, first, ⟨gaps, checked, rest, -⟩, -, -, -⟩ := gives
  have sized : gaps.length = draft.rest.length := by
    rw [length_of_mapM_eq_ok checked, Draft.gaps, List.length_map]
  rw [Pattern.slots, first, rest, List.map_snd_zip (by simp [sized]), Draft.slots, List.map_cons, List.map_map]
  rfl

theorem Gives.length_slots (gives : draft.Gives source language pattern) :
    pattern.slots.length = draft.slots.length := by
  rw [gives.slots, List.length_map]

theorem Gives.labels (gives : draft.Gives source language pattern) :
    pattern.slots.map Pattern.Slot.label = draft.slots.map Slot.label := by
  rw [gives.slots, List.map_map]
  rfl

theorem Gives.gaps (gives : draft.Gives source language pattern) :
    draft.gaps.mapM checkedGap = .ok pattern.gaps := by
  obtain ⟨-, -, -, ⟨gaps, checked, rest, -⟩, -, -, -⟩ := gives
  have sized : gaps.length = draft.rest.length := by
    rw [length_of_mapM_eq_ok checked, Draft.gaps, List.length_map]
  rw [checked, Pattern.gaps, rest, List.map_fst_zip (by simp [sized])]

theorem Gives.span (gives : draft.Gives source language pattern) :
    pattern.minSpan.toNat = spanOf pattern.gaps := by
  obtain ⟨gaps, checked, -, span⟩ := gives.rest
  rw [(checkedSpan_eq_ok_iff.mp span).2, Except.ok.inj (checked.symm.trans gives.gaps)]

theorem declaredPlace_eq_ok_iff {clause label : String} {place : Nat} :
    draft.declaredPlace clause label = .ok place ↔ draft.placeOf? label = some place := by
  rw [declaredPlace]
  cases draft.placeOf? label <;> simp

end Draft

/-! ## Two tagsets -/

/-- The relation of a grammar has its pattern, and everything else from the grammar itself. -/
theorem Grammar.relation_eq_ok_iff {grammar : Grammar} {tagsets : Tagsets} {relation : Relation} :
    grammar.relation tagsets = .ok relation ↔
      ∃ pattern, grammar.pattern tagsets = .ok pattern ∧ relation =
        ⟨grammar.name, pattern, grammar.bidirectional, grammar.priority, grammar.active⟩ := by
  rw [Grammar.relation]
  cases grammar.pattern tagsets <;> simp [eq_comm]

theorem Grammar.relation_unique {grammar : Grammar} {first second : Tagsets} {relation other : Relation}
    (accepted : grammar.relation first = .ok relation) (also : grammar.relation second = .ok other) :
    relation = other := by
  obtain ⟨left, leftMade, rfl⟩ := relation_eq_ok_iff.mp accepted
  obtain ⟨right, rightMade, rfl⟩ := relation_eq_ok_iff.mp also
  simp only [pattern, bind_eq_ok_iff] at leftMade rightMade
  obtain ⟨written, read, narrowed, narrows, whole, agrees, passes⟩ := leftMade
  obtain ⟨written', read', narrowed', narrows', whole', agrees', passes'⟩ := rightMade
  obtain rfl := Except.ok.inj (read.symm.trans read')
  obtain rfl := Except.ok.inj (narrows.symm.trans narrows')
  obtain rfl := Except.ok.inj (agrees.symm.trans agrees')
  rw [(Draft.checked_eq_ok_iff.mp passes).2.unique (Draft.checked_eq_ok_iff.mp passes').2]

/-- The relations of a grammar set are the same with all tagsets that accept it. -/
theorem GrammarSet.relations_unique {set : GrammarSet} {first second : Tagsets}
    {relations other : RelationSet} (accepted : set.relations first = .ok relations)
    (also : set.relations second = .ok other) : relations = other := by
  simp only [GrammarSet.relations, bind_eq_ok_iff, pure_eq_ok_iff] at accepted also
  obtain ⟨left, leftMade, rfl⟩ := accepted
  obtain ⟨right, rightMade, rfl⟩ := also
  have same : left = right := by
    generalize set.grammars = grammars at leftMade rightMade
    induction grammars generalizing left right with
    | nil =>
        rw [List.mapM_nil, pure_eq_ok_iff] at leftMade rightMade
        exact leftMade.symm.trans rightMade
    | cons grammar grammars induction =>
        obtain ⟨relation, others, here, continued, rfl⟩ := mapM_cons_eq_ok_iff.mp leftMade
        obtain ⟨relation', others', here', continued', rfl⟩ := mapM_cons_eq_ok_iff.mp rightMade
        rw [Grammar.relation_unique here here', induction others others' continued continued']
  rw [same]

end Collocation
