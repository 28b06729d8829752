import Collocation.Proofs.Count.Afresh
import Collocation.Proofs.Pattern.Checks
import Collocation.Proofs.Tally.Sightings

/-!
# The sightings of sentences

The sightings of some sentences are the matches of all relations that are looked for, sentence by sentence and relation
by relation.  Counting sentences gives the tally of these sightings, whatever the capacity of the cache, and the order
in which a set lists its grammars makes no difference to it.
-/

namespace Collocation

/-- The lexeme of the token at a position. -/
def lexemeAt (tokens : List Token) (position : Nat) : Lexeme :=
  (tokens.getD position default).lexeme

namespace RelationSet

/-- The sightings of a match: for a name that some relation uses in both directions the swapped pairing comes first. -/
def sightingsOfMatch (relations : RelationSet) (sentence : Sentence) (name : String) (found : Match) : List Sighting :=
  let pairing : Pairing := ⟨lexemeAt sentence.tokens found.head, lexemeAt sentence.tokens found.collocate, name⟩
  if ∃ relation ∈ relations.active, relation.bidirectional = true ∧ relation.name = name then
    [⟨sentence.id, pairing.swap⟩, ⟨sentence.id, pairing⟩]
  else [⟨sentence.id, pairing⟩]

/-- The sightings of sentences: of those that are valid, for every relation that is looked for and every match. -/
def sightings (relations : RelationSet) (sentences : List Sentence) : List Sighting :=
  (sentences.filter Sentence.isValid).flatMap fun sentence =>
    relations.active.flatMap fun relation =>
      (relation.pattern.matchesIn sentence.tokens).flatMap (relations.sightingsOfMatch sentence relation.name)

/-! ## One sentence -/

variable {relations : RelationSet}

theorem isBidirectional_iff {name : String} : relations.isBidirectional name = true ↔
    ∃ relation ∈ relations.active, relation.bidirectional = true ∧ relation.name = name := by
  simp only [isBidirectional, List.any_eq_true, Bool.and_eq_true, beq_iff_eq]

theorem sightingsOfMatch_eq {sentence : Sentence} {name : String} {found : Match}
    (head : found.head < sentence.tokens.length) (collocate : found.collocate < sentence.tokens.length) :
    relations.sightingsOfMatch sentence name found =
      (relations.pairings sentence.tokens ⟨name, found⟩).map (⟨sentence.id, ·⟩) := by
  have pairing : (RelationMatch.mk name found).pairing? sentence.tokens =
      some ⟨lexemeAt sentence.tokens found.head, lexemeAt sentence.tokens found.collocate, name⟩ := by
    simp only [RelationMatch.pairing?, lexemeAt, List.getD_eq_getElem?_getD, List.getElem?_eq_getElem head,
      List.getElem?_eq_getElem collocate, Option.bind_eq_bind, Option.bind_some, Option.getD_some]
  simp only [sightingsOfMatch, pairings, pairing, ← isBidirectional_iff]
  split <;> rfl

theorem map_pairings_analyze {sentence : Sentence}
    (within : (relations.analyze sentence.tokens).Within sentence.tokens) :
    ((relations.analyze sentence.tokens).flatMap (relations.pairings sentence.tokens)).map (⟨sentence.id, ·⟩) =
      relations.active.flatMap fun relation =>
        (relation.pattern.matchesIn sentence.tokens).flatMap (relations.sightingsOfMatch sentence relation.name) := by
  rw [analyze, List.flatMap_assoc, List.map_flatMap, List.flatMap_def, List.flatMap_def]
  refine congrArg List.flatten (List.map_congr_left fun relation active => ?_)
  rw [Relation.analyze, List.flatMap_map, List.map_flatMap, List.flatMap_def, List.flatMap_def]
  refine congrArg List.flatten (List.map_congr_left fun found matched => ?_)
  obtain ⟨head, collocate⟩ := within ⟨relation.name, found⟩
    (List.mem_flatMap.mpr ⟨relation, active, List.mem_map_of_mem matched⟩)
  exact (sightingsOfMatch_eq head collocate).symm

/-! ## All sentences -/

variable {limit : Nat} {known : List Sighting} {counted : List Sentence} {tally : Tally}

theorem sightings_append (relations : RelationSet) (first second : List Sentence) :
    relations.sightings (first ++ second) = relations.sightings first ++ relations.sightings second := by
  rw [sightings, List.filter_append, List.flatMap_append]
  rfl

theorem flatMap_pairings_nil (relations : RelationSet) (analysis : Analysis) :
    analysis.flatMap (relations.pairings []) = [] := by
  refine List.flatMap_eq_nil_iff.mpr fun found _ => ?_
  rw [pairings, RelationMatch.pairing?, List.getElem?_nil]
  rfl

/-- A sentence that is added with its analysis belongs to the history. -/
theorem madeOf_countAnalysed (made : tally.MadeOf limit known counted) (sentence : Sentence) (analysis : Analysis) :
    (relations.countAnalysed tally sentence analysis).MadeOf limit
      (known ++ (analysis.flatMap (relations.pairings sentence.tokens)).map (⟨sentence.id, ·⟩))
      (counted ++ [sentence]) :=
  made.counted sentence fun vacant => by rw [vacant, flatMap_pairings_nil]

/-- A sentence that is counted afresh adds its sightings, if it is valid. -/
theorem madeOf_addAfresh (within : ∀ tokens, (relations.analyze tokens).Within tokens)
    (made : tally.MadeOf limit known counted) (sentence : Sentence) :
    (relations.addAfresh tally sentence).MadeOf limit (known ++ relations.sightings [sentence])
      (counted ++ [sentence].filter Sentence.isValid) := by
  cases flaw : sentence.flaw? with
  | some reason =>
      have left_out : [sentence].filter Sentence.isValid = [] := by simp [Sentence.isValid, flaw]
      rw [addAfresh, flaw, sightings, left_out, List.flatMap_nil, List.append_nil, List.append_nil]
      exact made.noted _
  | none =>
      have valid : [sentence].filter Sentence.isValid = [sentence] := by simp [Sentence.isValid, flaw]
      rw [addAfresh, flaw, sightings, valid, List.flatMap_singleton, ← map_pairings_analyze (within sentence.tokens)]
      exact madeOf_countAnalysed made sentence _

theorem madeOf_countAfresh (within : ∀ tokens, (relations.analyze tokens).Within tokens) (limit : Nat)
    (sentences : List Sentence) :
    (relations.countAfresh limit sentences).MadeOf limit (relations.sightings sentences)
      (sentences.filter Sentence.isValid) := by
  have continues (tally : Tally) (known : List Sighting) (counted : List Sentence)
      (made : tally.MadeOf limit known counted) :
      (sentences.foldl relations.addAfresh tally).MadeOf limit (known ++ relations.sightings sentences)
        (counted ++ sentences.filter Sentence.isValid) := by
    induction sentences generalizing tally known counted with
    | nil =>
        rw [List.filter_nil, List.append_nil, sightings, List.filter_nil, List.flatMap_nil, List.append_nil]
        exact made
    | cons sentence sentences induction =>
        have others := induction _ _ _ (madeOf_addAfresh within made sentence)
        rwa [List.append_assoc, ← sightings_append, List.append_assoc, ← List.filter_append] at others
  exact continues _ [] [] .empty

theorem reflects_countAfresh (within : ∀ tokens, (relations.analyze tokens).Within tokens) (limit : Nat)
    (sentences : List Sentence) :
    (relations.countAfresh limit sentences).Reflects limit (relations.sightings sentences)
      (sentences.filter Sentence.isValid) :=
  (madeOf_countAfresh within limit sentences).reflects

/-! ## The order of the grammars -/

variable {other : RelationSet}

theorem pairings_eq_of_perm (permuted : relations.active.Perm other.active) : relations.pairings = other.pairings := by
  have bidirectional : relations.isBidirectional = other.isBidirectional := by
    funext name
    rw [Bool.eq_iff_iff, isBidirectional_iff, isBidirectional_iff]
    simp only [permuted.mem_iff]
  funext tokens found
  rw [pairings, pairings, bidirectional]

/-- Relations in another order give the same tally. -/
theorem countAfresh_eq_of_perm (permuted : relations.active.Perm other.active) (limit : Nat)
    (sentences : List Sentence) : relations.countAfresh limit sentences = other.countAfresh limit sentences := by
  have one : relations.addAfresh = other.addAfresh := by
    funext tally sentence
    rw [addAfresh, addAfresh]
    split
    · rfl
    · rw [countAnalysed, countAnalysed, pairings_eq_of_perm permuted]
      exact Tally.foldl_seePairing_of_perm ((permuted.flatMap_right _).flatMap_right _) sentence.id _
  rw [countAfresh, countAfresh, one]

end RelationSet

namespace GrammarSet

theorem exists_relations_of_perm {set other : GrammarSet} {tagsets : Tagsets} {relations : RelationSet}
    (accepted : set.relations tagsets = .ok relations) (permuted : set.grammars.Perm other.grammars) :
    ∃ others, other.relations tagsets = .ok others ∧ relations.active.Perm others.active := by
  obtain ⟨listed, compiled, rfl⟩ := relations_eq_ok_iff.mp accepted
  obtain ⟨results, also, same⟩ := exists_mapM_of_perm permuted compiled
  refine ⟨_, relations_eq_ok_iff.mpr ⟨results, also, rfl⟩, ?_⟩
  have sorted := (List.mergeSort_perm listed inOrder).trans (same.trans (List.mergeSort_perm results inOrder).symm)
  exact sorted.filter Relation.active

/-- Two grammars for one relation, the first of them in both directions. -/
def neighbours : GrammarSet where
  version := "v1"
  grammars :=
    [{ name := "next", source := "1:[pos=\"NOUN\"] 2:[pos=\"NOUN\"]", language := "en", bidirectional := true },
      { name := "next", source := "2:[pos=\"ADJ\"] 1:[pos=\"NOUN\"]", language := "en" }]

end GrammarSet

namespace RelationSet

open GrammarSet (neighbours)

/-- The relations of accepted grammars, with a cache of any capacity that keeps nothing at first, come to the tally of
the sightings: every count is their number, every pairing has the first distinct sentences of its own, and tokens are
counted in the valid sentences.  A set that lists the same grammars in another order has the same tally. -/
theorem count_of_accepted {set : GrammarSet} {tagsets : Tagsets} {relations : RelationSet}
    (accepted : set.relations tagsets = .ok relations) {sentences : List Sentence}
    (apart : ∀ first ∈ sentences, ∀ second ∈ sentences, first.hash = second.hash → first.tokens = second.tokens)
    (limit capacity : Nat) :
    ∃ tally, (countUnless .never (relations.count limit) (Cache.empty capacity) sentences).1 = some tally ∧
      tally.Reflects limit (relations.sightings sentences) (sentences.filter Sentence.isValid) ∧
      (∀ sentence ∈ sentences, ∀ relation ∈ relations.active, ∀ found ∈ relation.pattern.matchesIn sentence.tokens,
        found.head < sentence.tokens.length ∧ found.collocate < sentence.tokens.length) ∧
      (∃ listed, (set.grammars.mapM fun grammar => grammar.relation tagsets) = .ok listed ∧
        relations.active.Perm (listed.filter Relation.active)) ∧
      (relations.active.Pairwise fun left right =>
        left.priority < right.priority ∨ left.priority = right.priority ∧ left.name ≤ right.name) ∧
      ∀ other : GrammarSet, set.grammars.Perm other.grammars →
        ∃ others, other.relations tagsets = .ok others ∧ ∀ capacity,
          (countUnless .never (others.count limit) (Cache.empty capacity) sentences).1 = some tally := by
  let known (tokens : List Token) : Prop := ∃ sentence ∈ sentences, sentence.tokens = tokens
  have distinguishes : ContentHash.Distinguishes known := by
    rintro _ _ ⟨first, firstInside, rfl⟩ ⟨second, secondInside, rfl⟩ same
    exact apart first firstInside second secondInside same
  have occur : Familiar known sentences := fun sentence member => ⟨sentence, member, rfl⟩
  have counted (relations : RelationSet) (capacity : Nat) :
      (countUnless .never (relations.count limit) (Cache.empty capacity) sentences).1 =
        some (relations.countAfresh limit sentences) := by
    have coherent : relations.Coherent known (Cache.empty capacity) := Cache.every_empty capacity
    rw [countUnless_never, (coherent.count distinguishes occur limit).1]
  have within := within_analyze accepted
  refine ⟨_, counted relations capacity, reflects_countAfresh within limit sentences, ?_,
    GrammarSet.exists_perm_active accepted, GrammarSet.pairwise_active accepted, fun other permuted => ?_⟩
  · intro sentence _ relation active found matched
    exact within sentence.tokens ⟨relation.name, found⟩
      (List.mem_flatMap.mpr ⟨relation, active, List.mem_map_of_mem matched⟩)
  · obtain ⟨others, also, same⟩ := GrammarSet.exists_relations_of_perm accepted permuted
    refine ⟨others, also, fun capacity => ?_⟩
    rw [counted, countAfresh_eq_of_perm same]

/-- A noun is its own neighbour in both directions, and so are a noun and an adjective, because the name is shared;
a sample of one sentence is full after the first. -/
theorem count_of_accepted_neighbours :
    let sentences : List Sentence :=
      [⟨7, [Phrase.old, Phrase.house, Phrase.house], none, none⟩, ⟨8, [Phrase.house, Phrase.house], none, none⟩]
    let house := Phrase.house.lexeme
    let old := Phrase.old.lexeme
    let expected : List Sighting := [⟨7, ⟨house, house, "next"⟩⟩, ⟨7, ⟨house, house, "next"⟩⟩,
      ⟨7, ⟨old, house, "next"⟩⟩, ⟨7, ⟨house, old, "next"⟩⟩, ⟨8, ⟨house, house, "next"⟩⟩, ⟨8, ⟨house, house, "next"⟩⟩]
    ∃ relations tally, neighbours.relations .empty = .ok relations ∧ relations.sightings sentences = expected ∧
      (countUnless .never (relations.count 1) (Cache.empty 1) sentences).1 = some tally ∧
      tally.heads[house]? = some 5 ∧ tally.pairings[(⟨house, house, "next"⟩ : Pairing)]? = some ⟨4, [7]⟩ ∧
      tally.lexemes[house]? = some 4 ∧ tally.tokens = 5 := by
  intro sentences house old expected
  obtain ⟨listed, compiled, ordered, seen⟩ : ∃ listed,
      (neighbours.grammars.mapM fun grammar => grammar.relation .empty) = .ok listed ∧
        (listed.Pairwise fun left right => GrammarSet.inOrder left right = true) ∧
        (⟨neighbours.version, neighbours.fingerprint, listed⟩ : RelationSet).sightings sentences = expected := by
    obtain ⟨listed, compiled, seen⟩ : ∃ listed,
        (neighbours.grammars.mapM fun grammar => grammar.relation .empty) = .ok listed ∧
          (decide (listed.Pairwise fun left right => GrammarSet.inOrder left right = true),
            (⟨neighbours.version, neighbours.fingerprint, listed⟩ : RelationSet).sightings sentences) =
              (true, expected) :=
      exists_ok_of_toOption (by decide +kernel)
    obtain ⟨ordered, seen⟩ := Prod.mk.inj seen
    exact ⟨listed, compiled, of_decide_eq_true ordered, seen⟩
  have sorted := List.mergeSort_of_pairwise ordered
  have accepted : neighbours.relations .empty = .ok ⟨neighbours.version, neighbours.fingerprint, listed⟩ :=
    GrammarSet.relations_eq_ok_iff.mpr ⟨listed, compiled, by rw [sorted]⟩
  have apart : ∀ first ∈ sentences, ∀ second ∈ sentences, first.hash = second.hash →
      first.tokens = second.tokens := by
    have differ : ContentHash.ofTokens [Phrase.old, Phrase.house, Phrase.house] ≠
        .ofTokens [Phrase.house, Phrase.house] := by decide +kernel
    simp only [sentences, List.mem_cons, List.not_mem_nil, or_false]
    rintro first (rfl | rfl) second (rfl | rfl) same
    · rfl
    · exact absurd same differ
    · exact absurd same.symm differ
    · rfl
  obtain ⟨tally, counted, reflects, -⟩ := count_of_accepted accepted apart 1 1
  have heads := reflects.heads house
  have pairings := reflects.pairings ⟨house, house, "next"⟩
  have lexemes := reflects.lexemes house
  have tokens := reflects.tokens
  rw [seen] at heads pairings
  refine ⟨_, tally, accepted, seen, counted, heads.trans ?_, pairings.trans ?_, lexemes.trans ?_, tokens.trans ?_⟩
  · decide +kernel
  · decide +kernel
  · decide +kernel
  · decide +kernel

end RelationSet
end Collocation
