import Collocation.Proofs.Count.Sharing
import Collocation.Proofs.Tally.Append

/-!
# Counting in shards

The tallies of consecutive parts, joined in their order, are the tally of the whole: what is counted after a
tally can be counted in a tally of its own that is joined to it.  With a coherent cache this needs neither one
cache for all parts nor an order in which their tasks are executed.
-/

namespace Collocation
namespace RelationSet

variable {relations : RelationSet} {sampleLimit : Nat}

/-- A sentence that is added later with its analysis can be added after both tallies are joined. -/
theorem append_countAnalysed (relations : RelationSet) {tally later : Tally}
    (own : tally.sampleLimit = sampleLimit) (sampled : later.WellSampled sampleLimit)
    (sentence : Sentence) (analysis : Analysis) :
    tally ++ relations.countAnalysed later sentence analysis =
        relations.countAnalysed (tally ++ later) sentence analysis ∧
      (relations.countAnalysed later sentence analysis).WellSampled sampleLimit := by
  rw [countAnalysed, countAnalysed, ← Tally.append_seeTokens]
  exact Tally.append_foldl_seePairing own (sampled.seeTokens _) _ _

/-- A sentence that is counted later can be counted after both tallies are joined. -/
theorem append_addAfresh (relations : RelationSet) {tally later : Tally}
    (own : tally.sampleLimit = sampleLimit) (sampled : later.WellSampled sampleLimit)
    (sentence : Sentence) :
    tally ++ relations.addAfresh later sentence = relations.addAfresh (tally ++ later) sentence ∧
      (relations.addAfresh later sentence).WellSampled sampleLimit := by
  unfold addAfresh
  cases sentence.flaw? with
  | some reason => exact ⟨Tally.append_skip _ _ _, sampled.skip _⟩
  | none => exact relations.append_countAnalysed own sampled sentence _

theorem append_foldl_addAfresh (relations : RelationSet) {tally later : Tally}
    (own : tally.sampleLimit = sampleLimit) (sampled : later.WellSampled sampleLimit)
    (sentences : List Sentence) :
    tally ++ sentences.foldl relations.addAfresh later =
        sentences.foldl relations.addAfresh (tally ++ later) ∧
      (sentences.foldl relations.addAfresh later).WellSampled sampleLimit := by
  induction sentences generalizing later with
  | nil => exact ⟨rfl, sampled⟩
  | cons sentence sentences induction =>
      obtain ⟨added, next⟩ := relations.append_addAfresh own sampled sentence
      rw [List.foldl_cons, List.foldl_cons, ← added]
      exact induction next

theorem wellSampled_countAfresh (relations : RelationSet) (sampleLimit : Nat)
    (sentences : List Sentence) : (relations.countAfresh sampleLimit sentences).WellSampled sampleLimit := by
  have nothing := Tally.wellSampled_empty sampleLimit
  exact (relations.append_foldl_addAfresh nothing.own nothing sentences).2

/-- The tally of sentences and then others is that of the former with that of the latter. -/
theorem countAfresh_append (relations : RelationSet) (sampleLimit : Nat) (first second : List Sentence) :
    relations.countAfresh sampleLimit (first ++ second) =
      relations.countAfresh sampleLimit first ++ relations.countAfresh sampleLimit second := by
  have own := (relations.wellSampled_countAfresh sampleLimit first).own
  obtain ⟨joined, -⟩ :=
    relations.append_foldl_addAfresh own (Tally.wellSampled_empty sampleLimit) second
  rw [countAfresh, List.foldl_append]
  calc second.foldl relations.addAfresh (relations.countAfresh sampleLimit first)
    _ = second.foldl relations.addAfresh (relations.countAfresh sampleLimit first ++ .empty sampleLimit) := by
        rw [Tally.append_empty]
    _ = relations.countAfresh sampleLimit first ++ relations.countAfresh sampleLimit second :=
        joined.symm

/-- The tallies of parts sum up to the tally of the whole. -/
theorem sum_map_countAfresh (relations : RelationSet) (sampleLimit : Nat)
    (parts : List (List Sentence)) :
    Tally.sum sampleLimit (parts.map (relations.countAfresh sampleLimit)) =
      relations.countAfresh sampleLimit parts.flatten := by
  have continues (before : List Sentence) :
      (parts.map (relations.countAfresh sampleLimit)).foldl Tally.append
          (relations.countAfresh sampleLimit before) =
        relations.countAfresh sampleLimit (before ++ parts.flatten) := by
    induction parts generalizing before with
    | nil => simp
    | cons part parts induction =>
        rw [List.map_cons, List.foldl_cons, ← Tally.append_eq, ← countAfresh_append, induction,
          List.flatten_cons, List.append_assoc]
  exact continues []

end RelationSet

/-! ## Shards -/

theorem getElem?_shards {α : Type} (size place : Nat) (list : List α) :
    let full := max size 1
    (shards size list)[place]? =
      if place * full < list.length then some ((list.drop (place * full)).take full) else none := by
  intro full
  fun_induction shards size list generalizing place with
  | case1 => simp
  | case2 first rest induction =>
      have whole : full = size - 1 + 1 := by omega
      cases place with
      | zero => simp [whole]
      | succ place =>
          have start : (place + 1) * full = size - 1 + place * full + 1 := by
            rw [Nat.succ_mul, whole]
            omega
          have inside : place * full < rest.length - (size - 1) ↔
              size - 1 + place * full + 1 < rest.length + 1 := by omega
          rw [List.getElem?_cons_succ, induction, start, List.drop_succ_cons, List.drop_drop,
            List.length_drop, List.length_cons]
          simp only [inside]

/-! ## Tasks -/

variable {relations : RelationSet} {known : List Token → Prop} {sampleLimit : Nat}

namespace RelationSet

/-- The tallies of parts that are counted one after another sum up to the tally of the whole. -/
theorem Coherent.sum_countParts {parts : List (List Sentence)} {cache : AnalysisCache}
    (coherent : relations.Coherent known cache) (distinguishes : ContentHash.Distinguishes known)
    (occur : ∀ part ∈ parts, Familiar known part) (sampleLimit : Nat) :
    Tally.sum sampleLimit (relations.countParts sampleLimit cache parts).1 =
      relations.countAfresh sampleLimit parts.flatten := by
  obtain ⟨schedule, executed⟩ := Workshop.exists_run_countParts relations sampleLimit cache parts
  have sound : ((Workshop.opened sampleLimit cache parts).run relations schedule).Sound relations known
      sampleLimit parts := (Workshop.sound_opened coherent occur).run distinguishes schedule
  rw [executed] at sound
  have tallies := sound.tallies_of_finished fun task member => by
    obtain ⟨tally, -, rfl⟩ := List.mem_map.mp member
    rfl
  rw [← relations.sum_map_countAfresh, ← tallies, List.map_map]
  exact congrArg (Tally.sum sampleLimit) (List.map_id _).symm

/-- With hashes that tell the sequences of tokens apart, it makes no difference whether sentences are
counted one after another or in shards, of whatever size, and whatever coherent caches there are.  The
tasks of the shards may make their steps in any order: they can always come to an end, and then the sum
of their tallies is the tally of all sentences; one part after another, as `countParts` has it, is one
of these orders.  And the tally of sentences and then others is that of the former joined with that of
the latter. -/
theorem count_in_shards (distinguishes : ContentHash.Distinguishes known)
    {cache other : AnalysisCache} (coherent : relations.Coherent known cache)
    (otherCoherent : relations.Coherent known other) (sampleLimit size : Nat)
    {sentences : List Sentence} (occur : Familiar known sentences) :
    let counted := (relations.count sampleLimit cache sentences).1
    let parts := shards size sentences
    (∀ place, parts[place]? =
      if place * max size 1 < sentences.length then
        some ((sentences.drop (place * max size 1)).take (max size 1))
      else none) ∧
    (countUnless .never (relations.countSharded sampleLimit size) other sentences).1 = some counted ∧
    (∃ schedule, (Workshop.opened sampleLimit other parts).run relations schedule =
      let executed := relations.countParts sampleLimit other parts
      ⟨executed.2, executed.1.map fun tally => ⟨[], tally, .ready⟩⟩) ∧
    (∀ schedule,
      let workshop := (Workshop.opened sampleLimit other parts).run relations schedule
      (workshop.Finished → Tally.sum sampleLimit (workshop.tasks.map Task.tally) = counted) ∧
      ∃ further, (workshop.run relations further).Finished) ∧
    ∀ first second, sentences = first ++ second → ∀ earlier later,
      relations.Coherent known earlier → relations.Coherent known later →
      counted = (relations.count sampleLimit earlier first).1 ++
        (relations.count sampleLimit later second).1 := by
  intro counted parts
  have whole : counted = relations.countAfresh sampleLimit sentences :=
    (coherent.count distinguishes occur sampleLimit).1
  have complete : parts.flatten = sentences := flatten_shards size sentences
  have familiar : ∀ part ∈ parts, Familiar known part := fun part member sentence inside =>
    occur sentence (complete ▸ List.mem_flatten_of_mem member inside)
  refine ⟨fun place => getElem?_shards size place sentences, ?_,
    Workshop.exists_run_countParts relations sampleLimit other parts, fun schedule => ?_, ?_⟩
  · rw [countUnless_never, whole, ← complete,
      ← otherCoherent.sum_countParts distinguishes familiar sampleLimit, complete]
    rfl
  · have sound : ((Workshop.opened sampleLimit other parts).run relations schedule).Sound relations
        known sampleLimit parts :=
      (Workshop.sound_opened otherCoherent familiar).run distinguishes schedule
    refine ⟨fun finished => ?_, Workshop.exists_finished_run relations _⟩
    rw [sound.tallies_of_finished finished, sum_map_countAfresh, complete, whole]
  · rintro first second rfl earlier later earlierCoherent laterCoherent
    have firstOccur : Familiar known first := fun sentence inside =>
      occur sentence (List.mem_append_left second inside)
    have secondOccur : Familiar known second := fun sentence inside =>
      occur sentence (List.mem_append_right first inside)
    rw [(earlierCoherent.count distinguishes firstOccur sampleLimit).1,
      (laterCoherent.count distinguishes secondOccur sampleLimit).1, whole, countAfresh_append]

/-- Sentences are counted without a cache, and in shards of one sentence each with a cache of one analysis. -/
theorem count_in_shards_of_phrases :
    ∃ relations, GrammarSet.adjectives.relations .empty = .ok relations ∧
      let counted := (relations.count 1 (Cache.empty 0) Phrase.sentences).1
      (countUnless .never (relations.countSharded 1 0) (Cache.empty 1) Phrase.sentences).1 =
          some counted ∧
        ∀ schedule,
          let workshop :=
            (Workshop.opened 1 (Cache.empty 1) (shards 0 Phrase.sentences)).run relations schedule
          (workshop.Finished → Tally.sum 1 (workshop.tasks.map Task.tally) = counted) ∧
          ∃ further, (workshop.run relations further).Finished := by
  obtain ⟨relations, accepted⟩ := GrammarSet.exists_relations_adjectives
  refine ⟨relations, accepted, ?_⟩
  intro counted
  have coherent (capacity : Nat) : relations.Coherent Phrase.Listed (Cache.empty capacity) :=
    Cache.every_empty capacity
  obtain ⟨-, sharded, -, executed, -⟩ := count_in_shards Phrase.distinguishes_listed (coherent 0)
    (coherent 1) 1 0 Phrase.familiar_sentences
  exact ⟨sharded, executed⟩

end RelationSet
end Collocation
