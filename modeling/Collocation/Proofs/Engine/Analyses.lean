import Collocation.Engine.Run
import Collocation.Proofs.Count.Sharding

/-!
# Analyses at hand

Counting changes the cache of an engine by looking up and keeping analyses, and in no other way.  So a cache
that is coherent stays so, and a fresh cache is coherent if the analyses that the store has for its relations
were made with them.
-/

namespace Collocation
namespace RelationSet

/-- What a cache can become when sentences are analysed with some relations. -/
inductive Uses (relations : RelationSet) (occurs : Sentence → Prop) (cache : AnalysisCache) :
    AnalysisCache → Prop where
  | unused : Uses relations occurs cache cache
  | analysed {later : AnalysisCache} (uses : Uses relations occurs cache later) {sentence : Sentence}
      (known : occurs sentence) : Uses relations occurs cache (relations.analyzeWith later sentence).2

variable {relations : RelationSet} {occurs : Sentence → Prop} {first second third : AnalysisCache}

theorem Uses.trans (left : relations.Uses occurs first second)
    (right : relations.Uses occurs second third) : relations.Uses occurs first third := by
  induction right with
  | unused => exact left
  | analysed _ known induction => exact induction.analysed known

theorem Uses.mono {other : Sentence → Prop} (uses : relations.Uses occurs first second)
    (weaker : ∀ sentence, occurs sentence → other sentence) : relations.Uses other first second := by
  induction uses with
  | unused => exact .unused
  | analysed _ known induction => exact induction.analysed (weaker _ known)

/-- A coherent cache that is used for known sentences stays coherent. -/
theorem Uses.coherent {known : List Token → Prop} (uses : relations.Uses occurs first second)
    (distinguishes : ContentHash.Distinguishes known)
    (familiar : ∀ sentence, occurs sentence → known sentence.tokens)
    (coherent : relations.Coherent known first) : relations.Coherent known second := by
  induction uses with
  | unused => exact coherent
  | analysed _ here induction => exact (induction.analyzeWith distinguishes (familiar _ here)).2

/-! ## Counts -/

theorem uses_countSentence (relations : RelationSet) (state : Tally × AnalysisCache)
    {sentence : Sentence} (known : sentence.isValid = true → occurs sentence) :
    relations.Uses occurs state.2 (relations.countSentence state sentence).2 := by
  rw [countSentence]
  cases flaw : sentence.flaw? with
  | some reason => exact .unused
  | none => exact Uses.unused.analysed (known (by rw [Sentence.isValid, flaw]; rfl))

theorem uses_foldl_countSentence (relations : RelationSet) (state : Tally × AnalysisCache)
    {sentences : List Sentence} (known : ∀ sentence ∈ sentences, sentence.isValid = true → occurs sentence) :
    relations.Uses occurs state.2 (sentences.foldl relations.countSentence state).2 := by
  induction sentences generalizing state with
  | nil => exact .unused
  | cons sentence sentences induction =>
      rw [List.foldl_cons]
      have here := relations.uses_countSentence state (known sentence List.mem_cons_self)
      exact here.trans (induction _ fun other member => known other (List.mem_cons_of_mem _ member))

theorem uses_countParts (relations : RelationSet) (sampleLimit : Nat) (cache : AnalysisCache)
    {parts : List (List Sentence)}
    (known : ∀ part ∈ parts, ∀ sentence ∈ part, sentence.isValid = true → occurs sentence) :
    relations.Uses occurs cache (relations.countParts sampleLimit cache parts).2 := by
  induction parts generalizing cache with
  | nil => exact .unused
  | cons part parts induction =>
      have here := relations.uses_foldl_countSentence (.empty sampleLimit, cache)
        (known part List.mem_cons_self)
      exact here.trans (induction _ fun other member => known other (List.mem_cons_of_mem _ member))

theorem uses_countSharded (relations : RelationSet) (sampleLimit size : Nat) (cache : AnalysisCache)
    {sentences : List Sentence} (known : ∀ sentence ∈ sentences, sentence.isValid = true → occurs sentence) :
    relations.Uses occurs cache (relations.countSharded sampleLimit size cache sentences).2 := by
  refine relations.uses_countParts sampleLimit cache fun part member sentence inside => ?_
  refine known sentence ?_
  rw [← flatten_shards size sentences]
  exact List.mem_flatten_of_mem member inside

theorem uses_countUnless (relations : RelationSet) (request : StopRequest) (sampleLimit size : Nat)
    (cache : AnalysisCache) {sentences : List Sentence}
    (known : ∀ sentence ∈ sentences, sentence.isValid = true → occurs sentence) :
    relations.Uses occurs cache
      (countUnless request (relations.countSharded sampleLimit size) cache sentences).2 := by
  rw [countUnless]
  split
  · exact relations.uses_countSharded sampleLimit size cache fun sentence member =>
      known sentence (List.mem_of_mem_take member)
  · exact relations.uses_countSharded sampleLimit size cache known

/-- With a coherent cache, parts of some sentences are counted as if nothing was kept. -/
theorem Coherent.countSharded {known : List Token → Prop} {cache : AnalysisCache}
    {sentences : List Sentence} (coherent : relations.Coherent known cache)
    (distinguishes : ContentHash.Distinguishes known) (occur : Familiar known sentences)
    (sampleLimit size : Nat) :
    (relations.countSharded sampleLimit size cache sentences).1 =
      relations.countAfresh sampleLimit sentences := by
  have familiar : ∀ part ∈ shards size sentences, Familiar known part := by
    intro part member sentence inside
    refine occur sentence ?_
    rw [← flatten_shards size sentences]
    exact List.mem_flatten_of_mem member inside
  have sum := coherent.sum_countParts distinguishes familiar sampleLimit
  rwa [flatten_shards] at sum

end RelationSet

/-- A sentence is among those that a source gave. -/
def Delivery.Gives (delivery : Delivery) (sentence : Sentence) : Prop :=
  ∃ fetched, delivery.fetched = .ok fetched ∧ sentence ∈ fetched.sentences

namespace Engine

theorem cache_commitRun (engine : Engine) (batch : Batch) (version : String) (tally : Tally)
    (stop : StopRequest) : (engine.commitRun batch version tally stop).2.cache = engine.cache := by
  rw [commitRun]
  split
  · rfl
  · dsimp only
    split <;> rfl

/-- The end of a run uses the cache for the valid sentences that its source gave. -/
theorem uses_finish (engine : Engine) (relations : RelationSet) (batch : Batch) (delivery : Delivery) :
    relations.Uses (fun sentence => delivery.Gives sentence ∧ sentence.isValid = true) engine.cache
      (engine.finish relations batch delivery).2.cache := by
  simp only [finish, countRun]
  cases delivered : delivery.fetched with
  | error cause => exact .unused
  | ok fetched =>
      have given : ∀ sentence ∈ fetched.sentences, sentence.isValid = true →
          delivery.Gives sentence ∧ sentence.isValid = true :=
        fun _ member valid => ⟨⟨fetched, delivered, member⟩, valid⟩
      have uses := relations.uses_countUnless delivery.stop engine.configuration.sampleLimit
        engine.configuration.shardSize engine.cache given
      dsimp only
      split
      · next cache counted =>
          rw [counted] at uses
          exact uses
      · next tally cache counted =>
          rw [counted] at uses
          simpa only [cache_commitRun] using uses

/-- The relations of a grammar set are at hand with analyses that they made. -/
theorem coherent_freshCache {configuration : Configuration} {relations : RelationSet} {store : Store}
    {known : List Token → Prop}
    (made : ∀ entries, store.analyses[relations.fingerprint]? = some entries → ∀ entry ∈ entries,
      ∃ tokens, known tokens ∧ entry.1 = .ofTokens tokens ∧ entry.2 = relations.analyze tokens) :
    relations.Coherent known (freshCache configuration relations store) := by
  have nothing : relations.Coherent known (Cache.empty configuration.cacheCapacity) :=
    Cache.every_empty _
  rw [freshCache, Store.analysesOf, Store.ask]
  cases store.available with
  | false => exact nothing
  | true =>
      refine Cache.Every.warm nothing fun entry member => ?_
      cases stored : store.analyses[relations.fingerprint]? with
      | none =>
          rw [stored] at member
          exact absurd member List.not_mem_nil
      | some entries =>
          rw [stored] at member
          exact made entries stored entry member

end Engine
end Collocation
