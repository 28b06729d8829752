import Collocation.Proofs.Cache.Entries
import Collocation.Proofs.Grammar.Relations
import Collocation.Tally.Count

/-!
# Counting without a cache

A tally says the same whether analyses are kept or made afresh for every sentence, as long as the cache is
coherent: all that it keeps was made with the same relations, and the address under which an analysis is kept
tells the sequences of tokens that occur apart.
-/

namespace Collocation

/-- The address tells some sequences of tokens apart. -/
def ContentHash.Distinguishes (known : List Token → Prop) : Prop :=
  ∀ first second, known first → known second → ofTokens first = ofTokens second → first = second

/-- Only known sequences of tokens occur in some sentences. -/
def Familiar (known : List Token → Prop) (sentences : List Sentence) : Prop :=
  ∀ sentence ∈ sentences, known sentence.tokens

theorem Familiar.tail {known : List Token → Prop} {sentence : Sentence} {sentences : List Sentence}
    (occur : Familiar known (sentence :: sentences)) : Familiar known sentences :=
  fun other member => occur other (List.mem_cons_of_mem sentence member)

namespace RelationSet

/-- Add a sentence to a tally, with an analysis made for it. -/
def addAfresh (relations : RelationSet) (tally : Tally) (sentence : Sentence) : Tally :=
  match sentence.flaw? with
  | some reason => tally.skip ⟨sentence.id, reason⟩
  | none => relations.countAnalysed tally sentence (relations.analyze sentence.tokens)

/-- The tally of sentences that are analysed one after another, nothing being kept. -/
def countAfresh (relations : RelationSet) (sampleLimit : Nat) (sentences : List Sentence) : Tally :=
  sentences.foldl relations.addAfresh (.empty sampleLimit)

/-- All that a cache keeps was made for known sequences of tokens, and stands under their addresses. -/
def Coherent (relations : RelationSet) (known : List Token → Prop) (cache : AnalysisCache) : Prop :=
  cache.Every fun hash analysis =>
    ∃ tokens, known tokens ∧ hash = .ofTokens tokens ∧ analysis = relations.analyze tokens

variable {relations : RelationSet} {known : List Token → Prop} {cache : AnalysisCache}

/-- What a coherent cache keeps under the address of a known sequence is its analysis. -/
theorem eq_analyze_of_entry (distinguishes : ContentHash.Distinguishes known) {tokens : List Token}
    (occurs : known tokens) {analysis : Analysis}
    (entry : ∃ other, known other ∧ ContentHash.ofTokens tokens = .ofTokens other ∧
      analysis = relations.analyze other) : analysis = relations.analyze tokens := by
  obtain ⟨other, familiar, address, rfl⟩ := entry
  rw [distinguishes tokens other occurs familiar address]

/-- An analysis through a coherent cache is the analysis, and the cache stays coherent. -/
theorem Coherent.analyzeWith (coherent : relations.Coherent known cache)
    (distinguishes : ContentHash.Distinguishes known) {sentence : Sentence}
    (occurs : known sentence.tokens) :
    (relations.analyzeWith cache sentence).1 = relations.analyze sentence.tokens ∧
      relations.Coherent known (relations.analyzeWith cache sentence).2 := by
  obtain ⟨found, kept⟩ := Cache.Every.lookUp coherent sentence.hash
  rw [RelationSet.analyzeWith, Cache.getOrMake_eq_lookUp]
  generalize cache.lookUp sentence.hash = outcome at found kept
  obtain ⟨value, touched⟩ := outcome
  cases value with
  | none => exact ⟨rfl, kept.insert ⟨_, occurs, rfl, rfl⟩⟩
  | some analysis => exact ⟨eq_analyze_of_entry distinguishes occurs (found analysis rfl), kept⟩

theorem Coherent.countSentence (coherent : relations.Coherent known cache)
    (distinguishes : ContentHash.Distinguishes known) (tally : Tally) {sentence : Sentence}
    (occurs : known sentence.tokens) :
    (relations.countSentence (tally, cache) sentence).1 = relations.addAfresh tally sentence ∧
      relations.Coherent known (relations.countSentence (tally, cache) sentence).2 := by
  rw [RelationSet.countSentence, addAfresh]
  cases sentence.flaw? with
  | some reason => exact ⟨rfl, coherent⟩
  | none =>
      obtain ⟨same, kept⟩ := coherent.analyzeWith distinguishes occurs
      exact ⟨congrArg (relations.countAnalysed tally sentence) same, kept⟩

theorem Coherent.foldl_countSentence {sentences : List Sentence}
    (coherent : relations.Coherent known cache) (distinguishes : ContentHash.Distinguishes known)
    (occur : Familiar known sentences) (tally : Tally) :
    (sentences.foldl relations.countSentence (tally, cache)).1 =
        sentences.foldl relations.addAfresh tally ∧
      relations.Coherent known (sentences.foldl relations.countSentence (tally, cache)).2 := by
  induction sentences generalizing tally cache with
  | nil => exact ⟨rfl, coherent⟩
  | cons sentence sentences induction =>
      obtain ⟨same, kept⟩ :=
        coherent.countSentence distinguishes tally (occur sentence List.mem_cons_self)
      rw [List.foldl_cons, List.foldl_cons, ← same]
      exact induction kept occur.tail _

/-- A coherent cache makes no difference to a tally, and stays coherent. -/
theorem Coherent.count {sentences : List Sentence} (coherent : relations.Coherent known cache)
    (distinguishes : ContentHash.Distinguishes known) (occur : Familiar known sentences)
    (sampleLimit : Nat) :
    (relations.count sampleLimit cache sentences).1 = relations.countAfresh sampleLimit sentences ∧
      relations.Coherent known (relations.count sampleLimit cache sentences).2 :=
  coherent.foldl_countSentence distinguishes occur (.empty sampleLimit)

end RelationSet

/-! ## Phrases -/

namespace Phrase

/-- A noun. -/
def house : Token :=
  ⟨"house", "house", "NOUN", .empty⟩

/-- An adjective. -/
def old : Token :=
  ⟨"old", "old", "ADJ", .empty⟩

/-- The noun alone, or with the adjective in front of it. -/
def Listed (tokens : List Token) : Prop :=
  tokens = [house] ∨ tokens = [old, house]

/-- Sentences that repeat one another. -/
def sentences : List Sentence :=
  [⟨1, [old, house], none, none⟩, ⟨2, [house], none, none⟩, ⟨1, [old, house], none, none⟩]

theorem distinguishes_listed : ContentHash.Distinguishes Listed := by
  have apart : ContentHash.ofTokens [house] ≠ .ofTokens [old, house] := by decide +kernel
  rintro first second (rfl | rfl) (rfl | rfl) same
  · rfl
  · exact absurd same apart
  · exact absurd same.symm apart
  · rfl

theorem familiar_sentences : Familiar Listed sentences := by
  simp [Familiar, sentences, Listed]

end Phrase
end Collocation
