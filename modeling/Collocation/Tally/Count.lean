import Collocation.Analysis
import Collocation.Tally.Basic

/-!
# Counting sentences

A sentence adds its tokens and the pairings of its matches to a tally, or is left out if a lemma or a
part of speech is missing.  `RelationSet.count` counts sentences one after another,
`RelationSet.countSharded` counts parts of them and joins the tallies.
-/

namespace Collocation

/-- The pairing of a match: the lexemes of its head and its collocate. -/
def RelationMatch.pairing? (found : RelationMatch) (tokens : List Token) : Option Pairing := do
  let head ← tokens[found.found.head]?
  let collocate ← tokens[found.found.collocate]?
  some ⟨head.lexeme, collocate.lexeme, found.relation⟩

namespace RelationSet

/-- The pairings that a match adds: for a relation in both directions the swapped one first. -/
def pairings (relations : RelationSet) (tokens : List Token) (found : RelationMatch) : List Pairing :=
  match found.pairing? tokens with
  | none => []
  | some pairing =>
      if relations.isBidirectional found.relation then [pairing.swap, pairing] else [pairing]

/-- Add a sentence with its analysis to a tally. -/
def countAnalysed (relations : RelationSet) (tally : Tally) (sentence : Sentence)
    (analysis : Analysis) : Tally :=
  (analysis.flatMap (relations.pairings sentence.tokens)).foldl (·.seePairing sentence.id)
    (tally.seeTokens sentence.tokens)

/-- Add a sentence to a tally. -/
def countSentence (relations : RelationSet) (state : Tally × AnalysisCache) (sentence : Sentence) :
    Tally × AnalysisCache :=
  match sentence.flaw? with
  | some reason => (state.1.skip ⟨sentence.id, reason⟩, state.2)
  | none =>
      let (analysis, cache) := relations.analyzeWith state.2 sentence
      (relations.countAnalysed state.1 sentence analysis, cache)

/-- The tally of sentences, and the cache after their analyses. -/
def count (relations : RelationSet) (sampleLimit : Nat) (cache : AnalysisCache)
    (sentences : List Sentence) : Tally × AnalysisCache :=
  sentences.foldl relations.countSentence (.empty sampleLimit, cache)

end RelationSet

/-- Consecutive parts of a list, each but the last with as many elements as the size says; a size of
zero counts as one. -/
def shards {α : Type} (size : Nat) (list : List α) : List (List α) :=
  match list with
  | [] => []
  | first :: rest => (first :: rest.take (size - 1)) :: shards size (rest.drop (size - 1))
termination_by list.length
decreasing_by
  simp only [List.length_drop, List.length_cons]
  omega

/-- Nothing is lost. -/
@[simp]
theorem flatten_shards {α : Type} (size : Nat) (list : List α) : (shards size list).flatten = list := by
  fun_induction shards size list with
  | case1 => rfl
  | case2 first rest ih => simp [ih]

namespace RelationSet

/-- The tallies of parts, and the cache after all of them. -/
def countParts (relations : RelationSet) (sampleLimit : Nat) :
    AnalysisCache → List (List Sentence) → List Tally × AnalysisCache
  | cache, [] => ([], cache)
  | cache, part :: parts =>
      let (tally, cache) := relations.count sampleLimit cache part
      let (tallies, cache) := countParts relations sampleLimit cache parts
      (tally :: tallies, cache)

/-- The tally of sentences that are counted in parts of the given size. -/
def countSharded (relations : RelationSet) (sampleLimit size : Nat) (cache : AnalysisCache)
    (sentences : List Sentence) : Tally × AnalysisCache :=
  let (tallies, cache) := relations.countParts sampleLimit cache (shards size sentences)
  (.sum sampleLimit tallies, cache)

end RelationSet

/-! ## Stopping -/

/-- A request to stop, looked at before every sentence: it is not made at all, or made once a number of
looks were free. -/
structure StopRequest where
  /-- How many looks are free. -/
  free : Option Nat
  deriving DecidableEq, Repr

namespace StopRequest

/-- No request. -/
def never : StopRequest :=
  ⟨none⟩

/-- The report that counting was stopped. -/
def report : String :=
  "aggregation cancelled"

/-- A request that the next look finds. -/
def now : StopRequest :=
  ⟨some 0⟩

/-- Whether one of the next looks finds the request. -/
def foundWithin (request : StopRequest) (looks : Nat) : Bool :=
  request.free.any (· < looks)

/-- The request after some looks that did not find it. -/
def after (request : StopRequest) (looks : Nat) : StopRequest :=
  ⟨request.free.map (· - looks)⟩

@[simp]
theorem foundWithin_never (looks : Nat) : never.foundWithin looks = false :=
  rfl

end StopRequest

namespace RelationSet

/-- Count with a function unless a request to stop is found; the sentences before that were analysed. -/
def countUnless (request : StopRequest)
    (count : AnalysisCache → List Sentence → Tally × AnalysisCache) (cache : AnalysisCache)
    (sentences : List Sentence) : Option Tally × AnalysisCache :=
  if request.foundWithin sentences.length then
    (none, (count cache (sentences.take (request.free.getD 0))).2)
  else
    let (tally, cache) := count cache sentences
    (some tally, cache)

/-- Without a request everything is counted. -/
@[simp]
theorem countUnless_never (count : AnalysisCache → List Sentence → Tally × AnalysisCache)
    (cache : AnalysisCache) (sentences : List Sentence) :
    countUnless .never count cache sentences =
      (some (count cache sentences).1, (count cache sentences).2) :=
  rfl

end RelationSet
end Collocation
