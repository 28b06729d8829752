import Collocation.Cache
import Collocation.Grammar.Relation

/-!
# Analyses

The analysis of a sentence lists the matches of all relations that are looked for, in the order of the
relations.  It depends on the tokens alone, so it is kept under the content address of the sentence.
-/

namespace Collocation

/-- A match of a relation. -/
structure RelationMatch where
  /-- The name of the relation. -/
  relation : String
  /-- The match of its pattern. -/
  found : Match
  deriving DecidableEq

/-- The matches in a sentence. -/
abbrev Analysis :=
  List RelationMatch

/-- Analyses under the content addresses of their sentences. -/
abbrev AnalysisCache :=
  Cache ContentHash Analysis

/-- The matches of a relation in a sequence of tokens. -/
def Relation.analyze (relation : Relation) (tokens : List Token) : Analysis :=
  (relation.pattern.matchesIn tokens).map (⟨relation.name, ·⟩)

namespace RelationSet

/-- The analysis of a sequence of tokens. -/
def analyze (relations : RelationSet) (tokens : List Token) : Analysis :=
  relations.active.flatMap (·.analyze tokens)

/-- The analysis of a sentence, from the cache if it is there. -/
def analyzeWith (relations : RelationSet) (cache : AnalysisCache) (sentence : Sentence) :
    Analysis × AnalysisCache :=
  cache.getOrMake sentence.hash fun _ => relations.analyze sentence.tokens

/-- Whether the pairings of a relation count in both directions: some relation of this name that is looked
for lets head and collocate change roles. -/
def isBidirectional (relations : RelationSet) (name : String) : Bool :=
  relations.active.any fun relation => relation.bidirectional && relation.name == name

end RelationSet
end Collocation
