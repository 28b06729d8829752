import Collocation.Accessibility.Norms
import Collocation.Json.Value
import Collocation.Tally.Basic

/-!
# Accessibility

How accessible a lexeme is to a speaker is estimated from its frequency in the corpus and from norms.
Frequencies are taken per million and on a logarithmic scale.  A lexeme without norms is judged by the
corpus alone.
-/

namespace Collocation

/-- How much the parts of the estimate weigh. -/
structure Weights where
  /-- The frequency in the corpus. -/
  corpus : Float := 1
  /-- The frequency outside. -/
  norm : Float := 1
  /-- The contextual diversity. -/
  diversity : Float := 0.5
  /-- The factor that brings diversities to the scale of the frequencies. -/
  diversityScale : Float := 1

/-- The weights that a JSON value describes. -/
def Weights.ofJson? (json : Json) : Option Weights := do
  let fields ← json.fields? ["corpus_weight", "norm_weight", "diversity_weight", "diversity_scale"]
  let usual : Weights := {}
  match fields with
  | [corpus, norm, diversity, scale] =>
      some {
        corpus := ← Json.optional? usual.corpus Json.real? corpus
        norm := ← Json.optional? usual.norm Json.real? norm
        diversity := ← Json.optional? usual.diversity Json.real? diversity
        diversityScale := ← Json.optional? usual.diversityScale Json.real? scale }
  | _ => none

/-- The estimate of a lexeme. -/
structure Accessibility where
  /-- The lexeme. -/
  lexeme : Lexeme
  /-- How often it was seen in the corpus. -/
  frequency : UInt64
  /-- Its norm, if there is one. -/
  norm : Option Norm
  /-- The estimate. -/
  score : Float

namespace Accessibility

/-- Whether the corpus alone was judged by. -/
def corpusOnly (accessibility : Accessibility) : Bool :=
  accessibility.norm.isNone

/-- A frequency per million on the logarithmic scale. -/
def logFrequency (perMillion : Float) : Float :=
  (1 + perMillion).log10

/-- The part of the corpus in the estimate. -/
def corpusPart (tokens frequency : UInt64) : Float :=
  if tokens = 0 then 0 else logFrequency (frequency.toFloat * 1e6 / tokens.toFloat)

/-- A frequency that is negative or undefined counts as none. -/
def atLeastZero (value : Float) : Float :=
  if value.isNaN || value < 0 then 0 else value

/-- The weighted mean of the parts; where the weights cancel out, the part of the corpus. -/
def scoreOf (weights : Weights) (corpus : Float) (norm : Norm) : Float :=
  let outside := logFrequency (atLeastZero norm.frequency)
  let total := weights.corpus * corpus + weights.norm * outside
  let weight := weights.corpus + weights.norm
  let (total, weight) := match norm.diversity with
    | some diversity =>
        (total + weights.diversity * weights.diversityScale * diversity, weight + weights.diversity)
    | none => (total, weight)
  if 0 < weight then total / weight else corpus

/-- The estimate of a lexeme that was seen with a frequency among a number of tokens. -/
def estimate (weights : Weights) (norms : Norms) (tokens : UInt64) (lexeme : Lexeme)
    (frequency : UInt64) : Accessibility :=
  let norm := norms[lexeme]?
  let corpus := corpusPart tokens frequency
  ⟨lexeme, frequency, norm, norm.elim corpus (scoreOf weights corpus)⟩

end Accessibility

/-- The estimates of all lexemes of a tally, in ascending order. -/
def Tally.accessibility (tally : Tally) (weights : Weights) (norms : Norms) : List Accessibility :=
  tally.lexemes.toList.map fun entry =>
    .estimate weights norms tally.tokens entry.1 entry.2

end Collocation
