import Collocation.Json.Writer
import Collocation.Sentence.Basic

/-!
# Selections

A selection says which sentences of a source a batch covers.
-/

namespace Collocation

/-- Which sentences are meant, by their numbers. -/
inductive Selection where
  /-- From one number up to another, the latter left out. -/
  | range (start stop : SentenceId)
  /-- The listed numbers. -/
  | ids (ids : List SentenceId)
  /-- Every number. -/
  | all
  deriving DecidableEq

namespace Selection

/-- Whether a sentence with a number is meant. -/
def contains (id : SentenceId) : Selection → Bool
  | range start stop => start ≤ id && id < stop
  | ids listed => listed.contains id
  | all => true

/-- The selection that a JSON value describes: the word `All`, or an object with a single member that
names the kind. -/
def ofJson? : Json → Option Selection
  | .string (some "All") => some .all
  | .object [(some "All", .null)] => some .all
  | .object [(some "Range", json)] => do
      match ← json.fields? ["start", "end"] with
      | [start, stop] =>
          some (.range (← Json.required? Json.word? start) (← Json.required? Json.word? stop))
      | _ => none
  | .object [(some "Ids", json)] => (json.list? Json.word?).map .ids
  | _ => none

/-- The JSON value that describes a selection. -/
def toJson : Selection → Json
  | all => .ofText "All"
  | range start stop =>
      .ofFields [("Range", .ofFields [("start", .ofInt start.toNat), ("end", .ofInt stop.toNat)])]
  | ids listed => .ofFields [("Ids", .ofList (fun id => .ofInt id.toNat) listed)]

end Selection
end Collocation
