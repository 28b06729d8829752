import Collocation.Accessibility.Basic
import Collocation.Json.Reader
import Collocation.Tagset

/-!
# Configuration

All that can be set has a usual value, so an empty object describes a whole configuration.
-/

namespace Collocation

/-- What can be set. -/
structure Configuration where
  /-- How many example sentences are kept for a pairing. -/
  sampleLimit : Nat := 5
  /-- How many analyses are kept; none keeps no cache. -/
  cacheCapacity : Nat := 100000
  /-- How many workers share the work; zero for one on every processor. -/
  workers : Nat := 0
  /-- How many sentences are counted at a time. -/
  shardSize : Nat := 1024
  /-- How many milliseconds a source has. -/
  sourceTimeout : Nat := 60000
  /-- How many milliseconds the store has. -/
  storeTimeout : Nat := 5000
  /-- How the parts of an accessibility weigh. -/
  weights : Weights := {}
  /-- The parts of speech of single languages. -/
  tagsets : Tagsets := .empty

namespace Configuration

/-- The configuration that a JSON value describes. -/
def ofJson? (json : Json) : Option Configuration := do
  let fields ← json.fields? ["example_sample_size", "cache_capacity", "workers", "shard_size",
    "source_timeout_ms", "store_timeout_ms", "accessibility", "tagsets"]
  let usual : Configuration := {}
  let number := fun (usual : Nat) => Json.optional? usual fun json => json.word?.map UInt64.toNat
  match fields with
  | [sample, capacity, workers, shard, source, store, weights, tagsets] =>
      some {
        sampleLimit := ← number usual.sampleLimit sample
        cacheCapacity := ← number usual.cacheCapacity capacity
        workers := ← number usual.workers workers
        shardSize := ← number usual.shardSize shard
        sourceTimeout := ← number usual.sourceTimeout source
        storeTimeout := ← number usual.storeTimeout store
        weights := ← Json.optional? usual.weights Weights.ofJson? weights
        tagsets := ← Json.optional? usual.tagsets (Json.dictionary? (Json.list? Json.text?)) tagsets }
  | _ => none

/-- The configuration that a document describes. -/
def ofText? (text : String) : Option Configuration := do
  ofJson? (← Json.ofText? text)

end Configuration
end Collocation
