import Collocation.Engine.Basic

/-!
# Running a batch

A run takes the sentences of a batch from a source, counts them, and commits the counts to the store.
Whatever goes wrong before the commit fails the batch and changes no counts.  While the source is asked,
further operations may reach the engine.
-/

namespace Collocation

/-- What a source gave to a run. -/
structure Delivery where
  /-- The sentences, or why there are none. -/
  fetched : Except SourceError Fetched
  /-- The request to stop as it stands afterwards. -/
  stop : StopRequest := .never

/-- What is reported about a tally: nothing if no sentence was left out. -/
def Tally.report (tally : Tally) : Option BatchReport :=
  if tally.skipped.isEmpty then none else some { skipped := tally.skipped.map Skipped.id }

/-- The totals of some tallies; sentences that were left out are reported for their batches only. -/
def Totals.sum (sampleLimit : Nat) (tallies : List (BatchId × Tally)) : Totals where
  batches := tallies.map Prod.fst
  tally := { Tally.sum sampleLimit (tallies.map Prod.snd) with skipped := [] }

/-- The totals with the tally of a batch that comes after all others. -/
def Totals.add (totals : Totals) (id : BatchId) (tally : Tally) : Totals where
  batches := totals.batches ++ [id]
  tally := { totals.tally ++ tally with skipped := [] }

namespace Engine

/-- Start a waiting batch. -/
def start (engine : Engine) (id : BatchId) : Except EngineError (Batch × Engine) :=
  match engine.batch? id with
  | none => .error (.unknownBatch id)
  | some batch =>
      if batch.status = .pending then
        let batch := batch.run engine.version
        .ok (batch, { engine with running := engine.running + 1 }.keep batch)
      else .error (.wrongStatus id batch.status)

/-- The totals of a version once the tally of a batch is committed.  A batch after all others is added to
the totals that there are; otherwise all tallies of the version are summed again. -/
def totalsWith (engine : Engine) (version : String) (id : BatchId) (tally : Tally) :
    Except StoreError Totals := do
  let limit := engine.configuration.sampleLimit
  match ← engine.store.totalsOf? version with
  | none => return .sum limit [(id, tally)]
  | some totals =>
      if totals.batches.getLast?.all (· < id) then return totals.add id tally
      else engine.store.ask fun store => .sum limit ((store.talliesOf version).insert id tally).toList

/-- End a run with a failure. -/
def failRun (engine : Engine) (batch : Batch) (skipped : List SentenceId) (failure : Failure) :
    Batch × Engine :=
  let failed := batch.fail skipped failure
  (failed, engine.keep failed)

/-- All that is stored about a batch with its tally and the totals that it leads to. -/
def commitOf (engine : Engine) (batch : Batch) (version : String) (tally : Tally) (totals : Totals) :
    Commit where
  batch := batch.complete tally.report
  version := version
  tally := tally
  totals := totals
  records := totals.tally.records version
  accessibility := totals.tally.accessibility engine.configuration.weights engine.norms

/-- Commit the tally of a batch, unless there is a request to stop. -/
def commitRun (engine : Engine) (batch : Batch) (version : String) (tally : Tally)
    (stop : StopRequest) : Batch × Engine :=
  let skipped := tally.skipped.map Skipped.id
  if stop.foundWithin 1 then engine.failRun batch skipped .cancelled
  else
    let stored := do
      let totals ← engine.totalsWith version batch.id tally
      let commit := engine.commitOf batch version tally totals
      let store ← engine.store.commit commit
      return (commit.batch, store)
    match stored with
    | .error cause => engine.failRun batch skipped (.store cause)
    | .ok (batch, store) =>
        (batch, { engine with store, batches := engine.batches.insert batch.id batch })

/-- Count what a source gave and commit it. -/
def countRun (engine : Engine) (relations : RelationSet) (batch : Batch) (delivery : Delivery) :
    Batch × Engine :=
  match delivery.fetched with
  | .error cause => engine.failRun batch [] (.source cause)
  | .ok fetched =>
      let limit := engine.configuration.sampleLimit
      let count := relations.countSharded limit engine.configuration.shardSize
      match RelationSet.countUnless delivery.stop count engine.cache fetched.sentences with
      | (none, cache) => { engine with cache }.failRun batch [] .cancelled
      | (some tally, cache) =>
          { engine with cache }.commitRun batch relations.version
            (tally.addRejected fetched.rejected) (delivery.stop.after fetched.sentences.length)

/-- End a run with what a source gave. -/
def finish (engine : Engine) (relations : RelationSet) (batch : Batch) (delivery : Delivery) :
    Batch × Engine :=
  let (batch, engine) := engine.countRun relations batch delivery
  (batch, { engine with running := engine.running - 1 })

variable {m : Type → Type} [Monad m]

/-- Run a batch.  `deliver` asks the source for the sentences of the batch; what else it does to the engine
meanwhile stays. -/
def run (engine : Engine) (id : BatchId) (deliver : Batch → Engine → m (Delivery × Engine)) :
    m (Except EngineError Batch × Engine) := do
  match engine.start id with
  | .error cause => pure (.error cause, engine)
  | .ok (batch, started) =>
      let (delivery, later) ← deliver batch started
      let (batch, engine) := later.finish engine.relations batch delivery
      pure (.ok batch, engine)

/-- What a source gives for a batch. -/
def deliveryFrom (engine : Engine) (source : Source) (batch : Batch) (stop : StopRequest) : Delivery :=
  ⟨source.fetch batch.selection engine.configuration.sourceTimeout, stop⟩

/-- Run a batch while nothing else happens. -/
def runFrom (engine : Engine) (id : BatchId) (source : Source) (stop : StopRequest) :
    Except EngineError Batch × Engine :=
  Id.run (engine.run id fun batch engine => pure (engine.deliveryFrom source batch stop, engine))

end Engine
end Collocation
