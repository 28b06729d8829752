import Collocation.Configuration
import Collocation.Engine.Store
import Collocation.Tally.Count

/-!
# The engine

An engine counts batches with the grammars of one version and keeps the results in a store.  Grammars are
only exchanged while no batch runs.  An engine that is opened on a store takes over its batches; those
that ran when their engine went away have failed.
-/

namespace Collocation

/-- Why the engine refuses an operation. -/
inductive EngineError where
  /-- The grammars are rejected. -/
  | grammar (cause : GrammarError)
  /-- The store does not answer. -/
  | store (cause : StoreError)
  /-- The workers do not start. -/
  | workers (cause : String)
  /-- There is no batch with this number. -/
  | unknownBatch (id : BatchId)
  /-- There are no grammars with this version. -/
  | unknownVersion (version : String)
  /-- The batch is not in the right status. -/
  | wrongStatus (id : BatchId) (status : BatchStatus)
  /-- Batches are running. -/
  | stillRunning (count : Nat)
  deriving DecidableEq

/-- The wording of an error. -/
def EngineError.message : EngineError → String
  | grammar cause => cause.message
  | store cause => cause.message
  | workers cause => s!"failed to start worker pool: {cause}"
  | unknownBatch id => s!"unknown batch {id}"
  | unknownVersion version => s!"no stored grammar set with version {version}"
  | wrongStatus id status => s!"batch {id} is {status.name}"
  | stillRunning count => s!"cannot reload grammars while {count} batch(es) are running"

/-- An engine on a store. -/
structure Engine where
  /-- The configuration. -/
  configuration : Configuration
  /-- The norms for accessibilities. -/
  norms : Norms
  /-- The relations that are looked for. -/
  relations : RelationSet
  /-- The analyses that are at hand. -/
  cache : AnalysisCache
  /-- The batches. -/
  batches : Table BatchId Batch
  /-- The number of the next batch. -/
  nextBatch : BatchId
  /-- How many batches run. -/
  running : Nat := 0
  /-- The store. -/
  store : Store

namespace Engine

/-- Lift an answer of the store. -/
def liftStore {α : Type} (answer : Except StoreError α) : Except EngineError α :=
  answer.mapError .store

/-- A cache for relations, filled with the analyses that the store has for them. -/
def freshCache (configuration : Configuration) (relations : RelationSet) (store : Store) :
    AnalysisCache :=
  let empty := Cache.empty configuration.cacheCapacity
  match store.analysesOf relations.fingerprint with
  | .ok entries => empty.warm entries
  | .error _ => empty

/-- The relations of grammars, checked with the parts of speech of a configuration. -/
def relationsOf (configuration : Configuration) (set : GrammarSet) : Except EngineError RelationSet :=
  (set.relations configuration.tagsets).mapError .grammar

/-- A batch as an engine takes it over. -/
def takeOver (batch : Batch) : Batch :=
  if batch.status = .running then batch.fail [] .interrupted else batch

/-- Check grammars and save them. -/
def accept (configuration : Configuration) (set : GrammarSet) (store : Store) :
    Except EngineError (RelationSet × Store) := do
  let relations ← relationsOf configuration set
  let store ← liftStore (store.saveGrammars set)
  return (relations, store)

/-- Take over what a store keeps. -/
def takeStore (configuration : Configuration) (relations : RelationSet) (norms : Norms) (store : Store) :
    Except EngineError Engine := do
  let known ← liftStore store.allBatches
  let interrupted := known.filter fun batch => batch.status = .running
  return {
    configuration, norms, relations
    cache := freshCache configuration relations store
    batches := store.batches.map fun _ batch => takeOver batch
    nextBatch := store.batches.maxKey?.getD 0 + 1
    store := interrupted.foldl (fun store batch => store.putIfAvailable (takeOver batch)) store }

/-- Open an engine on a store, if its workers start; with the store afterwards.  What keeps a number of
workers from starting is a parameter.  The grammars are saved before the workers start, and they stay
saved if these do not. -/
def openOn (failing : Nat → Option String) (configuration : Configuration) (set : GrammarSet)
    (norms : Norms) (store : Store) : Except EngineError Engine × Store :=
  match accept configuration set store with
  | .error cause => (.error cause, store)
  | .ok (relations, saved) =>
      match failing configuration.workers with
      | some cause => (.error (.workers cause), saved)
      | none =>
          match takeStore configuration relations norms saved with
          | .error cause => (.error cause, saved)
          | .ok engine => (.ok engine, engine.store)

/-- Open an engine whose workers start. -/
def onStore (configuration : Configuration) (set : GrammarSet) (norms : Norms) (store : Store) :
    Except EngineError Engine :=
  (openOn (fun _ => none) configuration set norms store).1

/-- The version of the grammars. -/
def version (engine : Engine) : String :=
  engine.relations.version

/-- The batch with a number. -/
def batch? (engine : Engine) (id : BatchId) : Option Batch :=
  engine.batches[id]?

/-- Keep a batch, and let the store keep it if it answers. -/
def keep (engine : Engine) (batch : Batch) : Engine :=
  { engine with
    batches := engine.batches.insert batch.id batch
    store := engine.store.putIfAvailable batch }

/-- Make a new batch. -/
def create (engine : Engine) (selection : Selection) : Batch × Engine :=
  let batch := Batch.fresh engine.nextBatch selection
  (batch, { engine with nextBatch := engine.nextBatch + 1 }.keep batch)

/-- Let a batch that ended wait again. -/
def requeue (engine : Engine) (id : BatchId) : Except EngineError (Batch × Engine) :=
  match engine.batch? id with
  | none => .error (.unknownBatch id)
  | some batch =>
      if batch.status.isFinal then
        let fresh := Batch.fresh id batch.selection
        .ok (fresh, engine.keep fresh)
      else .error (.wrongStatus id batch.status)

/-- Exchange the grammars. -/
def reload (engine : Engine) (set : GrammarSet) : Except EngineError Engine := do
  let relations ← relationsOf engine.configuration set
  if engine.running ≠ 0 then throw (.stillRunning engine.running)
  let store ← liftStore (engine.store.saveGrammars set)
  return { engine with
    relations, store
    cache := freshCache engine.configuration relations store }

/-- Go back to stored grammars. -/
def activate (engine : Engine) (version : String) : Except EngineError Engine := do
  match ← liftStore (engine.store.grammarsOf? version) with
  | none => throw (.unknownVersion version)
  | some set => engine.reload set

/-- Save the analyses that are at hand; how many there are. -/
def persist (engine : Engine) : Except EngineError (Nat × Engine) := do
  let entries := engine.cache.entries
  let store ← liftStore (engine.store.saveAnalyses engine.relations.fingerprint entries)
  return (entries.length, { engine with store })

/-- The records that a query asks for. -/
def sketch (engine : Engine) (query : Query) : Except EngineError (List Record) :=
  liftStore (engine.store.sketch engine.version query)

/-- The accessibility of a lexeme. -/
def accessibility? (engine : Engine) (lexeme : Lexeme) : Except EngineError (Option Accessibility) :=
  liftStore (engine.store.accessibilityOf? lexeme)

end Engine
end Collocation
