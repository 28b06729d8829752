import Collocation.Proofs.Engine.Session
import Collocation.Proofs.Table.Ascending

/-!
# What operations leave alone

Every step of a session leaves the counted data of the store alone, except the end of a run that commits
its tally.  A failed run writes the row of its batch and nothing else; a completed one writes what belongs
to its batch and its version, and the accessibilities.  So it is known what a new batch leaves behind whose run
nothing hinders.
-/

namespace Collocation
namespace Store

/-- Two stores hold the same counted data. -/
structure SameCounts (before after : Store) : Prop where
  /-- They hold the same tallies. -/
  tallies : after.tallies = before.tallies
  /-- They hold the same totals. -/
  totals : after.totals = before.totals
  /-- They hold the same records. -/
  records : after.records = before.records
  /-- They hold the same accessibilities. -/
  accessibility : after.accessibility = before.accessibility

/-- Two stores are the same up to the row of a batch. -/
structure SameButRow (id : BatchId) (before after : Store) : Prop extends SameCounts before after where
  /-- Both answer or none does. -/
  available : after.available = before.available
  /-- They hold the same grammars. -/
  grammars : after.grammars = before.grammars
  /-- They hold the same saved analyses. -/
  analyses : after.analyses = before.analyses
  /-- They hold the same rows of other batches. -/
  rows : ∀ other, other ≠ id → after.batches[other]? = before.batches[other]?

/-- Two stores are the same up to what belongs to a batch under a version, and the accessibilities. -/
structure SameButCommit (id : BatchId) (version : String) (before after : Store) : Prop where
  /-- Both answer or none does. -/
  available : after.available = before.available
  /-- They hold the same grammars. -/
  grammars : after.grammars = before.grammars
  /-- They hold the same saved analyses. -/
  analyses : after.analyses = before.analyses
  /-- They hold the same rows of other batches. -/
  rows : ∀ other, other ≠ id → after.batches[other]? = before.batches[other]?
  /-- They hold the same tallies of other batches under the version. -/
  tallies : ∀ other, other ≠ id →
    (after.talliesOf version)[other]? = (before.talliesOf version)[other]?
  /-- They hold the same tallies of other versions. -/
  otherTallies : ∀ other, other ≠ version → after.tallies[other]? = before.tallies[other]?
  /-- They hold the same totals of other versions. -/
  totals : ∀ other, other ≠ version → after.totals[other]? = before.totals[other]?
  /-- They hold the same records of other versions. -/
  records : ∀ other, other ≠ version → after.records[other]? = before.records[other]?

namespace SameCounts

@[refl]
theorem refl (store : Store) : SameCounts store store :=
  ⟨rfl, rfl, rfl, rfl⟩

theorem trans {first second third : Store} (left : SameCounts first second)
    (right : SameCounts second third) : SameCounts first third :=
  ⟨right.tallies.trans left.tallies, right.totals.trans left.totals,
    right.records.trans left.records, right.accessibility.trans left.accessibility⟩

end SameCounts

@[refl]
theorem SameButRow.refl (id : BatchId) (store : Store) : SameButRow id store store :=
  ⟨.refl store, rfl, rfl, rfl, fun _ _ => rfl⟩

/-! ## Single writes -/

theorem putIfAvailable_eq (store : Store) (batch : Batch) :
    store.putIfAvailable batch =
      if store.available then { store with batches := store.batches.insert batch.id batch }
      else store := by
  cases available : store.available <;> simp [putIfAvailable, putBatch, ask, available]

theorem sameButRow_putIfAvailable (store : Store) (batch : Batch) :
    SameButRow batch.id store (store.putIfAvailable batch) := by
  rw [putIfAvailable_eq]
  split
  · exact ⟨⟨rfl, rfl, rfl, rfl⟩, rfl, rfl, rfl, fun other apart =>
      Table.getElem?_insert_of_ne apart.symm batch⟩
  · rfl

theorem talliesOf_withCommit_self (store : Store) (commit : Commit) :
    (store.withCommit commit).talliesOf commit.version =
      (store.talliesOf commit.version).insert commit.batch.id commit.tally := by
  simp [withCommit, talliesOf]

theorem talliesOf_withCommit_of_ne (store : Store) {commit : Commit} {version : String}
    (apart : commit.version ≠ version) :
    (store.withCommit commit).talliesOf version = store.talliesOf version := by
  simp only [withCommit, talliesOf, Table.getElem?_insert_of_ne apart]

theorem sameButCommit_withCommit (store : Store) (commit : Commit) :
    SameButCommit commit.batch.id commit.version store (store.withCommit commit) where
  available := rfl
  grammars := rfl
  analyses := rfl
  rows := fun _ apart => Table.getElem?_insert_of_ne apart.symm _
  tallies := fun _ apart => by
    rw [talliesOf_withCommit_self, Table.getElem?_insert_of_ne apart.symm]
  otherTallies := fun _ apart => Table.getElem?_insert_of_ne apart.symm _
  totals := fun _ apart => Table.getElem?_insert_of_ne apart.symm _
  records := fun _ apart => Table.getElem?_insert_of_ne apart.symm _

end Store

namespace Engine

theorem sameButRow_keep (engine : Engine) (batch : Batch) :
    engine.store.SameButRow batch.id (engine.keep batch).store :=
  Store.sameButRow_putIfAvailable engine.store batch

theorem sameButRow_start {engine started : Engine} {id : BatchId} {batch : Batch}
    (starts : engine.start id = .ok (batch, started)) :
    engine.store.SameButRow batch.id started.store := by
  obtain ⟨waiting, -, -, -, rfl⟩ := start_eq_ok_iff.mp starts
  exact sameButRow_keep { engine with running := engine.running + 1 } batch

theorem sameButRow_requeue {engine later : Engine} {id : BatchId} {fresh : Batch}
    (requeues : engine.requeue id = .ok (fresh, later)) :
    engine.store.SameButRow fresh.id later.store := by
  obtain ⟨ended, -, -, -, rfl⟩ := requeue_eq_ok_iff.mp requeues
  exact sameButRow_keep engine fresh

theorem sameCounts_onStore {configuration : Configuration} {set : GrammarSet} {norms : Norms}
    {store : Store} {engine : Engine}
    (opens : onStore configuration set norms store = .ok engine) :
    store.SameCounts engine.store :=
  store_onStore opens store.SameCounts ⟨rfl, rfl, rfl, rfl⟩ fun later batch _ same =>
    same.trans (Store.sameButRow_putIfAvailable later (takeOver batch)).toSameCounts

theorem available_onStore {configuration : Configuration} {set : GrammarSet} {norms : Norms}
    {store : Store} {engine : Engine}
    (opens : onStore configuration set norms store = .ok engine) : engine.store.available = true := by
  obtain ⟨-, -, available, -⟩ := onStore_eq_ok_iff.mp opens
  exact store_onStore opens (fun later => later.available = true) available fun later batch _ answers =>
    (Store.sameButRow_putIfAvailable later (takeOver batch)).available.trans answers

theorem grammars_onStore {configuration : Configuration} {set : GrammarSet} {norms : Norms}
    {store : Store} {engine : Engine}
    (opens : onStore configuration set norms store = .ok engine) :
    engine.store.grammars = store.grammars.insert set.version set :=
  store_onStore opens (fun later => later.grammars = store.grammars.insert set.version set) rfl
    fun later batch _ same =>
      (Store.sameButRow_putIfAvailable later (takeOver batch)).grammars.trans same

/-! ## The end of a run -/

theorem sameButRow_failRun (engine : Engine) (batch : Batch) (skipped : List SentenceId)
    (failure : Failure) :
    engine.store.SameButRow batch.id (engine.failRun batch skipped failure).2.store :=
  sameButRow_keep engine (batch.fail skipped failure)

theorem sameButCommit_completeRun (engine : Engine) (batch : Batch) (version : String) (tally : Tally)
    (totals : Totals) :
    engine.store.SameButCommit batch.id version
      (engine.completeRun batch version tally totals).2.store :=
  Store.sameButCommit_withCommit engine.store (engine.commitOf batch version tally totals)

end Engine

/-! ## Steps of a session -/

namespace Session

/-- A move ends a run in progress, and the tally of what was fetched is committed with the totals that it
leads to. -/
structure Commits (session : Session) (move : Move) (run : Run) (fetched : Fetched) (tally : Tally)
    (totals : Totals) : Prop where
  /-- The move ends the run, and no look at the request to stop finds one. -/
  ends : ∃ place stop, move = .finish place ⟨.ok fetched, stop⟩ ∧ session.runs[place]? = some run ∧
    stop.foundWithin (fetched.sentences.length + 1) = false
  /-- The tally was counted with the relations of the run and the analyses at hand. -/
  counts : (run.relations.countSharded session.engine.configuration.sampleLimit
    session.engine.configuration.shardSize session.engine.cache fetched.sentences).1.addRejected
      fetched.rejected = tally
  /-- The totals are those that the version of the run has with the tally. -/
  sums : session.engine.totalsWith run.relations.version run.batch.id tally = .ok totals

theorem commits_of_ending {session : Session} {place : Nat} {run : Run} {delivery : Delivery}
    {ended : Batch × Engine} (found : session.runs[place]? = some run)
    (ending : Engine.Ending session.engine run.relations run.batch delivery ended)
    (completed : ended.1.status = .completed) :
    ∃ fetched tally totals, session.Commits (.finish place delivery) run fetched tally totals ∧
      ended.2.store = session.engine.store.withCommit
        (session.engine.commitOf run.batch run.relations.version tally totals) := by
  cases ending with
  | failed => cases completed
  | @completed fetched counted cache totals delivered unstopped counts available sums =>
      obtain ⟨given, stop⟩ := delivery
      obtain rfl : given = .ok fetched := delivered
      have tallied := congrArg (fun ended => ended.1.addRejected fetched.rejected) counts
      exact ⟨fetched, _, totals, ⟨⟨place, stop, rfl, found, unstopped⟩, tallied, sums⟩, rfl⟩

/-- A step leaves the counted data alone, or it ends a run whose tally is committed. -/
theorem sameCounts_or_commit {admits : Configuration → Prop} {before after : Session} {move : Move}
    (step : Step admits before move after) :
    before.engine.store.SameCounts after.engine.store ∨
      ∃ run fetched tally totals, before.Commits move run fetched tally totals ∧
        after.engine.store = before.engine.store.withCommit
          (before.engine.commitOf run.batch run.relations.version tally totals) := by
  cases step with
  | refused => exact Or.inl (.refl _)
  | created selection => exact Or.inl (Engine.sameButRow_keep _ _).toSameCounts
  | started starts => exact Or.inl (Engine.sameButRow_start starts).toSameCounts
  | requeued requeues => exact Or.inl (Engine.sameButRow_requeue requeues).toSameCounts
  | switched available => exact Or.inl ⟨rfl, rfl, rfl, rfl⟩
  | restarted admitted opens => exact Or.inl (Engine.sameCounts_onStore opens)
  | reloaded asked reloads =>
      obtain ⟨relations, -, -, -, rfl⟩ := Engine.reload_eq_ok_iff.mp reloads
      exact Or.inl ⟨rfl, rfl, rfl, rfl⟩
  | persisted persists =>
      obtain ⟨-, -, rfl⟩ := Engine.persist_eq_ok_iff.mp persists
      exact Or.inl ⟨rfl, rfl, rfl, rfl⟩
  | @finished place run delivery ended found ending =>
      have commits := commits_of_ending found ending
      cases ending with
      | failed cache skipped hindered =>
          exact Or.inl (Engine.sameButRow_failRun { before.engine with cache } _ _ _).toSameCounts
      | completed =>
          obtain ⟨fetched, tally, totals, commits, committed⟩ := commits rfl
          exact Or.inr ⟨run, fetched, tally, totals, commits, committed⟩

/-! ## New batches -/

/-- A batch was made and run, and its tally is committed; everything else that a count depends on is as
it was. -/
structure Ran (before : Session) (tally : Tally) (totals : Totals) (after : Session) : Prop where
  /-- The runs in progress are the same. -/
  runs : after.runs = before.runs
  /-- As many runs are counted. -/
  running : after.engine.running = before.engine.running
  /-- The configuration is the same. -/
  configuration : after.engine.configuration = before.engine.configuration
  /-- The relations are the same. -/
  relations : after.engine.relations = before.engine.relations
  /-- One number is used up. -/
  nextBatch : after.engine.nextBatch = before.engine.nextBatch + 1
  /-- The store answers. -/
  available : after.engine.store.available = true
  /-- The store has the same grammars. -/
  grammars : after.engine.store.grammars = before.engine.store.grammars
  /-- The store has the same saved analyses. -/
  analyses : after.engine.store.analyses = before.engine.store.analyses
  /-- The engine shows the batch as completed. -/
  completed : ∃ batch, after.engine.batch? before.engine.nextBatch = some batch ∧ batch.status = .completed
  /-- The store has a row of the batch. -/
  row : before.engine.nextBatch ∈ after.engine.store.batches
  /-- The store has the same rows of other batches. -/
  rows : ∀ other, other ≠ before.engine.nextBatch →
    after.engine.store.batches[other]? = before.engine.store.batches[other]?
  /-- The tally stands under the version of the engine. -/
  tallies : after.engine.store.talliesOf before.engine.version =
    (before.engine.store.talliesOf before.engine.version).insert before.engine.nextBatch tally
  /-- The version has the totals. -/
  summed : after.engine.store.totals = before.engine.store.totals.insert before.engine.version totals
  /-- The version has the records of the totals. -/
  records : after.engine.store.records =
    before.engine.store.records.insert before.engine.version
      (recordsByHeadword (totals.tally.records before.engine.version))

/-- A new batch whose run nothing hinders is counted with the relations and the analyses at hand. -/
theorem ran_new_batch {session : Session} (available : session.engine.store.available = true)
    {fetched : Fetched} {stop : StopRequest}
    (unstopped : stop.foundWithin (fetched.sentences.length + 1) = false) (selection : Selection) :
    let engine := session.engine
    ∃ counted cache totals,
      engine.relations.countSharded engine.configuration.sampleLimit engine.configuration.shardSize
        engine.cache fetched.sentences = (counted, cache) ∧
      Engine.Sums engine engine.version engine.nextBatch (counted.addRejected fetched.rejected) totals ∧
      session.Ran (counted.addRejected fetched.rejected) totals (session.afterAll
        [.create selection, .start engine.nextBatch, .finish 0 ⟨.ok fetched, stop⟩]) := by
  intro engine
  let begun := (Batch.fresh engine.nextBatch selection).run engine.version
  let rows := (session.engine.store.batches.insert engine.nextBatch
    (.fresh engine.nextBatch selection)).insert engine.nextBatch begun
  let started : Engine := { engine with
    nextBatch := engine.nextBatch + 1
    running := engine.running + 1
    batches := (engine.batches.insert engine.nextBatch (.fresh engine.nextBatch selection)).insert
      engine.nextBatch begun
    store := { engine.store with available := true, batches := rows } }
  have starts : (session.after (.create selection)).after (.start engine.nextBatch) =
      ⟨started, ⟨begun, engine.relations⟩ :: session.runs⟩ := by
    rw [after_create_start]
    simp only [Engine.create, Engine.keep, Store.putIfAvailable_eq, available, if_true]
    rfl
  have found : (⟨started, ⟨begun, engine.relations⟩ :: session.runs⟩ : Session).runs[0]? =
      some ⟨begun, engine.relations⟩ := rfl
  obtain ⟨counted, cache, totals, counts, sums, ended⟩ :=
    after_finish_of_unhindered found rfl unstopped
  refine ⟨counted, cache, totals, counts, ?_, ?_⟩
  · cases sums with
    | first absent => exact .first absent
    | added earlier last => exact .added earlier last
    | again earlier inside => exact .again earlier inside
  · have ran : session.afterAll
        [.create selection, .start engine.nextBatch, .finish 0 ⟨.ok fetched, stop⟩] = _ :=
      (congrArg (fun session => session.after (.finish 0 ⟨.ok fetched, stop⟩)) starts).trans ended
    rw [ran]
    exact {
      runs := rfl
      running := rfl
      configuration := rfl
      relations := rfl
      nextBatch := rfl
      available := rfl
      grammars := rfl
      analyses := rfl
      completed := ⟨_, Std.ExtTreeMap.getElem?_insert_self, rfl⟩
      row := Std.ExtTreeMap.mem_insert_self
      rows := fun other apart =>
        calc
          _ = rows[other]? := Table.getElem?_insert_of_ne apart.symm _
          _ = _ := Table.getElem?_insert_of_ne apart.symm _
          _ = _ := Table.getElem?_insert_of_ne apart.symm _
      tallies := Store.talliesOf_withCommit_self _ _
      summed := rfl
      records := rfl }

end Session
end Collocation
