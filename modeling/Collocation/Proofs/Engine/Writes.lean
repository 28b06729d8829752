import Collocation.Proofs.Engine.Rows

/-!
# What a run writes

A run writes to the store when it starts and when it ends; what happens while its source is asked is not of
its own doing.  If it fails, both times it writes at most the row of its batch.  If it completes, it writes
what belongs to its batch and its version, and the accessibilities.
-/

namespace Collocation
namespace Engine

/-- A batch that waits can be run, and the run ends with what its source gave. -/
theorem run_of_pending {engine : Engine} {id : BatchId} {waiting : Batch}
    (found : engine.batch? id = some waiting) (pending : waiting.status = .pending)
    (deliver : Batch → Engine → Id (Delivery × Engine)) :
    let begun := waiting.run engine.version
    let started := { engine with running := engine.running + 1 }.keep begun
    let asked := (deliver begun started).run
    let ended := asked.2.finish engine.relations begun asked.1
    (engine.run id deliver).run = (.ok ended.1, ended.2) := by
  intro begun started asked ended
  have starts : engine.start id = .ok (begun, started) :=
    start_eq_ok_iff.mpr ⟨waiting, found, pending, rfl, rfl⟩
  simp only [run, starts]
  rfl

/-- The end of a run writes at most the row of its batch if the batch failed.  If it completed, it writes
what belongs to its batch and its version, and no look at the request to stop found one. -/
theorem writes_of_finish (engine : Engine) (relations : RelationSet) (batch : Batch)
    (delivery : Delivery) :
    let ended := engine.finish relations batch delivery
    (ended.1.status = .failed ∧ engine.store.SameButRow batch.id ended.2.store) ∨
      (ended.1.status = .completed ∧ ended.1.version = batch.version ∧
        engine.store.SameButCommit batch.id relations.version ended.2.store ∧
        ∃ fetched, delivery.fetched = .ok fetched ∧
          delivery.stop.foundWithin (fetched.sentences.length + 1) = false) := by
  intro ended
  have ending := ending_countRun engine relations batch delivery
  simp only [ended, finish]
  generalize engine.countRun relations batch delivery = counted at ending
  cases ending with
  | @failed cache skipped failure hindered =>
      exact Or.inl ⟨rfl, sameButRow_failRun { engine with cache } batch skipped failure⟩
  | completed delivered unstopped counts available sums =>
      exact Or.inr ⟨rfl, rfl, sameButCommit_completeRun engine batch relations.version _ _,
        _, delivered, unstopped⟩

end Engine

namespace Session

/-- Every batch that waits can be run, whatever happens while its source is asked.  The start of the run
writes at most the row of its batch.  The end of the run does the same if the batch failed; if it completed,
the end writes under the version that the run was started with: the tally of the batch, the totals and the
records of the version, all accessibilities, and the row of the batch.  It completes only if neither a look
before one of its sentences nor the look at the commit found a request to stop. -/
theorem run_writes_its_own {admits : Configuration → Prop} {session : Session}
    (reached : Reached admits session) {id : BatchId} {waiting : Batch}
    (found : session.engine.batch? id = some waiting) (pending : waiting.status = .pending)
    (deliver : Batch → Engine → Id (Delivery × Engine)) :
    let version := session.engine.version
    let begun := waiting.run version
    ∃ (started : Engine) (batch : Batch) (after : Engine),
      session.engine.start id = .ok (begun, started) ∧
      (session.engine.run id deliver).run = (.ok batch, after) ∧
      session.engine.store.SameButRow id started.store ∧
      let delivery := (deliver begun started).run.1
      let later := (deliver begun started).run.2
      (batch.status = .failed ∧ later.store.SameButRow id after.store) ∨
        (batch.status = .completed ∧ batch.version = some version ∧
          later.store.SameButCommit id version after.store ∧
          ∃ fetched, delivery.fetched = .ok fetched ∧
            delivery.stop.foundWithin (fetched.sentences.length + 1) = false) := by
  intro version begun
  have named : begun.id = id := reached.hasKeyedRows.batches id waiting found
  have starts := Engine.start_eq_ok_iff.mpr ⟨waiting, found, pending, rfl, rfl⟩
  have runs := Engine.run_of_pending found pending deliver
  refine ⟨_, _, _, starts, runs, named ▸ Engine.sameButRow_start starts, ?_⟩
  rw [← named]
  exact Engine.writes_of_finish _ session.engine.relations begun _

/-- The run of a first batch whose source switches the store off before it gives nothing. -/
theorem run_writes_its_own_of_switching_source :
    ∃ engine, Engine.onStore {} GrammarSet.adjectives ∅ .empty = .ok engine ∧
      let session := (⟨engine, []⟩ : Session).after (.create .all)
      let deliver (_ : Batch) (started : Engine) : Id (Delivery × Engine) :=
        pure (⟨.ok {}, .never⟩, { started with store := started.store.setAvailable false })
      ∃ (started : Engine) (batch : Batch) (after : Engine),
        session.engine.start engine.nextBatch =
          .ok ((Batch.fresh engine.nextBatch .all).run engine.version, started) ∧
        (session.engine.run engine.nextBatch deliver).run = (.ok batch, after) ∧
        session.engine.store.SameButRow engine.nextBatch started.store := by
  obtain ⟨engine, opens⟩ := exists_opened 5
  refine ⟨engine, opens, ?_⟩
  intro session deliver
  have reached : Reached (fun _ => True) session :=
    (Reached.opened trivial opens).after (.create .all) trivial
  have found : session.engine.batch? engine.nextBatch = some (Batch.fresh engine.nextBatch .all) := by
    simp [session, Session.after, Engine.create, Engine.keep, Engine.batch?, Batch.fresh]
  obtain ⟨started, batch, after, starts, runs, same, -⟩ :=
    run_writes_its_own reached found rfl deliver
  exact ⟨started, batch, after, starts, runs, same⟩

end Session
end Collocation
