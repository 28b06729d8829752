import Collocation.Proofs.Engine.Frame

/-!
# Rows of batches

In every session the engine and the store have each batch under its own number.
-/

namespace Collocation

/-- Every batch stands under its number. -/
def Keyed (batches : Table BatchId Batch) : Prop :=
  ∀ id (batch : Batch), batches[id]? = some batch → batch.id = id

namespace Keyed

theorem empty : Keyed ∅ := fun id batch found => by simp at found

theorem insert {batches : Table BatchId Batch} (keyed : Keyed batches) (batch : Batch) :
    Keyed (batches.insert batch.id batch) := by
  intro id other found
  rcases Table.of_getElem?_insert_eq_some found with ⟨same, rfl⟩ | ⟨-, earlier⟩
  · exact same
  · exact keyed id other earlier

theorem map {batches : Table BatchId Batch} (keyed : Keyed batches) {change : Batch → Batch}
    (unchanged : ∀ batch, (change batch).id = batch.id) :
    Keyed (batches.map fun _ batch => change batch) := by
  intro id batch found
  rw [Std.ExtTreeMap.getElem?_map, Option.map_eq_some_iff] at found
  obtain ⟨earlier, stored, rfl⟩ := found
  rw [unchanged, keyed id earlier stored]

theorem putIfAvailable {store : Store} (keyed : Keyed store.batches) (batch : Batch) :
    Keyed (store.putIfAvailable batch).batches := by
  rw [Store.putIfAvailable_eq]
  split
  · exact keyed.insert batch
  · exact keyed

end Keyed

namespace Engine

theorem id_takeOver (batch : Batch) : (takeOver batch).id = batch.id := by
  unfold takeOver
  split <;> rfl

/-- The engine and its store have every batch under its number. -/
structure HasKeyedRows (engine : Engine) : Prop where
  /-- The engine has. -/
  batches : Keyed engine.batches
  /-- The store has. -/
  store : Keyed engine.store.batches

theorem HasKeyedRows.keep {engine : Engine} (keyed : engine.HasKeyedRows) (batch : Batch) :
    (engine.keep batch).HasKeyedRows :=
  ⟨keyed.batches.insert batch, keyed.store.putIfAvailable batch⟩

theorem hasKeyedRows_onStore {configuration : Configuration} {set : GrammarSet} {norms : Norms}
    {store : Store} {engine : Engine} (opens : onStore configuration set norms store = .ok engine)
    (keyed : Keyed store.batches) : engine.HasKeyedRows := by
  have stored : Keyed engine.store.batches :=
    store_onStore opens (fun later => Keyed later.batches) keyed
      fun later batch _ kept => kept.putIfAvailable (takeOver batch)
  obtain ⟨relations, -, -, rfl⟩ := onStore_eq_ok_iff.mp opens
  exact ⟨keyed.map id_takeOver, stored⟩

end Engine

namespace Session

theorem Reached.hasKeyedRows {admits : Configuration → Prop} {session : Session}
    (reached : Reached admits session) : session.engine.HasKeyedRows := by
  refine reached.invariant (fun session => session.engine.HasKeyedRows) ?_ ?_
  · intro configuration set norms engine _ opens
    exact Engine.hasKeyedRows_onStore opens .empty
  · intro before move after _ keyed step
    cases step with
    | refused => exact keyed
    | created selection => exact ⟨keyed.batches.insert _, keyed.store.putIfAvailable _⟩
    | started starts =>
        obtain ⟨waiting, -, -, -, rfl⟩ := Engine.start_eq_ok_iff.mp starts
        exact ⟨keyed.batches.insert _, keyed.store.putIfAvailable _⟩
    | requeued requeues =>
        obtain ⟨ended, -, -, -, rfl⟩ := Engine.requeue_eq_ok_iff.mp requeues
        exact keyed.keep _
    | reloaded asked reloads =>
        obtain ⟨relations, -, -, -, rfl⟩ := Engine.reload_eq_ok_iff.mp reloads
        exact ⟨keyed.batches, keyed.store⟩
    | persisted persists =>
        obtain ⟨-, -, rfl⟩ := Engine.persist_eq_ok_iff.mp persists
        exact ⟨keyed.batches, keyed.store⟩
    | switched available => exact ⟨keyed.batches, keyed.store⟩
    | restarted admitted opens => exact Engine.hasKeyedRows_onStore opens keyed.store
    | @finished place run delivery ended found ending =>
        cases ending with
        | failed cache skipped hindered =>
            exact ⟨keyed.batches.insert (run.batch.fail skipped _), keyed.store.putIfAvailable _⟩
        | completed delivered unstopped counts available sums =>
            exact ⟨keyed.batches.insert (run.batch.complete _), keyed.store.insert (run.batch.complete _)⟩

end Session
end Collocation
