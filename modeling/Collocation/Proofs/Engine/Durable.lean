import Collocation.Proofs.Engine.Lifecycle
import Collocation.Proofs.Engine.Totals

/-!
# Committed batches

A store that is offline misses the rows of batches, so its rows may be older than those of the engine.
But a row that says completed, in the store or in the engine, is never ahead of the tallies: the tally
of its batch stands under its version, and the totals of the version list the batch.  Nothing that was
committed goes away, and a new batch gets a number under which nothing was committed.
-/

namespace Collocation

/-! ## Stores -/

namespace Store

/-- Every batch with a tally has a row, and every batch whose row says completed has a tally under its
version. -/
structure Recorded (store : Store) : Prop where
  rows : ∀ version id, id ∈ store.talliesOf version → id ∈ store.batches
  completed : ∀ (id : BatchId) (batch : Batch), store.batches[id]? = some batch → batch.status = .completed →
    ∃ version, batch.version = some version ∧ id ∈ store.talliesOf version

theorem recorded_empty : empty.Recorded where
  rows := fun version id member => by simp [empty, talliesOf] at member
  completed := fun id batch found => by simp [empty] at found

namespace Recorded

variable {store : Store} (recorded : store.Recorded)

include recorded

theorem of_same {later : Store} (tallies : later.tallies = store.tallies)
    (batches : later.batches = store.batches) : later.Recorded where
  rows := fun version id member => by
    rw [talliesOf, tallies] at member
    exact batches ▸ recorded.rows version id member
  completed := fun id batch found status => by
    rw [batches] at found
    obtain ⟨version, versioned, member⟩ := recorded.completed id batch found status
    exact ⟨version, versioned, by rwa [talliesOf, tallies]⟩

theorem putIfAvailable {batch : Batch} (open_ended : batch.status ≠ .completed) :
    (store.putIfAvailable batch).Recorded := by
  rw [putIfAvailable_eq]
  split
  · refine ⟨fun version id member => ?_, fun id other found status => ?_⟩
    · exact Std.ExtTreeMap.mem_insert.mpr (Or.inr (recorded.rows version id member))
    · rcases Table.of_getElem?_insert_eq_some found with ⟨-, rfl⟩ | ⟨-, earlier⟩
      · exact absurd status open_ended
      · exact recorded.completed id other earlier status
  · exact recorded

theorem withCommit {commit : Commit} (versioned : commit.batch.version = some commit.version) :
    (store.withCommit commit).Recorded := by
  have kept {version : String} {id : BatchId} (member : id ∈ store.talliesOf version) :
      id ∈ (store.withCommit commit).talliesOf version := by
    by_cases same : commit.version = version
    · subst same
      rw [talliesOf_withCommit_self]
      exact Std.ExtTreeMap.mem_insert.mpr (Or.inr member)
    · rwa [talliesOf_withCommit_of_ne store same]
  refine ⟨fun version id member => Std.ExtTreeMap.mem_insert.mpr ?_, fun id batch found status => ?_⟩
  · by_cases same : commit.version = version
    · subst same
      rw [talliesOf_withCommit_self] at member
      exact (Std.ExtTreeMap.mem_insert.mp member).imp_right (recorded.rows _ id)
    · rw [talliesOf_withCommit_of_ne store same] at member
      exact Or.inr (recorded.rows version id member)
  · rcases Table.of_getElem?_insert_eq_some found with ⟨rfl, rfl⟩ | ⟨-, earlier⟩
    · refine ⟨commit.version, versioned, ?_⟩
      rw [talliesOf_withCommit_self]
      exact Std.ExtTreeMap.mem_insert_self
    · obtain ⟨version, versioned, member⟩ := recorded.completed id batch earlier status
      exact ⟨version, versioned, kept member⟩

end Recorded
end Store

/-! ## Engines -/

namespace Engine

/-- The store records what is committed, and has every row of the engine that says completed. -/
structure Durable (engine : Engine) : Prop where
  recorded : engine.store.Recorded
  stored : ∀ (id : BatchId) (batch : Batch), engine.batch? id = some batch → batch.status = .completed →
    engine.store.batches[id]? = some batch

theorem Durable.keep {engine : Engine} (durable : engine.Durable) {kept : Batch}
    (open_ended : kept.status ≠ .completed) : (engine.keep kept).Durable where
  recorded := durable.recorded.putIfAvailable open_ended
  stored := fun id batch found status => by
    rw [batch?_keep] at found
    split at found
    · exact absurd (Option.some.inj found ▸ status) open_ended
    · next apart =>
        rw [(sameButRow_keep engine kept).rows id (Ne.symm apart)]
        exact durable.stored id batch found status

theorem status_takeOver_ne_completed {batch : Batch} (running : batch.status = .running) :
    (takeOver batch).status ≠ .completed := by
  rw [takeOver, if_pos running]
  exact BatchStatus.noConfusion

variable {configuration : Configuration} {set : GrammarSet} {norms : Norms} {store : Store}
  {engine : Engine}

theorem durable_onStore (opens : onStore configuration set norms store = .ok engine)
    (keyed : Keyed store.batches) (recorded : store.Recorded) : engine.Durable where
  recorded := by
    have saved : (store.withGrammars set).Recorded := recorded.of_same rfl rfl
    refine store_onStore opens Store.Recorded saved fun later batch member kept => ?_
    have running : batch.status = .running := of_decide_eq_true (List.mem_filter.mp member).2
    exact kept.putIfAvailable (status_takeOver_ne_completed running)
  stored := fun id batch found _ => by
    obtain ⟨taken, stored⟩ := rows_onStore keyed opens id
    exact stored.trans (taken.symm.trans found)

/-- The store answers and has the rows of the engine. -/
structure Mirrored (engine : Engine) : Prop where
  available : engine.store.available = true
  rows : engine.store.batches = engine.batches

theorem Mirrored.keep (mirrored : engine.Mirrored) (batch : Batch) : (engine.keep batch).Mirrored where
  available := (sameButRow_keep engine batch).available.trans mirrored.available
  rows := by
    simp only [Engine.keep, Store.putIfAvailable_eq, mirrored.available, if_true, mirrored.rows]

theorem mirrored_onStore (opens : onStore configuration set norms store = .ok engine)
    (keyed : Keyed store.batches) : engine.Mirrored where
  available := available_onStore opens
  rows := Std.ExtTreeMap.ext_getElem? fun id => by
    obtain ⟨taken, stored⟩ := rows_onStore keyed opens id
    exact stored.trans taken.symm

end Engine

/-! ## Sessions -/

namespace Session

variable {admits : Configuration → Prop} {before after session : Session} {move : Move}

theorem Durable.step (durable : before.engine.Durable) (steady : before.Steady)
    (keyed : before.engine.HasKeyedRows) (step : Step admits before move after) :
    after.engine.Durable := by
  cases step with
  | refused => exact durable
  | switched available => exact ⟨durable.recorded.of_same rfl rfl, durable.stored⟩
  | created selection =>
      have numbered : ({ before.engine with nextBatch := before.engine.nextBatch + 1 } : Engine).Durable :=
        ⟨durable.recorded, durable.stored⟩
      exact numbered.keep BatchStatus.noConfusion
  | started starts =>
      obtain ⟨waiting, -, -, rfl, rfl⟩ := Engine.start_eq_ok_iff.mp starts
      have counted : ({ before.engine with running := before.engine.running + 1 } : Engine).Durable :=
        ⟨durable.recorded, durable.stored⟩
      exact counted.keep BatchStatus.noConfusion
  | requeued requeues =>
      obtain ⟨ended, -, -, rfl, rfl⟩ := Engine.requeue_eq_ok_iff.mp requeues
      exact durable.keep BatchStatus.noConfusion
  | reloaded asked reloads =>
      obtain ⟨relations, -, -, -, rfl⟩ := Engine.reload_eq_ok_iff.mp reloads
      exact ⟨durable.recorded.of_same rfl rfl, durable.stored⟩
  | persisted persists =>
      obtain ⟨-, -, rfl⟩ := Engine.persist_eq_ok_iff.mp persists
      exact ⟨durable.recorded.of_same rfl rfl, durable.stored⟩
  | restarted admitted opens => exact Engine.durable_onStore opens keyed.store durable.recorded
  | @finished place run delivery ended found ending counted =>
      have member := List.mem_of_getElem? found
      cases ending with
      | @failed cache skipped failure hindered =>
          have used : ({ before.engine with cache } : Engine).Durable := ⟨durable.recorded, durable.stored⟩
          have failed : (run.batch.fail skipped failure).status ≠ .completed := BatchStatus.noConfusion
          have kept := used.keep failed
          exact ⟨kept.recorded, kept.stored⟩
      | completed delivered unstopped counts available sums =>
          have versioned : run.batch.version = some run.relations.version := by
            rw [steady.version run member, steady.relations run member]
            rfl
          refine ⟨durable.recorded.withCommit versioned, fun id batch row status => ?_⟩
          by_cases same : run.batch.id = id
          · subst same
            have own := Std.ExtTreeMap.getElem?_insert_self.symm.trans row
            rw [← own]
            exact Std.ExtTreeMap.getElem?_insert_self
          · rw [Engine.batch?, Engine.completeRun, Table.getElem?_insert_of_ne same] at row
            exact (Table.getElem?_insert_of_ne same _).trans (durable.stored id batch row status)

theorem Reached.durable (reached : Reached admits session) : session.engine.Durable := by
  refine reached.invariant (fun session => session.engine.Durable) ?_
    fun earlier durable step => Durable.step durable earlier.steady earlier.hasKeyedRows step
  intro configuration set norms engine _ opens
  exact Engine.durable_onStore opens .empty Store.recorded_empty

/-- Unless the store is switched off, it has the rows of the engine. -/
theorem Mirrored.step (mirrored : before.engine.Mirrored) (keyed : before.engine.HasKeyedRows)
    (on : move ≠ .setAvailable false) (step : Step admits before move after) : after.engine.Mirrored := by
  cases step with
  | refused => exact mirrored
  | switched available =>
      cases available with
      | false => exact absurd rfl on
      | true => exact ⟨rfl, mirrored.rows⟩
  | created selection =>
      have numbered : ({ before.engine with nextBatch := before.engine.nextBatch + 1 } : Engine).Mirrored :=
        ⟨mirrored.available, mirrored.rows⟩
      exact numbered.keep _
  | started starts =>
      obtain ⟨waiting, -, -, rfl, rfl⟩ := Engine.start_eq_ok_iff.mp starts
      have counted : ({ before.engine with running := before.engine.running + 1 } : Engine).Mirrored :=
        ⟨mirrored.available, mirrored.rows⟩
      exact counted.keep _
  | requeued requeues =>
      obtain ⟨ended, -, -, -, rfl⟩ := Engine.requeue_eq_ok_iff.mp requeues
      exact mirrored.keep _
  | reloaded asked reloads =>
      obtain ⟨relations, -, -, -, rfl⟩ := Engine.reload_eq_ok_iff.mp reloads
      exact ⟨mirrored.available, mirrored.rows⟩
  | persisted persists =>
      obtain ⟨-, -, rfl⟩ := Engine.persist_eq_ok_iff.mp persists
      exact ⟨mirrored.available, mirrored.rows⟩
  | restarted admitted opens => exact Engine.mirrored_onStore opens keyed.store
  | @finished place run delivery ended found ending counted =>
      cases ending with
      | @failed cache skipped failure hindered =>
          have used : ({ before.engine with cache } : Engine).Mirrored :=
            ⟨mirrored.available, mirrored.rows⟩
          have kept := used.keep (run.batch.fail skipped failure)
          exact ⟨kept.available, kept.rows⟩
      | completed delivered unstopped counts available sums =>
          refine ⟨mirrored.available, ?_⟩
          simp only [Engine.completeRun, Engine.commitOf, Store.withCommit, mirrored.rows]
          rfl

/-- A tally stays, though it may be exchanged for another one of its batch. -/
theorem mem_talliesOf_step (step : Step admits before move after) {version : String} {id : BatchId}
    (member : id ∈ before.engine.store.talliesOf version) : id ∈ after.engine.store.talliesOf version := by
  rcases sameCounts_or_commit step with same | ⟨run, fetched, tally, totals, -, committed⟩
  · rwa [Store.talliesOf, same.tallies]
  · rw [committed]
    by_cases same : run.relations.version = version
    · subst same
      exact Store.talliesOf_withCommit_self before.engine.store _ ▸
        Std.ExtTreeMap.mem_insert.mpr (Or.inr member)
    · rwa [Store.talliesOf_withCommit_of_ne _ same]

theorem mem_talliesOf_afterAll {version : String} {id : BatchId} (moves : List Move)
    (member : id ∈ session.engine.store.talliesOf version) :
    id ∈ (session.afterAll moves).engine.store.talliesOf version := by
  induction moves generalizing session with
  | nil => exact member
  | cons move moves induction =>
      exact induction (mem_talliesOf_step (session.step_after (admitted_true move)) member)

section opened

variable {configuration : Configuration} {set : GrammarSet} {norms : Norms} {engine : Engine}

theorem mirrored_afterAll (opens : Engine.onStore configuration set norms .empty = .ok engine)
    {moves : List Move} (on : .setAvailable false ∉ moves) :
    ((⟨engine, []⟩ : Session).afterAll moves).engine.Mirrored := by
  have opened : Reached (fun _ => True) ⟨engine, []⟩ := .opened trivial opens
  refine afterAll_invariant
    (fun moves session => .setAvailable false ∉ moves → session.engine.Mirrored)
    (fun _ => Engine.mirrored_onStore opens .empty)
    (fun {moves before move after} here mirrored step more => ?_) moves on
  rw [List.mem_append, List.mem_singleton, not_or] at more
  have keyed : before.engine.HasKeyedRows := by
    rw [here]
    exact (opened.afterAll fun move _ => admitted_true move).hasKeyedRows
  exact Mirrored.step (mirrored more.1) keyed (Ne.symm more.2) step

/-- After any moves:

* a batch that the engine or its store shows as completed has a version, a tally stands for it under
  this version, and the totals of the version list it;
* a batch that the engine shows as completed has the same row in the store;
* a batch that the totals of a version list stays listed, whatever happens;
* a new batch gets a number that no batch has and under which no tally stands, as long as there are
  numbers for all batches that are made;
* the store has the rows of the engine if it was never switched off. -/
theorem completed_batches_are_committed
    (opens : Engine.onStore configuration set norms .empty = .ok engine) (moves : List Move) :
    let session := (⟨engine, []⟩ : Session).afterAll moves
    let store := session.engine.store
    (∀ id batch, session.engine.HasRow id batch → batch.status = .completed →
        ∃ version, batch.version = some version ∧
          (∃ tally, (store.talliesOf version)[id]? = some tally) ∧
          ∃ totals : Totals, store.totals[version]? = some totals ∧ id ∈ totals.batches) ∧
      (∀ id batch, session.engine.batch? id = some batch → batch.status = .completed →
        store.batches[id]? = some batch) ∧
      (∀ (version : String) (id : BatchId),
        (∃ totals : Totals, store.totals[version]? = some totals ∧ id ∈ totals.batches) →
        ∀ more, ∃ totals : Totals,
          (session.afterAll more).engine.store.totals[version]? = some totals ∧ id ∈ totals.batches) ∧
      (moves.countP Move.makesBatch + 1 < UInt64.size → ∀ selection,
        let new := (session.engine.create selection).1.id
        session.engine.batch? new = none ∧ store.batches[new]? = none ∧
          ∀ version, (store.talliesOf version)[new]? = none) ∧
      (.setAvailable false ∉ moves → store.batches = session.engine.batches) := by
  intro session store
  have opened : Reached (fun _ => True) ⟨engine, []⟩ := .opened trivial opens
  have reached (moves : List Move) : Reached (fun _ => True) ((⟨engine, []⟩ : Session).afterAll moves) :=
    opened.afterAll fun move _ => admitted_true move
  have durable := (reached moves).durable
  have summed (moves : List Move) :
      ((⟨engine, []⟩ : Session).afterAll moves).engine.store.Summed fun _ => True :=
    Reached.summed (reached moves)
  refine ⟨fun id batch row completed => ?_, durable.stored, fun version id listed more => ?_,
    fun room selection => ?_, fun on => (mirrored_afterAll opens on).rows⟩
  · have stored : store.batches[id]? = some batch :=
      row.elim (fun row => durable.stored id batch row completed) fun row => row
    obtain ⟨version, versioned, member⟩ := durable.recorded.completed id batch stored completed
    exact ⟨version, versioned, ⟨_, Std.ExtTreeMap.getElem?_eq_some_getElem member⟩,
      ((summed moves).mem_talliesOf_iff version id).mp member⟩
  · have member := mem_talliesOf_afterAll more (((summed moves).mem_talliesOf_iff version id).mpr listed)
    have later := summed (moves ++ more)
    rw [afterAll_append] at later
    exact (later.mem_talliesOf_iff version id).mp member
  · have governed : session.Governed (moves.countP Move.makesBatch) := governed_afterAll opens room
    have unused : store.batches[session.engine.nextBatch]? = none := by
      cases found : store.batches[session.engine.nextBatch]? with
      | none => rfl
      | some batch => exact absurd (governed.numbered.store _ batch found) (UInt64.lt_irrefl _)
    refine ⟨governed.fresh, unused, fun version => ?_⟩
    cases found : (store.talliesOf version)[session.engine.nextBatch]? with
    | none => exact found
    | some tally =>
        have member : session.engine.nextBatch ∈ store.talliesOf version :=
          Std.ExtTreeMap.mem_iff_isSome_getElem?.mpr (Option.isSome_of_eq_some found)
        have row := Std.ExtTreeMap.getElem?_eq_some_getElem (durable.recorded.rows version _ member)
        exact absurd (row.symm.trans unused) (Option.some_ne_none _)

end opened

/-- A first batch is completed.  It waits again while the store is offline, and so does a second batch,
so that the store misses both; then a new engine takes over what the store has. -/
theorem completed_batches_of_lost_rows :
    ∃ engine, Engine.onStore {} GrammarSet.adjectives ∅ .empty = .ok engine ∧
      let id := engine.nextBatch
      let completing : List Move := [.create .all, .start id, .finish 0 ⟨.ok {}, .never⟩]
      let losing : List Move := [.setAvailable false, .requeue id, .create .all, .setAvailable true,
        .restart {} GrammarSet.adjectives ∅]
      let session := (⟨engine, []⟩ : Session).afterAll (completing ++ losing)
      let new := (session.engine.create .all).1.id
      (∃ totals : Totals, session.engine.store.totals[engine.version]? = some totals ∧ id ∈ totals.batches) ∧
        session.engine.batch? new = none ∧ session.engine.store.batches[new]? = none ∧
        ∀ version, (session.engine.store.talliesOf version)[new]? = none := by
  obtain ⟨engine, opens⟩ := exists_opened 5
  refine ⟨engine, opens, ?_⟩
  intro id completing losing session new
  let running := (⟨engine, []⟩ : Session).afterAll [.create .all, .start id]
  have runs : running.runs = [⟨(Batch.fresh id .all).run engine.version, engine.relations⟩] :=
    runs_create_start ⟨engine, []⟩ .all
  have found : running.runs[0]? = some ⟨(Batch.fresh id .all).run engine.version, engine.relations⟩ := by
    rw [runs]
    rfl
  have on : Move.setAvailable false ∉ [.create .all, .start id] := by simp
  have available : running.engine.store.available = true := (mirrored_afterAll opens on).available
  have ran : (⟨engine, []⟩ : Session).afterAll completing = running.after (.finish 0 ⟨.ok {}, .never⟩) :=
    afterAll_concat _ [.create .all, .start id] _
  have unstopped : StopRequest.never.foundWithin (({} : Fetched).sentences.length + 1) = false := rfl
  obtain ⟨report, row⟩ := completed_of_unhindered found available unstopped
  rw [← ran] at row
  obtain ⟨completed, -, stays, -⟩ := completed_batches_are_committed opens completing
  obtain ⟨version, versioned, -, listed⟩ := completed id _ (Or.inl row) rfl
  obtain rfl : engine.version = version := Option.some.inj versioned
  have persists := stays engine.version id listed losing
  rw [← afterAll_append ⟨engine, []⟩ completing losing] at persists
  obtain ⟨-, -, -, vacant, -⟩ := completed_batches_are_committed opens (completing ++ losing)
  have two : (completing ++ losing).countP Move.makesBatch = 2 := rfl
  have room : (completing ++ losing).countP Move.makesBatch + 1 < UInt64.size := by
    rw [two]
    decide
  subst new session
  exact ⟨persists, vacant room .all⟩

end Session
end Collocation
