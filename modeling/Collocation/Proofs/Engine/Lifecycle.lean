import Collocation.Proofs.Engine.Progress

/-!
# Lifecycles of batches

A batch waits, runs, and ends completed or failed; one that ended can wait again.  Between the start of a
run and its end the relations stay and their cache only grows by analyses, so a batch is completed with the
version that it was started with.
-/

namespace Collocation
namespace Engine

/-! ## Rows -/

/-- A batch stands under a number in the engine or in its store. -/
def HasRow (engine : Engine) (id : BatchId) (batch : Batch) : Prop :=
  engine.batches[id]? = some batch ∨ engine.store.batches[id]? = some batch

theorem hasRow_keep {engine : Engine} {kept batch : Batch} {id : BatchId}
    (row : (engine.keep kept).HasRow id batch) : engine.HasRow id batch ∨ batch = kept := by
  rcases row with row | row
  · rcases Table.of_getElem?_insert_eq_some row with ⟨-, rfl⟩ | ⟨-, earlier⟩
    · exact Or.inr rfl
    · exact Or.inl (Or.inl earlier)
  · rw [keep, Store.putIfAvailable_eq] at row
    split at row
    · rcases Table.of_getElem?_insert_eq_some row with ⟨-, rfl⟩ | ⟨-, earlier⟩
      · exact Or.inr rfl
      · exact Or.inl (Or.inr earlier)
    · exact Or.inl (Or.inr row)

theorem batch?_keep (engine : Engine) (batch : Batch) (id : BatchId) :
    (engine.keep batch).batch? id = if batch.id = id then some batch else engine.batch? id := by
  split
  · next same => exact same ▸ Std.ExtTreeMap.getElem?_insert_self
  · next apart => exact Table.getElem?_insert_of_ne apart batch

/-! ## New engines -/

theorem takeOver_of_idle {batch : Batch} (idle : batch.status ≠ .running) : takeOver batch = batch :=
  if_neg idle

theorem getElem?_foldl_putIfAvailable {rows : Table BatchId Batch} {list : List Batch}
    (listed : ∀ batch ∈ list, rows[batch.id]? = some batch) {store : Store}
    (available : store.available = true) (id : BatchId) :
    (list.foldl (fun store batch => store.putIfAvailable (takeOver batch)) store).batches[id]? =
      if ∃ batch ∈ list, batch.id = id then rows[id]?.map takeOver else store.batches[id]? := by
  induction list generalizing store with
  | nil => simp
  | cons batch list induction =>
      have others := fun other member => listed other (List.mem_cons_of_mem batch member)
      have put : store.putIfAvailable (takeOver batch) =
          { store with batches := store.batches.insert batch.id (takeOver batch) } := by
        rw [Store.putIfAvailable_eq, if_pos available, id_takeOver]
      have answers : (store.putIfAvailable (takeOver batch)).available = true := by
        rw [put]
        exact available
      rw [List.foldl_cons, induction others answers, put]
      by_cases later : ∃ other ∈ list, other.id = id
      · obtain ⟨other, member, same⟩ := later
        rw [if_pos ⟨other, member, same⟩, if_pos ⟨other, List.mem_cons_of_mem batch member, same⟩]
      · rw [if_neg later]
        by_cases same : batch.id = id
        · subst same
          rw [if_pos ⟨batch, List.mem_cons_self, rfl⟩, listed batch List.mem_cons_self]
          exact Std.ExtTreeMap.getElem?_insert_self
        · have none_here : ¬∃ other ∈ batch :: list, other.id = id := by
            rintro ⟨other, member, found⟩
            rcases List.mem_cons.mp member with rfl | inside
            · exact same found
            · exact later ⟨other, inside, found⟩
          rw [if_neg none_here]
          exact Table.getElem?_insert_of_ne same _

/-- A new engine and its store have the batches that the store had; those that ran have failed. -/
theorem rows_onStore {configuration : Configuration} {set : GrammarSet} {norms : Norms} {store : Store}
    {engine : Engine} (keyed : Keyed store.batches)
    (opens : onStore configuration set norms store = .ok engine) (id : BatchId) :
    engine.batch? id = store.batches[id]?.map takeOver ∧
      engine.store.batches[id]? = store.batches[id]?.map takeOver := by
  obtain ⟨relations, -, available, rfl⟩ := onStore_eq_ok_iff.mp opens
  refine ⟨Std.ExtTreeMap.getElem?_map, ?_⟩
  have listed : ∀ batch ∈ interrupted store, store.batches[batch.id]? = some batch := by
    intro batch member
    obtain ⟨other, found⟩ := Table.mem_values_iff.mp (List.mem_filter.mp member).1
    rwa [keyed other batch found]
  dsimp only
  rw [@getElem?_foldl_putIfAvailable _ _ listed (store.withGrammars set) available]
  split
  · rfl
  · next nowhere =>
      change store.batches[id]? = _
      cases found : store.batches[id]? with
      | none => rfl
      | some batch =>
          refine (congrArg some (takeOver_of_idle fun running => nowhere ?_)).symm
          have member := Table.mem_values_iff.mpr ⟨id, found⟩
          exact ⟨batch, List.mem_filter.mpr ⟨member, decide_eq_true running⟩, keyed id batch found⟩

/-! ## Reloading -/

theorem reload_of_running {engine : Engine} {set : GrammarSet} {relations : RelationSet}
    (accepted : relationsOf engine.configuration set = .ok relations) (busy : engine.running ≠ 0) :
    engine.reload set = .error (.stillRunning engine.running) := by
  simp only [reload, accepted, bind, Except.bind, busy, ne_eq, not_false_eq_true, if_true]
  rfl

end Engine

namespace Session

variable {admits : Configuration → Prop} {before after : Session} {move : Move}

/-! ## Turns of a batch -/

/-- How a move can change the row of a batch. -/
inductive Turn (session : Session) (id : BatchId) : Move → Option Batch → Option Batch → Prop where
  /-- The row stays. -/
  | kept {move : Move} {row : Option Batch} : Turn session id move row row
  /-- The batch is new and waits. -/
  | created {selection : Selection} :
      Turn session id (.create selection) none (some (.fresh id selection))
  /-- The batch waits and is run with the grammars that the engine has. -/
  | started {waiting : Batch} (pending : waiting.status = .pending) :
      Turn session id (.start id) (some waiting) (some (waiting.run session.engine.version))
  /-- The batch runs and is completed or fails, and the engine still has the grammars of its run. -/
  | ended {place : Nat} {delivery : Delivery} {run : Run} {ended : Batch}
      (found : session.runs[place]? = some run) (named : run.batch.id = id)
      (running : run.batch.status = .running)
      (relations : run.relations = session.engine.relations)
      (version : run.batch.version = some session.engine.version)
      (same : ended.version = run.batch.version)
      (final : ended.status = .completed ∨ ended.status = .failed) :
      Turn session id (.finish place delivery) (some run.batch) (some ended)
  /-- The batch is completed or has failed, and waits again. -/
  | requeued {ended : Batch} (final : ended.status = .completed ∨ ended.status = .failed) :
      Turn session id (.requeue id) (some ended) (some (.fresh id ended.selection))
  /-- A new engine takes over the row of the store. -/
  | restarted {configuration : Configuration} {set : GrammarSet} {norms : Norms} {row : Option Batch} :
      Turn session id (.restart configuration set norms) row
        (session.engine.store.batches[id]?.map Engine.takeOver)

theorem Governed.turn {made : Nat} (governed : before.Governed made) (steady : before.Steady)
    (keyed : before.engine.HasKeyedRows) (step : Step admits before move after) (id : BatchId) :
    Turn before id move (before.engine.batch? id) (after.engine.batch? id) := by
  cases step with
  | refused | switched => exact .kept
  | created selection =>
      rw [Engine.create, Engine.batch?_keep]
      split
      · next same =>
          obtain rfl : before.engine.nextBatch = id := same
          rw [governed.fresh]
          exact .created
      · exact .kept
  | started starts =>
      obtain ⟨waiting, found, pending, rfl, rfl⟩ := Engine.start_eq_ok_iff.mp starts
      have named := keyed.batches _ waiting found
      rw [Engine.batch?_keep]
      split
      · next same =>
          obtain rfl : waiting.id = id := same
          subst named
          rw [found]
          exact .started pending
      · exact .kept
  | @finished place run delivery ended found ending counted =>
      have member := List.mem_of_getElem? found
      obtain ⟨named, version, final⟩ := ending.final
      rw [ending.keeps]
      by_cases same : run.batch.id = id
      · subst same
        rw [Engine.batch?, Engine.batch?, governed.attended.row run member,
          Std.ExtTreeMap.getElem?_insert_self]
        exact .ended found rfl (governed.attended.running run member) (steady.relations run member)
          (steady.version run member) version final
      · rw [Engine.batch?, Engine.batch?, Table.getElem?_insert_of_ne same]
        exact .kept
  | @requeued waiting fresh later requeues =>
      obtain ⟨ended, found, final, rfl, rfl⟩ := Engine.requeue_eq_ok_iff.mp requeues
      rw [Engine.batch?_keep]
      split
      · next same =>
          obtain rfl : waiting = id := same
          rw [found]
          refine .requeued ?_
          cases status : ended.status <;> simp_all [BatchStatus.isFinal]
      · exact .kept
  | reloaded asked reloads =>
      obtain ⟨relations, -, -, -, rfl⟩ := Engine.reload_eq_ok_iff.mp reloads
      exact .kept
  | persisted persists =>
      obtain ⟨-, -, rfl⟩ := Engine.persist_eq_ok_iff.mp persists
      exact .kept
  | restarted admitted opens =>
      rw [(Engine.rows_onStore keyed.store opens id).1]
      exact .restarted

/-! ## What a run was started with -/

/-- A run was started by the engine of an earlier session.  The relations are still those of then, and so is
the cache, up to analyses that were looked up or kept since. -/
structure StartedAt (origin : Session) (run : Run) (session : Session) : Prop where
  /-- The engine of then started it. -/
  started : ∃ begun, origin.engine.start run.batch.id = .ok (run.batch, begun)
  /-- It has the relations of then. -/
  relations : run.relations = origin.engine.relations
  /-- The engine still has them. -/
  same : session.engine.relations = origin.engine.relations
  /-- The cache of then was used with these relations only. -/
  cache : run.relations.Uses (fun _ => True) origin.engine.cache session.engine.cache

theorem StartedAt.version {origin session : Session} {run : Run} (startedAt : StartedAt origin run session) :
    run.batch.version = some origin.engine.version := by
  obtain ⟨begun, starts⟩ := startedAt.started
  obtain ⟨waiting, -, -, begins, -⟩ := Engine.start_eq_ok_iff.mp starts
  rw [begins]
  rfl

/-- A run in progress was started just now, or it was in progress before, with the same relations and the
same cache. -/
theorem Step.runs (step : Step admits before move after) (steady : before.Steady)
    (keyed : before.engine.HasKeyedRows) {run : Run} (member : run ∈ after.runs) :
    (move = .start run.batch.id ∧ StartedAt before run after) ∨
      (run ∈ before.runs ∧ after.engine.relations = before.engine.relations ∧
        run.relations.Uses (fun _ => True) before.engine.cache after.engine.cache) := by
  cases step with
  | refused | created | switched => exact Or.inr ⟨member, rfl, .unused⟩
  | requeued requeues =>
      obtain ⟨ended, -, -, -, rfl⟩ := Engine.requeue_eq_ok_iff.mp requeues
      exact Or.inr ⟨member, rfl, .unused⟩
  | persisted persists =>
      obtain ⟨-, -, rfl⟩ := Engine.persist_eq_ok_iff.mp persists
      exact Or.inr ⟨member, rfl, .unused⟩
  | restarted => exact absurd member List.not_mem_nil
  | reloaded asked reloads =>
      obtain ⟨relations, -, idle, -, rfl⟩ := Engine.reload_eq_ok_iff.mp reloads
      have nothing := List.eq_nil_of_length_eq_zero (steady.counted.symm.trans idle)
      exact absurd (nothing ▸ member) List.not_mem_nil
  | @started id batch started starts =>
      obtain ⟨waiting, found, pending, rfl, rfl⟩ := Engine.start_eq_ok_iff.mp starts
      rcases List.mem_cons.mp member with rfl | earlier
      · have named : waiting.id = id := keyed.batches id waiting found
        subst named
        exact Or.inl ⟨rfl, ⟨_, starts⟩, rfl, rfl, .unused⟩
      · exact Or.inr ⟨earlier, rfl, .unused⟩
  | @finished place ended delivery outcome found ending counted =>
      have inside := List.mem_of_mem_eraseIdx member
      have uses := before.engine.uses_finish ended.relations ended.batch delivery
      simp only [Engine.finish, counted] at uses
      rw [steady.relations ended (List.mem_of_getElem? found), ← steady.relations run inside] at uses
      refine Or.inr ⟨inside, ?_, uses.mono fun _ _ => trivial⟩
      rw [ending.keeps]

/-- A completed row was there before, or it belongs to a run in progress that ends. -/
theorem Step.completed (step : Step admits before move after) (keyed : before.engine.HasKeyedRows)
    {id : BatchId} {batch : Batch} (row : after.engine.HasRow id batch)
    (completed : batch.status = .completed) :
    before.engine.HasRow id batch ∨
      ∃ run ∈ before.runs, run.batch.id = id ∧ batch.version = run.batch.version := by
  have dropped {engine : Engine} {kept : Batch} (status : kept.status ≠ .completed)
      (row : (engine.keep kept).HasRow id batch) : engine.HasRow id batch := by
    rcases Engine.hasRow_keep row with earlier | rfl
    · exact earlier
    · exact absurd completed status
  cases step with
  | refused | switched => exact Or.inl row
  | created selection => exact Or.inl (dropped BatchStatus.noConfusion row)
  | started starts =>
      obtain ⟨waiting, -, -, rfl, rfl⟩ := Engine.start_eq_ok_iff.mp starts
      exact Or.inl (dropped BatchStatus.noConfusion row)
  | requeued requeues =>
      obtain ⟨ended, -, -, rfl, rfl⟩ := Engine.requeue_eq_ok_iff.mp requeues
      exact Or.inl (dropped BatchStatus.noConfusion row)
  | reloaded asked reloads =>
      obtain ⟨relations, -, -, -, rfl⟩ := Engine.reload_eq_ok_iff.mp reloads
      exact Or.inl row
  | persisted persists =>
      obtain ⟨-, -, rfl⟩ := Engine.persist_eq_ok_iff.mp persists
      exact Or.inl row
  | restarted admitted opens =>
      obtain ⟨taken, stored⟩ := Engine.rows_onStore keyed.store opens id
      have row : before.engine.store.batches[id]?.map Engine.takeOver = some batch := by
        rcases row with row | row
        · exact taken.symm.trans row
        · exact stored.symm.trans row
      obtain ⟨earlier, found, rfl⟩ := Option.map_eq_some_iff.mp row
      by_cases running : earlier.status = .running
      · rw [Engine.takeOver, if_pos running] at completed
        exact absurd completed BatchStatus.noConfusion
      · exact Or.inl (Or.inr ((Engine.takeOver_of_idle running).symm ▸ found))
  | @finished place run delivery ended found ending counted =>
      have member := List.mem_of_getElem? found
      cases ending with
      | @failed cache skipped failure hindered =>
          have failed : (run.batch.fail skipped failure).status ≠ .completed := BatchStatus.noConfusion
          exact Or.inl (@dropped { before.engine with cache } _ failed row)
      | completed delivered unstopped counts available sums =>
          rcases row with row | row
          · rcases Table.of_getElem?_insert_eq_some row with ⟨same, rfl⟩ | ⟨-, earlier⟩
            · exact Or.inr ⟨run, member, same, rfl⟩
            · exact Or.inl (Or.inl earlier)
          · rcases Table.of_getElem?_insert_eq_some row with ⟨same, rfl⟩ | ⟨-, earlier⟩
            · exact Or.inr ⟨run, member, same, rfl⟩
            · exact Or.inl (Or.inr earlier)

/-! ## Sessions from an empty store on -/

section opened

variable {configuration : Configuration} {set : GrammarSet} {norms : Norms} {engine : Engine}
  {moves : List Move}

theorem startedAt_of_mem_runs (opens : Engine.onStore configuration set norms .empty = .ok engine) :
    let opened : Session := ⟨engine, []⟩
    ∀ run ∈ (opened.afterAll moves).runs, ∃ earlier later,
      moves = earlier ++ .start run.batch.id :: later ∧
        StartedAt (opened.afterAll earlier) run (opened.afterAll moves) := by
  intro opened
  have reached {moves : List Move} : Reached (fun _ => True) (opened.afterAll moves) :=
    (Reached.opened trivial opens).afterAll fun move _ => admitted_true move
  refine afterAll_invariant
    (fun moves session => ∀ run ∈ session.runs, ∃ earlier later,
      moves = earlier ++ .start run.batch.id :: later ∧
        StartedAt (opened.afterAll earlier) run session)
    ?_ ?_ moves
  · intro run member
    exact absurd member List.not_mem_nil
  intro moves before move after here holds step run member
  have steady : before.Steady := here ▸ reached.steady
  have keyed : before.engine.HasKeyedRows := here ▸ reached.hasKeyedRows
  rcases step.runs steady keyed member with ⟨rfl, startedAt⟩ | ⟨inside, same, uses⟩
  · exact ⟨moves, [], rfl, here ▸ startedAt⟩
  · obtain ⟨earlier, later, rfl, startedAt⟩ := holds run inside
    refine ⟨earlier, later ++ [move], by rw [List.append_assoc, List.cons_append], ?_⟩
    exact ⟨startedAt.started, startedAt.relations, same.trans startedAt.same,
      startedAt.cache.trans uses⟩

/-- Every completed batch has the version that the engine had when one of the moves started it. -/
theorem version_of_completed (opens : Engine.onStore configuration set norms .empty = .ok engine) :
    let opened : Session := ⟨engine, []⟩
    ∀ id batch, (opened.afterAll moves).engine.HasRow id batch → batch.status = .completed →
      ∃ earlier later, moves = earlier ++ .start id :: later ∧
        batch.version = some (opened.afterAll earlier).engine.version := by
  intro opened
  have reached {moves : List Move} : Reached (fun _ => True) (opened.afterAll moves) :=
    (Reached.opened trivial opens).afterAll fun move _ => admitted_true move
  refine afterAll_invariant
    (fun moves session => ∀ id batch, session.engine.HasRow id batch → batch.status = .completed →
      ∃ earlier later, moves = earlier ++ .start id :: later ∧
        batch.version = some (opened.afterAll earlier).engine.version)
    ?_ ?_ moves
  · intro id batch row
    obtain ⟨taken, stored⟩ := Engine.rows_onStore .empty opens id
    have nothing : Store.empty.batches[id]? = none := by simp [Store.empty]
    rw [nothing] at taken stored
    rcases row with row | row
    · exact absurd (taken.symm.trans row) (Option.some_ne_none batch).symm
    · exact absurd (stored.symm.trans row) (Option.some_ne_none batch).symm
  · intro moves before move after here holds step id batch row completed
    have keyed : before.engine.HasKeyedRows := here ▸ reached.hasKeyedRows
    rcases step.completed keyed row completed with row | ⟨run, member, rfl, version⟩
    · obtain ⟨earlier, later, rfl, version⟩ := holds id batch row completed
      exact ⟨earlier, later ++ [move], by rw [List.append_assoc, List.cons_append], version⟩
    · rw [here] at member
      obtain ⟨earlier, later, rfl, startedAt⟩ := startedAt_of_mem_runs opens run member
      exact ⟨earlier, later ++ [move], by rw [List.append_assoc, List.cons_append],
        version.trans startedAt.version⟩

/-- After any moves, as long as there are numbers for the batches that are made:

* a batch is running exactly while there is a run of it, and there is one run of it only;
* the engine counts the runs, and operations, with others nested in them, leave the count as it is;
* a move changes the row of a batch in one of the ways of `Turn`;
* grammars that are accepted are refused with the count of the runs while there are any, and otherwise
  exchanged if the store answers;
* a run still has the relations and the cache that the engine had when the run was started;
* a completed batch has the version that the engine had when the batch was started;
* a new engine has no batch running: it and its store have the batches that the store had, those that ran
  having failed because they were interrupted. -/
theorem batches_run_while_their_runs_last
    (opens : Engine.onStore configuration set norms .empty = .ok engine)
    (room : moves.countP Move.makesBatch + 1 < UInt64.size) :
    let opened : Session := ⟨engine, []⟩
    let session := opened.afterAll moves
    (∀ id, (∃ batch, session.engine.batch? id = some batch ∧ batch.status = .running) ↔
        ∃ run ∈ session.runs, run.batch.id = id) ∧
      (session.runs.Pairwise fun left right => left.batch.id ≠ right.batch.id) ∧
      session.engine.running = session.runs.length ∧
      (∀ operations, (Engine.performAll operations session.engine).running = session.runs.length) ∧
      (∀ move id,
        Turn session id move (session.engine.batch? id) ((session.after move).engine.batch? id)) ∧
      (∀ set relations, Engine.relationsOf session.engine.configuration set = .ok relations →
        (session.runs ≠ [] →
          session.engine.reload set = .error (.stillRunning session.runs.length)) ∧
        (session.runs = [] → session.engine.store.available = true →
          ∃ later, session.engine.reload set = .ok later ∧ later.relations = relations)) ∧
      (∀ run ∈ session.runs, ∃ earlier later, moves = earlier ++ .start run.batch.id :: later ∧
        StartedAt (opened.afterAll earlier) run session) ∧
      (∀ id batch, session.engine.batch? id = some batch → batch.status = .completed →
        ∃ earlier later, moves = earlier ++ .start id :: later ∧
          batch.version = some (opened.afterAll earlier).engine.version) ∧
      ∀ configuration set norms restarted,
        Engine.onStore configuration set norms session.engine.store = .ok restarted →
          restarted.running = 0 ∧
          (∀ id batch, restarted.batch? id = some batch → batch.status ≠ .running) ∧
          Failure.interrupted.message = "interrupted" ∧
          ∀ id, let row := session.engine.store.batches[id]?.map fun batch =>
              if batch.status = .running then batch.fail [] .interrupted else batch
            restarted.batch? id = row ∧ restarted.store.batches[id]? = row := by
  intro opened session
  have reached : Reached (fun _ => True) session :=
    (Reached.opened trivial opens).afterAll fun move _ => admitted_true move
  have governed : session.Governed (moves.countP Move.makesBatch) := governed_afterAll opens room
  have attended := governed.attended
  have steady := reached.steady
  refine ⟨fun id => ⟨?_, ?_⟩, attended.apart, steady.counted, fun operations => ?_, fun move id => ?_,
    fun set relations accepted => ⟨fun busy => ?_, fun idle available => ?_⟩,
    startedAt_of_mem_runs opens,
    fun id batch found completed => version_of_completed opens id batch (Or.inl found) completed, ?_⟩
  · rintro ⟨batch, found, running⟩
    exact attended.run id batch found running
  · rintro ⟨run, member, rfl⟩
    exact ⟨run.batch, attended.row run member, attended.running run member⟩
  · obtain ⟨others, calm, same⟩ := exists_moves_performAll operations session
    have later := reached.afterAll fun move member => calm move member fun _ => True
    rw [same] at later
    exact later.steady.counted
  · have step : Step (fun _ => True) session move (session.after move) :=
      step_after session (admitted_true move)
    exact governed.turn steady reached.hasKeyedRows step id
  · rw [← steady.counted]
    refine Engine.reload_of_running accepted fun idle => busy ?_
    exact List.eq_nil_of_length_eq_zero (steady.counted.symm.trans idle)
  · have idle : session.engine.running = 0 := by rw [steady.counted, idle, List.length_nil]
    exact ⟨_, Engine.reload_eq_ok_iff.mpr ⟨relations, accepted, idle, available, rfl⟩, rfl⟩
  · intro configuration set norms restarted opens
    have rows := Engine.rows_onStore reached.hasKeyedRows.store opens
    refine ⟨?_, fun id batch found => ?_, rfl, rows⟩
    · obtain ⟨relations, -, -, rfl⟩ := Engine.onStore_eq_ok_iff.mp opens
      rfl
    · obtain ⟨stored, -, rfl⟩ := Option.map_eq_some_iff.mp ((rows id).1.symm.trans found)
      exact Engine.status_takeOver_ne_running stored

end opened

/-- A first batch is started: it runs, and grammars that are accepted are refused. -/
theorem batches_run_of_first_run :
    ∃ engine, Engine.onStore {} GrammarSet.adjectives ∅ .empty = .ok engine ∧
      let session := (⟨engine, []⟩ : Session).afterAll [.create .all, .start engine.nextBatch]
      (∃ batch, session.engine.batch? engine.nextBatch = some batch ∧ batch.status = .running) ∧
        session.engine.running = 1 ∧
        session.engine.reload GrammarSet.adjectives = .error (.stillRunning 1) := by
  obtain ⟨engine, opens⟩ := exists_opened 5
  obtain ⟨relations, accepted, -, -⟩ := Engine.onStore_eq_ok_iff.mp opens
  refine ⟨engine, opens, ?_⟩
  intro session
  have runs : session.runs = [⟨(Batch.fresh engine.nextBatch .all).run engine.version,
      engine.relations⟩] := runs_create_start ⟨engine, []⟩ .all
  have opened : Reached (fun configuration => configuration = {}) ⟨engine, []⟩ := .opened rfl opens
  have reached : Reached (fun configuration => configuration = {}) session :=
    opened.afterAll (by simp [Move.Admitted])
  have room : List.countP Move.makesBatch [.create .all, .start engine.nextBatch] + 1 < UInt64.size := by
    simp [List.countP_cons, Move.makesBatch, UInt64.size]
  obtain ⟨running, -, counted, -, -, reloads, -⟩ := batches_run_while_their_runs_last opens room
  have one : session.runs.length = 1 := by rw [runs, List.length_singleton]
  refine ⟨(running engine.nextBatch).mpr ⟨_, runs ▸ List.mem_cons_self, rfl⟩, counted.trans one, ?_⟩
  rw [← one]
  refine (reloads GrammarSet.adjectives relations ?_).1 (runs ▸ List.cons_ne_nil _ _)
  rw [reached.admitted]
  exact accepted

end Session
end Collocation
