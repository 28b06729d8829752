import Collocation.Engine.History
import Collocation.Proofs.Engine.Operations
import Collocation.Proofs.Grammar.Relations

/-!
# Sessions

A session is an engine with its runs in progress.  A run starts with one move and ends with another, so
between the two every other move is possible, further runs included, and every state that an operation can
be observed in is the state of a session.  The runs in progress may end in any order.  Histories, in which
operations are nested in the runs that they happen during, lead to sessions without runs in progress.
-/

namespace Collocation

/-- A run whose source is being asked. -/
structure Run where
  /-- The batch as it was started. -/
  batch : Batch
  /-- The relations that it was started with. -/
  relations : RelationSet

/-- An engine with its runs in progress. -/
structure Session where
  /-- The engine. -/
  engine : Engine
  /-- The runs in progress, the one started last in front. -/
  runs : List Run

/-- What may happen next. -/
inductive Move where
  /-- Make a batch. -/
  | create (selection : Selection)
  /-- Start a run. -/
  | start (id : BatchId)
  /-- End the run in progress at a place, with what its source gave. -/
  | finish (place : Nat) (delivery : Delivery)
  /-- Let a batch wait again. -/
  | requeue (id : BatchId)
  /-- Exchange the grammars. -/
  | reload (set : GrammarSet)
  /-- Go back to stored grammars. -/
  | activate (version : String)
  /-- Save the analyses that are at hand. -/
  | persist
  /-- Switch the store off or on. -/
  | setAvailable (available : Bool)
  /-- The engine and its runs go away and a new one is opened on the store. -/
  | restart (configuration : Configuration) (set : GrammarSet) (norms : Norms)

/-- Every configuration that a move brings in is admitted. -/
def Move.Admitted (admits : Configuration → Prop) : Move → Prop
  | .restart configuration _ _ => admits configuration
  | _ => True

namespace Session

/-- The session after a move; a move that is refused leads nowhere. -/
def after (session : Session) : Move → Session
  | .create selection => { session with engine := (session.engine.create selection).2 }
  | .start id =>
      match session.engine.start id with
      | .error _ => session
      | .ok (batch, started) => ⟨started, ⟨batch, session.engine.relations⟩ :: session.runs⟩
  | .finish place delivery =>
      match session.runs[place]? with
      | none => session
      | some run =>
          ⟨(session.engine.finish run.relations run.batch delivery).2, session.runs.eraseIdx place⟩
  | .requeue id =>
      { session with
        engine := session.engine.orSame ((session.engine.requeue id).map Prod.snd) }
  | .reload set => { session with engine := session.engine.orSame (session.engine.reload set) }
  | .activate version =>
      { session with engine := session.engine.orSame (session.engine.activate version) }
  | .persist =>
      { session with engine := session.engine.orSame (session.engine.persist.map Prod.snd) }
  | .setAvailable available =>
      { session with
        engine := { session.engine with store := session.engine.store.setAvailable available } }
  | .restart configuration set norms =>
      match Engine.onStore configuration set norms session.engine.store with
      | .error _ => session
      | .ok engine => ⟨engine, []⟩

/-- The session after moves one after another. -/
def afterAll (session : Session) (moves : List Move) : Session :=
  moves.foldl after session

@[simp]
theorem afterAll_nil (session : Session) : session.afterAll [] = session :=
  rfl

theorem afterAll_cons (session : Session) (move : Move) (moves : List Move) :
    session.afterAll (move :: moves) = (session.after move).afterAll moves :=
  rfl

theorem afterAll_append (session : Session) (first second : List Move) :
    session.afterAll (first ++ second) = (session.afterAll first).afterAll second :=
  List.foldl_append

/-- A session that moves lead to from an engine on an empty store, all configurations being admitted. -/
inductive Reached (admits : Configuration → Prop) : Session → Prop where
  /-- An engine opened on an empty store. -/
  | opened {configuration : Configuration} {set : GrammarSet} {norms : Norms} {engine : Engine}
      (admitted : admits configuration)
      (opens : Engine.onStore configuration set norms .empty = .ok engine) :
      Reached admits ⟨engine, []⟩
  /-- A session after one more move. -/
  | after {session : Session} (reached : Reached admits session) (move : Move)
      (admitted : move.Admitted admits) : Reached admits (session.after move)

theorem exists_opened (sampleLimit : Nat) :
    ∃ engine, Engine.onStore { sampleLimit } GrammarSet.adjectives ∅ .empty = .ok engine := by
  obtain ⟨relations, accepted⟩ := GrammarSet.exists_relations_adjectives
  have checked : Engine.relationsOf { sampleLimit } GrammarSet.adjectives = .ok relations := by
    rw [Engine.relationsOf, accepted]
    rfl
  exact ⟨_, Engine.onStore_eq_ok_iff.mpr ⟨relations, checked, rfl, rfl⟩⟩

theorem Reached.afterAll {admits : Configuration → Prop} {session : Session}
    (reached : Reached admits session) {moves : List Move}
    (admitted : ∀ move ∈ moves, move.Admitted admits) : Reached admits (session.afterAll moves) := by
  induction moves generalizing session with
  | nil => exact reached
  | cons move moves ih =>
      rw [afterAll_cons]
      exact ih (reached.after move (admitted move List.mem_cons_self))
        fun other member => admitted other (List.mem_cons_of_mem move member)

/-! ## Steps -/

/-- What a move makes of a session. -/
inductive Step (admits : Configuration → Prop) (session : Session) : Move → Session → Prop where
  | refused {move : Move} : Step admits session move session
  | created (selection : Selection) :
      Step admits session (.create selection)
        { session with engine := (session.engine.create selection).2 }
  | started {id : BatchId} {batch : Batch} {started : Engine}
      (starts : session.engine.start id = .ok (batch, started)) :
      Step admits session (.start id) ⟨started, ⟨batch, session.engine.relations⟩ :: session.runs⟩
  | finished {place : Nat} {run : Run} {delivery : Delivery} {ended : Batch × Engine}
      (found : session.runs[place]? = some run)
      (ending : Engine.Ending session.engine run.relations run.batch delivery ended)
      (counted : session.engine.countRun run.relations run.batch delivery = ended) :
      Step admits session (.finish place delivery)
        ⟨{ ended.2 with running := ended.2.running - 1 }, session.runs.eraseIdx place⟩
  | requeued {id : BatchId} {fresh : Batch} {later : Engine}
      (requeues : session.engine.requeue id = .ok (fresh, later)) :
      Step admits session (.requeue id) ⟨later, session.runs⟩
  | reloaded {move : Move} {set : GrammarSet} {later : Engine}
      (asked : move = .reload set ∨ ∃ version, move = .activate version ∧
        session.engine.store.grammars[version]? = some set)
      (reloads : session.engine.reload set = .ok later) :
      Step admits session move ⟨later, session.runs⟩
  | persisted {count : Nat} {later : Engine} (persists : session.engine.persist = .ok (count, later)) :
      Step admits session .persist ⟨later, session.runs⟩
  | switched (available : Bool) :
      Step admits session (.setAvailable available)
        { session with
          engine := { session.engine with store := session.engine.store.setAvailable available } }
  | restarted {configuration : Configuration} {set : GrammarSet} {norms : Norms} {engine : Engine}
      (admitted : admits configuration)
      (opens : Engine.onStore configuration set norms session.engine.store = .ok engine) :
      Step admits session (.restart configuration set norms) ⟨engine, []⟩

theorem step_after {admits : Configuration → Prop} (session : Session) {move : Move}
    (admitted : move.Admitted admits) : Step admits session move (session.after move) := by
  cases move with
  | create selection => exact .created selection
  | setAvailable available => exact .switched available
  | start id =>
      simp only [after]
      cases starts : session.engine.start id with
      | error cause => exact .refused
      | ok begun => exact .started starts
  | finish place delivery =>
      simp only [after]
      cases found : session.runs[place]? with
      | none => exact .refused
      | some run => exact .finished found (session.engine.ending_countRun _ _ delivery) rfl
  | requeue id =>
      simp only [after]
      cases requeues : session.engine.requeue id with
      | error cause => exact .refused
      | ok waiting => exact .requeued requeues
  | reload set =>
      simp only [after]
      cases reloads : session.engine.reload set with
      | error cause => exact .refused
      | ok later => exact .reloaded (Or.inl rfl) reloads
  | activate version =>
      simp only [after]
      cases activates : session.engine.activate version with
      | error cause => exact .refused
      | ok later =>
          obtain ⟨-, set, stored, reloads⟩ := Engine.activate_eq_ok_iff.mp activates
          exact .reloaded (Or.inr ⟨version, rfl, stored⟩) reloads
  | persist =>
      simp only [after]
      cases persists : session.engine.persist with
      | error cause => exact .refused
      | ok saved => exact .persisted persists
  | restart configuration set norms =>
      simp only [after]
      cases opens : Engine.onStore configuration set norms session.engine.store with
      | error cause => exact .refused
      | ok engine => exact .restarted admitted opens

/-- What holds of every engine on an empty store and is kept by every step holds of every session. -/
theorem Reached.invariant {admits : Configuration → Prop} (property : Session → Prop)
    (opened : ∀ {configuration set norms engine}, admits configuration →
      Engine.onStore configuration set norms .empty = .ok engine → property ⟨engine, []⟩)
    (kept : ∀ {before move after}, Reached admits before → property before →
      Step admits before move after → property after)
    {session : Session} (reached : Reached admits session) : property session := by
  induction reached with
  | opened admitted opens => exact opened admitted opens
  | after reached move admitted holds => exact kept reached holds (step_after _ admitted)

theorem Reached.admitted {admits : Configuration → Prop} {session : Session}
    (reached : Reached admits session) : admits session.engine.configuration := by
  refine reached.invariant (fun session => admits session.engine.configuration) ?_ ?_
  · intro configuration set norms engine admitted opens
    obtain ⟨relations, -, -, rfl⟩ := Engine.onStore_eq_ok_iff.mp opens
    exact admitted
  · intro before move after _ holds step
    cases step with
    | refused | created | switched => exact holds
    | started starts =>
        obtain ⟨waiting, -, -, -, rfl⟩ := Engine.start_eq_ok_iff.mp starts
        exact holds
    | requeued requeues =>
        obtain ⟨ended, -, -, -, rfl⟩ := Engine.requeue_eq_ok_iff.mp requeues
        exact holds
    | reloaded asked reloads =>
        obtain ⟨relations, -, -, -, rfl⟩ := Engine.reload_eq_ok_iff.mp reloads
        exact holds
    | persisted persists =>
        obtain ⟨-, -, rfl⟩ := Engine.persist_eq_ok_iff.mp persists
        exact holds
    | restarted admitted opens =>
        obtain ⟨relations, -, -, rfl⟩ := Engine.onStore_eq_ok_iff.mp opens
        exact admitted
    | finished found ending =>
        cases ending with
        | failed => exact holds
        | completed => exact holds

/-! ## Runs -/

/-- A batch that was just made can be run. -/
theorem after_create_start (session : Session) (selection : Selection) :
    let made := (session.engine.create selection).2
    let begun := (Batch.fresh session.engine.nextBatch selection).run session.engine.version
    (session.after (.create selection)).after (.start session.engine.nextBatch) =
      ⟨{ made with running := made.running + 1 }.keep begun,
        ⟨begun, session.engine.relations⟩ :: session.runs⟩ := by
  have found : (session.engine.create selection).2.batch? session.engine.nextBatch =
      some (.fresh session.engine.nextBatch selection) := Std.ExtTreeMap.getElem?_insert_self
  have starts := Engine.start_eq_ok_iff.mpr ⟨_, found, rfl, rfl, rfl⟩
  simp only [after, starts]
  rfl

theorem runs_create_start (session : Session) (selection : Selection) :
    ((session.after (.create selection)).after (.start session.engine.nextBatch)).runs =
      ⟨(Batch.fresh session.engine.nextBatch selection).run session.engine.version,
        session.engine.relations⟩ :: session.runs :=
  congrArg Session.runs (session.after_create_start selection)

/-- A run that nothing hinders ends with its commit. -/
theorem after_finish_of_unhindered {session : Session} {place : Nat} {run : Run}
    (found : session.runs[place]? = some run) (available : session.engine.store.available = true)
    {fetched : Fetched} {stop : StopRequest}
    (unstopped : stop.foundWithin (fetched.sentences.length + 1) = false) :
    ∃ counted cache totals,
      run.relations.countSharded session.engine.configuration.sampleLimit
        session.engine.configuration.shardSize session.engine.cache fetched.sentences = (counted, cache) ∧
      Engine.Sums session.engine run.relations.version run.batch.id
        (counted.addRejected fetched.rejected) totals ∧
      let commit := session.engine.commitOf run.batch run.relations.version
        (counted.addRejected fetched.rejected) totals
      session.after (.finish place ⟨.ok fetched, stop⟩) =
        ⟨{ session.engine with
            cache
            running := session.engine.running - 1
            store := session.engine.store.withCommit commit
            batches := session.engine.batches.insert run.batch.id commit.batch },
          session.runs.eraseIdx place⟩ := by
  obtain ⟨counted, cache, totals, counts, sums, ends⟩ :=
    Engine.countRun_of_unhindered available unstopped run.relations run.batch
  refine ⟨counted, cache, totals, counts, sums, ?_⟩
  simp only [after, found, Engine.finish, ends]
  rfl

/-- Its batch is then completed. -/
theorem completed_of_unhindered {session : Session} {place : Nat} {run : Run}
    (found : session.runs[place]? = some run) (available : session.engine.store.available = true)
    {fetched : Fetched} {stop : StopRequest}
    (unstopped : stop.foundWithin (fetched.sentences.length + 1) = false) :
    ∃ report, (session.after (.finish place ⟨.ok fetched, stop⟩)).engine.batch? run.batch.id =
      some (run.batch.complete report) := by
  obtain ⟨counted, cache, totals, -, -, ended⟩ := after_finish_of_unhindered found available unstopped
  rw [ended]
  exact ⟨_, Std.ExtTreeMap.getElem?_insert_self⟩

/-- A run that is started, and ended right after some moves, is the run with these moves in its source. -/
theorem afterAll_start_finish {session : Session} {id : BatchId} {batch : Batch} {started : Engine}
    (starts : session.engine.start id = .ok (batch, started)) {moves : List Move} {later : Engine}
    (meanwhile :
      (⟨started, ⟨batch, session.engine.relations⟩ :: session.runs⟩ : Session).afterAll moves =
        ⟨later, ⟨batch, session.engine.relations⟩ :: session.runs⟩) (delivery : Delivery) :
    session.afterAll (.start id :: moves ++ [.finish 0 delivery]) =
      ⟨(Id.run (session.engine.run id fun _ _ => pure (delivery, later))).2, session.runs⟩ := by
  have begun : session.after (.start id) =
      ⟨started, ⟨batch, session.engine.relations⟩ :: session.runs⟩ := by
    simp only [after, starts]
  rw [List.cons_append, afterAll_cons, begun, afterAll_append, meanwhile]
  simp only [afterAll, List.foldl_cons, List.foldl_nil, after, List.getElem?_cons_zero,
    List.eraseIdx_cons_zero, Engine.run, starts]
  rfl

/-! ## Histories -/

/-- No configuration comes in with the moves that an operation is made of. -/
def Calm (moves : List Move) : Prop :=
  ∀ move ∈ moves, ∀ admits, move.Admitted admits

theorem Calm.append {first second : List Move} (left : Calm first) (right : Calm second) :
    Calm (first ++ second) := fun move member =>
  (List.mem_append.mp member).elim (left move) (right move)

theorem calm_singleton (move : Move) (admitted : ∀ admits, move.Admitted admits) : Calm [move] :=
  fun _ member => List.mem_singleton.mp member ▸ admitted

mutual

/-- An operation is made of moves and leaves the runs in progress as they are. -/
theorem exists_moves_perform (operation : Operation) (session : Session) :
    ∃ moves, Calm moves ∧
      session.afterAll moves = ⟨Engine.perform operation session.engine, session.runs⟩ := by
  cases operation with
  | create selection => exact ⟨[.create selection], calm_singleton _ fun _ => trivial, rfl⟩
  | requeue id => exact ⟨[.requeue id], calm_singleton _ fun _ => trivial, rfl⟩
  | reload set => exact ⟨[.reload set], calm_singleton _ fun _ => trivial, rfl⟩
  | activate version => exact ⟨[.activate version], calm_singleton _ fun _ => trivial, rfl⟩
  | persist => exact ⟨[.persist], calm_singleton _ fun _ => trivial, rfl⟩
  | setAvailable available => exact ⟨[.setAvailable available], calm_singleton _ fun _ => trivial, rfl⟩
  | run id source stop during =>
      cases starts : session.engine.start id with
      | error cause =>
          refine ⟨[], fun _ member => absurd member List.not_mem_nil, ?_⟩
          simp [Engine.perform, Engine.run, starts]
      | ok begun =>
          obtain ⟨batch, started⟩ := begun
          obtain ⟨moves, calm, meanwhile⟩ := exists_moves_performAll during
            ⟨started, ⟨batch, session.engine.relations⟩ :: session.runs⟩
          let delivery := (Engine.performAll during started).deliveryFrom source batch stop
          refine ⟨.start id :: moves ++ [.finish 0 delivery], ?_, ?_⟩
          · exact ((calm_singleton (.start id) fun _ => trivial).append calm).append
              (calm_singleton _ fun _ => trivial)
          · rw [afterAll_start_finish starts meanwhile]
            simp [Engine.perform, Engine.run, starts, delivery]

/-- Operations one after another are made of moves. -/
theorem exists_moves_performAll (operations : List Operation) (session : Session) :
    ∃ moves, Calm moves ∧
      session.afterAll moves = ⟨Engine.performAll operations session.engine, session.runs⟩ := by
  cases operations with
  | nil => exact ⟨[], fun _ member => absurd member List.not_mem_nil, rfl⟩
  | cons operation operations =>
      obtain ⟨first, firstCalm, firstAfter⟩ := exists_moves_perform operation session
      obtain ⟨second, secondCalm, secondAfter⟩ := exists_moves_performAll operations
        ⟨Engine.perform operation session.engine, session.runs⟩
      exact ⟨first ++ second, firstCalm.append secondCalm, by
        rw [afterAll_append, firstAfter, secondAfter]; rfl⟩

end

theorem Reached.afterHistory {admits : Configuration → Prop} {engine : Engine}
    (reached : Reached admits ⟨engine, []⟩) {history : List Event}
    (admitted : ∀ configuration set norms, .restart configuration set norms ∈ history →
      admits configuration) : Reached admits ⟨engine.afterAll history, []⟩ := by
  induction history generalizing engine with
  | nil => exact reached
  | cons event history ih =>
      refine ih ?_ fun configuration set norms member =>
        admitted configuration set norms (List.mem_cons_of_mem event member)
      cases event with
      | operation operation =>
          obtain ⟨moves, calm, same⟩ := exists_moves_perform operation ⟨engine, []⟩
          have next := reached.afterAll fun move member => calm move member admits
          rwa [same] at next
      | restart configuration set norms =>
          have next := reached.after (.restart configuration set norms)
            (admitted configuration set norms List.mem_cons_self)
          simp only [Session.after] at next
          simp only [Engine.after, Engine.orSame]
          split at next <;> simp_all

/-- Every engine that can be reached is that of a session without runs in progress. -/
theorem reached_of_reachable {engine : Engine} (reachable : engine.Reachable) :
    Reached (fun _ => True) ⟨engine, []⟩ := by
  induction reachable with
  | opened opens => exact .opened trivial opens
  | @after engine _ event ih =>
      exact Reached.afterHistory ih (fun _ _ _ (_ : _ ∈ [event]) => trivial)

end Session
end Collocation
