import Mathlib.Data.List.Induction
import Mathlib.Data.List.Perm.Basic
import Collocation.Proofs.Engine.Analyses
import Collocation.Proofs.Engine.Rows

/-!
# Runs in progress

A batch is running exactly while a run of it is in progress.  The engine counts the runs in progress, and
as long as there is one, it keeps the relations that the run was started with and the cache that it had
then.  A new engine finds no batch running: the runs of the old one have failed.
-/

namespace Collocation
namespace Engine

variable {engine : Engine} {relations : RelationSet} {batch : Batch} {delivery : Delivery}
  {ended : Batch × Engine}

/-- The end of a run changes the cache, the row of its batch and the store. -/
theorem Ending.keeps (ending : Ending engine relations batch delivery ended) :
    ended.2 = { engine with
      cache := ended.2.cache
      batches := engine.batches.insert batch.id ended.1
      store := ended.2.store } := by
  cases ending <;> rfl

theorem status_takeOver_ne_running (batch : Batch) : (takeOver batch).status ≠ .running := by
  rw [takeOver]
  split
  · exact BatchStatus.noConfusion
  · next idle => exact idle

theorem Ending.final (ending : Ending engine relations batch delivery ended) :
    ended.1.id = batch.id ∧ ended.1.version = batch.version ∧
      (ended.1.status = .completed ∨ ended.1.status = .failed) := by
  cases ending with
  | failed => exact ⟨rfl, rfl, Or.inr rfl⟩
  | completed => exact ⟨rfl, rfl, Or.inl rfl⟩

end Engine

namespace Session

variable {admits : Configuration → Prop} {before after : Session} {move : Move}

theorem afterAll_concat (session : Session) (moves : List Move) (move : Move) :
    session.afterAll (moves ++ [move]) = (session.afterAll moves).after move := by
  rw [afterAll_append, afterAll_cons, afterAll_nil]

theorem admitted_true (move : Move) : move.Admitted fun _ => True := by
  cases move <;> trivial

/-- What holds of a session without moves and is kept by one more move holds after all moves. -/
theorem afterAll_invariant {session : Session} (property : List Move → Session → Prop)
    (holds : property [] session)
    (kept : ∀ {moves before move after}, before = session.afterAll moves → property moves before →
      Step (fun _ => True) before move after → property (moves ++ [move]) after)
    (moves : List Move) : property moves (session.afterAll moves) := by
  induction moves using List.reverseRecOn with
  | nil => exact holds
  | append_singleton moves move earlier =>
      rw [afterAll_concat]
      exact kept rfl earlier (step_after _ (admitted_true move))

/-! ## The count of the runs -/

/-- The engine counts its runs in progress, and has the relations that they were started with. -/
structure Steady (session : Session) : Prop where
  counted : session.engine.running = session.runs.length
  relations : ∀ run ∈ session.runs, run.relations = session.engine.relations
  version : ∀ run ∈ session.runs, run.batch.version = some session.engine.version

theorem steady_of_runs_eq_nil {session : Session} (nothing : session.runs = [])
    (idle : session.engine.running = 0) : session.Steady := by
  obtain ⟨engine, runs⟩ := session
  subst nothing
  exact ⟨idle, fun _ member => absurd member List.not_mem_nil,
    fun _ member => absurd member List.not_mem_nil⟩

theorem Steady.step (steady : before.Steady) (step : Step admits before move after) : after.Steady := by
  obtain ⟨counted, relations, version⟩ := steady
  cases step with
  | refused | created | switched => exact ⟨counted, relations, version⟩
  | requeued requeues =>
      obtain ⟨ended, -, -, -, rfl⟩ := Engine.requeue_eq_ok_iff.mp requeues
      exact ⟨counted, relations, version⟩
  | persisted persists =>
      obtain ⟨-, -, rfl⟩ := Engine.persist_eq_ok_iff.mp persists
      exact ⟨counted, relations, version⟩
  | started starts =>
      obtain ⟨waiting, -, -, rfl, rfl⟩ := Engine.start_eq_ok_iff.mp starts
      refine ⟨congrArg (· + 1) counted, fun run member => ?_, fun run member => ?_⟩
      · rcases List.mem_cons.mp member with rfl | earlier
        · rfl
        · exact relations run earlier
      · rcases List.mem_cons.mp member with rfl | earlier
        · rfl
        · exact version run earlier
  | finished found ending _ =>
      obtain ⟨inside, -⟩ := List.getElem?_eq_some_iff.mp found
      have fewer := List.length_eraseIdx_of_lt inside
      rw [ending.keeps]
      refine ⟨?_, fun run member => relations run (List.mem_of_mem_eraseIdx member),
        fun run member => version run (List.mem_of_mem_eraseIdx member)⟩
      rw [fewer, ← counted]
  | reloaded asked reloads =>
      obtain ⟨others, -, idle, -, rfl⟩ := Engine.reload_eq_ok_iff.mp reloads
      have nothing := List.eq_nil_of_length_eq_zero (counted.symm.trans idle)
      exact steady_of_runs_eq_nil nothing idle
  | restarted admitted opens =>
      obtain ⟨others, -, -, rfl⟩ := Engine.onStore_eq_ok_iff.mp opens
      exact steady_of_runs_eq_nil rfl rfl

theorem Reached.steady {session : Session} (reached : Reached admits session) : session.Steady := by
  refine reached.invariant Steady ?_ fun _ steady step => steady.step step
  intro configuration set norms engine _ opens
  obtain ⟨relations, -, -, rfl⟩ := Engine.onStore_eq_ok_iff.mp opens
  exact steady_of_runs_eq_nil rfl rfl

/-! ## The rows of the runs -/

/-- Exactly the batches with a run in progress are running, and each of them has one run. -/
structure Attended (batches : Table BatchId Batch) (runs : List Run) : Prop where
  row : ∀ run ∈ runs, batches[run.batch.id]? = some run.batch
  running : ∀ run ∈ runs, run.batch.status = .running
  apart : runs.Pairwise fun left right => left.batch.id ≠ right.batch.id
  run : ∀ (id : BatchId) (batch : Batch), batches[id]? = some batch → batch.status = .running →
    ∃ run ∈ runs, run.batch.id = id

namespace Attended

variable {batches : Table BatchId Batch} {runs : List Run}

theorem id_ne_of_idle (attended : Attended batches runs) {id : BatchId}
    (idle : ∀ batch : Batch, batches[id]? = some batch → batch.status ≠ .running) {run : Run}
    (member : run ∈ runs) : run.batch.id ≠ id := by
  rintro rfl
  exact idle _ (attended.row run member) (attended.running run member)

theorem insert_idle (attended : Attended batches runs) {batch : Batch}
    (idle : batch.status ≠ .running) (alone : ∀ run ∈ runs, run.batch.id ≠ batch.id) :
    Attended (batches.insert batch.id batch) runs where
  row := fun run member => by
    rw [Table.getElem?_insert_of_ne (alone run member).symm]
    exact attended.row run member
  running := attended.running
  apart := attended.apart
  run := fun id other found running => by
    rcases Table.of_getElem?_insert_eq_some found with ⟨-, rfl⟩ | ⟨-, earlier⟩
    · exact absurd running idle
    · exact attended.run id other earlier running

theorem insert_running (attended : Attended batches runs) {batch : Batch} (relations : RelationSet)
    (running : batch.status = .running) (alone : ∀ run ∈ runs, run.batch.id ≠ batch.id) :
    Attended (batches.insert batch.id batch) (⟨batch, relations⟩ :: runs) where
  row := fun run member => by
    rcases List.mem_cons.mp member with rfl | earlier
    · exact Std.ExtTreeMap.getElem?_insert_self
    · rw [Table.getElem?_insert_of_ne (alone run earlier).symm]
      exact attended.row run earlier
  running := fun run member => by
    rcases List.mem_cons.mp member with rfl | earlier
    · exact running
    · exact attended.running run earlier
  apart := List.pairwise_cons.mpr ⟨fun run member => (alone run member).symm, attended.apart⟩
  run := fun id other found isRunning => by
    rcases Table.of_getElem?_insert_eq_some found with ⟨same, -⟩ | ⟨-, earlier⟩
    · exact ⟨⟨batch, relations⟩, List.mem_cons_self, same⟩
    · obtain ⟨run, member, here⟩ := attended.run id other earlier isRunning
      exact ⟨run, List.mem_cons_of_mem _ member, here⟩

theorem erase (attended : Attended batches runs) {place : Nat} {run : Run}
    (found : runs[place]? = some run) {ended : Batch} (named : ended.id = run.batch.id)
    (idle : ended.status ≠ .running) :
    Attended (batches.insert ended.id ended) (runs.eraseIdx place) := by
  obtain ⟨inside, rfl⟩ := List.getElem?_eq_some_iff.mp found
  have permuted := List.getElem_cons_eraseIdx_perm inside
  obtain ⟨alone, apart⟩ := List.pairwise_cons.mp
    ((permuted.pairwise_iff fun apart => apart.symm).mpr attended.apart)
  refine ⟨fun run member => ?_, fun run member => ?_, apart, fun id other found running => ?_⟩
  · have separate := alone run member
    rw [← named] at separate
    rw [Table.getElem?_insert_of_ne separate]
    exact attended.row run (List.mem_of_mem_eraseIdx member)
  · exact attended.running run (List.mem_of_mem_eraseIdx member)
  · rcases Table.of_getElem?_insert_eq_some found with ⟨-, rfl⟩ | ⟨apart, earlier⟩
    · exact absurd running idle
    · obtain ⟨run, member, rfl⟩ := attended.run id other earlier running
      rcases List.mem_cons.mp (permuted.mem_iff.mpr member) with rfl | remains
      · exact absurd named apart
      · exact ⟨run, remains, rfl⟩

theorem taken (batches : Table BatchId Batch) :
    Attended (batches.map fun _ batch => Engine.takeOver batch) [] where
  row := fun run member => absurd member List.not_mem_nil
  running := fun run member => absurd member List.not_mem_nil
  apart := .nil
  run := fun id batch found running => by
    rw [Std.ExtTreeMap.getElem?_map, Option.map_eq_some_iff] at found
    obtain ⟨stored, -, rfl⟩ := found
    exact absurd running (Engine.status_takeOver_ne_running stored)

end Attended

end Session

/-! ## The numbers of the batches -/

/-- No batch has the number or a greater one. -/
def Below (bound : BatchId) (batches : Table BatchId Batch) : Prop :=
  ∀ (id : BatchId) (batch : Batch), batches[id]? = some batch → id < bound

namespace Below

variable {bound : BatchId} {batches : Table BatchId Batch}

theorem insert (below : Below bound batches) {new : BatchId} (less : new < bound) (batch : Batch) :
    Below bound (batches.insert new batch) := by
  intro id other found
  rcases Table.of_getElem?_insert_eq_some found with ⟨rfl, -⟩ | ⟨-, earlier⟩
  · exact less
  · exact below id other earlier

theorem putIfAvailable {store : Store} (below : Below bound store.batches) {batch : Batch}
    (less : batch.id < bound) : Below bound (store.putIfAvailable batch).batches := by
  rw [Store.putIfAvailable_eq]
  split
  · exact below.insert less batch
  · exact below

theorem mono {higher : BatchId} (below : Below bound batches) (le : bound ≤ higher) :
    Below higher batches :=
  fun id batch found => UInt64.lt_of_lt_of_le (below id batch found) le

theorem map (below : Below bound batches) (change : Batch → Batch) :
    Below bound (batches.map fun _ batch => change batch) := by
  intro id batch found
  rw [Std.ExtTreeMap.getElem?_map, Option.map_eq_some_iff] at found
  obtain ⟨earlier, stored, -⟩ := found
  exact below id earlier stored

/-- The number after the greatest one is above all, unless it is beyond the last number. -/
theorem next (below : Below bound batches) :
    Below (batches.maxKey?.getD 0 + 1) batches ∧
      (batches.maxKey?.getD 0 + 1).toNat ≤ max bound.toNat 1 := by
  cases greatest : batches.maxKey? with
  | none =>
      rw [Std.ExtTreeMap.maxKey?_eq_none_iff.mp greatest]
      refine ⟨fun id batch found => ?_, Nat.le_max_right bound.toNat 1⟩
      simp at found
  | some last =>
      obtain ⟨member, above⟩ := Std.ExtTreeMap.maxKey?_eq_some_iff_mem_and_forall.mp greatest
      have less := UInt64.lt_iff_toNat_lt.mp
        (below last batches[last] (Std.ExtTreeMap.getElem?_eq_some_getElem member))
      have room := bound.toNat_lt
      have successor : (last + 1).toNat = last.toNat + 1 := by
        rw [UInt64.toNat_add, UInt64.toNat_one]
        omega
      rw [Option.getD_some, successor]
      refine ⟨fun id batch found => ?_, by omega⟩
      have known : id ∈ batches :=
        Std.ExtTreeMap.mem_iff_isSome_getElem?.mpr (Option.isSome_of_eq_some found)
      have le := UInt64.le_iff_toNat_le.mp (Std.isLE_compare.mp (above id known))
      rw [UInt64.lt_iff_toNat_lt, successor]
      omega

end Below

namespace Engine

/-- The engine and its store have no batch with the next number or a greater one, and the next number is
at most one more than the number of batches that were made. -/
structure Numbered (made : Nat) (engine : Engine) : Prop where
  batches : Below engine.nextBatch engine.batches
  store : Below engine.nextBatch engine.store.batches
  next : engine.nextBatch.toNat ≤ made + 1

theorem Numbered.mono {few many : Nat} {engine : Engine} (numbered : engine.Numbered few)
    (le : few ≤ many) : engine.Numbered many :=
  ⟨numbered.batches, numbered.store, Nat.le_trans numbered.next (Nat.succ_le_succ le)⟩

theorem Numbered.keep {made : Nat} {engine : Engine} (numbered : engine.Numbered made) {batch : Batch}
    (less : batch.id < engine.nextBatch) : (engine.keep batch).Numbered made :=
  ⟨numbered.batches.insert less batch, numbered.store.putIfAvailable less, numbered.next⟩

theorem Numbered.ended {made : Nat} {engine : Engine} {relations : RelationSet} {batch : Batch}
    {delivery : Delivery} {ended : Batch × Engine} (numbered : engine.Numbered made)
    (less : batch.id < engine.nextBatch) (ending : Ending engine relations batch delivery ended) :
    ended.2.Numbered made := by
  cases ending with
  | failed cache skipped hindered =>
      have recalled : ({ engine with cache } : Engine).Numbered made :=
        ⟨numbered.batches, numbered.store, numbered.next⟩
      exact recalled.keep less
  | completed =>
      exact ⟨numbered.batches.insert less _, numbered.store.insert less _, numbered.next⟩

theorem Numbered.create {made : Nat} {engine : Engine} (numbered : engine.Numbered made)
    (room : made + 2 < UInt64.size) (selection : Selection) :
    (engine.create selection).2.Numbered (made + 1) := by
  obtain ⟨batches, store, next⟩ := numbered
  have size : UInt64.size = 2 ^ 64 := rfl
  have successor : (engine.nextBatch + 1).toNat = engine.nextBatch.toNat + 1 := by
    rw [UInt64.toNat_add, UInt64.toNat_one]
    omega
  have less : engine.nextBatch < engine.nextBatch + 1 := by
    rw [UInt64.lt_iff_toNat_lt, successor]
    omega
  have le := UInt64.le_of_lt less
  have grown : ({ engine with nextBatch := engine.nextBatch + 1 } : Engine).Numbered (made + 1) :=
    ⟨batches.mono le, store.mono le, by dsimp only; omega⟩
  exact grown.keep less

theorem numbered_onStore {made : Nat} {configuration : Configuration} {set : GrammarSet} {norms : Norms}
    {store : Store} {bound : BatchId} {engine : Engine} (keyed : Keyed store.batches)
    (below : Below bound store.batches) (few : bound.toNat ≤ made + 1)
    (opens : onStore configuration set norms store = .ok engine) : engine.Numbered made := by
  obtain ⟨above, next⟩ := below.next
  have stored : Below (store.batches.maxKey?.getD 0 + 1) engine.store.batches := by
    refine store_onStore opens (fun later => Below _ later.batches) above
      fun later batch member kept => kept.putIfAvailable ?_
    obtain ⟨inside, -⟩ := List.mem_filter.mp member
    obtain ⟨id, found⟩ := Table.mem_values_iff.mp inside
    rw [id_takeOver, keyed id batch found]
    exact above id batch found
  obtain ⟨relations, -, -, rfl⟩ := onStore_eq_ok_iff.mp opens
  exact ⟨above.map takeOver, stored, by dsimp only; omega⟩

end Engine

/-- A move makes a batch. -/
def Move.makesBatch : Move → Bool
  | .create _ => true
  | _ => false

namespace Session

variable {admits : Configuration → Prop} {before after : Session} {move : Move}

/-- Exactly the batches with a run in progress are running, and the next number is a new one. -/
structure Governed (made : Nat) (session : Session) : Prop where
  attended : Attended session.engine.batches session.runs
  numbered : session.engine.Numbered made

theorem Governed.fresh {made : Nat} {session : Session} (governed : session.Governed made) :
    session.engine.batch? session.engine.nextBatch = none := by
  cases found : session.engine.batch? session.engine.nextBatch with
  | none => rfl
  | some batch => exact absurd (governed.numbered.batches _ batch found) (UInt64.lt_irrefl _)

theorem Governed.step {made : Nat} (governed : before.Governed made)
    (keyed : before.engine.HasKeyedRows)
    (room : made + 1 + (if move.makesBatch then 1 else 0) < UInt64.size)
    (step : Step admits before move after) :
    after.Governed (made + if move.makesBatch then 1 else 0) := by
  have vacant := governed.fresh
  obtain ⟨attended, numbered⟩ := governed
  have alone {id : BatchId} {idle : Batch} (found : before.engine.batch? id = some idle)
      (status : idle.status ≠ .running) (run : Run) (member : run ∈ before.runs) :
      run.batch.id ≠ id :=
    attended.id_ne_of_idle (fun batch stored =>
      Option.some.inj (found.symm.trans stored) ▸ status) member
  cases step with
  | refused => exact ⟨attended, numbered.mono (Nat.le_add_right _ _)⟩
  | switched available => exact ⟨attended, numbered.batches, numbered.store, numbered.next⟩
  | created selection =>
      refine ⟨attended.insert_idle BatchStatus.noConfusion fun run member same => ?_,
        numbered.create room selection⟩
      have found := attended.row run member
      rw [same] at found
      exact absurd (vacant.symm.trans found) (Option.some_ne_none _).symm
  | started starts =>
      obtain ⟨waiting, found, pending, rfl, rfl⟩ := Engine.start_eq_ok_iff.mp starts
      have named := keyed.batches _ waiting found
      have less := numbered.batches _ waiting found
      subst named
      have grown : ({ before.engine with running := before.engine.running + 1 } : Engine).Numbered made :=
        ⟨numbered.batches, numbered.store, numbered.next⟩
      refine ⟨attended.insert_running before.engine.relations rfl (alone found ?_), grown.keep less⟩
      rw [pending]
      exact BatchStatus.noConfusion
  | @finished place run delivery ended found ending counted =>
      obtain ⟨named, -, final⟩ := ending.final
      have idle : ended.1.status ≠ .running := by
        rcases final with completed | failed <;> simp [*]
      have less := numbered.batches _ run.batch
        (attended.row run (List.mem_of_getElem? found))
      have numbered := numbered.ended less ending
      have attended := attended.erase found named idle
      rw [named] at attended
      rw [ending.keeps] at numbered ⊢
      exact ⟨attended, numbered.batches, numbered.store, numbered.next⟩
  | requeued requeues =>
      obtain ⟨ended, found, final, rfl, rfl⟩ := Engine.requeue_eq_ok_iff.mp requeues
      have idle : ended.status ≠ .running := fun running => by simp [running, BatchStatus.isFinal] at final
      exact ⟨attended.insert_idle BatchStatus.noConfusion (alone found idle),
        numbered.keep (numbered.batches _ ended found)⟩
  | reloaded asked reloads =>
      obtain ⟨relations, -, -, -, rfl⟩ := Engine.reload_eq_ok_iff.mp reloads
      exact ⟨attended, Engine.Numbered.mono ⟨numbered.batches, numbered.store, numbered.next⟩
        (Nat.le_add_right _ _)⟩
  | persisted persists =>
      obtain ⟨-, -, rfl⟩ := Engine.persist_eq_ok_iff.mp persists
      exact ⟨attended, numbered.batches, numbered.store, numbered.next⟩
  | restarted admitted opens =>
      have opened := Engine.numbered_onStore keyed.store numbered.store numbered.next opens
      obtain ⟨relations, -, -, rfl⟩ := Engine.onStore_eq_ok_iff.mp opens
      exact ⟨Attended.taken _, opened⟩

/-- As long as there are numbers for the batches that are made, every session is governed. -/
theorem governed_afterAll {configuration : Configuration} {set : GrammarSet} {norms : Norms}
    {engine : Engine} (opens : Engine.onStore configuration set norms .empty = .ok engine)
    {moves : List Move} (room : moves.countP Move.makesBatch + 1 < UInt64.size) :
    ((⟨engine, []⟩ : Session).afterAll moves).Governed (moves.countP Move.makesBatch) := by
  have opened : Reached (fun _ => True) ⟨engine, []⟩ := .opened trivial opens
  refine afterAll_invariant
    (fun moves session => moves.countP Move.makesBatch + 1 < UInt64.size →
      session.Governed (moves.countP Move.makesBatch))
    (fun _ => ?_) (fun {moves before move after} here governed step more => ?_) moves room
  · have nothing : Below 1 Store.empty.batches := fun id batch found => by
      simp [Store.empty] at found
    have numbered : engine.Numbered 0 :=
      Engine.numbered_onStore .empty nothing (Nat.le_refl _) opens
    obtain ⟨relations, -, -, rfl⟩ := Engine.onStore_eq_ok_iff.mp opens
    exact ⟨Attended.taken _, numbered⟩
  · rw [List.countP_append, List.countP_singleton] at more ⊢
    have keyed : before.engine.HasKeyedRows := by
      rw [here]
      exact (opened.afterAll fun move _ => admitted_true move).hasKeyedRows
    exact (governed (by omega)).step keyed (by omega) step

end Session
end Collocation
