import Collocation.Engine.Run
import Collocation.Proofs.Answers

/-!
# What the operations do

For every operation of an engine: when it is accepted, and the engine that it then leads to.  A run ends in
one of two ways: it fails and only its batch is kept, or everything went well up to the commit and the
store has all of it.
-/

namespace Collocation

namespace StopRequest

theorem foundWithin_after (request : StopRequest) (looks : Nat) :
    (request.after looks).foundWithin 1 = request.foundWithin (looks + 1) := by
  obtain ⟨free⟩ := request
  cases free with
  | none => rfl
  | some free =>
      simp only [after, foundWithin, Option.map_some, Option.any_some,
        decide_eq_decide]
      omega

theorem foundWithin_of_le {request : StopRequest} {few many : Nat} (le : few ≤ many)
    (found : request.foundWithin few = true) : request.foundWithin many = true := by
  obtain ⟨free⟩ := request
  cases free with
  | none => exact found
  | some free =>
      simp only [foundWithin, Option.any_some, decide_eq_true_eq] at found ⊢
      omega

end StopRequest

namespace Store

/-- The store with grammars under their version. -/
def withGrammars (store : Store) (set : GrammarSet) : Store :=
  { store with grammars := store.grammars.insert set.version set }

/-- The store with analyses under the fingerprint of their grammars. -/
def withAnalyses (store : Store) (fingerprint : String) (entries : List (ContentHash × Analysis)) :
    Store :=
  { store with analyses := store.analyses.insert fingerprint entries }

/-- The store with all that is stored when a batch completes. -/
def withCommit (store : Store) (commit : Commit) : Store :=
  { store with
    tallies := store.tallies.insert commit.version
      ((store.talliesOf commit.version).insert commit.batch.id commit.tally)
    totals := store.totals.insert commit.version commit.totals
    records := store.records.insert commit.version (recordsByHeadword commit.records)
    accessibility := accessibilityByLexeme commit.accessibility
    batches := store.batches.insert commit.batch.id commit.batch }

theorem ask_eq_ok_iff {α : Type} {store : Store} {answer : Store → α} {value : α} :
    store.ask answer = .ok value ↔ store.available = true ∧ answer store = value := by
  cases available : store.available <;> simp [ask, available]

theorem saveGrammars_eq_ok_iff {store after : Store} {set : GrammarSet} :
    store.saveGrammars set = .ok after ↔ store.available = true ∧ store.withGrammars set = after :=
  ask_eq_ok_iff

theorem saveAnalyses_eq_ok_iff {store after : Store} {fingerprint : String}
    {entries : List (ContentHash × Analysis)} :
    store.saveAnalyses fingerprint entries = .ok after ↔
      store.available = true ∧ store.withAnalyses fingerprint entries = after :=
  ask_eq_ok_iff

theorem commit_eq_ok_iff {store after : Store} {commit : Commit} :
    store.commit commit = .ok after ↔ store.available = true ∧ store.withCommit commit = after :=
  ask_eq_ok_iff

end Store

namespace Engine

theorem liftStore_eq_ok_iff {α : Type} {answer : Except StoreError α} {value : α} :
    liftStore answer = .ok value ↔ answer = .ok value := by
  cases answer with
  | error cause => exact ⟨fun same => (nomatch same), fun same => (nomatch same)⟩
  | ok result =>
      have lifted : (liftStore (.ok result) : Except EngineError α) = .ok result := rfl
      rw [lifted, Except.ok.injEq, Except.ok.injEq]

/-! ## Operations on batches and grammars -/

theorem start_eq_ok_iff {engine started : Engine} {id : BatchId} {batch : Batch} :
    engine.start id = .ok (batch, started) ↔
      ∃ waiting, engine.batch? id = some waiting ∧ waiting.status = .pending ∧
        batch = waiting.run engine.version ∧
        started = { engine with running := engine.running + 1 }.keep batch := by
  unfold start
  split
  · next absent => simp [absent]
  · next waiting found =>
      split
      · next pending =>
          simp only [found, Option.some.injEq, Except.ok.injEq, Prod.mk.injEq]
          constructor
          · rintro ⟨rfl, rfl⟩
            exact ⟨waiting, rfl, pending, rfl, rfl⟩
          · rintro ⟨_, rfl, -, rfl, rfl⟩
            exact ⟨rfl, rfl⟩
      · next busy =>
          simp only [found, Option.some.injEq, reduceCtorEq, false_iff]
          rintro ⟨_, rfl, pending, -⟩
          exact busy pending

theorem requeue_eq_ok_iff {engine later : Engine} {id : BatchId} {fresh : Batch} :
    engine.requeue id = .ok (fresh, later) ↔
      ∃ ended, engine.batch? id = some ended ∧ ended.status.isFinal = true ∧
        fresh = .fresh id ended.selection ∧ later = engine.keep fresh := by
  unfold requeue
  split
  · next absent => simp [absent]
  · next ended found =>
      split
      · next final =>
          simp only [found, Option.some.injEq, Except.ok.injEq, Prod.mk.injEq]
          constructor
          · rintro ⟨rfl, rfl⟩
            exact ⟨ended, rfl, final, rfl, rfl⟩
          · rintro ⟨_, rfl, -, rfl, rfl⟩
            exact ⟨rfl, rfl⟩
      · next unfinished =>
          simp only [found, Option.some.injEq, reduceCtorEq, false_iff]
          rintro ⟨_, rfl, final, -⟩
          exact unfinished final

theorem reload_eq_ok_iff {engine later : Engine} {set : GrammarSet} :
    engine.reload set = .ok later ↔
      ∃ relations, relationsOf engine.configuration set = .ok relations ∧ engine.running = 0 ∧
        engine.store.available = true ∧
        later = { engine with
          relations
          store := engine.store.withGrammars set
          cache := freshCache engine.configuration relations (engine.store.withGrammars set) } := by
  unfold reload
  by_cases idle : engine.running = 0
  · simp only [bind_eq_ok_iff, pure_eq_ok_iff, liftStore_eq_ok_iff, Store.saveGrammars_eq_ok_iff,
      idle, ne_eq, not_true_eq_false, if_false, true_and]
    constructor
    · rintro ⟨relations, compiled, _, ⟨available, rfl⟩, rfl⟩
      exact ⟨relations, compiled, available, rfl⟩
    · rintro ⟨relations, compiled, available, rfl⟩
      exact ⟨relations, compiled, _, ⟨available, rfl⟩, rfl⟩
  · simp only [bind_eq_ok_iff, idle, ne_eq, not_false_eq_true, if_true, throw_ne_ok, false_and,
      and_false, exists_false]

theorem activate_eq_ok_iff {engine later : Engine} {version : String} :
    engine.activate version = .ok later ↔
      engine.store.available = true ∧
        ∃ set, engine.store.grammars[version]? = some set ∧ engine.reload set = .ok later := by
  unfold activate Store.grammarsOf?
  simp only [bind_eq_ok_iff, liftStore_eq_ok_iff, Store.ask_eq_ok_iff]
  constructor
  · rintro ⟨stored, ⟨available, found⟩, reloads⟩
    cases stored with
    | none => exact absurd reloads (throw_ne_ok _ _)
    | some set => exact ⟨available, set, found, reloads⟩
  · rintro ⟨available, set, found, reloads⟩
    exact ⟨some set, ⟨available, found⟩, reloads⟩

theorem persist_eq_ok_iff {engine later : Engine} {count : Nat} :
    engine.persist = .ok (count, later) ↔
      engine.store.available = true ∧ count = engine.cache.entries.length ∧
        later = { engine with
          store := engine.store.withAnalyses engine.relations.fingerprint engine.cache.entries } := by
  unfold persist
  simp only [bind_eq_ok_iff, liftStore_eq_ok_iff, Store.saveAnalyses_eq_ok_iff, pure_eq_ok_iff,
    Prod.mk.injEq]
  constructor
  · rintro ⟨_, ⟨available, rfl⟩, rfl, rfl⟩
    exact ⟨available, rfl, rfl⟩
  · rintro ⟨available, rfl, rfl⟩
    exact ⟨_, ⟨available, rfl⟩, rfl, rfl⟩

/-- The batches of a store that ran when their engine went away. -/
def interrupted (store : Store) : List Batch :=
  store.batches.values.filter fun batch => batch.status = .running

theorem accept_eq_ok_iff {configuration : Configuration} {set : GrammarSet} {store saved : Store}
    {relations : RelationSet} :
    accept configuration set store = .ok (relations, saved) ↔
      relationsOf configuration set = .ok relations ∧ store.available = true ∧ store.withGrammars set = saved := by
  simp only [accept, bind_eq_ok_iff, pure_eq_ok_iff, liftStore_eq_ok_iff, Store.saveGrammars_eq_ok_iff, Prod.mk.injEq]
  constructor
  · rintro ⟨_, compiled, _, ⟨available, rfl⟩, rfl, rfl⟩
    exact ⟨compiled, available, rfl⟩
  · rintro ⟨compiled, available, rfl⟩
    exact ⟨_, compiled, _, ⟨available, rfl⟩, rfl, rfl⟩

theorem takeStore_of_available (configuration : Configuration) (relations : RelationSet) (norms : Norms)
    {store : Store} (available : store.available = true) :
    takeStore configuration relations norms store = .ok {
      configuration, norms, relations
      cache := freshCache configuration relations store
      batches := store.batches.map fun _ batch => takeOver batch
      nextBatch := store.batches.maxKey?.getD 0 + 1
      store := (interrupted store).foldl (fun store batch => store.putIfAvailable (takeOver batch)) store } := by
  rw [takeStore, Store.allBatches, Store.ask_of_available available]
  rfl

theorem onStore_eq_ok_iff {configuration : Configuration} {set : GrammarSet} {norms : Norms}
    {store : Store} {engine : Engine} :
    onStore configuration set norms store = .ok engine ↔
      ∃ relations, relationsOf configuration set = .ok relations ∧ store.available = true ∧
        engine = {
          configuration, norms, relations
          cache := freshCache configuration relations (store.withGrammars set)
          batches := store.batches.map fun _ batch => takeOver batch
          nextBatch := store.batches.maxKey?.getD 0 + 1
          store := (interrupted store).foldl
            (fun store batch => store.putIfAvailable (takeOver batch)) (store.withGrammars set) } := by
  rw [onStore, openOn]
  cases accepts : accept configuration set store with
  | error cause =>
      refine iff_of_false (fun opens => nomatch opens) ?_
      rintro ⟨relations, compiled, available, -⟩
      rw [accept_eq_ok_iff.mpr ⟨compiled, available, rfl⟩] at accepts
      cases accepts
  | ok admitted =>
      obtain ⟨relations, saved⟩ := admitted
      obtain ⟨compiled, available, rfl⟩ := accept_eq_ok_iff.mp accepts
      have answers : (store.withGrammars set).available = true := available
      simp only [takeStore_of_available configuration relations norms answers, Except.ok.injEq]
      constructor
      · rintro rfl
        exact ⟨relations, compiled, available, rfl⟩
      · rintro ⟨others, also, -, rfl⟩
        obtain rfl := Except.ok.inj (compiled.symm.trans also)
        rfl

/-- What holds of the store with the grammars, and is kept when a batch is taken over that ran when its
engine went away, holds of the store of the engine. -/
theorem store_onStore {configuration : Configuration} {set : GrammarSet} {norms : Norms} {store : Store}
    {engine : Engine} (opens : onStore configuration set norms store = .ok engine)
    (property : Store → Prop) (saved : property (store.withGrammars set))
    (kept : ∀ later, ∀ batch ∈ interrupted store, property later →
      property (later.putIfAvailable (takeOver batch))) : property engine.store := by
  obtain ⟨relations, -, -, rfl⟩ := onStore_eq_ok_iff.mp opens
  exact List.foldlRecOn _ _ saved fun later holds batch member => kept later batch member holds

theorem onStore_empty_eq_ok {configuration : Configuration} {set : GrammarSet} {norms : Norms}
    {engine : Engine} (opens : onStore configuration set norms .empty = .ok engine) :
    ∃ relations, relationsOf configuration set = .ok relations ∧
      engine = {
        configuration, norms, relations
        cache := freshCache configuration relations (Store.empty.withGrammars set)
        batches := ∅
        nextBatch := 1
        store := Store.empty.withGrammars set } := by
  obtain ⟨relations, compiled, -, rfl⟩ := onStore_eq_ok_iff.mp opens
  refine ⟨relations, compiled, ?_⟩
  have noBatches : (∅ : Table BatchId Batch).values = [] := rfl
  simp [Store.empty, Store.withGrammars, interrupted, noBatches]

/-! ## The end of a run -/

/-- The batch and the engine once the tally of the batch is committed with the totals that it leads to. -/
def completeRun (engine : Engine) (batch : Batch) (version : String) (tally : Tally) (totals : Totals) :
    Batch × Engine :=
  let commit := engine.commitOf batch version tally totals
  (commit.batch, { engine with
    store := engine.store.withCommit commit
    batches := engine.batches.insert batch.id commit.batch })

/-- What keeps a run from its commit. -/
inductive Hindered (engine : Engine) (delivery : Delivery) : Failure → Prop where
  /-- The source gave no sentences. -/
  | source {cause : SourceError} (fetched : delivery.fetched = .error cause) :
      Hindered engine delivery (.source cause)
  /-- A look at the request to stop found it, before one of the sentences or at the commit. -/
  | stopped {fetched : Fetched} (delivered : delivery.fetched = .ok fetched)
      (found : delivery.stop.foundWithin (fetched.sentences.length + 1) = true) :
      Hindered engine delivery .cancelled
  /-- The store did not answer. -/
  | offline (unavailable : engine.store.available = false) :
      Hindered engine delivery (.store .offline)

/-- How a run can end. -/
inductive Ending (engine : Engine) (relations : RelationSet) (batch : Batch) (delivery : Delivery) :
    Batch × Engine → Prop where
  /-- The run failed; nothing but its batch and the analyses at hand have changed. -/
  | failed (cache : AnalysisCache) (skipped : List SentenceId) {failure : Failure}
      (hindered : Hindered engine delivery failure) :
      Ending engine relations batch delivery ({ engine with cache }.failRun batch skipped failure)
  /-- The sentences were counted and the tally was committed. -/
  | completed {fetched : Fetched} {counted : Tally} {cache : AnalysisCache} {totals : Totals}
      (delivered : delivery.fetched = .ok fetched)
      (unstopped : delivery.stop.foundWithin (fetched.sentences.length + 1) = false)
      (counts : relations.countSharded engine.configuration.sampleLimit engine.configuration.shardSize
        engine.cache fetched.sentences = (counted, cache))
      (available : engine.store.available = true)
      (sums : engine.totalsWith relations.version batch.id (counted.addRejected fetched.rejected) =
        .ok totals) :
      Ending engine relations batch delivery
        ({ engine with cache }.completeRun batch relations.version
          (counted.addRejected fetched.rejected) totals)

theorem exists_totalsWith {engine : Engine} (available : engine.store.available = true)
    (version : String) (id : BatchId) (tally : Tally) :
    ∃ totals, engine.totalsWith version id tally = .ok totals := by
  unfold totalsWith Store.totalsOf?
  simp only [bind_eq_ok_iff, Store.ask_of_available available, Except.ok.injEq]
  cases engine.store.totals[version]? with
  | none => exact ⟨_, none, rfl, rfl⟩
  | some totals =>
      by_cases last : totals.batches.getLast?.all (· < id) = true
      · exact ⟨_, some totals, rfl, by simp only [last, if_true]; rfl⟩
      · exact ⟨_, some totals, rfl, by simp only [last]; rfl⟩

theorem totalsWith_eq_ok {engine : Engine} {version : String} {id : BatchId} {tally : Tally}
    {totals : Totals} (sums : engine.totalsWith version id tally = .ok totals) :
    engine.store.available = true := by
  unfold totalsWith Store.totalsOf? at sums
  obtain ⟨stored, answered, -⟩ := bind_eq_ok_iff.mp sums
  exact (Store.ask_eq_ok_iff.mp answered).1

/-- The ways to the totals of a commit. -/
inductive Sums (engine : Engine) (version : String) (id : BatchId) (tally : Tally) : Totals → Prop where
  /-- The version has no totals yet. -/
  | first (absent : engine.store.totals[version]? = none) :
      Sums engine version id tally (.sum engine.configuration.sampleLimit [(id, tally)])
  /-- The batch comes after all that the totals cover, and its tally is added to them. -/
  | added {earlier : Totals} (found : engine.store.totals[version]? = some earlier)
      (last : earlier.batches.getLast?.all (· < id) = true) :
      Sums engine version id tally (earlier.add id tally)
  /-- All tallies of the version are summed again. -/
  | again {earlier : Totals} (found : engine.store.totals[version]? = some earlier)
      (inside : earlier.batches.getLast?.all (· < id) = false) :
      Sums engine version id tally (.sum engine.configuration.sampleLimit
        ((engine.store.talliesOf version).insert id tally).toList)

theorem sums_of_totalsWith {engine : Engine} {version : String} {id : BatchId} {tally : Tally}
    {totals : Totals} (sums : engine.totalsWith version id tally = .ok totals) :
    Sums engine version id tally totals := by
  have available := totalsWith_eq_ok sums
  simp only [totalsWith, Store.totalsOf?, Store.ask_of_available available, bind, Except.bind] at sums
  cases found : engine.store.totals[version]? with
  | none =>
      rw [found] at sums
      exact Except.ok.inj sums ▸ .first found
  | some earlier =>
      rw [found] at sums
      cases last : earlier.batches.getLast?.all (· < id) with
      | true =>
          simp only [last, if_true] at sums
          exact Except.ok.inj sums ▸ .added found last
      | false =>
          simp only [last, Bool.false_eq_true, if_false] at sums
          exact Except.ok.inj sums ▸ .again found last

theorem commitRun_of_available (engine : Engine) {stop : StopRequest}
    (unstopped : stop.foundWithin 1 = false) {version : String} {batch : Batch} {tally : Tally}
    {totals : Totals} (sums : engine.totalsWith version batch.id tally = .ok totals) :
    engine.commitRun batch version tally stop = engine.completeRun batch version tally totals := by
  have available := totalsWith_eq_ok sums
  simp only [commitRun, unstopped, sums, Bool.false_eq_true, if_false, bind, Except.bind]
  rw [Store.commit_eq_ok_iff.mpr ⟨available, rfl⟩]
  rfl

theorem commitRun_of_offline (engine : Engine) {stop : StopRequest}
    (unstopped : stop.foundWithin 1 = false) (unavailable : engine.store.available = false)
    (version : String) (batch : Batch) (tally : Tally) :
    engine.commitRun batch version tally stop =
      engine.failRun batch (tally.skipped.map Skipped.id) (.store .offline) := by
  have refused : engine.totalsWith version batch.id tally = .error .offline := by
    simp only [totalsWith, Store.totalsOf?, Store.ask, unavailable]
    rfl
  simp only [commitRun, unstopped, refused, Bool.false_eq_true, if_false, bind, Except.bind]

theorem ending_countRun (engine : Engine) (relations : RelationSet) (batch : Batch)
    (delivery : Delivery) :
    Ending engine relations batch delivery (engine.countRun relations batch delivery) := by
  unfold countRun
  cases delivered : delivery.fetched with
  | error cause => exact .failed engine.cache [] (.source delivered)
  | ok fetched =>
      by_cases early : delivery.stop.foundWithin fetched.sentences.length = true
      · simp only [RelationSet.countUnless, early, if_true]
        exact .failed _ [] (.stopped delivered (StopRequest.foundWithin_of_le (Nat.le_succ _) early))
      simp only [RelationSet.countUnless, early, Bool.false_eq_true, if_false]
      cases stopped : delivery.stop.foundWithin (fetched.sentences.length + 1) with
      | true =>
          simp only [commitRun, StopRequest.foundWithin_after, stopped, if_true]
          exact .failed _ _ (.stopped delivered stopped)
      | false =>
          have unstopped := (delivery.stop.foundWithin_after fetched.sentences.length).trans stopped
          cases counts : relations.countSharded engine.configuration.sampleLimit
            engine.configuration.shardSize engine.cache fetched.sentences with
          | mk counted cache =>
              cases available : engine.store.available with
              | false =>
                  rw [commitRun_of_offline { engine with cache } unstopped available]
                  exact .failed cache _ (.offline available)
              | true =>
                  obtain ⟨totals, sums⟩ := exists_totalsWith available relations.version batch.id
                    (counted.addRejected fetched.rejected)
                  rw [commitRun_of_available { engine with cache } unstopped sums]
                  exact .completed delivered stopped counts available sums

/-- A run that nothing hinders is completed. -/
theorem countRun_of_unhindered {engine : Engine} (available : engine.store.available = true)
    {fetched : Fetched} {stop : StopRequest}
    (unstopped : stop.foundWithin (fetched.sentences.length + 1) = false) (relations : RelationSet)
    (batch : Batch) :
    ∃ counted cache totals,
      relations.countSharded engine.configuration.sampleLimit engine.configuration.shardSize
        engine.cache fetched.sentences = (counted, cache) ∧
      Sums engine relations.version batch.id (counted.addRejected fetched.rejected) totals ∧
      engine.countRun relations batch ⟨.ok fetched, stop⟩ =
        { engine with cache }.completeRun batch relations.version
          (counted.addRejected fetched.rejected) totals := by
  have ending := engine.ending_countRun relations batch ⟨.ok fetched, stop⟩
  generalize engine.countRun relations batch ⟨.ok fetched, stop⟩ = ended at ending
  cases ending with
  | @completed fetched counted cache totals delivered unstopped counts available sums =>
      cases delivered
      exact ⟨counted, cache, totals, counts, sums_of_totalsWith sums, rfl⟩
  | failed cache skipped hindered =>
      cases hindered with
      | source refused => cases refused
      | stopped delivered stops =>
          cases delivered
          exact absurd (unstopped.symm.trans stops) Bool.false_ne_true
      | offline unavailable => exact absurd (unavailable.symm.trans available) Bool.false_ne_true

end Engine
end Collocation
