import Collocation.Proofs.Cache.Warming
import Collocation.Proofs.Engine.Analyses
import Collocation.Proofs.Engine.Lifecycle
import Collocation.Proofs.Engine.Writes

/-!
# Warm starts

When the analyses that are at hand have been saved, an engine that is opened on the store with the same
configuration and grammars has them at hand again, in the same order.  Two engines with the same analyses at hand
count alike, so a batch leaves the same tallies on both.  And as long as the analyses of all sentences are at hand,
none is made.
-/

namespace Collocation
namespace RelationSet

variable {relations : RelationSet} {left right : AnalysisCache}

/-- If the analyses of all sentences are at hand, none is made, and they stay at hand. -/
theorem Uses.serves {occurs : Sentence → Prop} {first second : AnalysisCache}
    (uses : relations.Uses occurs first second)
    (ready : ∀ sentence, occurs sentence → ∃ analysis, first.peek? sentence.hash = some analysis) :
    (∀ address, second.peek? address = first.peek? address) ∧ second.misses = first.misses := by
  induction uses with
  | unused => exact ⟨fun _ => rfl, rfl⟩
  | @analysed later _ sentence known induction =>
      obtain ⟨same, missed⟩ := induction
      obtain ⟨analysis, found⟩ := ready sentence known
      obtain ⟨kept, counted⟩ := Cache.getOrMake_of_found ((same _).trans found)
        fun _ => relations.analyze sentence.tokens
      exact ⟨fun address => (kept address).trans (same address), counted.trans missed⟩

theorem entries_countSharded_single (relations : RelationSet) (sampleLimit size : Nat) {capacity : Nat}
    (positive : 0 < capacity) {sentence : Sentence} (flawless : sentence.flaw? = none) :
    (relations.countSharded sampleLimit size (Cache.empty capacity) [sentence]).2.entries =
      [(sentence.hash, relations.analyze sentence.tokens)] := by
  obtain ⟨room, rfl⟩ := Nat.exists_eq_succ_of_ne_zero (Nat.ne_of_gt positive)
  simp [countSharded, shards, countParts, count, countSentence, flawless, analyzeWith, Cache.getOrMake,
    Cache.peek?, Cache.empty, Cache.insert, Cache.miss, Cache.entries]

/-! ## Counting with the same analyses at hand -/

/-- The same was made, and the caches that are left keep the same. -/
structure MadeAlike {α : Type} (left right : α × AnalysisCache) : Prop where
  made : left.1 = right.1
  cache : left.2.Alike right.2

theorem MadeAlike.countSentence {left right : Tally × AnalysisCache} (alike : MadeAlike left right)
    (relations : RelationSet) (sentence : Sentence) :
    MadeAlike (relations.countSentence left sentence) (relations.countSentence right sentence) := by
  simp only [RelationSet.countSentence, alike.made]
  cases sentence.flaw? with
  | some reason => exact ⟨rfl, alike.cache⟩
  | none =>
      obtain ⟨same, after⟩ := alike.cache.getOrMake sentence.hash fun _ => relations.analyze sentence.tokens
      exact ⟨congrArg (relations.countAnalysed right.1 sentence) same, after⟩

theorem madeAlike_count (relations : RelationSet) (sampleLimit : Nat) (alike : left.Alike right)
    (sentences : List Sentence) :
    MadeAlike (relations.count sampleLimit left sentences) (relations.count sampleLimit right sentences) := by
  have folded : ∀ {left right : Tally × AnalysisCache}, MadeAlike left right → MadeAlike
      (sentences.foldl relations.countSentence left) (sentences.foldl relations.countSentence right) := by
    induction sentences with
    | nil => exact id
    | cons sentence sentences induction => exact fun alike => induction (alike.countSentence relations sentence)
  exact folded ⟨rfl, alike⟩

theorem madeAlike_countParts (relations : RelationSet) (sampleLimit : Nat) (alike : left.Alike right)
    (parts : List (List Sentence)) :
    MadeAlike (relations.countParts sampleLimit left parts) (relations.countParts sampleLimit right parts) := by
  induction parts generalizing left right with
  | nil => exact ⟨rfl, alike⟩
  | cons part parts induction =>
      obtain ⟨first, between⟩ := madeAlike_count relations sampleLimit alike part
      obtain ⟨others, after⟩ := induction between
      exact ⟨congrArg₂ List.cons first others, after⟩

theorem madeAlike_countSharded (relations : RelationSet) (sampleLimit size : Nat) (alike : left.Alike right)
    (sentences : List Sentence) :
    MadeAlike (relations.countSharded sampleLimit size left sentences)
      (relations.countSharded sampleLimit size right sentences) := by
  obtain ⟨made, after⟩ := madeAlike_countParts relations sampleLimit alike (shards size sentences)
  exact ⟨congrArg (Tally.sum sampleLimit) made, after⟩

theorem madeAlike_countUnless (relations : RelationSet) (request : StopRequest) (sampleLimit size : Nat)
    (alike : left.Alike right) (sentences : List Sentence) :
    MadeAlike (countUnless request (relations.countSharded sampleLimit size) left sentences)
      (countUnless request (relations.countSharded sampleLimit size) right sentences) := by
  have counted := madeAlike_countSharded relations sampleLimit size alike
  simp only [countUnless]
  split
  · exact ⟨rfl, (counted _).cache⟩
  · exact ⟨congrArg some (counted sentences).made, (counted sentences).cache⟩

end RelationSet

/-! ## Engines that count alike -/

namespace Engine

/-- Two engines have the same configuration and relations, the same analyses at hand, and the same tallies, totals
and records in their stores. -/
structure CountsLike (left right : Engine) : Prop where
  configuration : left.configuration = right.configuration
  relations : left.relations = right.relations
  cache : left.cache.Alike right.cache
  available : left.store.available = right.store.available
  tallies : left.store.tallies = right.store.tallies
  totals : left.store.totals = right.store.totals
  records : left.store.records = right.store.records

variable {left right : Engine}

theorem CountsLike.symm (alike : left.CountsLike right) : right.CountsLike left :=
  ⟨alike.configuration.symm, alike.relations.symm, ⟨alike.cache.capacity.symm, alike.cache.recent.symm⟩,
    alike.available.symm, alike.tallies.symm, alike.totals.symm, alike.records.symm⟩

theorem CountsLike.of_keep (alike : left.CountsLike right) (batch : Batch) :
    (left.keep batch).CountsLike right := by
  have same := sameButRow_keep left batch
  exact ⟨alike.configuration, alike.relations, alike.cache, same.available.trans alike.available,
    same.tallies.trans alike.tallies, same.totals.trans alike.totals, same.records.trans alike.records⟩

theorem CountsLike.keep (alike : left.CountsLike right) (first second : Batch) :
    (left.keep first).CountsLike (right.keep second) :=
  ((alike.of_keep first).symm.of_keep second).symm

theorem CountsLike.withNextBatch (alike : left.CountsLike right) (nextBatch : BatchId) :
    { left with nextBatch }.CountsLike right :=
  ⟨alike.configuration, alike.relations, alike.cache, alike.available, alike.tallies, alike.totals,
    alike.records⟩

theorem CountsLike.withRunning (alike : left.CountsLike right) (first second : Nat) :
    { left with running := first }.CountsLike { right with running := second } :=
  ⟨alike.configuration, alike.relations, alike.cache, alike.available, alike.tallies, alike.totals,
    alike.records⟩

theorem CountsLike.withCache (alike : left.CountsLike right) {first second : AnalysisCache}
    (cache : first.Alike second) : { left with cache := first }.CountsLike { right with cache := second } :=
  ⟨alike.configuration, alike.relations, cache, alike.available, alike.tallies, alike.totals, alike.records⟩

theorem CountsLike.totalsWith (alike : left.CountsLike right) (version : String) (id : BatchId) (tally : Tally) :
    left.totalsWith version id tally = right.totalsWith version id tally := by
  simp only [Engine.totalsWith, Store.totalsOf?, Store.ask, Store.talliesOf, alike.configuration,
    alike.available, alike.tallies, alike.totals]

/-- Two runs end alike: with the same status, and on engines that count alike. -/
structure EndsAlike (left right : Batch × Engine) : Prop where
  status : left.1.status = right.1.status
  engine : left.2.CountsLike right.2

theorem CountsLike.failRun (alike : left.CountsLike right) (first second : Batch) (skipped : List SentenceId)
    (failure : Failure) :
    EndsAlike (left.failRun first skipped failure) (right.failRun second skipped failure) :=
  ⟨rfl, alike.keep _ _⟩

variable {first second : Batch}

theorem CountsLike.completeRun (alike : left.CountsLike right) (same : first.id = second.id) (version : String)
    (tally : Tally) (totals : Totals) :
    EndsAlike (left.completeRun first version tally totals) (right.completeRun second version tally totals) where
  status := rfl
  engine := {
    configuration := alike.configuration
    relations := alike.relations
    cache := alike.cache
    available := alike.available
    tallies := by
      simp only [Engine.completeRun, Store.withCommit, commitOf, Batch.complete, Store.talliesOf, alike.tallies, same]
    totals := by
      simp only [Engine.completeRun, Store.withCommit, commitOf, alike.totals]
    records := by
      simp only [Engine.completeRun, Store.withCommit, commitOf, alike.records] }

theorem CountsLike.commitRun (alike : left.CountsLike right) (same : first.id = second.id) (version : String)
    (tally : Tally) (stop : StopRequest) :
    EndsAlike (left.commitRun first version tally stop) (right.commitRun second version tally stop) := by
  cases stopped : stop.foundWithin 1 with
  | true =>
      simp only [Engine.commitRun, stopped, if_true]
      exact alike.failRun _ _ _ _
  | false =>
      cases available : left.store.available with
      | false =>
          rw [commitRun_of_offline left stopped available,
            commitRun_of_offline right stopped (alike.available.symm.trans available)]
          exact alike.failRun _ _ _ _
      | true =>
          obtain ⟨totals, sums⟩ := exists_totalsWith available version first.id tally
          have others := (alike.totalsWith version first.id tally).symm.trans sums
          rw [commitRun_of_available left stopped sums, commitRun_of_available right stopped (same ▸ others)]
          exact alike.completeRun same version tally totals

/-- What a source gives for a batch is counted alike. -/
theorem CountsLike.finish (alike : left.CountsLike right) (same : first.id = second.id)
    {relations others : RelationSet} (agree : relations = others) (delivery : Delivery) :
    EndsAlike (left.finish relations first delivery) (right.finish others second delivery) := by
  subst agree
  have counted : EndsAlike (left.countRun relations first delivery) (right.countRun relations second delivery) := by
    have limits := congrArg Configuration.sampleLimit alike.configuration
    have sizes := congrArg Configuration.shardSize alike.configuration
    simp only [countRun, ← limits, ← sizes]
    cases delivery.fetched with
    | error cause => exact alike.failRun _ _ _ _
    | ok fetched =>
        have counted := RelationSet.madeAlike_countUnless relations delivery.stop
          left.configuration.sampleLimit left.configuration.shardSize alike.cache fetched.sentences
        dsimp only
        generalize RelationSet.countUnless _ _ left.cache _ = before at counted ⊢
        generalize RelationSet.countUnless _ _ right.cache _ = after at counted ⊢
        obtain ⟨made, cache⟩ := before
        obtain ⟨other, later⟩ := after
        obtain ⟨rfl, kept⟩ := counted
        cases made with
        | none => exact (alike.withCache kept).failRun _ _ _ _
        | some tally => exact (alike.withCache kept).commitRun same _ _ _
  exact ⟨counted.status, counted.engine.withRunning _ _⟩

/-! ## Engines on a store with the analyses of another one -/

theorem capacity_freshCache (configuration : Configuration) (relations : RelationSet) (store : Store) :
    (freshCache configuration relations store).capacity = configuration.cacheCapacity := by
  unfold freshCache
  dsimp only
  split
  · exact Cache.capacity_warm _ _
  · rfl

theorem freshCache_of_saved {configuration : Configuration} {relations : RelationSet} {store : Store}
    (available : store.available = true) {entries : List (ContentHash × Analysis)}
    (saved : store.analyses[relations.fingerprint]? = some entries) :
    freshCache configuration relations store = (Cache.empty configuration.cacheCapacity).warm entries := by
  simp only [freshCache, Store.analysesOf, Store.ask_of_available available, saved, Option.getD_some]

/-- Once the analyses are saved, an engine that is opened with the same configuration and relations counts alike. -/
theorem countsLike_onStore {engine persisted renewed : Engine} {count : Nat} {set : GrammarSet} {norms : Norms}
    (room : engine.cache.capacity = engine.configuration.cacheCapacity)
    (same : relationsOf engine.configuration set = .ok engine.relations)
    (persists : engine.persist = .ok (count, persisted))
    (opens : onStore engine.configuration set norms persisted.store = .ok renewed) :
    renewed.CountsLike persisted ∧
      renewed.cache = (Cache.empty engine.cache.capacity).warm engine.cache.entries := by
  obtain ⟨available, -, rfl⟩ := persist_eq_ok_iff.mp persists
  have counts := sameCounts_onStore opens
  have answers := available_onStore opens
  obtain ⟨relations, compiled, -, rfl⟩ := onStore_eq_ok_iff.mp opens
  obtain rfl := Except.ok.inj (same.symm.trans compiled)
  let saved := (engine.store.withAnalyses engine.relations.fingerprint engine.cache.entries).withGrammars set
  have savedAnswers : saved.available = true := available
  have warmed : freshCache engine.configuration engine.relations saved =
      (Cache.empty engine.cache.capacity).warm engine.cache.entries :=
    room ▸ freshCache_of_saved savedAnswers Std.ExtTreeMap.getElem?_insert_self
  refine ⟨⟨rfl, rfl, ?_, answers.trans available.symm, counts.tallies, counts.totals, counts.records⟩, warmed⟩
  exact warmed ▸ engine.cache.alike_warm_entries

theorem batch?_onStore_of_pending {configuration : Configuration} {set : GrammarSet} {norms : Norms} {store : Store}
    {engine : Engine} (opens : onStore configuration set norms store = .ok engine) {id : BatchId} {waiting : Batch}
    (stored : store.batches[id]? = some waiting) (pending : waiting.status = .pending) :
    engine.batch? id = some waiting := by
  obtain ⟨relations, -, -, rfl⟩ := onStore_eq_ok_iff.mp opens
  have idle : waiting.status ≠ .running := pending ▸ BatchStatus.noConfusion
  rw [batch?, Std.ExtTreeMap.getElem?_map, stored, Option.map_some, takeOver_of_idle idle]

end Engine

namespace RelationSet

theorem Uses.capacity {relations : RelationSet} {occurs : Sentence → Prop} {first second : AnalysisCache}
    (uses : relations.Uses occurs first second) : second.capacity = first.capacity := by
  induction uses with
  | unused => rfl
  | analysed _ _ induction => exact (Cache.capacity_getOrMake _ _ _).trans induction

end RelationSet

/-- A move makes a batch or lets one wait again. -/
def Move.Prepares : Move → Prop
  | .create _ | .requeue _ => True
  | _ => False

theorem Move.Prepares.admitted {move : Move} (prepares : move.Prepares) {admits : Configuration → Prop} :
    move.Admitted admits := by
  cases move with
  | restart => exact prepares.elim
  | _ => trivial

namespace Session

theorem Reached.capacity_cache {admits : Configuration → Prop} {session : Session}
    (reached : Reached admits session) :
    session.engine.cache.capacity = session.engine.configuration.cacheCapacity := by
  refine reached.invariant
    (fun session => session.engine.cache.capacity = session.engine.configuration.cacheCapacity) ?_ ?_
  · intro configuration set norms engine _ opens
    obtain ⟨relations, -, -, rfl⟩ := Engine.onStore_eq_ok_iff.mp opens
    exact Engine.capacity_freshCache _ _ _
  · intro before move after _ room step
    cases step with
    | refused | created | switched => exact room
    | started starts =>
        obtain ⟨waiting, -, -, -, rfl⟩ := Engine.start_eq_ok_iff.mp starts
        exact room
    | requeued requeues =>
        obtain ⟨ended, -, -, -, rfl⟩ := Engine.requeue_eq_ok_iff.mp requeues
        exact room
    | reloaded asked reloads =>
        obtain ⟨relations, -, -, -, rfl⟩ := Engine.reload_eq_ok_iff.mp reloads
        exact Engine.capacity_freshCache _ _ _
    | persisted persists =>
        obtain ⟨-, -, rfl⟩ := Engine.persist_eq_ok_iff.mp persists
        exact room
    | restarted admitted opens =>
        obtain ⟨relations, -, -, rfl⟩ := Engine.onStore_eq_ok_iff.mp opens
        exact Engine.capacity_freshCache _ _ _
    | @finished place run delivery ended found ending counted =>
        have uses := before.engine.uses_finish run.relations run.batch delivery
        rw [Engine.finish, counted] at uses
        have configured : ended.2.configuration = before.engine.configuration := by
          cases ending <;> rfl
        exact (uses.capacity.trans room).trans (congrArg Configuration.cacheCapacity configured.symm)

theorem afterAll_of_prepares {session : Session} (property : Engine → Prop)
    (kept : ∀ engine batch, property engine → property (engine.keep batch))
    (numbered : ∀ engine nextBatch, property engine → property { engine with nextBatch })
    {moves : List Move} (prepare : ∀ move ∈ moves, move.Prepares) (holds : property session.engine) :
    property (session.afterAll moves).engine := by
  induction moves generalizing session with
  | nil => exact holds
  | cons move moves induction =>
      refine induction (fun other member => prepare other (List.mem_cons_of_mem move member)) ?_
      have prepares := prepare move List.mem_cons_self
      cases move with
      | create selection => exact kept _ _ (numbered _ _ holds)
      | requeue id =>
          simp only [after]
          cases requeues : session.engine.requeue id with
          | error cause => exact holds
          | ok waiting =>
              obtain ⟨fresh, later⟩ := waiting
              obtain ⟨ended, -, -, -, rfl⟩ := Engine.requeue_eq_ok_iff.mp requeues
              exact kept _ _ holds
      | start | finish | reload | activate | persist | setAvailable | restart => exact prepares.elim

/-- A batch that waits in two sessions whose engines count alike is run alike, whatever is delivered for it. -/
theorem runs_alike {admits : Configuration → Prop} {left right : Session} (reachedLeft : Reached admits left)
    (reachedRight : Reached admits right) (alike : left.engine.CountsLike right.engine) {id : BatchId}
    {first second : Batch} (found : left.engine.batch? id = some first) (pending : first.status = .pending)
    (foundToo : right.engine.batch? id = some second) (pendingToo : second.status = .pending)
    (delivery : Delivery) :
    let ran (engine : Engine) := Id.run (engine.run id fun _ started => pure (delivery, started))
    ∃ (batch other : Batch) (after next : Engine),
      ran left.engine = (.ok batch, after) ∧ ran right.engine = (.ok other, next) ∧
      Engine.EndsAlike (batch, after) (other, next) ∧
      right.engine.relations.Uses (fun sentence => delivery.Gives sentence ∧ sentence.isValid = true)
        right.engine.cache next.cache := by
  intro ran
  let begun := first.run left.engine.version
  let others := second.run right.engine.version
  have same : begun.id = others.id :=
    (reachedLeft.hasKeyedRows.batches id first found).trans
      (reachedRight.hasKeyedRows.batches id second foundToo).symm
  let started := { left.engine with running := left.engine.running + 1 }.keep begun
  let restarted := { right.engine with running := right.engine.running + 1 }.keep others
  have alikeStarted : started.CountsLike restarted := (alike.withRunning _ _).keep begun others
  have ends : Engine.EndsAlike (started.finish left.engine.relations begun delivery)
      (restarted.finish right.engine.relations others delivery) :=
    alikeStarted.finish same alike.relations delivery
  exact ⟨_, _, _, _, Engine.run_of_pending found pending _, Engine.run_of_pending foundToo pendingToo _, ends,
    restarted.uses_finish right.engine.relations others delivery⟩

/-- A cache that is warmed with the entries of another one keeps the last of them, as many as it has room for, in
their order.  So when the analyses at hand are saved and a new engine is opened on the store with the same
configuration and grammars, it has exactly the same entries at hand, and the batches that wait in the store wait in
it.  On both engines batches may then be made or requeued; one that waits on both leaves the same tallies, totals and
records on both, whatever is delivered for it.  If all valid sentences among that have their analyses at hand, the
new engine makes none. -/
theorem warm_start_restores_analyses {admits : Configuration → Prop} {session : Session}
    (reached : Reached admits session) (available : session.engine.store.available = true) {set : GrammarSet}
    (same : Engine.relationsOf session.engine.configuration set = .ok session.engine.relations) (norms : Norms) :
    (∀ (cache : AnalysisCache) (capacity : Nat),
      let warmed : AnalysisCache := (Cache.empty capacity).warm cache.entries
      warmed.entries = cache.entries.drop (cache.entries.length - capacity) ∧
        warmed.entries.length = min cache.entries.length capacity) ∧
    ∃ persisted renewed : Engine,
      session.engine.persist = .ok (session.engine.cache.entries.length, persisted) ∧
      Engine.onStore session.engine.configuration set norms persisted.store = .ok renewed ∧
      renewed.cache.entries = session.engine.cache.entries ∧
      (∀ id waiting, session.engine.store.batches[id]? = some waiting → waiting.status = .pending →
        renewed.batch? id = some waiting) ∧
      ∀ former later : List Move, (∀ move ∈ former ++ later, move.Prepares) →
        let old := ((⟨persisted, session.runs⟩ : Session).afterAll former).engine
        let new := ((⟨renewed, []⟩ : Session).afterAll later).engine
        ∀ id first second, old.batch? id = some first → first.status = .pending →
          new.batch? id = some second → second.status = .pending → ∀ delivery : Delivery,
            let ran (engine : Engine) := Id.run (engine.run id fun _ started => pure (delivery, started))
            ∃ (batch other : Batch) (after next : Engine), ran old = (.ok batch, after) ∧ ran new = (.ok other, next) ∧
              other.status = batch.status ∧
              next.store.tallies = after.store.tallies ∧
              next.store.totals = after.store.totals ∧
              next.store.records = after.store.records ∧
              ((∀ sentence, delivery.Gives sentence → sentence.isValid = true →
                  ∃ analysis, (sentence.hash, analysis) ∈ renewed.cache.entries) →
                next.cache.misses = 0) := by
  refine ⟨fun cache capacity => ⟨cache.entries_warm_entries capacity, cache.length_entries_warm capacity⟩, ?_⟩
  have persists := Engine.persist_eq_ok_iff.mpr ⟨available, rfl, rfl⟩
  obtain ⟨renewed, opens⟩ : ∃ renewed, Engine.onStore session.engine.configuration set norms
      (session.engine.store.withAnalyses session.engine.relations.fingerprint session.engine.cache.entries) =
        .ok renewed :=
    ⟨_, Engine.onStore_eq_ok_iff.mpr ⟨_, same, available, rfl⟩⟩
  obtain ⟨alike, warmed⟩ := Engine.countsLike_onStore reached.capacity_cache same persists opens
  have entries : renewed.cache.entries = session.engine.cache.entries :=
    congrArg List.reverse (warmed ▸ session.engine.cache.alike_warm_entries.recent)
  refine ⟨_, renewed, persists, opens, entries, ?_, ?_⟩
  · intro id waiting stored pending
    exact Engine.batch?_onStore_of_pending opens stored pending
  · intro former later prepare old new id first second found pending foundToo pendingToo delivery ran
    have before : ∀ move ∈ former, move.Prepares := fun move member => prepare move (List.mem_append_left _ member)
    have behind : ∀ move ∈ later, move.Prepares := fun move member => prepare move (List.mem_append_right _ member)
    have saved := reached.after .persist trivial
    have restarted := saved.after (.restart session.engine.configuration set norms) reached.admitted
    simp only [after, persists] at saved restarted
    simp only [Except.map, Engine.orSame, opens] at saved restarted
    have oneSide : old.CountsLike renewed := afterAll_of_prepares (·.CountsLike renewed)
      (fun _ batch alike => alike.of_keep batch) (fun _ _ alike => alike.withNextBatch _) before alike.symm
    have bothSides : old.CountsLike new := afterAll_of_prepares (old.CountsLike ·)
      (fun _ batch alike => (alike.symm.of_keep batch).symm) (fun _ _ alike => (alike.symm.withNextBatch _).symm)
      behind oneSide
    have cached : new.cache = renewed.cache := afterAll_of_prepares (·.cache = renewed.cache)
      (fun _ _ same => same) (fun _ _ same => same) behind rfl
    obtain ⟨batch, other, after, next, runs, runsToo, ends, uses⟩ := runs_alike
      (saved.afterAll fun move member => (before move member).admitted)
      (restarted.afterAll fun move member => (behind move member).admitted)
      bothSides found pending foundToo pendingToo delivery
    refine ⟨batch, other, after, next, runs, runsToo, ends.status.symm, ends.engine.tallies.symm,
      ends.engine.totals.symm, ends.engine.records.symm, fun ready => ?_⟩
    have served := uses.serves fun sentence given => by
      obtain ⟨analysis, member⟩ := ready sentence given.1 given.2
      exact ⟨analysis, Cache.peek?_eq_some_iff.mpr (cached ▸ List.mem_reverse.mp member)⟩
    calc
      next.cache.misses = new.cache.misses := served.2
      _ = renewed.cache.misses := congrArg Cache.misses cached
      _ = 0 := by rw [warmed, (Cache.counters_warm _ _).2]; rfl

/-- A phrase is counted in a first batch, and its analysis is saved.  On a new engine on the same store a second
batch with the same phrase makes no analysis. -/
theorem warm_start_of_counted_phrase :
    ∃ engine, Engine.onStore {} GrammarSet.adjectives ∅ .empty = .ok engine ∧
      let phrase : Sentence := ⟨7, [Phrase.old, Phrase.house], none, none⟩
      let delivery : Delivery := ⟨.ok ⟨[phrase], []⟩, .never⟩
      let session := (⟨engine, []⟩ : Session).afterAll
        [.create .all, .start engine.nextBatch, .finish 0 delivery, .create .all]
      ∃ persisted renewed,
        session.engine.persist = .ok (1, persisted) ∧
        Engine.onStore {} GrammarSet.adjectives ∅ persisted.store = .ok renewed ∧
        (Id.run (renewed.run (engine.nextBatch + 1) fun _ started => pure (delivery, started))).2.cache.misses = 0 := by
  obtain ⟨engine, opens⟩ := exists_opened 5
  refine ⟨engine, opens, ?_⟩
  intro phrase delivery session
  have reached : Reached (fun _ => True) session := (Reached.opened trivial opens).afterAll fun move _ => by
    cases move <;> trivial
  obtain ⟨relations, compiled, made⟩ := Engine.onStore_empty_eq_ok opens
  let begun := ((⟨engine, []⟩ : Session).after (.create .all)).after (.start engine.nextBatch)
  have starts : begun = _ := (⟨engine, []⟩ : Session).after_create_start .all
  have available : begun.engine.store.available = true := by rw [starts, made]; rfl
  have found : begun.runs[0]? = some ⟨(Batch.fresh engine.nextBatch .all).run engine.version, engine.relations⟩ :=
    congrArg (fun session : Session => session.runs[0]?) starts
  have unstopped : StopRequest.never.foundWithin ((⟨[phrase], []⟩ : Fetched).sentences.length + 1) = false := rfl
  obtain ⟨counted, cache, totals, counts, sums, ended⟩ := after_finish_of_unhindered found available unstopped
  have last : session = _ := congrArg (fun ran : Session => ran.after (.create .all)) ended
  rw [starts, made] at counts
  have kept : session.engine.cache.entries = [(phrase.hash, relations.analyze phrase.tokens)] := by
    have nothing : Engine.freshCache {} relations (Store.empty.withGrammars GrammarSet.adjectives) =
        Cache.empty 100000 := by
      simp [Engine.freshCache, Store.analysesOf, Store.ask, Store.withGrammars, Store.empty, Cache.warm]
    have flawless : phrase.flaw? = none := by decide
    calc
      session.engine.cache.entries = cache.entries := by rw [last]; rfl
      _ = (relations.countSharded 5 1024 (Cache.empty 100000) [phrase]).2.entries := by
        rw [← nothing]
        exact congrArg (fun counted => counted.2.entries) counts.symm
      _ = _ := relations.entries_countSharded_single 5 1024 (by decide) flawless
  have configured : session.engine.configuration = {} := by rw [last, starts, made]; rfl
  have related : session.engine.relations = relations := by rw [last, starts, made]; rfl
  have answers : session.engine.store.available = true := by rw [last, starts, made]; rfl
  have waits : session.engine.batch? (engine.nextBatch + 1) = some (.fresh (engine.nextBatch + 1) .all) := by
    rw [last, starts]
    exact Std.ExtTreeMap.getElem?_insert_self
  have stored : session.engine.store.batches[engine.nextBatch + 1]? =
      some (.fresh (engine.nextBatch + 1) .all) := by
    rw [last, starts, made]
    exact Std.ExtTreeMap.getElem?_insert_self
  have same : Engine.relationsOf session.engine.configuration GrammarSet.adjectives =
      .ok session.engine.relations := by
    rw [configured, related]
    exact compiled
  obtain ⟨-, persisted, renewed, persists, reopens, entries, waiting, alike⟩ :=
    warm_start_restores_analyses reached answers same ∅
  rw [kept] at persists entries
  rw [configured] at reopens
  obtain ⟨-, -, rfl⟩ := Engine.persist_eq_ok_iff.mp persists
  refine ⟨_, renewed, persists, reopens, ?_⟩
  obtain ⟨batch, other, after, next, -, runs, -, -, -, -, served⟩ :=
    alike [] [] (fun _ member => absurd member List.not_mem_nil) _ _ _ waits rfl (waiting _ _ stored rfl) rfl delivery
  refine (congrArg (fun ran => ran.2.cache.misses) runs).trans (served ?_)
  rintro sentence ⟨_, delivered, member⟩ -
  obtain rfl := Except.ok.inj delivered
  obtain rfl := List.mem_singleton.mp member
  exact ⟨_, entries ▸ List.mem_singleton_self _⟩

end Session
end Collocation
