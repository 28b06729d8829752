import Collocation.Proofs.Engine.Provenance
import Collocation.Proofs.Engine.Totals

/-!
# Results without history

The tallies of a version are those of the sentences that were fetched when its batches were last completed,
counted as if nothing was kept, and all other results of the version are made of its tallies.  So two sessions
in which the last completions agree have the same results, whatever else happened in them.
-/

namespace Collocation

/-- A tally is that of what a source gave, counted with the relations of a grammar set. -/
def GrammarSet.Counts (set : GrammarSet) (limit : Nat) (fetched : Fetched) (tally : Tally) : Prop :=
  ∃ tagsets relations, set.relations tagsets = .ok relations ∧
    tally = (relations.countAfresh limit fetched.sentences).addRejected fetched.rejected

theorem GrammarSet.Counts.unique {set : GrammarSet} {limit : Nat} {fetched : Fetched}
    {tally other : Tally} (counts : set.Counts limit fetched tally)
    (also : set.Counts limit fetched other) : tally = other := by
  obtain ⟨tagsets, relations, accepted, rfl⟩ := counts
  obtain ⟨tagsets', relations', accepted', rfl⟩ := also
  rw [relations_unique accepted accepted']

/-! ## Accounts of a store -/

namespace Store

/-- The tallies of the version of a grammar set are those of what was fetched for its batches. -/
def Accounts (set : GrammarSet) (limit : Nat) (last : Table BatchId Fetched) (store : Store) : Prop :=
  ∀ (id : BatchId) (tally : Tally), (store.talliesOf set.version)[id]? = some tally ↔
    ∃ fetched : Fetched, last[id]? = some fetched ∧ set.Counts limit fetched tally

namespace Accounts

variable {set : GrammarSet} {limit : Nat} {last : Table BatchId Fetched} {store : Store}

theorem empty : Accounts set limit ∅ .empty := by
  intro id tally
  simp [Store.empty, talliesOf]

theorem of_sameCounts {later : Store} (accounts : store.Accounts set limit last)
    (same : store.SameCounts later) : later.Accounts set limit last := by
  intro id tally
  rw [talliesOf, same.tallies]
  exact accounts id tally

theorem withCommit_of_ne {commit : Commit} (accounts : store.Accounts set limit last)
    (apart : commit.version ≠ set.version) : (store.withCommit commit).Accounts set limit last := by
  intro id tally
  rw [talliesOf_withCommit_of_ne store apart]
  exact accounts id tally

theorem withCommit {commit : Commit} {fetched : Fetched} (accounts : store.Accounts set limit last)
    (same : commit.version = set.version) (counts : set.Counts limit fetched commit.tally) :
    (store.withCommit commit).Accounts set limit (last.insert commit.batch.id fetched) := by
  intro id tally
  rw [← same, talliesOf_withCommit_self, same]
  by_cases own : commit.batch.id = id
  · subst own
    simp only [Std.ExtTreeMap.getElem?_insert_self, Option.some.injEq]
    constructor
    · rintro rfl
      exact ⟨fetched, rfl, counts⟩
    · rintro ⟨_, rfl, also⟩
      exact counts.unique also
  · rw [Table.getElem?_insert_of_ne own, Table.getElem?_insert_of_ne own]
    exact accounts id tally

theorem talliesOf_eq {other : Store} (accounts : store.Accounts set limit last)
    (others : other.Accounts set limit last) :
    store.talliesOf set.version = other.talliesOf set.version :=
  Std.ExtTreeMap.ext_getElem? fun id =>
    Option.ext fun tally => (accounts id tally).trans (others id tally).symm

end Accounts
end Store

/-! ## Last completions -/

namespace Session

/-- The batch that a move completes under a version, with what its source gave. -/
def completion? (session : Session) (version : String) : Move → Option (BatchId × Fetched)
  | .finish place delivery => do
      let run ← session.runs[place]?
      let fetched ← delivery.fetched.toOption
      let (ended, _) := session.engine.finish run.relations run.batch delivery
      if ended.status = .completed ∧ ended.version = some version then some (ended.id, fetched) else none
  | _ => none

/-- A completion takes the place of the one that its batch had before. -/
def noting (last : Table BatchId Fetched) : Option (BatchId × Fetched) → Table BatchId Fetched
  | none => last
  | some (id, fetched) => last.insert id fetched

/-- A session that moves lead to from an engine on an empty store, with what was fetched for every batch that
was ever completed under a version when it was completed last.  The moves may be any, as long as they bring in
only configurations that keep samples of one length, grammar sets in use, and sentences of known tokens. -/
inductive Traced (limit : Nat) (sets : GrammarSet → Prop) (known : List Token → Prop) (version : String) :
    Session → Table BatchId Fetched → Prop where
  /-- An engine opened on an empty store. -/
  | opened {configuration : Configuration} {set : GrammarSet} {norms : Norms} {engine : Engine}
      (sampled : configuration.sampleLimit = limit) (inUse : sets set)
      (opens : Engine.onStore configuration set norms .empty = .ok engine) :
      Traced limit sets known version ⟨engine, []⟩ ∅
  /-- A session after one more move. -/
  | after {session : Session} {last : Table BatchId Fetched}
      (traced : Traced limit sets known version session last) (move : Move)
      (within : move.Within limit sets known) :
      Traced limit sets known version (session.after move)
        (noting last (session.completion? version move))

variable {limit : Nat} {sets : GrammarSet → Prop} {known : List Token → Prop} {session : Session}
  {version : String} {last : Table BatchId Fetched}

theorem completion?_finish {place : Nat} {run : Run} {delivery : Delivery} {ended : Batch × Engine}
    (found : session.runs[place]? = some run)
    (counted : session.engine.countRun run.relations run.batch delivery = ended) :
    session.completion? version (.finish place delivery) =
      delivery.fetched.toOption.bind fun fetched =>
        if ended.1.status = .completed ∧ run.batch.version = some version then some (run.batch.id, fetched)
        else none := by
  subst counted
  obtain ⟨named, versioned, -⟩ := (session.engine.ending_countRun run.relations run.batch delivery).final
  rw [← named, ← versioned, completion?, found]
  rfl

theorem completion?_of_failed {place : Nat} {run : Run} {delivery : Delivery} {ended : Batch × Engine}
    (found : session.runs[place]? = some run)
    (counted : session.engine.countRun run.relations run.batch delivery = ended)
    (failed : ended.1.status = .failed) : session.completion? version (.finish place delivery) = none := by
  rw [completion?_finish found counted, failed]
  cases delivery.fetched <;> rfl

theorem completion?_of_completed {place : Nat} {run : Run} {delivery : Delivery} {fetched : Fetched}
    {ended : Batch × Engine} (found : session.runs[place]? = some run)
    (counted : session.engine.countRun run.relations run.batch delivery = ended)
    (delivered : delivery.fetched = .ok fetched) (completed : ended.1.status = .completed) :
    session.completion? version (.finish place delivery) =
      if run.batch.version = some version then some (run.batch.id, fetched) else none := by
  rw [completion?_finish found counted, delivered]
  simp only [Except.toOption, Option.bind_some, completed, true_and]

theorem exists_delivery_of_completion? {move : Move} {id : BatchId} {fetched : Fetched}
    (completed : session.completion? version move = some (id, fetched)) :
    ∃ place delivery, move = .finish place delivery ∧ delivery.fetched = .ok fetched := by
  cases move with
  | finish place delivery =>
      refine ⟨place, delivery, rfl, ?_⟩
      cases found : session.runs[place]? with
      | none => simp [completion?, found] at completed
      | some run =>
          rw [completion?_finish found rfl] at completed
          cases delivered : delivery.fetched with
          | error cause => simp [delivered, Except.toOption] at completed
          | ok given =>
              simp only [delivered, Except.toOption, Option.bind_some] at completed
              split at completed
              · cases completed
                rfl
              · cases completed
  | _ => cases completed

theorem completion?_of_unhindered {place : Nat} {run : Run} {fetched : Fetched} {stop : StopRequest}
    (found : session.runs[place]? = some run) (started : run.batch.version = some version)
    (available : session.engine.store.available = true)
    (unstopped : stop.foundWithin (fetched.sentences.length + 1) = false) :
    session.completion? version (.finish place ⟨.ok fetched, stop⟩) = some (run.batch.id, fetched) := by
  obtain ⟨counted, cache, totals, -, -, ended⟩ :=
    Engine.countRun_of_unhindered available unstopped run.relations run.batch
  exact (completion?_of_completed found ended rfl rfl).trans (if_pos started)

theorem exists_final_of_finish {place : Nat} {run : Run} (found : session.runs[place]? = some run)
    (delivery : Delivery) :
    ∃ batch, (session.after (.finish place delivery)).engine.batch? run.batch.id = some batch ∧
      batch.status.isFinal = true := by
  have ending := session.engine.ending_countRun run.relations run.batch delivery
  obtain ⟨-, -, final⟩ := ending.final
  refine ⟨(session.engine.countRun run.relations run.batch delivery).1, ?_, ?_⟩
  · simp only [after, found, Engine.finish]
    rw [ending.keeps]
    exact Std.ExtTreeMap.getElem?_insert_self
  · rcases final with completed | failed
    · rw [completed]
      rfl
    · rw [failed]
      rfl

theorem noting_completion?_of_same {place : Nat} {run : Run} {fetched : Fetched}
    (found : session.runs[place]? = some run) (same : last[run.batch.id]? = some fetched)
    (stop : StopRequest) :
    noting last (session.completion? version (.finish place ⟨.ok fetched, stop⟩)) = last := by
  rw [completion?_finish found rfl]
  simp only [Except.toOption, Option.bind_some]
  split
  · refine Std.ExtTreeMap.ext_getElem? fun id => ?_
    by_cases own : run.batch.id = id
    · rw [← own, same]
      exact Std.ExtTreeMap.getElem?_insert_self
    · exact Table.getElem?_insert_of_ne own fetched
  · rfl

/-- The end of a run commits the tally of what was fetched, unless the run failed or had other grammars. -/
theorem accounts_ended {set : GrammarSet} {place : Nat} {run : Run} {delivery : Delivery}
    {ended : Batch × Engine} (accounts : session.engine.store.Accounts set limit last)
    (only : ∀ other, sets other → other.version = set.version → other = set)
    (distinguishes : ContentHash.Distinguishes known) (backed : session.Backed sets known)
    (steady : session.Steady) (sampled : session.engine.configuration.sampleLimit = limit)
    (within : ∀ sentence, delivery.Gives sentence → known sentence.tokens)
    (found : session.runs[place]? = some run)
    (ending : Engine.Ending session.engine run.relations run.batch delivery ended)
    (counted : session.engine.countRun run.relations run.batch delivery = ended) :
    ended.2.store.Accounts set limit
      (noting last (session.completion? set.version (.finish place delivery))) := by
  have member := List.mem_of_getElem? found
  have started := steady.version run member
  have own := steady.relations run member
  obtain ⟨batch, relations⟩ := run
  dsimp only at own started
  subst own
  cases ending with
  | @failed cache skipped failure hindered =>
      rw [completion?_of_failed found counted rfl]
      have same := Engine.sameButRow_failRun { session.engine with cache } batch skipped failure
      exact accounts.of_sameCounts same.toSameCounts
  | @completed fetched tally cache totals delivered unstopped counts available sums =>
      rw [completion?_of_completed found counted delivered rfl]
      obtain ⟨used, tagsets, inUse, accepted⟩ := backed.relations
      by_cases same : session.engine.version = set.version
      · obtain rfl := only used inUse ((GrammarSet.version_relations accepted).symm.trans same)
        have afresh := backed.cache.countSharded distinguishes
          (fun sentence member => within sentence ⟨fetched, delivered, member⟩) limit
          session.engine.configuration.shardSize
        rw [sampled] at counts
        rw [counts] at afresh
        rw [if_pos (started.trans (congrArg some same))]
        refine accounts.withCommit same ⟨tagsets, _, accepted, ?_⟩
        exact congrArg (fun counted => counted.addRejected fetched.rejected) afresh
      · rw [if_neg fun here => same (Option.some.inj (started.symm.trans here))]
        exact accounts.withCommit_of_ne same

namespace Traced

theorem reached (traced : Traced limit sets known version session last) :
    Reached (fun configuration => configuration.sampleLimit = limit) session := by
  induction traced with
  | opened sampled inUse opens => exact .opened sampled opens
  | after traced move within reached => exact reached.after move within.admitted

theorem backed (traced : Traced limit sets known version session last)
    (distinct : GrammarSet.Distinguishes sets) (distinguishes : ContentHash.Distinguishes known) :
    session.Backed sets known := by
  induction traced with
  | opened sampled inUse opens => exact backed_onStore Store.backed_empty distinct inUse opens
  | after traced move within backed =>
      exact backed.step distinct distinguishes traced.reached.steady within.among
        (step_after _ within.admitted)

theorem afterAll (traced : Traced limit sets known version session last) {moves : List Move}
    (within : ∀ move ∈ moves, move.Within limit sets known)
    (nothing : ∀ move ∈ moves, ∀ session : Session, session.completion? version move = none) :
    Traced limit sets known version (session.afterAll moves) last := by
  induction moves generalizing session with
  | nil => exact traced
  | cons move moves induction =>
      have next := traced.after move (within move List.mem_cons_self)
      rw [nothing move List.mem_cons_self session] at next
      exact induction next (fun other member => within other (List.mem_cons_of_mem move member))
        fun other member => nothing other (List.mem_cons_of_mem move member)

theorem familiar (traced : Traced limit sets known version session last) {id : BatchId}
    {fetched : Fetched} (logged : last[id]? = some fetched) : Familiar known fetched.sentences := by
  induction traced with
  | opened => simp at logged
  | @after session last traced move within familiar =>
      cases completed : session.completion? version move with
      | none =>
          rw [completed] at logged
          exact familiar logged
      | some entry =>
          obtain ⟨place, delivery, rfl, delivered⟩ := exists_delivery_of_completion? completed
          rw [completed, noting] at logged
          rcases Table.of_getElem?_insert_eq_some logged with ⟨-, rfl⟩ | ⟨-, earlier⟩
          · exact fun sentence member => within sentence ⟨_, delivered, member⟩
          · exact familiar earlier

/-- The tallies of the version of a grammar set are those of what was fetched for its batches, counted as if
nothing was kept. -/
theorem accounts {set : GrammarSet} (traced : Traced limit sets known set.version session last)
    (only : ∀ other, sets other → other.version = set.version → other = set)
    (distinct : GrammarSet.Distinguishes sets) (distinguishes : ContentHash.Distinguishes known) :
    session.engine.store.Accounts set limit last := by
  induction traced with
  | opened sampled inUse opens =>
      exact Store.Accounts.empty.of_sameCounts (Engine.sameCounts_onStore opens)
  | @after session last traced move within accounts =>
      have step := session.step_after within.admitted
      cases move with
      | finish place delivery =>
          cases found : session.runs[place]? with
          | none =>
              simp only [Session.after, completion?, found]
              exact accounts
          | some run =>
              have ended := accounts_ended accounts only distinguishes
                (traced.backed distinct distinguishes) traced.reached.steady traced.reached.admitted
                within found (session.engine.ending_countRun _ _ delivery) rfl
              simp only [Session.after, found]
              exact ended
      | create | start | requeue | reload | activate | persist | setAvailable | restart =>
          rcases sameCounts_or_commit step with same | ⟨_, _, _, _, commits, -⟩
          · exact accounts.of_sameCounts same
          · obtain ⟨_, _, finishes, -⟩ := commits.ends
            cases finishes

/-- A batch that ended can be run again.  If its source gives what it gave for the last completion, then that
is still what was fetched last. -/
theorem rerun (traced : Traced limit sets known version session last) {id : BatchId} {batch : Batch}
    (found : session.engine.batch? id = some batch) (final : batch.status.isFinal = true)
    {fetched : Fetched} (logged : last[id]? = some fetched) (stop : StopRequest) :
    Traced limit sets known version
      (session.afterAll [.requeue id, .start id, .finish 0 ⟨.ok fetched, stop⟩]) last := by
  let waiting := Batch.fresh id batch.selection
  let kept := session.engine.keep waiting
  have requeues : session.engine.requeue id = .ok (waiting, kept) :=
    Engine.requeue_eq_ok_iff.mpr ⟨batch, found, final, rfl, rfl⟩
  have waits : kept.batch? id = some waiting := Std.ExtTreeMap.getElem?_insert_self
  have starts := Engine.start_eq_ok_iff.mpr ⟨waiting, waits, rfl, rfl, rfl⟩
  have begun : ((session.after (.requeue id)).after (.start id)).runs[0]? =
      some ⟨waiting.run kept.version, kept.relations⟩ := by
    simp only [Session.after, requeues, Except.map, Engine.orSame, starts]
    rfl
  have within : (Move.finish 0 ⟨.ok fetched, stop⟩).Within limit sets known := by
    rintro sentence ⟨given, delivered, member⟩
    cases delivered
    exact traced.familiar logged sentence member
  have again : Traced limit sets known version ((session.after (.requeue id)).after (.start id)) last :=
    (traced.after (.requeue id) trivial).after (.start id) trivial
  have ended := again.after _ within
  rwa [noting_completion?_of_same begun logged stop] at ended

end Traced

/-! ## Results -/

/-- Two sessions have the same tallies, totals and records of a version.  The sketches of the version that
their stores give are the same too, unless only one of the stores answers; so are those that their engines
give, if both have the version. -/
structure SameResults (version : String) (first second : Session) : Prop where
  tallies : first.engine.store.talliesOf version = second.engine.store.talliesOf version
  totals : first.engine.store.totals[version]? = second.engine.store.totals[version]?
  records : first.engine.store.records[version]? = second.engine.store.records[version]?
  stored : first.engine.store.available = second.engine.store.available → ∀ query,
    first.engine.store.sketch version query = second.engine.store.sketch version query
  asked : first.engine.version = version → second.engine.version = version →
    first.engine.store.available = second.engine.store.available → ∀ query,
      first.engine.sketch query = second.engine.sketch query

theorem sameResults_of_talliesOf_eq {first second : Session}
    (reached : Reached (fun configuration => configuration.sampleLimit = limit) first)
    (also : Reached (fun configuration => configuration.sampleLimit = limit) second)
    (tallies : first.engine.store.talliesOf version = second.engine.store.talliesOf version) :
    SameResults version first second := by
  have totals : first.engine.store.totals[version]? = second.engine.store.totals[version]? := by
    rw [reached.balanced.totals, also.balanced.totals, tallies]
  have records : first.engine.store.records[version]? = second.engine.store.records[version]? := by
    rw [reached.balanced.records, also.balanced.records, totals]
  have stored (same : first.engine.store.available = second.engine.store.available) (query : Query) :
      first.engine.store.sketch version query = second.engine.store.sketch version query := by
    simp only [Store.sketch, Store.recordsOf, Store.ask, same, records]
  refine ⟨tallies, totals, records, stored, fun here there same query => ?_⟩
  rw [Engine.sketch, Engine.sketch, here, there, stored same query]

/-- Two sessions in which the same was fetched when each batch was last completed under the version of a
grammar set have the same results under this version, whatever else happened in them: in whatever order the
batches ran and how often, whatever runs failed or were interrupted, whatever was kept in caches or saved, and
whatever was done under other versions.  In particular, a batch that ended and is run again on the same
sentences changes no result. -/
theorem results_of_last_completions {limit : Nat} {set : GrammarSet} {sets : GrammarSet → Prop}
    {known : List Token → Prop}
    (only : ∀ other, sets other → other.version = set.version → other = set)
    (distinct : GrammarSet.Distinguishes sets) (distinguishes : ContentHash.Distinguishes known)
    {session : Session} {last : Table BatchId Fetched}
    (traced : Traced limit sets known set.version session last) :
    (∀ other, Traced limit sets known set.version other last →
      SameResults set.version session other) ∧
    ∀ (id : BatchId) (batch : Batch) (fetched : Fetched), session.engine.batch? id = some batch →
      batch.status.isFinal = true → last[id]? = some fetched → ∀ stop,
        SameResults set.version session
          (session.afterAll [.requeue id, .start id, .finish 0 ⟨.ok fetched, stop⟩]) := by
  have same (other : Session) (also : Traced limit sets known set.version other last) :
      SameResults set.version session other :=
    sameResults_of_talliesOf_eq traced.reached also.reached
      ((traced.accounts only distinct distinguishes).talliesOf_eq
        (also.accounts only distinct distinguishes))
  exact ⟨same, fun id batch fetched found final logged stop =>
    same _ (traced.rerun found final logged stop)⟩

/-- A first batch is completed.  It is then run again, but the first time the engine goes away meanwhile, and
the second time the source gives nothing; or it is run again on the same sentences. -/
theorem results_of_interrupted_rerun :
    ∃ engine, Engine.onStore { sampleLimit := 1 } GrammarSet.adjectives ∅ .empty = .ok engine ∧
      let id := engine.nextBatch
      let delivery : Delivery := ⟨.ok { sentences := Phrase.sentences }, .never⟩
      let session := (⟨engine, []⟩ : Session).afterAll
        [.create .all, .start id, .setAvailable false, .setAvailable true, .finish 0 delivery]
      (∃ tally, (session.engine.store.talliesOf "v1")[id]? = some tally) ∧
      SameResults "v1" session (session.afterAll
        [.persist, .requeue id, .start id,
          .restart { sampleLimit := 1, cacheCapacity := 0 } GrammarSet.adjectives ∅, .requeue id, .start id,
          .finish 0 ⟨.error (.unavailable "no corpus"), .never⟩]) ∧
      SameResults "v1" session (session.afterAll [.requeue id, .start id, .finish 0 delivery]) := by
  obtain ⟨engine, opens⟩ := exists_opened 1
  obtain ⟨relations, compiled, -, made⟩ := Engine.onStore_eq_ok_iff.mp opens
  have accepted := Engine.relationsOf_eq_ok_iff.mp compiled
  refine ⟨engine, opens, ?_⟩
  intro id delivery session
  let sets : GrammarSet → Prop := fun set => set = .adjectives
  have only : ∀ other, sets other → other.version = GrammarSet.adjectives.version →
      other = .adjectives := fun _ same _ => same
  have distinct : GrammarSet.Distinguishes sets := GrammarSet.distinguishes_single _
  have within : (Move.finish 0 delivery).Within 1 sets Phrase.Listed := by
    rintro sentence ⟨fetched, delivered, member⟩
    cases delivered
    exact Phrase.familiar_sentences sentence member
  let running := (⟨engine, []⟩ : Session).afterAll
    [.create .all, .start id, .setAvailable false, .setAvailable true]
  have runs : running.runs = [⟨(Batch.fresh id .all).run engine.version, engine.relations⟩] :=
    runs_create_start ⟨engine, []⟩ .all
  have begun : running.runs[0]? = some ⟨(Batch.fresh id .all).run engine.version, engine.relations⟩ := by
    rw [runs]
    rfl
  have version : some engine.version = some GrammarSet.adjectives.version := by
    rw [made, ← GrammarSet.version_relations accepted]
    rfl
  have opened : Traced 1 sets Phrase.Listed GrammarSet.adjectives.version ⟨engine, []⟩ ∅ :=
    .opened rfl rfl opens
  have quiet : Traced 1 sets Phrase.Listed GrammarSet.adjectives.version running ∅ :=
    opened.afterAll (by simp [Move.Within]) (by simp [completion?])
  have completed : running.completion? GrammarSet.adjectives.version (.finish 0 delivery) =
      some (id, { sentences := Phrase.sentences }) :=
    completion?_of_unhindered begun version rfl rfl
  have traced := quiet.after (.finish 0 delivery) within
  rw [completed] at traced
  have ran : running.after (.finish 0 delivery) = session :=
    (afterAll_concat _ [.create .all, .start id, .setAvailable false, .setAvailable true] _).symm
  obtain ⟨batch, row, final⟩ := exists_final_of_finish begun delivery
  rw [ran] at traced row
  obtain ⟨same, again⟩ := results_of_last_completions only distinct Phrase.distinguishes_listed traced
  have logged : (noting ∅ (some (id, { sentences := Phrase.sentences })))[id]? =
      some { sentences := Phrase.sentences } := Std.ExtTreeMap.getElem?_insert_self
  have accounts := traced.accounts only distinct Phrase.distinguishes_listed
  refine ⟨⟨_, (accounts id _).mpr ⟨_, logged, _, relations, accepted, rfl⟩⟩,
    same _ (traced.afterAll ?_ ?_), again id batch _ row final logged .never⟩
  · simp [Move.Within, Delivery.Gives, sets]
  · simp [completion?, Except.toOption]

end Session
end Collocation
