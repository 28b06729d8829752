import Collocation.Proofs.Engine.Provenance
import Collocation.Proofs.Engine.Totals
import Collocation.Proofs.Tally.Append

/-!
# Samples of records

The examples of a record are a sample, and the totals that the record is made of say how long it may
be.  Totals that are summed take the length from the configuration of their engine.  But totals that a
batch is added to keep the length that they had: an engine with a smaller one than its predecessors goes
on with records that are longer than it was told to keep, until a batch that is run again, or out of
order, makes it sum the version afresh.
-/

namespace Collocation

theorem Totals.wellSampled_sum (limit : Nat) (entries : List (BatchId × Tally)) :
    (sum limit entries).tally.WellSampled limit := by
  have sampled : (Tally.sum limit (entries.map Prod.snd)).WellSampled limit :=
    List.foldlRecOn (motive := fun tally : Tally => tally.WellSampled limit) (entries.map Prod.snd) _
      (Tally.wellSampled_empty limit) fun _ sampled later _ => sampled.append later
  exact ⟨sampled.own, sampled.pairings⟩

/-- The examples of a record are a sample of its tally. -/
theorem Tally.WellSampled.record {limit : Nat} {tally : Tally} (sampled : tally.WellSampled limit)
    {version : String} {record : Record} (member : record ∈ tally.records version) :
    record.examples.Nodup ∧ record.examples.length ≤ limit := by
  obtain ⟨entry, inside, rfl⟩ := List.mem_map.mp member
  have found : tally.pairings[entry.1]? = some entry.2 :=
    Std.ExtTreeMap.mem_toList_iff_getElem?_eq_some.mp inside
  obtain ⟨distinct, bounded⟩ := sampled.pairings entry.1 entry.2 found
  exact ⟨distinct, bounded⟩

/-- The samples of totals are as long as configured, unless they go on with those of earlier totals. -/
theorem Engine.sampleLimit_of_sums {engine : Engine} {version : String} {id : BatchId} {tally : Tally}
    {totals : Totals} (sums : Sums engine version id tally totals) :
    totals.tally.sampleLimit = engine.configuration.sampleLimit ∨
      ∃ earlier, engine.store.totals[version]? = some earlier ∧
        earlier.batches.getLast?.all (· < id) = true ∧
        totals.tally.sampleLimit = earlier.tally.sampleLimit := by
  cases sums with
  | first absent => exact Or.inl (Totals.sampleLimit_sum _ _)
  | again found inside => exact Or.inl (Totals.sampleLimit_sum _ _)
  | added found last => exact Or.inr ⟨_, found, last, rfl⟩

namespace Session

/-- When a run is completed, the version has totals and records.  The examples of every record are
distinct and no more than the totals say.  That is what the configuration says, unless the batch came
after all others of the version and was added to the totals that there were: then it is what these
totals say.  In any case it is no more than the most that any configuration so far has said. -/
theorem samples_of_completed_run {longest : Nat} {session : Session}
    (reached : Reached (fun configuration => configuration.sampleLimit ≤ longest) session) {place : Nat}
    {run : Run} {delivery : Delivery} (found : session.runs[place]? = some run)
    (completed : (session.engine.finish run.relations run.batch delivery).1.status = .completed) :
    let version := run.relations.version
    let store := (session.after (.finish place delivery)).engine.store
    ∃ (totals : Totals) (groups : Table String (List Record)),
      store.totals[version]? = some totals ∧ store.records[version]? = some groups ∧
      (totals.tally.sampleLimit = session.engine.configuration.sampleLimit ∨
        ∃ earlier, session.engine.store.totals[version]? = some earlier ∧
          earlier.batches.getLast?.all (· < run.batch.id) = true ∧
          totals.tally.sampleLimit = earlier.tally.sampleLimit) ∧
      totals.tally.sampleLimit ≤ longest ∧
      ∀ (headword : String) (group : List Record) (record : Record), groups[headword]? = some group →
        record ∈ group →
          record.examples.Nodup ∧ record.examples.length ≤ totals.tally.sampleLimit := by
  intro version store
  have ending := session.engine.ending_countRun run.relations run.batch delivery
  obtain ⟨fetched, tally, totals, commits, committed⟩ := commits_of_ending found ending completed
  have stored : store = session.engine.store.withCommit
      (session.engine.commitOf run.batch version tally totals) := by
    simp only [store, after, found]
    exact committed
  have sums := Engine.sums_of_totalsWith commits.sums
  have summed : session.engine.store.Summed (· ≤ longest) := Reached.summed reached
  obtain ⟨limit, short, sum⟩ := Engine.exists_sum_of_sums reached.admitted summed sums
  refine ⟨totals, recordsByHeadword (totals.tally.records version), ?_, ?_,
    Engine.sampleLimit_of_sums sums, ?_, ?_⟩
  · rw [stored]
    exact Std.ExtTreeMap.getElem?_insert_self
  · rw [stored]
    exact Std.ExtTreeMap.getElem?_insert_self
  · rw [sum, Totals.sampleLimit_sum]
    exact short
  · intro headword group record listed member
    obtain ⟨-, rfl⟩ := getElem?_recordsByHeadword_eq_some_iff.mp listed
    have sampled := Totals.wellSampled_sum limit
      ((session.engine.store.talliesOf run.relations.version).insert run.batch.id tally).toList
    rw [← sum] at sampled
    rw [sampled.own]
    exact sampled.record (List.mem_of_mem_filter member)

/-- A first batch is completed under a configuration that keeps samples of two. -/
theorem samples_of_first_completed_run :
    ∃ engine, Engine.onStore { sampleLimit := 2 } GrammarSet.adjectives ∅ .empty = .ok engine ∧
      let fetched : Fetched := { sentences := Phrase.sentences }
      let store := ((⟨engine, []⟩ : Session).afterAll
        [.create .all, .start 1, .finish 0 ⟨.ok fetched, .never⟩]).engine.store
      ∃ (totals : Totals) (groups : Table String (List Record)),
        store.totals[engine.version]? = some totals ∧ store.records[engine.version]? = some groups ∧
        totals.tally.sampleLimit ≤ 2 ∧
        ∀ (headword : String) (group : List Record) (record : Record), groups[headword]? = some group →
          record ∈ group →
            record.examples.Nodup ∧ record.examples.length ≤ totals.tally.sampleLimit := by
  obtain ⟨engine, opens⟩ := exists_opened 2
  refine ⟨engine, opens, ?_⟩
  intro fetched store
  have number : engine.nextBatch = 1 := by
    obtain ⟨relations, -, rfl⟩ := Engine.onStore_empty_eq_ok opens
    rfl
  have answers : engine.store.available = true := Engine.available_onStore opens
  let begun : Run := ⟨(Batch.fresh 1 .all).run engine.version, engine.relations⟩
  obtain ⟨running, started⟩ : ∃ running,
      (⟨engine, []⟩ : Session).afterAll [.create .all, .start 1] = running := ⟨_, rfl⟩
  have begins := after_create_start ⟨engine, []⟩ .all
  rw [number] at begins
  have found : running.runs[0]? = some begun := by
    rw [← started]
    exact congrArg (fun session : Session => session.runs[0]?) begins
  have available : running.engine.store.available = true := by
    rw [← started]
    refine (congrArg (fun session : Session => session.engine.store.available) begins).trans ?_
    exact (Engine.sameButRow_keep _ _).available.trans ((Engine.sameButRow_keep _ _).available.trans answers)
  have reached : Reached (fun configuration => configuration.sampleLimit ≤ 2) running := by
    have opened : Reached (fun configuration => configuration.sampleLimit ≤ 2) ⟨engine, []⟩ :=
      .opened (Nat.le_refl 2) opens
    exact started ▸ opened.afterAll (by simp [Move.Admitted])
  have completed : (running.engine.finish begun.relations begun.batch ⟨.ok fetched, .never⟩).1.status =
      .completed := by
    have unstopped : StopRequest.never.foundWithin (fetched.sentences.length + 1) = false := rfl
    obtain ⟨counted, cache, totals, -, -, ended⟩ :=
      Engine.countRun_of_unhindered available unstopped begun.relations begun.batch
    simp only [Engine.finish, ended]
    rfl
  obtain ⟨totals, groups, summed, recorded, -, short, sampled⟩ :=
    samples_of_completed_run reached found completed
  have ended : store = (running.after (.finish 0 ⟨.ok fetched, .never⟩)).engine.store := by
    rw [← started]
    rfl
  exact ⟨totals, groups, ended ▸ summed, ended ▸ recorded, short, sampled⟩

/-! ## Successors -/

theorem exists_successor {session middle : Session} {tally : Tally} {totals : Totals}
    (ran : session.Ran tally totals middle) (number : session.engine.nextBatch = 1)
    (vacant : session.engine.store.batches = ∅) {configuration : Configuration} {set : GrammarSet}
    {relations : RelationSet} (accepted : set.relations configuration.tagsets = .ok relations)
    (norms : Norms) :
    ∃ successor, Engine.onStore configuration set norms middle.engine.store = .ok successor ∧
      successor.configuration = configuration ∧ successor.relations = relations ∧
      successor.nextBatch = 2 := by
  have rows := ran.rows
  have row := ran.row
  rw [number] at row rows
  have greatest : middle.engine.store.batches.maxKey? = some 1 := by
    refine Std.ExtTreeMap.maxKey?_eq_some_iff_mem_and_forall.mpr ⟨row, fun id member => ?_⟩
    by_cases same : id = 1
    · subst same
      rfl
    · rw [Std.ExtTreeMap.mem_iff_isSome_getElem?, rows id same, vacant] at member
      simp at member
  have compiled := Engine.relationsOf_eq_ok_iff.mpr accepted
  refine ⟨_, Engine.onStore_eq_ok_iff.mpr ⟨relations, compiled, ran.available, rfl⟩, rfl, rfl, ?_⟩
  rw [greatest]
  rfl

/-- An engine with another configuration succeeds between the runs of two batches: it makes the records
of totals that keep the length of samples of its predecessor. -/
theorem records_of_succession {sets : GrammarSet → Prop} {known : List Token → Prop}
    {configuration later : Configuration} {set : GrammarSet} {norms : Norms} {engine : Engine}
    {relations : RelationSet} (opens : Engine.onStore configuration set norms .empty = .ok engine)
    (accepted : set.relations configuration.tagsets = .ok relations)
    (alsoAccepted : set.relations later.tagsets = .ok relations)
    (inUse : sets set) (distinct : GrammarSet.Distinguishes sets)
    (distinguishes : ContentHash.Distinguishes known) {first second : Fetched}
    (firstFamiliar : Familiar known first.sentences) (secondFamiliar : Familiar known second.sentences) :
    let session := (⟨engine, []⟩ : Session).afterAll
      ([.create .all, .start 1, .finish 0 ⟨.ok first, .never⟩] ++ .restart later set norms ::
        [.create .all, .start 2, .finish 0 ⟨.ok second, .never⟩])
    let old := (relations.countAfresh configuration.sampleLimit first.sentences).addRejected first.rejected
    let new := (relations.countAfresh later.sampleLimit second.sentences).addRejected second.rejected
    session.engine.configuration = later ∧
      (∃ batch, session.engine.batch? 2 = some batch ∧ batch.status = .completed) ∧
      session.engine.store.records[set.version]? = some (recordsByHeadword
        (((Totals.sum configuration.sampleLimit [(1, old)]).add 2 new).tally.records set.version)) := by
  intro session old new
  let running : List Move := [.create .all, .start 1, .finish 0 ⟨.ok first, .never⟩]
  have among : ∀ move ∈ running, move.Among sets known := Move.among_new_batch firstFamiliar .all 1 .never
  have ran := ran_first_batch opens accepted inUse distinct distinguishes firstFamiliar .all
  have backed := backed_afterAll opens inUse distinct distinguishes among
  obtain ⟨middle, ended⟩ : ∃ middle, (⟨engine, []⟩ : Session).afterAll running = middle := ⟨_, rfl⟩
  rw [ended] at ran backed
  have fresh : engine.nextBatch = 1 ∧ engine.version = set.version ∧ engine.store.batches = ∅ := by
    obtain ⟨_, compiled, rfl⟩ := Engine.onStore_empty_eq_ok opens
    exact ⟨rfl, GrammarSet.version_relations (Engine.relationsOf_eq_ok_iff.mp compiled), rfl⟩
  obtain ⟨number, version, vacant⟩ := fresh
  have summed := ran.summed
  rw [version] at summed
  obtain ⟨successor, succeeds, configured, relating, next⟩ :=
    exists_successor ran number vacant alsoAccepted norms
  have succeeded : middle.after (.restart later set norms) = ⟨successor, []⟩ := by
    simp only [after, succeeds]
  have reversion : successor.version = set.version := by
    rw [Engine.version, relating, GrammarSet.version_relations accepted]
  have kept : successor.store.totals[set.version]? = some (.sum configuration.sampleLimit [(1, old)]) := by
    rw [(Engine.sameCounts_onStore succeeds).totals, summed]
    exact Std.ExtTreeMap.getElem?_insert_self
  have rebacked := backed_onStore backed.store distinct inUse succeeds
  obtain ⟨totals, sums, reran⟩ := rebacked.ran_new_batch distinguishes
    (Engine.available_onStore succeeds) secondFamiliar .all
  have reached : session = (⟨successor, []⟩ : Session).afterAll
      [.create .all, .start 2, .finish 0 ⟨.ok second, .never⟩] := by
    rw [← succeeded, ← ended]
    exact afterAll_append _ running _
  clear_value session
  simp only [next, reversion, relating, configured] at sums reran
  obtain rfl : totals = (Totals.sum configuration.sampleLimit [(1, old)]).add 2 new := by
    cases sums with
    | first absent => exact absurd (kept.symm.trans absent) (Option.some_ne_none _)
    | added found last => rw [Option.some.inj (kept.symm.trans found)]
    | again found inside =>
        obtain rfl := Option.some.inj (kept.symm.trans found)
        cases inside
  rw [← reached] at reran
  refine ⟨reran.configuration.trans configured, ?_, ?_⟩
  · have completed := reran.completed
    rwa [next] at completed
  · have records := reran.records
    rw [reversion] at records
    rw [records]
    exact Std.ExtTreeMap.getElem?_insert_self

/-- Two sentences have the same pairing, and an engine that keeps samples of two counts them.  The next
engine is to keep samples of one, and counts a third sentence: the record that it makes has both
examples of the first two. -/
theorem samples_longer_than_configured :
    ∃ engine, Engine.onStore { sampleLimit := 2 } GrammarSet.adjectives ∅ .empty = .ok engine ∧
      let phrase (id : SentenceId) : Sentence := ⟨id, [Phrase.old, Phrase.house], none, none⟩
      let first : Fetched := { sentences := [phrase 1, phrase 2] }
      let second : Fetched := { sentences := [phrase 3] }
      let session := (⟨engine, []⟩ : Session).afterAll
        ([.create .all, .start 1, .finish 0 ⟨.ok first, .never⟩] ++
          .restart { sampleLimit := 1 } GrammarSet.adjectives ∅ ::
            [.create .all, .start 2, .finish 0 ⟨.ok second, .never⟩])
      session.engine.configuration.sampleLimit = 1 ∧
        (∃ batch, session.engine.batch? 2 = some batch ∧ batch.status = .completed) ∧
        ∃ (groups : Table String (List Record)) (group : List Record) (record : Record),
          session.engine.store.records["v1"]? = some groups ∧ groups["house"]? = some group ∧
            record ∈ group ∧ record.examples = [1, 2] := by
  obtain ⟨engine, opens⟩ := exists_opened 2
  refine ⟨engine, opens, ?_⟩
  intro phrase first second session
  have reached : session = (⟨engine, []⟩ : Session).afterAll
    ([.create .all, .start 1, .finish 0 ⟨.ok first, .never⟩] ++
      .restart { sampleLimit := 1 } GrammarSet.adjectives ∅ ::
        [.create .all, .start 2, .finish 0 ⟨.ok second, .never⟩]) := rfl
  clear_value session
  have seen : (GrammarSet.adjectives.relations .empty).toOption.map (fun relations =>
      let old := (relations.countAfresh 2 first.sentences).addRejected []
      let new := (relations.countAfresh 1 second.sentences).addRejected []
      ((((Totals.sum 2 [(1, old)]).add 2 new).tally.records "v1").filter fun record =>
        record.headword = "house").map Record.examples) = some [[1, 2]] := by
    decide +kernel
  obtain ⟨relations, accepted, examples⟩ := exists_ok_of_toOption seen
  have firstFamiliar : Familiar Phrase.Listed first.sentences := by
    simp [Familiar, first, phrase, Phrase.Listed]
  have secondFamiliar : Familiar Phrase.Listed second.sentences := by
    simp [Familiar, second, phrase, Phrase.Listed]
  let sets (set : GrammarSet) : Prop := set = .adjectives
  have inUse : sets .adjectives := rfl
  have distinct : GrammarSet.Distinguishes sets := GrammarSet.distinguishes_single _
  have alsoAccepted : GrammarSet.adjectives.relations ({ sampleLimit := 1 } : Configuration).tagsets =
      .ok relations := accepted
  obtain ⟨configured, completed, records⟩ := records_of_succession opens accepted alsoAccepted inUse distinct
    Phrase.distinguishes_listed firstFamiliar secondFamiliar
  rw [← reached] at configured completed records
  obtain ⟨record, member, sample⟩ := List.mem_map.mp (examples ▸ List.mem_cons_self)
  refine ⟨congrArg Configuration.sampleLimit configured, completed, _, _, record, records, ?_, member, sample⟩
  exact getElem?_recordsByHeadword_eq_some_iff.mpr ⟨List.ne_nil_of_mem member, rfl⟩

end Session
end Collocation
