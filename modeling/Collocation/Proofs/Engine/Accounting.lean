import Collocation.Proofs.Count.Skipping
import Collocation.Proofs.Engine.Writes

/-!
# Accounting for sentences

A run that completes commits a tally that accounts for everything its source gave: every sentence is counted or left out,
and what is left out is reported in order, together with what the source rejected.
-/

namespace Collocation

/-- A tally accounts for what was fetched, having been counted with some relations and a cache. -/
structure Fetched.AccountedFor (fetched : Fetched) (relations : RelationSet) (limit : Nat) (cache : AnalysisCache)
    (tally : Tally) : Prop where
  /-- The valid sentences are counted. -/
  sentences : tally.sentences = UInt64.ofNat (fetched.sentences.countP Sentence.isValid)
  /-- All others are reported, and so is everything that was rejected. -/
  complete : fetched.sentences.countP Sentence.isValid + tally.skipped.length =
    fetched.sentences.length + fetched.rejected.length
  /-- The reports are those of the sentences that are left out and of what was rejected, in order. -/
  reported : Reported fetched.sentences fetched.rejected tally.skipped
  /-- Every count is that of the valid sentences alone. -/
  counts : tally.noting [] = (relations.count limit cache (fetched.sentences.filter Sentence.isValid)).1

variable {fetched : Fetched} {relations : RelationSet} {limit : Nat} {cache : AnalysisCache} {tally : Tally}

theorem Fetched.accountedFor_countSharded (fetched : Fetched) (relations : RelationSet) (limit size : Nat)
    (cache : AnalysisCache) :
    fetched.AccountedFor relations limit cache
      ((relations.countSharded limit size cache fetched.sentences).1.addRejected fetched.rejected) := by
  rw [relations.countSharded_eq_count]
  have reported := Tally.reported_addRejected (relations.skipped_count limit cache fetched.sentences) fetched.rejected
  refine ⟨relations.sentences_count limit cache fetched.sentences, ?_, reported, ?_⟩
  · rw [reported.perm.length_eq, List.length_append, ← Nat.add_assoc, countP_isValid_add_length_leftOut]
  · rw [relations.count_filter_isValid]
    rfl

theorem Fetched.AccountedFor.toNat_sentences (accounted : fetched.AccountedFor relations limit cache tally)
    (few : fetched.sentences.length < UInt64.size) :
    tally.sentences.toNat + tally.skipped.length = fetched.sentences.length + fetched.rejected.length := by
  have below := Nat.lt_of_le_of_lt (List.countP_le_length (p := Sentence.isValid)) few
  rw [accounted.sentences, UInt64.toNat_ofNat_of_lt' below, accounted.complete]

theorem Tally.report_eq (tally : Tally) :
    tally.report = if tally.skipped = [] then none else some ⟨tally.skipped.map Skipped.id, none⟩ := by
  rw [report]
  simp only [List.isEmpty_iff]

/-! ## Runs -/

namespace Engine

theorem start_and_finish_of_run {engine : Engine} {id : BatchId} {deliver : Batch → Engine → Id (Delivery × Engine)}
    {batch : Batch} {after : Engine} (runs : (engine.run id deliver).run = (.ok batch, after)) :
    ∃ begun started, engine.start id = .ok (begun, started) ∧
      let asked := (deliver begun started).run
      asked.2.finish engine.relations begun asked.1 = (batch, after) := by
  cases starts : engine.start id with
  | error cause =>
      simp only [run, starts] at runs
      cases runs
  | ok start =>
      obtain ⟨begun, started⟩ := start
      obtain ⟨waiting, found, pending, rfl, rfl⟩ := start_eq_ok_iff.mp starts
      rw [run_of_pending found pending deliver, Prod.mk.injEq, Except.ok.injEq] at runs
      exact ⟨_, _, rfl, Prod.ext runs.1 runs.2⟩

/-- What a run commits under its version accounts for what was fetched, and the batch says what is reported. -/
theorem accountedFor_of_finish {engine after : Engine} {relations : RelationSet} {begun batch : Batch}
    {delivery : Delivery} (ends : engine.finish relations begun delivery = (batch, after))
    (completed : batch.status = .completed) :
    ∃ fetched tally, delivery.fetched = .ok fetched ∧
      (after.store.talliesOf relations.version)[begun.id]? = some tally ∧
      fetched.AccountedFor relations engine.configuration.sampleLimit engine.cache tally ∧
      batch.report = tally.report ∧ after.store.batches[begun.id]? = some batch := by
  have ending := engine.ending_countRun relations begun delivery
  rw [finish] at ends
  generalize engine.countRun relations begun delivery = ended at ends ending
  obtain ⟨rfl, rfl⟩ := Prod.mk.inj ends
  cases ending with
  | failed => cases completed
  | @completed fetched counted cache totals delivered unstopped counts available sums =>
      have accounted := fetched.accountedFor_countSharded relations engine.configuration.sampleLimit
        engine.configuration.shardSize engine.cache
      rw [counts] at accounted
      refine ⟨fetched, _, delivered, ?_, accounted, rfl, Std.ExtTreeMap.getElem?_insert_self⟩
      exact (congrArg (fun tallies : Table BatchId Tally => tallies[begun.id]?)
        (Store.talliesOf_withCommit_self engine.store _)).trans Std.ExtTreeMap.getElem?_insert_self

end Engine

namespace Session

/-- A run that ends completed has committed a tally that accounts for everything that its source gave, whatever happened
while the source was asked.  The sentences and the reports of the tally are as many as what was fetched; the reports are
those of all sentences that are left out, each with its flaw, and of all that was rejected, in the order of their numbers;
nothing but the other sentences is counted; and the batch reports what the tally does, or nothing if there is nothing to
report. -/
theorem every_sentence_is_accounted_for {admits : Configuration → Prop} {session : Session}
    (reached : Reached admits session) {id : BatchId} {deliver : Batch → Engine → Id (Delivery × Engine)} {batch : Batch}
    {after : Engine} (runs : (session.engine.run id deliver).run = (.ok batch, after))
    (completed : batch.status = .completed) :
    ∃ (begun : Batch) (started : Engine) (fetched : Fetched) (tally : Tally),
      session.engine.start id = .ok (begun, started) ∧
      let delivery := (deliver begun started).run.1
      let later := (deliver begun started).run.2
      delivery.fetched = .ok fetched ∧ (after.store.talliesOf session.engine.version)[id]? = some tally ∧
        fetched.AccountedFor session.engine.relations later.configuration.sampleLimit later.cache tally ∧
        (fetched.sentences.length < UInt64.size →
          tally.sentences.toNat + tally.skipped.length = fetched.sentences.length + fetched.rejected.length) ∧
        (∀ sentence reason, Sentence.flaw? sentence = some reason ↔ sentence.FlawedBy reason) ∧
        batch.report = (if tally.skipped = [] then none else some ⟨tally.skipped.map Skipped.id, none⟩) ∧
        after.store.batches[id]? = some batch := by
  obtain ⟨begun, started, starts, ends⟩ := Engine.start_and_finish_of_run runs
  obtain ⟨waiting, found, pending, rfl, -⟩ := Engine.start_eq_ok_iff.mp starts
  obtain rfl : waiting.id = id := reached.hasKeyedRows.batches id waiting found
  obtain ⟨fetched, tally, delivered, stored, accounted, reports, kept⟩ := Engine.accountedFor_of_finish ends completed
  exact ⟨_, started, fetched, tally, starts, delivered, stored, accounted, accounted.toNat_sentences,
    fun _ _ => Sentence.flaw?_eq_some_iff, reports.trans tally.report_eq, kept⟩

/-- Of three sentences one is counted.  One of the others has the number of a rejected one, and is reported before it. -/
theorem every_sentence_is_accounted_for_of_flawed :
    ∃ engine, Engine.onStore {} GrammarSet.adjectives ∅ .empty = .ok engine ∧
      let unnamed : Sentence := ⟨3, [{ Phrase.house with base := "_" }], none, none⟩
      let untagged : Sentence := ⟨7, [Phrase.old, { Phrase.house with tag := " " }], none, none⟩
      let fetched : Fetched :=
        { sentences := [⟨7, [Phrase.old, Phrase.house], none, none⟩, untagged, unnamed]
          rejected := [⟨3, .malformed "cut short"⟩] }
      let session := (⟨engine, []⟩ : Session).after (.create .all)
      let deliver (_ : Batch) (started : Engine) : Id (Delivery × Engine) := pure (⟨.ok fetched, .never⟩, started)
      ∃ batch after tally, (session.engine.run engine.nextBatch deliver).run = (.ok batch, after) ∧
        batch.status = .completed ∧
        (after.store.talliesOf session.engine.version)[engine.nextBatch]? = some tally ∧
        tally.sentences = 1 ∧ tally.sentences.toNat + tally.skipped.length = 4 ∧
        (tally.skipped.filter fun skipped => skipped.id = 3) = [⟨3, .missingBase 0⟩, ⟨3, .malformed "cut short"⟩] ∧
        (tally.skipped.filter fun skipped => skipped.id = 7) = [⟨7, .missingTag 1⟩] ∧
        batch.report = some ⟨tally.skipped.map Skipped.id, none⟩ := by
  obtain ⟨engine, opens⟩ := exists_opened 5
  refine ⟨engine, opens, ?_⟩
  intro unnamed untagged fetched session deliver
  have reached : Reached (fun _ => True) session :=
    (Reached.opened trivial opens).after (.create .all) trivial
  have found : session.engine.batch? engine.nextBatch = some (Batch.fresh engine.nextBatch .all) := by
    simp [session, Session.after, Engine.create, Engine.keep, Engine.batch?, Batch.fresh]
  have runs := Engine.run_of_pending found rfl deliver
  let begun := (Batch.fresh engine.nextBatch .all).run session.engine.version
  let started := { session.engine with running := session.engine.running + 1 }.keep begun
  have answers : engine.store.available = true := Engine.available_onStore opens
  have available : started.store.available = true :=
    (Engine.sameButRow_keep _ _).available.trans ((Engine.sameButRow_keep _ _).available.trans answers)
  have completed : (started.finish session.engine.relations begun ⟨.ok fetched, .never⟩).1.status = .completed := by
    have unstopped : StopRequest.never.foundWithin (fetched.sentences.length + 1) = false := rfl
    obtain ⟨counted, cache, totals, -, -, ended⟩ :=
      Engine.countRun_of_unhindered available unstopped session.engine.relations begun
    simp only [Engine.finish, ended]
    rfl
  obtain ⟨_, _, given, tally, starts, delivered, stored, accounted, complete, -, reports, -⟩ :=
    every_sentence_is_accounted_for reached runs completed
  cases delivered
  have notes : leftOut fetched.sentences = [⟨7, .missingTag 1⟩, ⟨3, .missingBase 0⟩] := by decide +kernel
  have three := accounted.reported.stable 3
  have seven := accounted.reported.stable 7
  rw [notes] at three seven
  have some_reported : tally.skipped ≠ [] := fun nothing => by
    rw [nothing] at three
    exact absurd three (by decide)
  rw [if_neg some_reported] at reports
  have one : fetched.sentences.countP Sentence.isValid = 1 := by decide +kernel
  have counted := accounted.sentences
  rw [one] at counted
  exact ⟨_, _, tally, runs, completed, stored, counted, complete (by decide), three, seven, reports⟩

end Session
end Collocation
