import Collocation.Proofs.Count.Sightings
import Collocation.Proofs.Engine.Provenance
import Collocation.Proofs.Engine.Totals
import Collocation.Proofs.Score.Ranking

/-!
# Sketches of an engine

The store groups the records of a version by headword when a batch is committed, and a sketch is made of one group.  It is
the same as if all records of the totals were ranked: a group has every record of its headword, in their order, and no
other.
-/

namespace Collocation

namespace Store

/-- All records of a version: those of its totals, if it has any. -/
def allRecords (store : Store) (version : String) : List Record :=
  match store.totals[version]? with
  | none => []
  | some totals => totals.tally.records version

theorem allRecords_of_totals {store : Store} {version : String} {totals : Totals}
    (found : store.totals[version]? = some totals) : store.allRecords version = totals.tally.records version := by
  rw [allRecords, found]

theorem nodup_map_key_allRecords (store : Store) (version : String) :
    ((store.allRecords version).map Record.key).Nodup := by
  rw [allRecords]
  split
  · exact List.nodup_nil
  · next totals _ => exact totals.tally.nodup_map_key_records version

variable {admits : Nat → Prop} {store : Store}

/-- The group of a headword has the records of the headword, and no group means that there are none. -/
theorem getD_recordsByHeadword (records : List Record) (headword : String) :
    (recordsByHeadword records)[headword]?.getD [] = records.filter fun record => record.headword = headword := by
  cases grouped : (recordsByHeadword records)[headword]? with
  | some group => exact (getElem?_recordsByHeadword_eq_some_iff.mp grouped).2
  | none =>
      refine (Decidable.byContradiction fun missing => ?_ : _ = []).symm
      have found := getElem?_recordsByHeadword_eq_some_iff.mpr ⟨missing, rfl⟩
      rw [found] at grouped
      cases grouped

theorem Summed.getD_records (summed : store.Summed admits) (version headword : String) :
    (store.records[version]?.bind (·[headword]?)).getD [] =
      (store.allRecords version).filter fun record => record.headword = headword := by
  rw [summed.records version, allRecords]
  cases store.totals[version]? with
  | none => rfl
  | some totals => exact getD_recordsByHeadword _ headword

/-- A sketch ranks all records of the version. -/
theorem Summed.sketch (summed : store.Summed admits) (version : String) (query : Query) :
    store.sketch version query =
      if store.available then .ok (query.rank (store.allRecords version)) else .error .offline := by
  rw [Store.sketch, recordsOf, ask]
  split
  · rw [summed.getD_records, Except.map, Query.rank_filter_headword]
  · rfl

end Store

namespace Session

/-- Records with distinct keys have one ranking, however they are listed: those that a query asks for, and no others, each
before all that come after it.  Every sketch is the beginning of it, as long as its limit says.  And in every session the
sketch of the engine, if the store answers, is that of all records of the version, which have distinct keys. -/
theorem sketch_ranks_all_records :
    (∀ (query : Query) (records : List Record), (records.map Record.key).Nodup →
      ∃ ranked : List Record,
        ranked.Perm (records.filter query.accepts) ∧
        (∀ record, record ∈ ranked ↔ record ∈ records ∧ query.Asks record) ∧
        ranked.Pairwise Record.Precedes ∧
        ∀ others : List Record, others.Perm records →
          query.rank others = ranked.take query.limit ∧
          (query.rank others).length = min query.limit (records.countP query.accepts) ∧
          ∀ limit, query.limit ≤ limit → query.rank others <+: { query with limit }.rank others) ∧
    ∀ session, Reached (fun _ => True) session → ∀ query : Query,
      let store := session.engine.store
      let records := store.allRecords session.engine.version
      (records.map Record.key).Nodup ∧
        session.engine.sketch query =
          if store.available then .ok (query.rank records) else .error (.store .offline) := by
  refine ⟨fun query records distinct => ?_, fun session reached query => ?_⟩
  · refine ⟨query.ranked records, query.perm_ranked records, fun record => ?_, Query.pairwise_ranked distinct,
      fun others permuted => ?_⟩
    · rw [(query.perm_ranked records).mem_iff, List.mem_filter, Query.accepts_iff]
    · have taken : query.rank others = (query.ranked records).take query.limit := by
        rw [Query.rank_eq_take, Query.ranked_of_perm distinct permuted]
      refine ⟨taken, ?_, fun limit more => List.take_prefix_take_left more⟩
      rw [taken, List.length_take, (query.perm_ranked records).length_eq, List.countP_eq_length_filter]
  · intro store records
    have summed : store.Summed (fun _ => True) := Reached.summed reached
    refine ⟨store.nodup_map_key_allRecords _, ?_⟩
    rw [Engine.sketch, Engine.liftStore, summed.sketch]
    split <;> rfl

/-- A first batch has a noun twice with an adjective before it.  The sketch of the noun is the one record of both. -/
theorem sketch_of_first_batch :
    ∃ engine, Engine.onStore { sampleLimit := 1 } GrammarSet.adjectives ∅ .empty = .ok engine ∧
      let fetched : Fetched := { sentences := Phrase.sentences }
      let session := (⟨engine, []⟩ : Session).afterAll [.create .all, .start 1, .finish 0 ⟨.ok fetched, .never⟩]
      let query : Query := { headword := "house" }
      let records := session.engine.store.allRecords session.engine.version
      (records.map Record.key).Nodup ∧
        ∃ record, session.engine.sketch query = .ok [record] ∧ query.rank records.reverse = [record] ∧
          record.pairing = ⟨Phrase.house.lexeme, Phrase.old.lexeme, "modifier"⟩ ∧ record.frequency = 2 := by
  obtain ⟨engine, opens⟩ := exists_opened 1
  refine ⟨engine, opens, ?_⟩
  intro fetched session query records
  let pairing : Pairing := ⟨Phrase.house.lexeme, Phrase.old.lexeme, "modifier"⟩
  obtain ⟨relations, accepted, seen⟩ : ∃ relations, GrammarSet.adjectives.relations .empty = .ok relations ∧
      (Totals.sum 1 [(1, (relations.countAfresh 1 Phrase.sentences).addRejected [])]).tally.pairings.toList =
        [(pairing, ⟨2, [1]⟩)] :=
    exists_ok_of_toOption (by decide +kernel)
  have opened : Reached (fun _ => True) ⟨engine, []⟩ := .opened trivial opens
  have reached : Reached (fun _ => True) session := opened.afterAll (by simp [Move.Admitted])
  let sets (set : GrammarSet) : Prop := set = .adjectives
  have inUse : sets .adjectives := rfl
  have distinct : GrammarSet.Distinguishes sets := GrammarSet.distinguishes_single _
  have familiar : Familiar Phrase.Listed fetched.sentences := Phrase.familiar_sentences
  have ran := ran_first_batch opens accepted inUse distinct Phrase.distinguishes_listed familiar .all
  have version : session.engine.version = engine.version := congrArg RelationSet.version ran.relations
  let totals : Totals := .sum 1 [(1, (relations.countAfresh 1 fetched.sentences).addRejected fetched.rejected)]
  have found : session.engine.store.totals[engine.version]? = some totals :=
    (congrArg (fun totals : Table String Totals => totals[engine.version]?) ran.summed).trans
      Std.ExtTreeMap.getElem?_insert_self
  let record := totals.tally.record engine.version (pairing, ⟨2, [1]⟩)
  have listed : records = [record] := by
    refine Eq.trans ?_ (congrArg (List.map (totals.tally.record engine.version)) seen)
    exact (congrArg session.engine.store.allRecords version).trans (Store.allRecords_of_totals found)
  obtain ⟨canonical, sketches⟩ := sketch_ranks_all_records
  obtain ⟨keyed, answered⟩ := sketches session reached query
  obtain ⟨ranked, chosen, -, -, answers⟩ := canonical query records keyed
  obtain ⟨ranks, -⟩ := answers records (List.Perm.refl records)
  obtain ⟨reversed, -⟩ := answers records.reverse (List.reverse_perm records)
  have one : ranked = [record] := by
    rw [listed] at chosen
    exact List.perm_singleton.mp chosen
  rw [one] at ranks reversed
  refine ⟨keyed, record, ?_, reversed, rfl, rfl⟩
  rw [answered, if_pos ran.available]
  exact congrArg Except.ok ranks

end Session
end Collocation
