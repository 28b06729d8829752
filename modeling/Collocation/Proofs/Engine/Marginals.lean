import Collocation.Proofs.Count.Histories
import Collocation.Proofs.Engine.Provenance
import Collocation.Proofs.Engine.Totals

/-!
# Marginals of stored totals

Every tally that an engine commits is obtained by counting in shards, and every total is a sum of such tallies.  So the
totals of every version have a history, their marginals are the sums of their joint counts, and their records, as long as
the marginals add up, are scored without a case for a zero denominator.
-/

namespace Collocation

/-- Every tally of the store was obtained with samples of one length. -/
def Store.Obtained (limit : Nat) (store : Store) : Prop :=
  ∀ (version : String) (id : BatchId) (tally : Tally), (store.talliesOf version)[id]? = some tally →
    tally.Obtained limit

namespace Store.Obtained

variable {limit : Nat} {store : Store}

theorem of_sameCounts {later : Store} (obtained : store.Obtained limit) (same : store.SameCounts later) :
    later.Obtained limit := by
  intro version id tally found
  rw [talliesOf, same.tallies] at found
  exact obtained version id tally found

theorem withCommit {commit : Commit} (obtained : store.Obtained limit) (counted : commit.tally.Obtained limit) :
    (store.withCommit commit).Obtained limit := by
  intro version id tally found
  by_cases same : commit.version = version
  · subst same
    rw [talliesOf_withCommit_self] at found
    rcases Table.of_getElem?_insert_eq_some found with ⟨-, rfl⟩ | ⟨-, known⟩
    · exact counted
    · exact obtained _ id tally known
  · rw [talliesOf_withCommit_of_ne store same] at found
    exact obtained version id tally found

end Store.Obtained

namespace Session

variable {limit : Nat} {session : Session}

/-- As long as all engines keep samples of one length, every tally of the store of a session was obtained with it. -/
theorem Reached.obtained (reached : Reached (fun configuration => configuration.sampleLimit = limit) session) :
    session.engine.store.Obtained limit := by
  refine reached.invariant (fun session => session.engine.store.Obtained limit) ?_ ?_
  · intro configuration set norms engine _ opens
    have nothing : Store.empty.Obtained limit := fun version id tally found => by
      simp [Store.empty, Store.talliesOf] at found
    exact nothing.of_sameCounts (Engine.sameCounts_onStore opens)
  · intro before move after earlier obtained step
    rcases sameCounts_or_commit step with same | ⟨run, fetched, tally, totals, commits, committed⟩
    · exact obtained.of_sameCounts same
    · have counted : (run.relations.countSharded limit before.engine.configuration.shardSize before.engine.cache
          fetched.sentences).1.Obtained limit :=
        .sharded (congrArg Prod.fst (RelationSet.countUnless_never _ _ _))
      have counts := commits.counts
      rw [earlier.admitted] at counts
      rw [committed]
      exact obtained.withCommit (counts ▸ counted.noted _)

/-- The totals of every version were obtained, too. -/
theorem Reached.obtained_totals (reached : Reached (fun configuration => configuration.sampleLimit = limit) session)
    {version : String} {totals : Totals} (found : session.engine.store.totals[version]? = some totals) :
    totals.tally.Obtained limit := by
  rw [reached.balanced.totals] at found
  split at found
  · cases found
  · obtain rfl := Option.some.inj found
    refine (Tally.Obtained.summed fun tally member => ?_).noted []
    obtain ⟨⟨id, _⟩, inside, rfl⟩ := List.mem_map.mp member
    exact reached.obtained version id _ (Std.ExtTreeMap.mem_toList_iff_getElem?_eq_some.mp inside)

end Session

namespace Tally

/-- With samples of one length, the totals of every version of every session were obtained by counting, joining and
summing.  All tallies that are obtained so have a history; and whatever their history, as long as no count of what was
seen runs over, their marginals are the sums of their joint counts.  Scoring them stops the program exactly if the two
marginals of a pairing do not add up within a word; otherwise it gives the records, which are complete, ascending and
scored by the formulas. -/
theorem conserved_and_scored_of_obtained (limit : Nat) :
    (∀ session, Session.Reached (fun configuration => configuration.sampleLimit = limit) session →
      ∀ (version : String) (totals : Totals), session.engine.store.totals[version]? = some totals →
        totals.tally.Obtained limit) ∧
    ∀ tally : Tally, tally.Obtained limit →
      (∃ sightings sentences, tally.MadeOf limit sightings sentences) ∧
      ∀ sightings sentences, tally.MadeOf limit sightings sentences → Countable sightings sentences →
        tally.Conserved limit ∧ ∀ version,
          (tally.checkedRecords version = .error .overflow ↔ ∃ pairing ∈ tally.pairings.keys, UInt64.size ≤
            (tally.heads.count pairing.head).toNat + (tally.collocates.count pairing.collocate).toNat) ∧
          ∀ records, tally.checkedRecords version = .ok records →
            records = tally.records version ∧ tally.Scored version records := by
  refine ⟨fun session reached version totals found => reached.obtained_totals found, fun tally obtained => ?_⟩
  refine ⟨obtained.hasHistory, fun sightings sentences made countable => ?_⟩
  have conserved := made.conserved countable
  refine ⟨conserved, fun version => ⟨checkedRecords_eq_error_iff, fun records made => ?_⟩⟩
  obtain ⟨adds, rfl⟩ := checkedRecords_eq_ok_iff.mp made
  exact ⟨rfl, conserved.scored adds version⟩

/-- An engine that keeps samples of one counts two sentences of one number, with an adjective in front of a noun, and one
with the noun alone. -/
theorem conserved_and_scored_of_obtained_phrases :
    ∃ engine, Engine.onStore { sampleLimit := 1 } GrammarSet.adjectives ∅ .empty = .ok engine ∧
      let fetched : Fetched := { sentences := Phrase.sentences }
      let session := (⟨engine, []⟩ : Session).afterAll [.create .all, .start 1, .finish 0 ⟨.ok fetched, .never⟩]
      ∃ totals : Totals, session.engine.store.totals[engine.version]? = some totals ∧ totals.tally.Obtained 1 ∧
        totals.tally.Conserved 1 ∧
        (∃ records, totals.tally.checkedRecords engine.version = .ok records ∧
          totals.tally.Scored engine.version records) ∧
        totals.tally.pairings[(⟨Phrase.house.lexeme, Phrase.old.lexeme, "modifier"⟩ : Pairing)]? = some ⟨2, [1]⟩ := by
  obtain ⟨engine, opens⟩ := Session.exists_opened 1
  refine ⟨engine, opens, ?_⟩
  intro fetched session
  let pairing : Pairing := ⟨Phrase.house.lexeme, Phrase.old.lexeme, "modifier"⟩
  obtain ⟨relations, accepted, seen⟩ : ∃ relations, GrammarSet.adjectives.relations .empty = .ok relations ∧
      relations.sightings Phrase.sentences = [⟨1, pairing⟩, ⟨1, pairing⟩] :=
    exists_ok_of_toOption (by decide +kernel)
  have opened : Session.Reached (fun configuration => configuration.sampleLimit = 1) ⟨engine, []⟩ := .opened rfl opens
  have reached : Session.Reached (fun configuration => configuration.sampleLimit = 1) session :=
    opened.afterAll (by simp [Move.Admitted])
  let sets (set : GrammarSet) : Prop := set = .adjectives
  have inUse : sets .adjectives := rfl
  have distinct : GrammarSet.Distinguishes sets := GrammarSet.distinguishes_single _
  have familiar : Familiar Phrase.Listed fetched.sentences := Phrase.familiar_sentences
  let totals : Totals := .sum 1 [(1, (relations.countAfresh 1 fetched.sentences).addRejected fetched.rejected)]
  have ran := Session.ran_first_batch opens accepted inUse distinct Phrase.distinguishes_listed familiar .all
  have found : session.engine.store.totals[engine.version]? = some totals :=
    (congrArg (fun totals : Table String Totals => totals[engine.version]?) ran.summed).trans
      Std.ExtTreeMap.getElem?_insert_self
  have counted := RelationSet.madeOf_countAfresh (RelationSet.within_analyze accepted) 1 Phrase.sentences
  rw [seen] at counted
  have made : totals.tally.MadeOf 1 [⟨1, pairing⟩, ⟨1, pairing⟩] (Phrase.sentences.filter Sentence.isValid) :=
    (MadeOf.empty.joined (counted.noted _)).noted []
  have few : Countable [⟨1, pairing⟩, ⟨1, pairing⟩] (Phrase.sentences.filter Sentence.isValid) :=
    ⟨fun _ => Nat.lt_of_le_of_lt List.countP_le_length (by decide),
      fun _ => Nat.lt_of_le_of_lt List.countP_le_length (by decide), by decide +kernel⟩
  obtain ⟨stored, conserves⟩ := conserved_and_scored_of_obtained 1
  have obtained := stored session reached engine.version totals found
  have adds : totals.tally.AddsUp := fun other _ => by
    rw [Association.AddUp, made.reflects.toNat_heads few, made.reflects.toNat_collocates few]
    exact Nat.lt_of_le_of_lt (Nat.add_le_add List.countP_le_length List.countP_le_length) (by decide)
  have checked : totals.tally.checkedRecords engine.version = .ok (totals.tally.records engine.version) :=
    checkedRecords_eq_ok_iff.mpr ⟨adds, rfl⟩
  obtain ⟨conserved, scores⟩ := (conserves totals.tally obtained).2 _ _ made few
  obtain ⟨-, scored⟩ := (scores engine.version).2 _ checked
  exact ⟨totals, found, obtained, conserved, ⟨_, checked, scored⟩,
    (made.reflects.pairings pairing).trans (by decide +kernel)⟩

/-! ## Tallies joined to themselves -/

/-- A tally or a list joined to itself, over and over. -/
def doubled {α : Type} [Append α] (item : α) : Nat → α
  | 0 => item
  | times + 1 => doubled item times ++ doubled item times

theorem countP_doubled {α : Type} (wanted : α → Bool) (list : List α) (times : Nat) :
    (doubled list times).countP wanted = list.countP wanted <<< times := by
  induction times with
  | zero => rfl
  | succ times induction => rw [doubled, List.countP_append, induction, Nat.shiftLeft_succ, Nat.two_mul]

theorem length_doubled {α : Type} (list : List α) (times : Nat) :
    (doubled list times).length = list.length <<< times := by
  rw [← List.countP_true, countP_doubled, List.countP_true]

theorem mem_doubled {α : Type} {item : α} {list : List α} (member : item ∈ list) (times : Nat) :
    item ∈ doubled list times := by
  induction times with
  | zero => exact member
  | succ times induction => exact List.mem_append_left _ induction

theorem tokensOf_doubled (sentences : List Sentence) (times : Nat) :
    tokensOf (doubled sentences times) = doubled (tokensOf sentences) times := by
  induction times with
  | zero => rfl
  | succ times induction => rw [doubled, tokensOf_append, induction, doubled]

theorem Obtained.doubled {limit : Nat} {tally : Tally} (obtained : tally.Obtained limit) (times : Nat) :
    (Tally.doubled tally times).Obtained limit := by
  induction times with
  | zero => exact obtained
  | succ times induction => exact induction.joined induction

theorem MadeOf.doubled {limit : Nat} {sightings : List Sighting} {sentences : List Sentence} {tally : Tally}
    (made : tally.MadeOf limit sightings sentences) (times : Nat) :
    (Tally.doubled tally times).MadeOf limit (Tally.doubled sightings times) (Tally.doubled sentences times) := by
  induction times with
  | zero => exact made
  | succ times induction => exact induction.joined induction

/-- A word twice in a sentence makes a pair with itself, in both directions.  With sixty-two doublings every count fits
into a word, and the two marginals do not add up within one. -/
theorem checkedRecords_of_doubled :
    let next : Grammar := { name := "next", source := "1:[] 2:[]", language := "en", bidirectional := true }
    let house := Phrase.house.lexeme
    ∃ relations, GrammarSet.relations ⟨"v1", [next]⟩ .empty = .ok relations ∧
      let counted := (relations.count 1 (Cache.empty 0) [⟨1, [Phrase.house, Phrase.house], none, none⟩]).1
      let tally := doubled counted 62
      tally.Obtained 1 ∧
        (∃ sightings sentences, tally.MadeOf 1 sightings sentences ∧ Countable sightings sentences) ∧
        (tally.heads.count house).toNat = 0x8000000000000000 ∧
        (tally.collocates.count house).toNat = 0x8000000000000000 ∧
        tally.checkedRecords "v1" = .error .overflow := by
  intro next house
  let pairing : Pairing := ⟨house, house, "next"⟩
  let sentences : List Sentence := [⟨1, [Phrase.house, Phrase.house], none, none⟩]
  obtain ⟨relations, accepted, seen⟩ : ∃ relations, GrammarSet.relations ⟨"v1", [next]⟩ .empty = .ok relations ∧
      relations.sightings sentences = [⟨1, pairing⟩, ⟨1, pairing⟩] :=
    exists_ok_of_toOption (by decide +kernel)
  refine ⟨relations, accepted, ?_⟩
  intro counted tally
  have single : ContentHash.Distinguishes (· = [Phrase.house, Phrase.house]) := by
    rintro first second rfl rfl -
    rfl
  have familiar : Familiar (· = [Phrase.house, Phrase.house]) sentences := by simp [Familiar, sentences]
  have afresh : counted = relations.countAfresh 1 sentences :=
    (RelationSet.Coherent.count (Cache.every_empty 0) single familiar 1).1
  have once := RelationSet.madeOf_countAfresh (RelationSet.within_analyze accepted) 1 sentences
  rw [seen, ← afresh] at once
  have obtained : counted.Obtained 1 :=
    .counted (congrArg Prod.fst (RelationSet.countUnless_never (relations.count 1) (Cache.empty 0) sentences))
  have made := once.doubled 62
  have size : (doubled [(⟨1, pairing⟩ : Sighting), ⟨1, pairing⟩] 62).length < UInt64.size := by
    rw [length_doubled]
    decide +kernel
  have few : Countable (doubled [(⟨1, pairing⟩ : Sighting), ⟨1, pairing⟩] 62)
      (doubled (sentences.filter Sentence.isValid) 62) := by
    refine ⟨fun _ => Nat.lt_of_le_of_lt List.countP_le_length size,
      fun _ => Nat.lt_of_le_of_lt List.countP_le_length size, ?_⟩
    rw [tokensOf_doubled, length_doubled]
    decide +kernel
  have heads : (tally.heads.count house).toNat = 0x8000000000000000 := by
    rw [made.reflects.toNat_heads few, countP_doubled]
    decide +kernel
  have collocates : (tally.collocates.count house).toNat = 0x8000000000000000 := by
    rw [made.reflects.toNat_collocates few, countP_doubled]
    decide +kernel
  have known : pairing ∈ tally.pairings.keys :=
    (made.reflects.mem_pairings_iff pairing).mpr ⟨⟨1, pairing⟩, mem_doubled List.mem_cons_self 62, rfl⟩
  have together : (tally.heads.count house).toNat + (tally.collocates.count house).toNat = UInt64.size :=
    congrArg₂ (· + ·) heads collocates
  exact ⟨obtained.doubled 62, ⟨_, _, made, few⟩, heads, collocates,
    checkedRecords_eq_error_iff.mpr ⟨pairing, known, Nat.le_of_eq together.symm⟩⟩

end Tally
end Collocation
