import Collocation.Proofs.Engine.Frame
import Collocation.Proofs.Score.Records

/-!
# Totals and records

The totals of a version are the sum of the tallies that were committed under it, in the order of their
batches, and its records are those of its totals.  A commit adds its tally to the totals, sums all tallies
again, or makes the first totals; these are three ways to one sum.  Only the length of its samples depends on
the way: totals that a tally is added to keep the length that they have.
-/

namespace Collocation

/-! ## Records by headword -/

/-- The group of a headword: the records of the headword in their order, if there are any. -/
theorem getElem?_recordsByHeadword_eq_some_iff {records : List Record} {headword : String}
    {group : List Record} :
    (recordsByHeadword records)[headword]? = some group ↔
      group ≠ [] ∧ group = records.filter fun record => record.headword = headword := by
  let put (table : Table String (List Record)) (record : Record) : Table String (List Record) :=
    table.alter record.headword fun known => some (known.getD [] ++ [record])
  have collect (table : Table String (List Record)) :
      (records.foldl put table)[headword]? =
        match records.filter fun record => record.headword = headword with
        | [] => table[headword]?
        | first :: others => some (table[headword]?.getD [] ++ first :: others) := by
    induction records generalizing table with
    | nil => rfl
    | cons record records ih =>
        rw [List.foldl_cons, ih]
        by_cases same : record.headword = headword
        · subst same
          rw [List.filter_cons_of_pos (by simp)]
          cases records.filter fun other => other.headword = record.headword <;>
            simp [put]
        · have unchanged : (put table record)[headword]? = table[headword]? := by
            simp [put, Std.ExtTreeMap.getElem?_alter, Std.LawfulEqCmp.compare_eq_iff_eq, same]
          rw [List.filter_cons_of_neg (by simpa using same), unchanged]
  rw [recordsByHeadword, collect]
  cases records.filter fun record => record.headword = headword with
  | nil => simp
  | cons first others =>
      simp only [Std.ExtTreeMap.getElem?_empty, Option.getD_none, List.nil_append, Option.some.injEq]
      constructor
      · rintro rfl
        exact ⟨List.cons_ne_nil _ _, rfl⟩
      · rintro ⟨-, rfl⟩
        rfl

/-! ## Sums -/

namespace Totals

theorem add_sum (limit : Nat) (entries : List (BatchId × Tally)) (id : BatchId) (tally : Tally) :
    (sum limit entries).add id tally = sum limit (entries ++ [(id, tally)]) := by
  simp only [sum, add, Tally.sum, List.map_append, List.map_cons, List.map_nil, List.foldl_append,
    List.foldl_cons, List.foldl_nil]
  rfl

theorem sampleLimit_sum (limit : Nat) (entries : List (BatchId × Tally)) :
    (sum limit entries).tally.sampleLimit = limit :=
  List.foldlRecOn (motive := fun tally : Tally => tally.sampleLimit = limit)
    (entries.map Prod.snd) Tally.append rfl fun _ own _ _ => own

end Totals

/-! ## Stores that sum up -/

namespace Store

/-- The totals and the records of every version are those of its tallies, the samples of the totals having an
admitted length. -/
structure Summed (admits : Nat → Prop) (store : Store) : Prop where
  /-- Without tallies there are no totals. -/
  absent : ∀ version, store.talliesOf version = ∅ → store.totals[version]? = none
  /-- The totals are the sum of the tallies. -/
  totals : ∀ version, store.talliesOf version ≠ ∅ →
    ∃ limit, admits limit ∧ store.totals[version]? = some (.sum limit (store.talliesOf version).toList)
  /-- The records are those of the totals. -/
  records : ∀ version, store.records[version]? =
    store.totals[version]?.map fun (totals : Totals) =>
      recordsByHeadword (totals.tally.records version)

variable {admits : Nat → Prop}

theorem summed_empty : empty.Summed admits where
  absent := fun version _ => by simp [empty]
  totals := fun version some_committed => absurd (by simp [empty, talliesOf]) some_committed
  records := fun version => by simp [empty]

theorem Summed.of_sameCounts {before after : Store} (summed : before.Summed admits)
    (same : before.SameCounts after) : after.Summed admits where
  absent := fun version => by
    rw [same.totals, talliesOf, same.tallies]
    exact summed.absent version
  totals := fun version => by
    rw [same.totals, talliesOf, same.tallies]
    exact summed.totals version
  records := fun version => by
    rw [same.totals, same.records]
    exact summed.records version

theorem Summed.withCommit {store : Store} (summed : store.Summed admits) {commit : Commit} {limit : Nat}
    (admitted : admits limit)
    (sums : commit.totals = .sum limit
      ((store.talliesOf commit.version).insert commit.batch.id commit.tally).toList)
    (scored : commit.records = commit.totals.tally.records commit.version) :
    (store.withCommit commit).Summed admits := by
  constructor <;> intro version <;> by_cases same : commit.version = version
  · subst same
    rw [talliesOf_withCommit_self]
    exact fun nothing => absurd nothing Std.ExtTreeMap.insert_ne_empty
  · rw [talliesOf_withCommit_of_ne store same]
    exact fun nothing => (Table.getElem?_insert_of_ne same _).trans (summed.absent version nothing)
  · subst same
    refine fun _ => ⟨limit, admitted, ?_⟩
    rw [talliesOf_withCommit_self, ← sums]
    exact Std.ExtTreeMap.getElem?_insert_self
  · rw [talliesOf_withCommit_of_ne store same]
    intro some_committed
    obtain ⟨other, admitted, found⟩ := summed.totals version some_committed
    exact ⟨other, admitted, (Table.getElem?_insert_of_ne same _).trans found⟩
  · subst same
    simp [Store.withCommit, scored]
  · simp only [Store.withCommit, Table.getElem?_insert_of_ne same]
    exact summed.records version

/-- A batch has a tally under a version exactly if the totals of the version list it. -/
theorem Summed.mem_talliesOf_iff {store : Store} (summed : store.Summed admits) (version : String)
    (id : BatchId) :
    id ∈ store.talliesOf version ↔
      ∃ totals : Totals, store.totals[version]? = some totals ∧ id ∈ totals.batches := by
  have listed (limit : Nat) : id ∈ (Totals.sum limit (store.talliesOf version).toList).batches ↔
      id ∈ store.talliesOf version := by
    rw [Totals.sum, Std.ExtTreeMap.map_fst_toList_eq_keys, Std.ExtTreeMap.mem_keys]
  constructor
  · intro member
    have some_committed : store.talliesOf version ≠ ∅ := fun nothing => by simp [nothing] at member
    obtain ⟨limit, -, found⟩ := summed.totals version some_committed
    exact ⟨_, found, (listed limit).mpr member⟩
  · rintro ⟨totals, found, member⟩
    by_cases nothing : store.talliesOf version = ∅
    · exact absurd (found.symm.trans (summed.absent version nothing)) (Option.some_ne_none totals)
    · obtain ⟨limit, -, summed⟩ := summed.totals version nothing
      obtain rfl := Option.some.inj (found.symm.trans summed)
      exact (listed limit).mp member

/-- The totals and the records of every version are those of its tallies, all samples having one length. -/
structure Balanced (limit : Nat) (store : Store) : Prop where
  /-- The totals are the sum of the tallies, if there are any. -/
  totals : ∀ version, store.totals[version]? =
    if store.talliesOf version = ∅ then none else some (.sum limit (store.talliesOf version).toList)
  /-- The records are those of the totals. -/
  records : ∀ version, store.records[version]? =
    store.totals[version]?.map fun (totals : Totals) =>
      recordsByHeadword (totals.tally.records version)

theorem Summed.balanced {limit : Nat} {store : Store} (summed : store.Summed (· = limit)) :
    store.Balanced limit where
  totals := fun version => by
    split
    · next nothing => exact summed.absent version nothing
    · next some_committed =>
        obtain ⟨_, rfl, found⟩ := summed.totals version some_committed
        exact found
  records := summed.records

end Store

namespace Engine

/-- Whichever way the totals of a commit are made, they are the sum of all tallies with its own. -/
theorem exists_sum_of_sums {engine : Engine} {admits : Nat → Prop}
    (admitted : admits engine.configuration.sampleLimit) (summed : engine.store.Summed admits)
    {version : String} {id : BatchId} {tally : Tally} {totals : Totals}
    (sums : Sums engine version id tally totals) :
    ∃ limit, admits limit ∧
      totals = .sum limit ((engine.store.talliesOf version).insert id tally).toList := by
  cases sums with
  | first absent =>
      refine ⟨_, admitted, ?_⟩
      have nothing : engine.store.talliesOf version = ∅ := Decidable.byContradiction fun committed => by
        obtain ⟨limit, -, found⟩ := summed.totals version committed
        exact absurd (found.symm.trans absent) (Option.some_ne_none _)
      rw [nothing, Table.toList_insert_of_forall_lt (by simp)]
      rfl
  | again found inside => exact ⟨_, admitted, rfl⟩
  | @added earlier found last =>
      have some_committed : engine.store.talliesOf version ≠ ∅ := fun nothing =>
        absurd (found.symm.trans (summed.absent version nothing)) (Option.some_ne_none earlier)
      obtain ⟨limit, earlierAdmitted, summed⟩ := summed.totals version some_committed
      obtain rfl := Option.some.inj (found.symm.trans summed)
      have above {other : BatchId} {value : Tally}
          (known : (engine.store.talliesOf version)[other]? = some value) : compare other id = .lt := by
        refine Table.compare_eq_lt_of_getLast?_keys (fun greatest isLast => ?_) known
        rw [Totals.sum, Std.ExtTreeMap.map_fst_toList_eq_keys, isLast, Option.all_some,
          decide_eq_true_eq] at last
        exact Std.compare_eq_lt.mpr last
      refine ⟨limit, earlierAdmitted, ?_⟩
      rw [Table.toList_insert_of_forall_lt fun _ _ => above, Totals.add_sum]

end Engine

namespace Session

/-- The store of every session sums up, whatever the lengths of the samples. -/
theorem Reached.summed {admits : Nat → Prop} {session : Session}
    (reached : Reached (fun configuration => admits configuration.sampleLimit) session) :
    session.engine.store.Summed admits := by
  refine reached.invariant (fun session => session.engine.store.Summed admits) ?_ ?_
  · intro configuration set norms engine _ opens
    exact Store.summed_empty.of_sameCounts (Engine.sameCounts_onStore opens)
  · intro before move after earlier summed step
    rcases sameCounts_or_commit step with same | ⟨run, fetched, tally, totals, commits, committed⟩
    · exact summed.of_sameCounts same
    · obtain ⟨limit, admitted, sum⟩ :=
        Engine.exists_sum_of_sums earlier.admitted summed (Engine.sums_of_totalsWith commits.sums)
      rw [committed]
      exact summed.withCommit admitted sum rfl

/-- As long as all engines keep samples of one length, the store of every session is balanced. -/
theorem Reached.balanced {limit : Nat} {session : Session}
    (reached : Reached (fun configuration => configuration.sampleLimit = limit) session) :
    session.engine.store.Balanced limit :=
  (Reached.summed reached).balanced

/-- In every session, with runs in progress or without: a version has totals exactly if tallies were
committed under it.  The totals then list their batches in ascending order and are the sum of their tallies
in this order, nothing being skipped; and the records of the version are those of the totals in ascending
order of their pairings, grouped by the lemma of the head. -/
theorem totals_and_records_of_version {limit : Nat} {session : Session}
    (reached : Reached (fun configuration => configuration.sampleLimit = limit) session)
    (version : String) :
    let store := session.engine.store
    let tallies := store.talliesOf version
    (store.totals[version]? = none ↔ tallies = ∅) ∧
      (tallies = ∅ → store.records[version]? = none) ∧
      ∀ totals : Totals, store.totals[version]? = some totals →
        totals.batches = tallies.keys ∧ totals.batches.Pairwise (· < ·) ∧
        totals.tally = { Tally.sum limit (tallies.toList.map Prod.snd) with skipped := [] } ∧
        ((totals.tally.records version).Pairwise fun left right =>
          compare left.pairing right.pairing = .lt) ∧
        ∃ groups : Table String (List Record), store.records[version]? = some groups ∧
          ∀ headword group, groups[headword]? = some group ↔ group ≠ [] ∧
            group = (totals.tally.records version).filter fun record => record.headword = headword := by
  intro store tallies
  have summed := reached.balanced.totals version
  have grouped := reached.balanced.records version
  refine ⟨?_, fun nothing => ?_, fun totals found => ?_⟩
  · rw [summed]
    split <;> simp_all [tallies, store]
  · rw [grouped, summed, if_pos nothing, Option.map_none]
  · have committed : tallies ≠ ∅ := fun nothing => by
      rw [summed, if_pos nothing] at found
      cases found
    rw [summed, if_neg committed, Option.some.injEq] at found
    rw [summed, if_neg committed, Option.map_some, found] at grouped
    refine ⟨?_, ?_, ?_, totals.tally.records_pairwise version, _, grouped, fun headword group =>
      getElem?_recordsByHeadword_eq_some_iff⟩
    · rw [← found, ← Std.ExtTreeMap.map_fst_toList_eq_keys]
      rfl
    · have ordered : tallies.keys.Pairwise fun left right => left < right :=
        tallies.ordered_keys.imp Std.compare_eq_lt.mp
      rw [← found]
      rwa [← Std.ExtTreeMap.map_fst_toList_eq_keys] at ordered
    · rw [← found]
      rfl

/-- The totals of a session in which runs end in another order than they were started, one of them with the
store offline, before a new engine takes over and the failed batch waits again. -/
theorem totals_of_overlapping_runs :
    ∃ engine, Engine.onStore { sampleLimit := 1 } GrammarSet.adjectives ∅ .empty = .ok engine ∧
      let tokens : List Token := [⟨"old", "old", "ADJ", .empty⟩, ⟨"house", "house", "NOUN", .empty⟩]
      let sentence : Sentence := ⟨7, tokens, none, none⟩
      let delivery : Delivery := ⟨.ok { sentences := [sentence, sentence] }, .never⟩
      let session := (⟨engine, []⟩ : Session).afterAll
        [.create .all, .create .all, .start 2, .start 1, .finish 1 delivery, .setAvailable false,
          .finish 0 delivery, .setAvailable true,
          .restart { sampleLimit := 1 } GrammarSet.adjectives ∅, .requeue 1]
      let store := session.engine.store
      (store.totals["v1"]? = none ↔ store.talliesOf "v1" = ∅) ∧
        ∀ totals : Totals, store.totals["v1"]? = some totals →
          totals.batches = (store.talliesOf "v1").keys ∧ totals.batches.Pairwise (· < ·) := by
  obtain ⟨engine, opens⟩ := exists_opened 1
  refine ⟨engine, opens, ?_⟩
  intro tokens sentence delivery session store
  have opened : Reached (fun configuration => configuration.sampleLimit = 1) ⟨engine, []⟩ :=
    .opened rfl opens
  have reached : Reached (fun configuration => configuration.sampleLimit = 1) session :=
    opened.afterAll (by simp [Move.Admitted])
  obtain ⟨absent, -, present⟩ := totals_and_records_of_version reached "v1"
  exact ⟨absent, fun totals found => ⟨(present totals found).1, (present totals found).2.1⟩⟩

end Session
end Collocation
