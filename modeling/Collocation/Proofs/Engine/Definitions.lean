import Collocation.Proofs.Engine.Convergence

/-!
# Definitions of a version

The version of grammars is a name that comes with them.  Nothing ties it to their definitions: whoever
reloads or opens an engine with other grammars under a name that is stored already replaces those that
were stored, and the tallies under the name stay.  What can be relied on is that a run counts with the
grammars that are stored under their version while it lasts.  So the results of a version whose grammars
are never replaced are those of the grammars that are stored.
-/

namespace Collocation

namespace Engine

/-- The relations of an engine are those of the grammars that its store has under their version. -/
def UsesStored (engine : Engine) : Prop :=
  ∃ set tagsets, engine.store.grammars[engine.version]? = some set ∧
    set.relations tagsets = .ok engine.relations

end Engine

namespace Session

variable {admits : Configuration → Prop} {before after session : Session} {move : Move} {version : String}

/-- Grammars are exchanged in the engine and in the store together. -/
theorem sameGrammars_or_exchange (step : Step admits before move after) :
    (after.engine.relations = before.engine.relations ∧
      after.engine.store.grammars = before.engine.store.grammars) ∨
    ∃ set tagsets, set.relations tagsets = .ok after.engine.relations ∧
      after.engine.store.grammars = before.engine.store.grammars.insert set.version set := by
  cases step with
  | refused | switched => exact Or.inl ⟨rfl, rfl⟩
  | created selection => exact Or.inl ⟨rfl, (Engine.sameButRow_keep _ _).grammars⟩
  | started starts =>
      have same := (Engine.sameButRow_start starts).grammars
      obtain ⟨waiting, -, -, -, rfl⟩ := Engine.start_eq_ok_iff.mp starts
      exact Or.inl ⟨rfl, same⟩
  | requeued requeues =>
      have same := (Engine.sameButRow_requeue requeues).grammars
      obtain ⟨ended, -, -, -, rfl⟩ := Engine.requeue_eq_ok_iff.mp requeues
      exact Or.inl ⟨rfl, same⟩
  | persisted persists =>
      obtain ⟨-, -, rfl⟩ := Engine.persist_eq_ok_iff.mp persists
      exact Or.inl ⟨rfl, rfl⟩
  | @reloaded move set later asked reloads =>
      obtain ⟨relations, compiled, -, -, rfl⟩ := Engine.reload_eq_ok_iff.mp reloads
      exact Or.inr ⟨set, _, Engine.relationsOf_eq_ok_iff.mp compiled, rfl⟩
  | @restarted configuration set norms engine admitted opens =>
      have exchanged := Engine.grammars_onStore opens
      obtain ⟨relations, compiled, -, rfl⟩ := Engine.onStore_eq_ok_iff.mp opens
      exact Or.inr ⟨set, _, Engine.relationsOf_eq_ok_iff.mp compiled, exchanged⟩
  | @finished place run delivery ended found ending =>
      cases ending with
      | @failed cache skipped failure hindered =>
          exact Or.inl ⟨rfl, (Engine.sameButRow_failRun { before.engine with cache } run.batch skipped
            failure).grammars⟩
      | completed => exact Or.inl ⟨rfl, rfl⟩

theorem usesStored_of_exchange {set : GrammarSet} {tagsets : Tagsets} {engine : Engine}
    {grammars : Table String GrammarSet} (accepted : set.relations tagsets = .ok engine.relations)
    (stored : engine.store.grammars = grammars.insert set.version set) : engine.UsesStored := by
  refine ⟨set, tagsets, ?_, accepted⟩
  rw [stored, Engine.version, GrammarSet.version_relations accepted]
  exact Std.ExtTreeMap.getElem?_insert_self

theorem UsesStored.step (uses : before.engine.UsesStored) (step : Step admits before move after) :
    after.engine.UsesStored := by
  rcases sameGrammars_or_exchange step with ⟨relations, grammars⟩ | ⟨set, tagsets, accepted, stored⟩
  · rwa [Engine.UsesStored, Engine.version, relations, grammars]
  · exact usesStored_of_exchange accepted stored

theorem Reached.usesStored (reached : Reached admits session) : session.engine.UsesStored := by
  refine reached.invariant (fun session => session.engine.UsesStored) ?_
    fun _ uses step => UsesStored.step uses step
  intro configuration set norms engine _ opens
  have stored := Engine.grammars_onStore opens
  obtain ⟨relations, compiled, -, rfl⟩ := Engine.onStore_eq_ok_iff.mp opens
  exact usesStored_of_exchange (Engine.relationsOf_eq_ok_iff.mp compiled) stored

/-! ## Where tallies come from -/

/-- A move commits the tally of what was fetched for a batch under a version, counted with the grammars
that the store has under this version. -/
structure CommitsWith (session : Session) (move : Move) (version : String) (set : GrammarSet)
    (id : BatchId) (fetched : Fetched) (tally : Tally) : Prop where
  /-- The store has the grammars under the version. -/
  stored : session.engine.store.grammars[version]? = some set
  /-- The move ends a run of the batch that was started with the grammars. -/
  commits : ∃ run totals tagsets, session.Commits move run fetched tally totals ∧ run.batch.id = id ∧
    run.relations.version = version ∧ set.relations tagsets = .ok run.relations

/-- One of some moves ended a run with what was fetched for a batch and committed its tally under a version, when the
engine kept samples of a length and the store had the grammars under the version. -/
def CountedWith (origin : Session) (moves : List Move) (version : String) (set : GrammarSet) (id : BatchId)
    (limit : Nat) (fetched : Fetched) (tally : Tally) : Prop :=
  ∃ earlier move later, moves = earlier ++ move :: later ∧
    (origin.afterAll earlier).CommitsWith move version set id fetched tally ∧
    (origin.afterAll earlier).engine.configuration.sampleLimit = limit ∧
    ((origin.afterAll (earlier ++ [move])).engine.store.talliesOf version)[id]? = some tally ∧
    (origin.afterAll (earlier ++ [move])).engine.store.grammars[version]? = some set

/-- A tally is there already, or comes with a commit. -/
theorem tally_step (steady : before.Steady) (uses : before.engine.UsesStored)
    (step : Step admits before move after) {id : BatchId} {tally : Tally}
    (found : (after.engine.store.talliesOf version)[id]? = some tally) :
    (before.engine.store.talliesOf version)[id]? = some tally ∨
      ∃ set fetched, before.CommitsWith move version set id fetched tally ∧
        after.engine.store.grammars = before.engine.store.grammars := by
  rcases sameCounts_or_commit step with same | ⟨run, fetched, counted, totals, commits, committed⟩
  · rw [Store.talliesOf, same.tallies] at found
    exact Or.inl found
  rw [committed] at found
  by_cases own : run.relations.version = version
  · subst own
    have replaced := Store.talliesOf_withCommit_self before.engine.store
      (before.engine.commitOf run.batch run.relations.version counted totals)
    rw [Engine.commitOf] at replaced found
    rw [replaced] at found
    rcases Table.of_getElem?_insert_eq_some found with ⟨named, rfl⟩ | ⟨-, earlier⟩
    · obtain ⟨place, stop, -, member, -⟩ := commits.ends
      obtain ⟨set, tagsets, stored, accepted⟩ := uses
      have relations := steady.relations run (List.mem_of_getElem? member)
      rw [Engine.version, ← relations] at stored
      rw [← relations] at accepted
      refine Or.inr ⟨set, fetched, ⟨stored, run, totals, tagsets, commits, named, rfl, accepted⟩, ?_⟩
      rw [committed]
      rfl
    · exact Or.inl earlier
  · rw [Store.talliesOf_withCommit_of_ne _ own] at found
    exact Or.inl found

/-! ## Exchanges -/

theorem after_reload {session : Session} {set : GrammarSet} {relations : RelationSet}
    (compiled : Engine.relationsOf session.engine.configuration set = .ok relations)
    (idle : session.engine.running = 0) (available : session.engine.store.available = true) :
    session.after (.reload set) =
      ⟨{ session.engine with
          relations
          store := session.engine.store.withGrammars set
          cache := Engine.freshCache session.engine.configuration relations
            (session.engine.store.withGrammars set) }, session.runs⟩ := by
  have reloads := Engine.reload_eq_ok_iff.mpr ⟨relations, compiled, idle, available, rfl⟩
  simp only [after, reloads, Engine.orSame]

theorem toList_insert_insert (old new : Tally) :
    (((∅ : Table BatchId Tally).insert 1 old).insert 2 new).toList = [(1, old), (2, new)] := by
  have single : ((∅ : Table BatchId Tally).insert 1 old).toList = [(1, old)] :=
    Table.toList_insert_of_forall_lt (by simp) old
  have above (id : BatchId) (tally : Tally)
      (found : ((∅ : Table BatchId Tally).insert 1 old)[id]? = some tally) : compare id 2 = .lt := by
    rcases Table.of_getElem?_insert_eq_some found with ⟨rfl, -⟩ | ⟨-, nowhere⟩
    · rfl
    · simp at nowhere
  rw [Table.toList_insert_of_forall_lt above new, single]
  rfl

/-- Grammars are exchanged for others of their version between the runs of two batches: the store has the new
ones, and a tally of each. -/
theorem tallies_of_exchange {sets : GrammarSet → Prop} {known : List Token → Prop}
    {configuration : Configuration} {set other : GrammarSet} {norms : Norms} {engine : Engine}
    {relations : RelationSet} (opens : Engine.onStore configuration set norms .empty = .ok engine)
    (accepted : other.relations configuration.tagsets = .ok relations) (same : other.version = set.version)
    (inUse : sets set) (alsoInUse : sets other) (distinct : GrammarSet.Distinguishes sets)
    (distinguishes : ContentHash.Distinguishes known) {first second : Fetched}
    (firstFamiliar : Familiar known first.sentences) (secondFamiliar : Familiar known second.sentences) :
    let store := ((⟨engine, []⟩ : Session).afterAll
      ([.create .all, .start 1, .finish 0 ⟨.ok first, .never⟩] ++ .reload other ::
        [.create .all, .start 2, .finish 0 ⟨.ok second, .never⟩])).engine.store
    store.grammars[set.version]? = some other ∧
      ∃ old new : Tally, store.talliesOf set.version = ((∅ : Table BatchId Tally).insert 1 old).insert 2 new ∧
        set.Counts configuration.sampleLimit first old ∧
        other.Counts configuration.sampleLimit second new := by
  intro store
  obtain ⟨firstRelations, compiled, made⟩ := Engine.onStore_empty_eq_ok opens
  have firstAccepted := Engine.relationsOf_eq_ok_iff.mp compiled
  have version : engine.version = set.version := by
    rw [made, Engine.version, GrammarSet.version_relations firstAccepted]
  let running : List Move := [.create .all, .start 1, .finish 0 ⟨.ok first, .never⟩]
  let middle := (⟨engine, []⟩ : Session).afterAll running
  have among : ∀ move ∈ running ++ [.reload other], move.Among sets known :=
    List.forall_mem_append.mpr ⟨Move.among_new_batch firstFamiliar .all 1 .never,
      List.forall_mem_singleton.mpr alsoInUse⟩
  have ran := ran_first_batch opens firstAccepted inUse distinct distinguishes firstFamiliar .all
  have number : engine.nextBatch = 1 := by rw [made]
  have recompiled : Engine.relationsOf middle.engine.configuration other = .ok relations := by
    rw [ran.configuration, made]
    exact Engine.relationsOf_eq_ok_iff.mpr accepted
  have idle : middle.engine.running = 0 := by rw [ran.running, made]
  have exchanged := after_reload recompiled idle ran.available
  have rebacked := backed_afterAll opens inUse distinct distinguishes among
  rw [afterAll_concat] at rebacked
  have ended : store = ((middle.after (.reload other)).afterAll
      [.create .all, .start 2, .finish 0 ⟨.ok second, .never⟩]).engine.store :=
    congrArg (fun session : Session => session.engine.store) (afterAll_append _ _ _)
  generalize middle.after (.reload other) = between at exchanged rebacked ended
  have reanswers : between.engine.store.available = true := exchanged ▸ ran.available
  have next : between.engine.nextBatch = 2 :=
    exchanged ▸ ran.nextBatch.trans (congrArg (· + 1) number)
  have reversion : between.engine.version = set.version := by
    rw [exchanged, Engine.version, GrammarSet.version_relations accepted, same]
  have sampled : between.engine.configuration.sampleLimit = configuration.sampleLimit := by
    rw [exchanged, ran.configuration, made]
  have relating : between.engine.relations = relations := by rw [exchanged]
  obtain ⟨_, -, reran⟩ := rebacked.ran_new_batch distinguishes reanswers secondFamiliar .all
  rw [next] at reran
  have tallies := reran.tallies
  have earlier := ran.tallies
  rw [← ended, reversion, next] at tallies
  rw [version, number] at earlier
  have kept : between.engine.store.talliesOf set.version = middle.engine.store.talliesOf set.version := by
    rw [exchanged]
    rfl
  have nothing : engine.store.talliesOf set.version = ∅ := by
    rw [made]
    rfl
  rw [kept, earlier, nothing] at tallies
  rw [sampled, relating] at tallies
  refine ⟨?_, _, _, tallies, ⟨_, firstRelations, firstAccepted, rfl⟩, ⟨_, relations, accepted, rfl⟩⟩
  rw [ended, reran.grammars, exchanged]
  exact same ▸ Std.ExtTreeMap.getElem?_insert_self

/-! ## Results -/

section opened

variable {configuration : Configuration} {set : GrammarSet} {norms : Norms} {engine : Engine}

theorem exists_countedWith (opens : Engine.onStore configuration set norms .empty = .ok engine)
    {moves : List Move} {id : BatchId} {tally : Tally}
    (found : (((⟨engine, []⟩ : Session).afterAll moves).engine.store.talliesOf version)[id]? = some tally) :
    ∃ definitions limit fetched, CountedWith ⟨engine, []⟩ moves version definitions id limit fetched tally := by
  have opened : Reached (fun _ => True) ⟨engine, []⟩ := .opened trivial opens
  induction moves using List.reverseRecOn with
  | nil =>
      rw [afterAll_nil, Store.talliesOf, (Engine.sameCounts_onStore opens).tallies] at found
      simp [Store.empty] at found
  | append_singleton moves move known =>
      have reached : Reached (fun _ => True) ((⟨engine, []⟩ : Session).afterAll moves) :=
        opened.afterAll fun move _ => admitted_true move
      have concat := afterAll_concat ⟨engine, []⟩ moves move
      have step := step_after ((⟨engine, []⟩ : Session).afterAll moves) (admitted_true move)
      rw [← concat] at step
      rcases tally_step reached.steady reached.usesStored step found with
        earlier | ⟨set, fetched, commits, grammars⟩
      · obtain ⟨definitions, limit, fetched, before, own, later, rfl, commits⟩ := known earlier
        exact ⟨definitions, limit, fetched, before, own, later ++ [move], by simp, commits⟩
      · exact ⟨set, _, fetched, moves, move, [], rfl, commits, rfl, found, grammars ▸ commits.stored⟩

/-- Grammars that a tally was counted with are still stored if none were exchanged since the first tally. -/
theorem CountedWith.stored {origin : Session} {moves : List Move} {definitions : GrammarSet} {id : BatchId}
    {limit : Nat} {fetched : Fetched} {tally : Tally}
    (counted : origin.CountedWith moves version definitions id limit fetched tally)
    (unchanged : ∀ earlier later, moves = earlier ++ later →
      (origin.afterAll earlier).engine.store.talliesOf version ≠ ∅ →
        (origin.afterAll earlier).engine.store.grammars[version]? =
          (origin.afterAll moves).engine.store.grammars[version]?) :
    (origin.afterAll moves).engine.store.grammars[version]? = some definitions := by
  obtain ⟨earlier, move, later, rfl, -, -, found, stored⟩ := counted
  have split : earlier ++ move :: later = (earlier ++ [move]) ++ later := List.append_cons earlier move later
  rw [← unchanged _ later split fun nothing => ?_, stored]
  rw [nothing] at found
  simp at found

/-- A coherent cache makes no difference to a tally that is committed. -/
theorem CommitsWith.counts {sets : GrammarSet → Prop} {known : List Token → Prop}
    {definitions : GrammarSet} {id : BatchId} {fetched : Fetched} {tally : Tally}
    (commits : session.CommitsWith move version definitions id fetched tally)
    (backed : session.Backed sets known) (distinguishes : ContentHash.Distinguishes known)
    (steady : session.Steady) (among : move.Among sets known) :
    definitions.Counts session.engine.configuration.sampleLimit fetched tally := by
  obtain ⟨-, run, totals, tagsets, ⟨⟨place, stop, rfl, found, -⟩, rfl, -⟩, -, -, accepted⟩ := commits
  refine ⟨tagsets, run.relations, accepted, ?_⟩
  have familiar : Familiar known fetched.sentences := fun sentence member =>
    among sentence ⟨fetched, rfl, member⟩
  rw [steady.relations run (List.mem_of_getElem? found),
    backed.cache.countSharded distinguishes familiar]

/-- In every session, every tally under a version was committed when a run ended, counted with the
grammars that the store had under the version then.  If the store has had the same grammars under the
version since the first of its tallies came, the tallies of the version were all counted with these
grammars, and the totals and the records of the version are made of them.  And as long as fingerprints
and content addresses tell apart what is in use, a tally that was counted with some grammars is what
these grammars alone give for what its run fetched, with samples of the length that its engine kept. -/
theorem tallies_counted_with_stored_grammars
    (opens : Engine.onStore configuration set norms .empty = .ok engine) (moves : List Move)
    (version : String) :
    let origin : Session := ⟨engine, []⟩
    let store (moves : List Move) := (origin.afterAll moves).engine.store
    let tallies := (store moves).talliesOf version
    (∀ id tally, tallies[id]? = some tally →
        ∃ definitions limit fetched, origin.CountedWith moves version definitions id limit fetched tally) ∧
      ((∀ earlier later, moves = earlier ++ later → (store earlier).talliesOf version ≠ ∅ →
          (store earlier).grammars[version]? = (store moves).grammars[version]?) →
        tallies ≠ ∅ →
        ∃ definitions limit, (store moves).grammars[version]? = some definitions ∧
          (∀ id tally, tallies[id]? = some tally →
            ∃ limit fetched, origin.CountedWith moves version definitions id limit fetched tally) ∧
          (store moves).totals[version]? = some (.sum limit tallies.toList) ∧
          (store moves).records[version]? =
            some (recordsByHeadword ((Totals.sum limit tallies.toList).tally.records version))) ∧
      ∀ (sets : GrammarSet → Prop) (known : List Token → Prop), sets set →
        (∀ move ∈ moves, move.Among sets known) → GrammarSet.Distinguishes sets →
        ContentHash.Distinguishes known → ∀ definitions id limit fetched tally,
          origin.CountedWith moves version definitions id limit fetched tally →
            definitions.Counts limit fetched tally := by
  intro origin store tallies
  have opened : Reached (fun _ => True) origin := .opened trivial opens
  have reached (moves : List Move) : Reached (fun _ => True) (origin.afterAll moves) :=
    opened.afterAll fun move _ => admitted_true move
  refine ⟨fun id tally found => exists_countedWith opens found, fun unchanged some_committed => ?_,
    fun sets known inUse among distinct distinguishes definitions id limit fetched tally counted => ?_⟩
  · obtain ⟨first, member⟩ : ∃ id, id ∈ tallies := Classical.byContradiction fun none =>
      some_committed (Std.ExtTreeMap.eq_empty_iff_forall_not_mem.mpr fun id member => none ⟨id, member⟩)
    obtain ⟨definitions, _, _, counted⟩ :=
      exists_countedWith opens (Std.ExtTreeMap.getElem?_eq_some_getElem member)
    have stored := counted.stored unchanged
    have summed : (store moves).Summed fun _ => True := Reached.summed (reached moves)
    obtain ⟨limit, -, totals⟩ := summed.totals version some_committed
    have records := summed.records version
    rw [totals] at records
    refine ⟨definitions, limit, stored, fun id tally found => ?_, totals, records⟩
    obtain ⟨others, limit, fetched, also⟩ := exists_countedWith opens found
    obtain rfl : others = definitions := Option.some.inj ((also.stored unchanged).symm.trans stored)
    exact ⟨limit, fetched, also⟩
  · obtain ⟨earlier, move, later, rfl, commits, rfl, -⟩ := counted
    have backed : (origin.afterAll earlier).Backed sets known :=
      backed_afterAll opens inUse distinct distinguishes fun move member =>
        among move (List.mem_append_left _ member)
    exact commits.counts backed distinguishes (reached earlier).steady
      (among move (List.mem_append_right earlier List.mem_cons_self))

theorem grammars_of_only_set {known : List Token → Prop}
    (opens : Engine.onStore configuration set norms .empty = .ok engine)
    (distinguishes : ContentHash.Distinguishes known) {moves : List Move} (among : ∀ move ∈ moves, move.Among (· = set) known) :
    ((⟨engine, []⟩ : Session).afterAll moves).engine.store.grammars[set.version]? = some set := by
  have opened : Reached (fun _ => True) ⟨engine, []⟩ := .opened trivial opens
  have reached : Reached (fun _ => True) ((⟨engine, []⟩ : Session).afterAll moves) :=
    opened.afterAll fun move _ => admitted_true move
  have backed : ((⟨engine, []⟩ : Session).afterAll moves).Backed (· = set) known := by
    refine backed_afterAll opens ?_ (GrammarSet.distinguishes_single set) distinguishes among
    rfl
  obtain ⟨other, tagsets, stored, accepted⟩ := reached.usesStored
  obtain rfl := backed.store.grammars _ other stored
  rw [Engine.version, GrammarSet.version_relations accepted] at stored
  exact stored

end opened

/-- Two batches are completed, and in between the grammars are read again and have not changed. -/
theorem tallies_counted_with_reloaded_grammars :
    ∃ engine, Engine.onStore {} GrammarSet.adjectives ∅ .empty = .ok engine ∧
      let fetched : Fetched := { sentences := Phrase.sentences }
      let moves : List Move := [.create .all, .start 1, .finish 0 ⟨.ok fetched, .never⟩] ++
        .reload .adjectives :: [.create .all, .start 2, .finish 0 ⟨.ok fetched, .never⟩]
      let store := ((⟨engine, []⟩ : Session).afterAll moves).engine.store
      (∃ old new, (store.talliesOf "v1").toList = [(1, old), (2, new)]) ∧
        store.grammars["v1"]? = some .adjectives ∧
        ∀ (id : BatchId) (tally : Tally), (store.talliesOf "v1")[id]? = some tally →
          GrammarSet.adjectives.Counts 5 fetched tally := by
  obtain ⟨engine, opens⟩ := exists_opened 5
  refine ⟨engine, opens, ?_⟩
  intro fetched moves
  have listedMoves : moves = [.create .all, .start 1, .finish 0 ⟨.ok fetched, .never⟩] ++
    .reload .adjectives :: [.create .all, .start 2, .finish 0 ⟨.ok fetched, .never⟩] := rfl
  clear_value moves
  intro store
  have familiar : Familiar Phrase.Listed fetched.sentences := Phrase.familiar_sentences
  let sets (set : GrammarSet) : Prop := set = .adjectives
  have inUse : sets .adjectives := rfl
  have distinct : GrammarSet.Distinguishes sets := GrammarSet.distinguishes_single _
  have among : ∀ move ∈ moves, move.Among sets Phrase.Listed := by
    rw [listedMoves]
    exact List.forall_mem_append.mpr ⟨Move.among_new_batch familiar .all 1 .never,
      List.forall_mem_cons.mpr ⟨inUse, Move.among_new_batch familiar .all 2 .never⟩⟩
  have stored {moves : List Move} (among : ∀ move ∈ moves, move.Among sets Phrase.Listed) :
      ((⟨engine, []⟩ : Session).afterAll moves).engine.store.grammars["v1"]? = some .adjectives :=
    grammars_of_only_set opens Phrase.distinguishes_listed among
  obtain ⟨relations, accepted⟩ := GrammarSet.exists_relations_adjectives
  obtain ⟨-, old, new, tallies, -, -⟩ := tallies_of_exchange opens accepted rfl inUse inUse distinct
    Phrase.distinguishes_listed familiar familiar
  rw [← listedMoves] at tallies
  have listed : (store.talliesOf "v1").toList = [(1, old), (2, new)] :=
    (congrArg _ tallies).trans (toList_insert_insert old new)
  have some_committed : store.talliesOf "v1" ≠ ∅ := fun nothing => by
    rw [nothing] at listed
    cases listed
  obtain ⟨-, summed, alone⟩ := tallies_counted_with_stored_grammars opens moves "v1"
  have unchanged (earlier later : List Move) (split : moves = earlier ++ later) :
      ((⟨engine, []⟩ : Session).afterAll earlier).engine.store.grammars["v1"]? =
        ((⟨engine, []⟩ : Session).afterAll moves).engine.store.grammars["v1"]? := by
    refine (stored fun move member => among move ?_).trans (stored among).symm
    exact split ▸ List.mem_append_left _ member
  obtain ⟨definitions, limit, here, counted, -, -⟩ :=
    summed (fun earlier later split _ => unchanged earlier later split) some_committed
  obtain rfl : definitions = .adjectives := Option.some.inj (here.symm.trans (stored among))
  refine ⟨⟨old, new, listed⟩, here, fun id tally found => ?_⟩
  obtain ⟨limit, given, own⟩ := counted id tally found
  have counts := alone sets _ inUse among distinct Phrase.distinguishes_listed _ id limit given tally own
  obtain ⟨earlier, move, later, split, ⟨-, run, totals, tagsets, ⟨⟨place, stop, rfl, -⟩, -, -⟩, -⟩, sampled, -⟩ := own
  have only : place = 0 ∧ given = fetched ∧ stop = .never := by
    have ends : Move.finish place ⟨.ok given, stop⟩ ∈ moves := split ▸ List.mem_append_right _ List.mem_cons_self
    simpa [listedMoves] using ends
  have kept : limit = 5 := by
    have opened : Reached (fun configuration => configuration.sampleLimit = 5) ⟨engine, []⟩ := .opened rfl opens
    have admitted : ∀ move ∈ moves, move.Admitted fun configuration => configuration.sampleLimit = 5 := by
      simp [listedMoves, Move.Admitted]
    rw [← sampled]
    exact (opened.afterAll fun move member => admitted move (split ▸ List.mem_append_left _ member)).admitted
  rw [only.2.1, kept] at counts
  exact counts

end Session

/-- The version of a grammar set without its grammars. -/
def GrammarSet.emptied (set : GrammarSet) : GrammarSet :=
  { set with grammars := [] }

theorem GrammarSet.relations_emptied (set : GrammarSet) (tagsets : Tagsets) :
    set.emptied.relations tagsets = .ok ⟨set.version, set.emptied.fingerprint, []⟩ :=
  relations_eq_ok_iff.mpr ⟨[], rfl, by rw [List.mergeSort_nil]; rfl⟩

/-- Without grammars no pairing is counted. -/
theorem GrammarSet.Counts.pairings_of_emptied {set : GrammarSet} {limit : Nat} {fetched : Fetched}
    {tally : Tally} (counts : set.emptied.Counts limit fetched tally) : tally.pairings = ∅ := by
  obtain ⟨tagsets, relations, accepted, rfl⟩ := counts
  obtain rfl := Except.ok.inj (accepted.symm.trans (relations_emptied set tagsets))
  refine List.foldlRecOn (motive := fun tally : Tally => tally.pairings = ∅) fetched.sentences _ rfl ?_
  intro tally none sentence _
  rw [RelationSet.addAfresh]
  split <;> exact none

namespace Session

/-- A sentence has a pairing of an adjective with a noun.  Once it is counted, the grammars are
exchanged for none under the same version, and it is counted again. -/
theorem totals_of_two_definitions :
    ∃ engine, Engine.onStore {} GrammarSet.adjectives ∅ .empty = .ok engine ∧
      let first : Fetched := { sentences := [⟨1, [Phrase.old, Phrase.house], none, none⟩] }
      let second : Fetched := { sentences := [⟨2, [Phrase.old, Phrase.house], none, none⟩] }
      let emptied := GrammarSet.adjectives.emptied
      let store := ((⟨engine, []⟩ : Session).afterAll
        ([.create .all, .start 1, .finish 0 ⟨.ok first, .never⟩] ++ .reload emptied ::
          [.create .all, .start 2, .finish 0 ⟨.ok second, .never⟩])).engine.store
      store.grammars["v1"]? = some emptied ∧
        ∃ old new : Tally, (store.talliesOf "v1").toList = [(1, old), (2, new)] ∧
          store.totals["v1"]? = some (.sum 5 [(1, old), (2, new)]) ∧
          GrammarSet.adjectives.Counts 5 first old ∧ emptied.Counts 5 second new ∧
          ∀ limit fetched, ¬emptied.Counts limit fetched old := by
  obtain ⟨engine, opens⟩ := exists_opened 5
  refine ⟨engine, opens, ?_⟩
  intro first second emptied store
  let sets (set : GrammarSet) : Prop := set = .adjectives ∨ set = emptied
  have distinct : GrammarSet.Distinguishes sets := by
    have apart : GrammarSet.adjectives.fingerprint ≠ emptied.fingerprint := by decide +kernel
    rintro set other (rfl | rfl) (rfl | rfl) same
    · rfl
    · exact absurd same apart
    · exact absurd same.symm apart
    · rfl
  have firstFamiliar : Familiar Phrase.Listed first.sentences := by simp [Familiar, first, Phrase.Listed]
  have secondFamiliar : Familiar Phrase.Listed second.sentences := by simp [Familiar, second, Phrase.Listed]
  obtain ⟨grammars, old, new, tallies, oldCounts, newCounts⟩ :=
    tallies_of_exchange opens (GrammarSet.relations_emptied .adjectives _) rfl (Or.inl rfl) (Or.inr rfl)
      distinct Phrase.distinguishes_listed firstFamiliar secondFamiliar
  have listed : (store.talliesOf "v1").toList = [(1, old), (2, new)] :=
    (congrArg _ tallies).trans (toList_insert_insert old new)
  have opened : Reached (fun configuration => configuration.sampleLimit = 5) ⟨engine, []⟩ := .opened rfl opens
  have admitted : ∀ move ∈ ([.create .all, .start 1, .finish 0 ⟨.ok first, .never⟩] ++ .reload emptied ::
      [.create .all, .start 2, .finish 0 ⟨.ok second, .never⟩] : List Move),
        move.Admitted fun configuration => configuration.sampleLimit = 5 := by
    simp [Move.Admitted]
  have totals := (opened.afterAll admitted).balanced.totals "v1"
  have some_committed : store.talliesOf "v1" ≠ ∅ := fun nothing => by
    rw [nothing] at listed
    cases listed
  have summed : store.totals["v1"]? = some (.sum 5 [(1, old), (2, new)]) :=
    (totals.trans (if_neg some_committed)).trans
      (congrArg (fun entries => some (Totals.sum 5 entries)) listed)
  refine ⟨grammars, old, new, listed, summed, oldCounts, newCounts, fun limit fetched counts => ?_⟩
  have seen : (GrammarSet.adjectives.relations .empty).toOption.map (fun relations =>
      (relations.countAfresh 5 first.sentences).pairings.isEmpty) = some false := by
    decide +kernel
  obtain ⟨relations, accepted, some_paired⟩ := exists_ok_of_toOption seen
  obtain ⟨tagsets, _, alsoAccepted, tallied⟩ := oldCounts
  obtain rfl := GrammarSet.relations_unique accepted alsoAccepted
  have nothing := counts.pairings_of_emptied
  have none_paired : (relations.countAfresh 5 first.sentences).pairings = ∅ :=
    (congrArg Tally.pairings tallied).symm.trans nothing
  rw [none_paired] at some_paired
  cases some_paired

end Session
end Collocation
