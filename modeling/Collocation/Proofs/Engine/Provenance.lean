import Collocation.Proofs.Engine.Progress
import Collocation.Proofs.Pattern.Checks

/-!
# Where analyses come from

As long as fingerprints tell the grammar sets in use apart, every analysis that an engine has at hand was made
with its own relations, whatever was saved by earlier engines and with other grammars.  So no cache makes a
difference to a count.
-/

namespace Collocation

namespace GrammarSet

/-- The fingerprint tells some grammar sets apart. -/
def Distinguishes (sets : GrammarSet → Prop) : Prop :=
  ∀ first second, sets first → sets second → first.fingerprint = second.fingerprint → first = second

theorem distinguishes_single (set : GrammarSet) : Distinguishes (· = set) :=
  fun _ _ here there _ => here.trans there.symm

variable {set : GrammarSet} {tagsets : Tagsets} {relations : RelationSet}

theorem version_relations (accepted : set.relations tagsets = .ok relations) :
    relations.version = set.version := by
  obtain ⟨listed, -, rfl⟩ := relations_eq_ok_iff.mp accepted
  rfl

theorem fingerprint_relations (accepted : set.relations tagsets = .ok relations) :
    relations.fingerprint = set.fingerprint := by
  obtain ⟨listed, -, rfl⟩ := relations_eq_ok_iff.mp accepted
  rfl

end GrammarSet

variable {sets : GrammarSet → Prop} {known : List Token → Prop}

namespace RelationSet

/-- The relations are those of one of some grammar sets, checked with some parts of speech. -/
def From (sets : GrammarSet → Prop) (relations : RelationSet) : Prop :=
  ∃ set tagsets, sets set ∧ set.relations tagsets = .ok relations

/-- All analyses were made for known tokens and stand under their addresses. -/
def Made (relations : RelationSet) (known : List Token → Prop)
    (entries : List (ContentHash × Analysis)) : Prop :=
  ∀ entry ∈ entries, ∃ tokens, known tokens ∧ entry.1 = .ofTokens tokens ∧
    entry.2 = relations.analyze tokens

theorem Coherent.made {relations : RelationSet} {cache : AnalysisCache}
    (coherent : relations.Coherent known cache) : relations.Made known cache.entries :=
  fun entry member => coherent entry (List.mem_reverse.mp member)

/-- Relations of grammar sets in use that have one fingerprint are the same. -/
theorem From.unique {relations other : RelationSet} (here : relations.From sets)
    (there : other.From sets) (distinct : GrammarSet.Distinguishes sets)
    (same : relations.fingerprint = other.fingerprint) : relations = other := by
  obtain ⟨set, tagsets, inUse, accepted⟩ := here
  obtain ⟨set', tagsets', inUse', accepted'⟩ := there
  rw [GrammarSet.fingerprint_relations accepted, GrammarSet.fingerprint_relations accepted'] at same
  obtain rfl := distinct set set' inUse inUse' same
  exact GrammarSet.relations_unique accepted accepted'

end RelationSet

theorem Engine.relationsOf_eq_ok_iff {configuration : Configuration} {set : GrammarSet}
    {relations : RelationSet} :
    relationsOf configuration set = .ok relations ↔
      set.relations configuration.tagsets = .ok relations := by
  rw [relationsOf]
  cases set.relations configuration.tagsets <;> simp [Except.mapError]

/-! ## Stores -/

namespace Store

/-- The stored grammars are in use, and the saved analyses were made with relations of their fingerprint. -/
structure Backed (sets : GrammarSet → Prop) (known : List Token → Prop) (store : Store) : Prop where
  grammars : ∀ (version : String) (set : GrammarSet), store.grammars[version]? = some set → sets set
  analyses : ∀ (fingerprint : String) (entries : List (ContentHash × Analysis)),
    store.analyses[fingerprint]? = some entries →
      ∃ relations : RelationSet, relations.From sets ∧ relations.fingerprint = fingerprint ∧
        relations.Made known entries

theorem backed_empty : empty.Backed sets known where
  grammars := fun version set found => by simp [empty] at found
  analyses := fun fingerprint entries found => by simp [empty] at found

namespace Backed

variable {store : Store} (backed : store.Backed sets known)

include backed

theorem of_same {later : Store} (grammars : later.grammars = store.grammars)
    (analyses : later.analyses = store.analyses) : later.Backed sets known :=
  ⟨grammars ▸ backed.grammars, analyses ▸ backed.analyses⟩

theorem of_sameButRow {id : BatchId} {later : Store} (same : store.SameButRow id later) :
    later.Backed sets known :=
  backed.of_same same.grammars same.analyses

theorem withGrammars {set : GrammarSet} (inUse : sets set) :
    (store.withGrammars set).Backed sets known where
  grammars := fun version other found => by
    rcases Table.of_getElem?_insert_eq_some found with ⟨-, rfl⟩ | ⟨-, earlier⟩
    · exact inUse
    · exact backed.grammars version other earlier
  analyses := backed.analyses

theorem withAnalyses {relations : RelationSet} (stems : relations.From sets)
    {entries : List (ContentHash × Analysis)} (made : relations.Made known entries) :
    (store.withAnalyses relations.fingerprint entries).Backed sets known where
  grammars := backed.grammars
  analyses := fun fingerprint others found => by
    rcases Table.of_getElem?_insert_eq_some found with ⟨own, rfl⟩ | ⟨-, earlier⟩
    · exact ⟨relations, stems, own, made⟩
    · exact backed.analyses fingerprint others earlier

/-- What is saved under the fingerprint of relations was made with them. -/
theorem coherent_freshCache (distinct : GrammarSet.Distinguishes sets) {relations : RelationSet}
    (stems : relations.From sets) (configuration : Configuration) :
    relations.Coherent known (Engine.freshCache configuration relations store) := by
  refine Engine.coherent_freshCache fun entries saved => ?_
  obtain ⟨maker, makerStems, fingerprint, made⟩ := backed.analyses _ entries saved
  rwa [makerStems.unique stems distinct fingerprint] at made

end Backed
end Store

/-! ## Sessions -/

/-- A move brings in only grammar sets in use and sentences of known tokens. -/
def Move.Among (sets : GrammarSet → Prop) (known : List Token → Prop) : Move → Prop
  | .reload set => sets set
  | .restart _ set _ => sets set
  | .finish _ delivery => ∀ sentence, delivery.Gives sentence → known sentence.tokens
  | _ => True

/-- A move brings in only configurations that keep samples of one length, grammar sets in use, and sentences
of known tokens. -/
def Move.Within (limit : Nat) (sets : GrammarSet → Prop) (known : List Token → Prop) : Move → Prop
  | .reload set => sets set
  | .restart configuration set _ => configuration.sampleLimit = limit ∧ sets set
  | .finish _ delivery => ∀ sentence, delivery.Gives sentence → known sentence.tokens
  | _ => True

theorem Move.Within.admitted {limit : Nat} {move : Move} (within : move.Within limit sets known) :
    move.Admitted fun configuration => configuration.sampleLimit = limit := by
  cases move with
  | restart configuration set norms => exact within.1
  | _ => trivial

theorem Move.Within.among {limit : Nat} {move : Move} (within : move.Within limit sets known) :
    move.Among sets known := by
  cases move with
  | restart configuration set norms => exact within.2
  | _ => exact within

theorem Move.among_new_batch {fetched : Fetched} (familiar : Familiar known fetched.sentences)
    (selection : Selection) (id : BatchId) (stop : StopRequest) :
    ∀ move ∈ [.create selection, .start id, .finish 0 ⟨.ok fetched, stop⟩], Among sets known move := by
  intro move member
  simp only [List.mem_cons, List.not_mem_nil, or_false] at member
  rcases member with rfl | rfl | rfl
  · trivial
  · trivial
  · rintro sentence ⟨_, delivered, inside⟩
    cases delivered
    exact familiar sentence inside

namespace Session

/-- The relations are those of a grammar set in use, and all analyses at hand were made with them. -/
structure Backed (sets : GrammarSet → Prop) (known : List Token → Prop) (session : Session) : Prop where
  relations : session.engine.relations.From sets
  store : session.engine.store.Backed sets known
  cache : session.engine.relations.Coherent known session.engine.cache

theorem backed_onStore {configuration : Configuration} {set : GrammarSet} {norms : Norms} {store : Store}
    {engine : Engine} (backed : store.Backed sets known) (distinct : GrammarSet.Distinguishes sets)
    (inUse : sets set) (opens : Engine.onStore configuration set norms store = .ok engine) :
    (⟨engine, []⟩ : Session).Backed sets known := by
  have saved := backed.withGrammars inUse
  have library : engine.store.Backed sets known :=
    Engine.store_onStore opens (fun later => later.Backed sets known) saved fun later batch _ kept =>
      kept.of_sameButRow (Store.sameButRow_putIfAvailable later (Engine.takeOver batch))
  obtain ⟨relations, compiled, -, rfl⟩ := Engine.onStore_eq_ok_iff.mp opens
  have stems : relations.From sets := ⟨set, _, inUse, Engine.relationsOf_eq_ok_iff.mp compiled⟩
  exact ⟨stems, library, saved.coherent_freshCache distinct stems configuration⟩

/-- What one step keeps: reloading and restarting fill the cache with what was saved under the fingerprint,
and the end of a run uses the relations that the engine still has. -/
theorem Backed.step {admits : Configuration → Prop} {before after : Session} {move : Move}
    (backed : before.Backed sets known) (distinct : GrammarSet.Distinguishes sets)
    (distinguishes : ContentHash.Distinguishes known) (steady : before.Steady)
    (among : move.Among sets known) (step : Step admits before move after) :
    after.Backed sets known := by
  obtain ⟨stems, store, cache⟩ := backed
  cases step with
  | refused => exact ⟨stems, store, cache⟩
  | switched available => exact ⟨stems, ⟨store.grammars, store.analyses⟩, cache⟩
  | created selection => exact ⟨stems, store.of_sameButRow (Engine.sameButRow_keep _ _), cache⟩
  | started starts =>
      have same := Engine.sameButRow_start starts
      obtain ⟨waiting, -, -, -, rfl⟩ := Engine.start_eq_ok_iff.mp starts
      exact ⟨stems, store.of_sameButRow same, cache⟩
  | requeued requeues =>
      have same := Engine.sameButRow_requeue requeues
      obtain ⟨ended, -, -, -, rfl⟩ := Engine.requeue_eq_ok_iff.mp requeues
      exact ⟨stems, store.of_sameButRow same, cache⟩
  | persisted persists =>
      obtain ⟨-, -, rfl⟩ := Engine.persist_eq_ok_iff.mp persists
      exact ⟨stems, store.withAnalyses stems cache.made, cache⟩
  | restarted admitted opens => exact backed_onStore store distinct among opens
  | @reloaded move set later asked reloads =>
      have inUse : sets set := by
        rcases asked with rfl | ⟨version, rfl, stored⟩
        · exact among
        · exact store.grammars version set stored
      obtain ⟨relations, compiled, -, -, rfl⟩ := Engine.reload_eq_ok_iff.mp reloads
      have renewed : relations.From sets := ⟨set, _, inUse, Engine.relationsOf_eq_ok_iff.mp compiled⟩
      have saved := store.withGrammars inUse
      exact ⟨renewed, saved, saved.coherent_freshCache distinct renewed _⟩
  | @finished place run delivery ended found ending counted =>
      have own := steady.relations run (List.mem_of_getElem? found)
      have uses := before.engine.uses_finish run.relations run.batch delivery
      simp only [Engine.finish, counted] at uses
      rw [own] at uses
      have coherent := uses.coherent distinguishes (fun sentence given => among sentence given.1) cache
      have library : ended.2.store.Backed sets known := by
        cases ending with
        | failed used skipped hindered =>
            exact store.of_sameButRow (Engine.sameButRow_failRun { before.engine with cache := used } _ _ _)
        | completed => exact ⟨store.grammars, store.analyses⟩
      rw [ending.keeps]
      exact ⟨stems, library, coherent⟩

/-- A new batch whose run nothing hinders is counted as if nothing was kept. -/
theorem Backed.ran_new_batch {session : Session} (backed : session.Backed sets known)
    (distinguishes : ContentHash.Distinguishes known) (available : session.engine.store.available = true)
    {fetched : Fetched} (familiar : Familiar known fetched.sentences) (selection : Selection) :
    let engine := session.engine
    let tally := (engine.relations.countAfresh engine.configuration.sampleLimit
      fetched.sentences).addRejected fetched.rejected
    ∃ totals, Engine.Sums engine engine.version engine.nextBatch tally totals ∧
      session.Ran tally totals (session.afterAll
        [.create selection, .start engine.nextBatch, .finish 0 ⟨.ok fetched, .never⟩]) := by
  intro engine tally
  have unstopped : StopRequest.never.foundWithin (fetched.sentences.length + 1) = false := rfl
  obtain ⟨counted, cache, totals, counts, sums, ran⟩ := Session.ran_new_batch available unstopped selection
  have afresh := backed.cache.countSharded distinguishes familiar
    session.engine.configuration.sampleLimit session.engine.configuration.shardSize
  rw [counts] at afresh
  obtain rfl : counted = _ := afresh
  exact ⟨totals, sums, ran⟩

/-- The first batch of an engine on an empty store has the number 1, and makes up all totals. -/
theorem ran_first_batch {configuration : Configuration} {set : GrammarSet} {norms : Norms}
    {engine : Engine} {relations : RelationSet}
    (opens : Engine.onStore configuration set norms .empty = .ok engine)
    (accepted : set.relations configuration.tagsets = .ok relations) (inUse : sets set)
    (distinct : GrammarSet.Distinguishes sets) (distinguishes : ContentHash.Distinguishes known)
    {fetched : Fetched} (familiar : Familiar known fetched.sentences) (selection : Selection) :
    let tally := (relations.countAfresh configuration.sampleLimit fetched.sentences).addRejected
      fetched.rejected
    (⟨engine, []⟩ : Session).Ran tally (.sum configuration.sampleLimit [(1, tally)])
      ((⟨engine, []⟩ : Session).afterAll
        [.create selection, .start 1, .finish 0 ⟨.ok fetched, .never⟩]) := by
  intro tally
  have backed : (⟨engine, []⟩ : Session).Backed sets known :=
    backed_onStore Store.backed_empty distinct inUse opens
  obtain ⟨_, compiled, rfl⟩ := Engine.onStore_empty_eq_ok opens
  obtain rfl := Except.ok.inj (accepted.symm.trans (Engine.relationsOf_eq_ok_iff.mp compiled))
  obtain ⟨totals, sums, ran⟩ := backed.ran_new_batch distinguishes rfl familiar selection
  cases sums with
  | first absent => exact ran
  | added found last => simp [Store.withGrammars, Store.empty] at found
  | again found inside => simp [Store.withGrammars, Store.empty] at found

theorem backed_afterAll {configuration : Configuration} {set : GrammarSet} {norms : Norms}
    {engine : Engine} (opens : Engine.onStore configuration set norms .empty = .ok engine)
    (inUse : sets set) (distinct : GrammarSet.Distinguishes sets)
    (distinguishes : ContentHash.Distinguishes known) {moves : List Move}
    (among : ∀ move ∈ moves, move.Among sets known) :
    ((⟨engine, []⟩ : Session).afterAll moves).Backed sets known := by
  have opened : Reached (fun _ => True) ⟨engine, []⟩ := .opened trivial opens
  refine afterAll_invariant
    (fun moves session => (∀ move ∈ moves, move.Among sets known) → session.Backed sets known)
    (fun _ => backed_onStore Store.backed_empty distinct inUse opens)
    (fun {moves before move after} here backed step more => ?_) moves among
  have reached : Reached (fun _ => True) before := by
    rw [here]
    exact opened.afterAll fun move _ => admitted_true move
  refine (backed fun move member => more move (List.mem_append_left _ member)).step distinct distinguishes
    reached.steady (more move (List.mem_append_right _ List.mem_cons_self)) step

end Session
end Collocation
