import Collocation.Proofs.Count.Invariants
import Collocation.Proofs.Count.Sightings

/-!
# Histories of tallies

Sentences are counted one after another, in shards or by tasks, with any relations and whatever a cache keeps, and
tallies are joined and summed.  All tallies that come of this have a history, so all that follows from a history holds
of them.
-/

namespace Collocation
namespace Tally

/-- Tallies that keep samples of one length, and are obtained by counting sentences and by joining and summing such
tallies, in any combination. -/
inductive Obtained (limit : Nat) : Tally → Prop where
  /-- Sentences were counted one after another, and no request to stop was found. -/
  | counted {relations : RelationSet} {request : StopRequest} {cache : AnalysisCache} {sentences : List Sentence}
      {tally : Tally}
      (counts : (RelationSet.countUnless request (relations.count limit) cache sentences).1 = some tally) :
      Obtained limit tally
  /-- Sentences were counted in shards, and no request to stop was found. -/
  | sharded {relations : RelationSet} {request : StopRequest} {size : Nat} {cache : AnalysisCache}
      {sentences : List Sentence} {tally : Tally}
      (counts : (RelationSet.countUnless request (relations.countSharded limit size) cache sentences).1 = some tally) :
      Obtained limit tally
  /-- The shards were counted by tasks that share a cache, step by step in some order. -/
  | executed {relations : RelationSet} {cache : AnalysisCache} {parts : List (List Sentence)} {schedule : List Nat}
      (finished : ((Workshop.opened limit cache parts).run relations schedule).Finished) :
      Obtained limit (sum limit (((Workshop.opened limit cache parts).run relations schedule).tasks.map Task.tally))
  /-- A later tally was joined to an earlier one. -/
  | joined {tally later : Tally} (obtained : Obtained limit tally) (laterObtained : Obtained limit later) :
      Obtained limit (tally ++ later)
  /-- Tallies were summed in order. -/
  | summed {tallies : List Tally} (obtained : ∀ tally ∈ tallies, Obtained limit tally) :
      Obtained limit (sum limit tallies)
  /-- What is left out was noted otherwise. -/
  | noted {tally : Tally} (obtained : Obtained limit tally) (skipped : List Skipped) :
      Obtained limit { tally with skipped }

/-- A tally was made somehow. -/
def HasHistory (limit : Nat) (tally : Tally) : Prop :=
  ∃ sightings sentences, tally.MadeOf limit sightings sentences

variable {limit : Nat} {tally : Tally}

theorem hasHistory_empty (limit : Nat) : (empty limit).HasHistory limit :=
  ⟨[], [], .empty⟩

theorem HasHistory.noted (history : tally.HasHistory limit) (skipped : List Skipped) :
    { tally with skipped }.HasHistory limit := by
  obtain ⟨sightings, sentences, made⟩ := history
  exact ⟨sightings, sentences, made.noted skipped⟩

theorem HasHistory.joined {later : Tally} (history : tally.HasHistory limit)
    (laterHistory : later.HasHistory limit) : (tally ++ later).HasHistory limit := by
  obtain ⟨sightings, sentences, made⟩ := history
  obtain ⟨more, others, laterMade⟩ := laterHistory
  exact ⟨sightings ++ more, sentences ++ others, made.joined laterMade⟩

theorem keeps_hasHistory (relations : RelationSet) (limit : Nat) :
    relations.Keeps limit (fun _ => True) (HasHistory limit) where
  empty := hasHistory_empty limit
  counted := fun ⟨_, _, made⟩ sentence analysis _ =>
    ⟨_, _, RelationSet.madeOf_countAnalysed made sentence analysis⟩
  noted := HasHistory.noted
  joined := HasHistory.joined
  made := fun _ => trivial

/-- A tally has a history in whatever way it was obtained. -/
theorem Obtained.hasHistory (obtained : tally.Obtained limit) : tally.HasHistory limit := by
  have usable (cache : AnalysisCache) : cache.Usable fun _ => True := fun _ _ => trivial
  induction obtained with
  | counted counts =>
      exact RelationSet.eq_of_countUnless counts ▸ ((keeps_hasHistory _ limit).count (usable _) _).1
  | sharded counts =>
      exact RelationSet.eq_of_countUnless counts ▸ (keeps_hasHistory _ limit).countSharded (usable _) _ _
  | @executed relations cache parts schedule _ =>
      refine sum_of_joined (hasHistory_empty limit) HasHistory.joined fun tally member => ?_
      obtain ⟨task, inside, rfl⟩ := List.mem_map.mp member
      exact (keeps_hasHistory relations limit).run (usable cache) parts schedule task inside
  | joined _ _ history laterHistory => exact history.joined laterHistory
  | summed _ histories => exact sum_of_joined (hasHistory_empty limit) HasHistory.joined histories
  | noted _ skipped history => exact history.noted skipped

end Tally
end Collocation
