import Collocation.Proofs.Count.Tasks

/-!
# Invariants of counting

All ways to count come down to a few steps: a sentence is added with an analysis, a note is made of one that is left out,
and tallies are joined.  What these steps keep holds of every tally that relations make, one sentence after another, in
shards, or by tasks that share a cache.
-/

namespace Collocation

/-- A property that tallies keep when relations count sentences with usable analyses, when the notes change, and when
tallies are joined.  Analyses that the relations make are usable. -/
structure RelationSet.Keeps (relations : RelationSet) (limit : Nat) (usable : Analysis → Prop)
    (property : Tally → Prop) : Prop where
  /-- It holds of the empty tally. -/
  empty : property (.empty limit)
  /-- One more sentence keeps it. -/
  counted : ∀ {tally : Tally}, property tally → ∀ (sentence : Sentence) {analysis : Analysis}, usable analysis →
    property (relations.countAnalysed tally sentence analysis)
  /-- Other notes keep it. -/
  noted : ∀ {tally : Tally}, property tally → ∀ skipped, property { tally with skipped }
  /-- Joining keeps it. -/
  joined : ∀ {tally later : Tally}, property tally → property later → property (tally ++ later)
  /-- Analyses of the relations are usable. -/
  made : ∀ tokens, usable (relations.analyze tokens)

theorem Tally.sum_of_joined {property : Tally → Prop} {limit : Nat} (empty : property (.empty limit))
    (joined : ∀ {tally later : Tally}, property tally → property later → property (tally ++ later))
    {tallies : List Tally} (all : ∀ tally ∈ tallies, property tally) : property (.sum limit tallies) :=
  List.foldlRecOn (motive := property) tallies append empty
    fun _ holds later member => joined holds (all later member)

/-- All analyses that a cache keeps are usable. -/
def AnalysisCache.Usable (usable : Analysis → Prop) (cache : AnalysisCache) : Prop :=
  cache.Every fun _ analysis => usable analysis

/-- An analysis that was made and is still to be kept is usable. -/
def Stage.Usable (usable : Analysis → Prop) : Stage → Prop
  | .ready | .missed => True
  | .made analysis => usable analysis

namespace RelationSet.Keeps

variable {relations : RelationSet} {limit : Nat} {usable : Analysis → Prop} {property : Tally → Prop}
  (keeps : relations.Keeps limit usable property)

include keeps

/-! ## One sentence after another -/

theorem analyzeWith {cache : AnalysisCache} (kept : cache.Usable usable) (sentence : Sentence) :
    usable (relations.analyzeWith cache sentence).1 ∧ (relations.analyzeWith cache sentence).2.Usable usable := by
  obtain ⟨found, remains⟩ := Cache.Every.lookUp kept sentence.hash
  rw [RelationSet.analyzeWith, Cache.getOrMake_eq_lookUp]
  generalize cache.lookUp sentence.hash = outcome at found remains
  obtain ⟨value, touched⟩ := outcome
  cases value with
  | none => exact ⟨keeps.made _, remains.insert (keeps.made _)⟩
  | some analysis => exact ⟨found analysis rfl, remains⟩

theorem countSentence {state : Tally × AnalysisCache} (holds : property state.1) (kept : state.2.Usable usable)
    (sentence : Sentence) :
    property (relations.countSentence state sentence).1 ∧
      (relations.countSentence state sentence).2.Usable usable := by
  rw [RelationSet.countSentence]
  cases sentence.flaw? with
  | some reason => exact ⟨keeps.noted holds _, kept⟩
  | none =>
      obtain ⟨use, remains⟩ := keeps.analyzeWith kept sentence
      exact ⟨keeps.counted holds sentence use, remains⟩

theorem count {cache : AnalysisCache} (kept : cache.Usable usable) (sentences : List Sentence) :
    property (relations.count limit cache sentences).1 ∧ (relations.count limit cache sentences).2.Usable usable :=
  List.foldlRecOn (motive := fun state : Tally × AnalysisCache => property state.1 ∧ state.2.Usable usable)
    sentences relations.countSentence ⟨keeps.empty, kept⟩
    fun _ both sentence _ => keeps.countSentence both.1 both.2 sentence

theorem countParts {cache : AnalysisCache} (kept : cache.Usable usable) (parts : List (List Sentence)) :
    ∀ tally ∈ (relations.countParts limit cache parts).1, property tally := by
  induction parts generalizing cache with
  | nil => exact fun _ member => absurd member List.not_mem_nil
  | cons part parts induction =>
      obtain ⟨holds, remains⟩ := keeps.count kept part
      intro tally member
      rw [RelationSet.countParts] at member
      rcases List.mem_cons.mp member with rfl | later
      · exact holds
      · exact induction remains tally later

theorem countSharded {cache : AnalysisCache} (kept : cache.Usable usable) (size : Nat) (sentences : List Sentence) :
    property (relations.countSharded limit size cache sentences).1 :=
  Tally.sum_of_joined keeps.empty keeps.joined (keeps.countParts kept (shards size sentences))

/-! ## Tasks -/

/-- A step of a task counts a sentence, leaves one out, or does not change the tally. -/
theorem step {task : Task} (holds : property task.tally) (ready : task.stage.Usable usable) {cache : AnalysisCache}
    (kept : cache.Usable usable) :
    let next := task.step relations cache
    property next.1.tally ∧ next.1.stage.Usable usable ∧ next.2.Usable usable := by
  intro next
  obtain ⟨rest, tally, stage⟩ := task
  cases rest with
  | nil => exact ⟨holds, ready, kept⟩
  | cons sentence rest =>
      cases stage with
      | missed => exact ⟨holds, keeps.made _, kept⟩
      | made analysis => exact ⟨keeps.counted holds sentence ready, trivial, Cache.Every.insert kept ready⟩
      | ready =>
          simp only [next, Task.step]
          cases sentence.flaw? with
          | some reason => exact ⟨keeps.noted holds _, trivial, kept⟩
          | none =>
              obtain ⟨found, remains⟩ := Cache.Every.lookUp kept sentence.hash
              cases looked : cache.lookUp sentence.hash with
              | mk value touched =>
                  rw [looked] at found remains
                  cases value with
                  | none => exact ⟨holds, trivial, remains⟩
                  | some analysis => exact ⟨keeps.counted holds sentence (found analysis rfl), trivial, remains⟩

theorem stepAt {workshop : Workshop} (kept : workshop.cache.Usable usable)
    (all : ∀ task ∈ workshop.tasks, property task.tally ∧ task.stage.Usable usable) (place : Nat) :
    let next := workshop.stepAt relations place
    next.cache.Usable usable ∧ ∀ task ∈ next.tasks, property task.tally ∧ task.stage.Usable usable := by
  intro next
  simp only [next, Workshop.stepAt]
  cases found : workshop.tasks[place]? with
  | none => exact ⟨kept, all⟩
  | some stepping =>
      obtain ⟨holds, ready⟩ := all stepping (List.mem_of_getElem? found)
      obtain ⟨after, afterReady, remains⟩ := keeps.step holds ready kept
      refine ⟨remains, fun task member => ?_⟩
      rcases List.mem_or_eq_of_mem_set member with other | rfl
      · exact all task other
      · exact ⟨after, afterReady⟩

/-- The tallies of all tasks have the property, in whatever order the steps are made. -/
theorem run {cache : AnalysisCache} (kept : cache.Usable usable) (parts : List (List Sentence)) (schedule : List Nat) :
    ∀ task ∈ ((Workshop.opened limit cache parts).run relations schedule).tasks, property task.tally := by
  let Good (workshop : Workshop) : Prop :=
    workshop.cache.Usable usable ∧ ∀ task ∈ workshop.tasks, property task.tally ∧ task.stage.Usable usable
  have opened : Good (.opened limit cache parts) := by
    refine ⟨kept, fun task member => ?_⟩
    obtain ⟨part, -, rfl⟩ := List.mem_map.mp member
    exact ⟨keeps.empty, trivial⟩
  have ran : Good ((Workshop.opened limit cache parts).run relations schedule) :=
    List.foldlRecOn (motive := Good) schedule (Workshop.stepAt relations) opened
      fun _ good place _ => keeps.stepAt good.1 good.2 place
  exact fun task member => (ran.2 task member).1

end RelationSet.Keeps

/-! ## All ways to count -/

namespace Tally

/-- Tallies that are obtained with one set of relations and samples of one length, from caches that are admitted: by
counting sentences and by joining and summing such tallies, in any combination. -/
inductive ObtainedWith (relations : RelationSet) (limit : Nat) (admitted : AnalysisCache → Prop) : Tally → Prop where
  /-- Sentences were counted one after another, and no request to stop was found. -/
  | counted {request : StopRequest} {cache : AnalysisCache} (within : admitted cache) {sentences : List Sentence}
      {tally : Tally}
      (counts : (RelationSet.countUnless request (relations.count limit) cache sentences).1 = some tally) :
      ObtainedWith relations limit admitted tally
  /-- Sentences were counted in shards, and no request to stop was found. -/
  | sharded {request : StopRequest} {size : Nat} {cache : AnalysisCache} (within : admitted cache)
      {sentences : List Sentence} {tally : Tally}
      (counts : (RelationSet.countUnless request (relations.countSharded limit size) cache sentences).1 = some tally) :
      ObtainedWith relations limit admitted tally
  /-- The shards were counted by tasks that share a cache, step by step in some order. -/
  | executed {cache : AnalysisCache} (within : admitted cache) {parts : List (List Sentence)} {schedule : List Nat}
      (finished : ((Workshop.opened limit cache parts).run relations schedule).Finished) :
      ObtainedWith relations limit admitted
        (sum limit (((Workshop.opened limit cache parts).run relations schedule).tasks.map Task.tally))
  /-- A later tally was joined to an earlier one. -/
  | joined {tally later : Tally} (obtained : ObtainedWith relations limit admitted tally)
      (laterObtained : ObtainedWith relations limit admitted later) :
      ObtainedWith relations limit admitted (tally ++ later)
  /-- Tallies were summed in order. -/
  | summed {tallies : List Tally} (obtained : ∀ tally ∈ tallies, ObtainedWith relations limit admitted tally) :
      ObtainedWith relations limit admitted (sum limit tallies)
  /-- What is left out was noted otherwise. -/
  | noted {tally : Tally} (obtained : ObtainedWith relations limit admitted tally) (skipped : List Skipped) :
      ObtainedWith relations limit admitted { tally with skipped }

end Tally

/-- What is counted unless there is a request to stop is what is counted. -/
theorem RelationSet.eq_of_countUnless {request : StopRequest}
    {count : AnalysisCache → List Sentence → Tally × AnalysisCache} {cache : AnalysisCache} {sentences : List Sentence}
    {tally : Tally} (counts : (countUnless request count cache sentences).1 = some tally) :
    (count cache sentences).1 = tally := by
  rw [countUnless] at counts
  split at counts
  · cases counts
  · exact Option.some.inj counts

/-- However a tally was obtained, it has the property if the caches had usable analyses only. -/
theorem RelationSet.Keeps.obtained {relations : RelationSet} {limit : Nat} {usable : Analysis → Prop}
    {property : Tally → Prop} (keeps : relations.Keeps limit usable property) {admitted : AnalysisCache → Prop}
    (admits : ∀ cache, admitted cache → cache.Usable usable) {tally : Tally}
    (obtained : tally.ObtainedWith relations limit admitted) : property tally := by
  induction obtained with
  | counted within counts => exact eq_of_countUnless counts ▸ (keeps.count (admits _ within) _).1
  | sharded within counts => exact eq_of_countUnless counts ▸ keeps.countSharded (admits _ within) _ _
  | executed within _ =>
      refine Tally.sum_of_joined keeps.empty keeps.joined fun tally member => ?_
      obtain ⟨task, inside, rfl⟩ := List.mem_map.mp member
      exact keeps.run (admits _ within) _ _ task inside
  | joined _ _ holds laterHolds => exact keeps.joined holds laterHolds
  | summed _ all => exact Tally.sum_of_joined keeps.empty keeps.joined all
  | noted _ skipped holds => exact keeps.noted holds skipped

end Collocation
