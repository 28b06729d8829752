import Collocation.Proofs.Count.Tasks

/-!
# The shared cache

Whatever the order of their steps, tasks that share a coherent cache keep it coherent, and every task comes to
the tally of its part as if there were no cache.
-/

namespace Collocation

variable {relations : RelationSet} {known : List Token → Prop} {sampleLimit : Nat}

/-- The sentence is one to be analysed, and if its analysis was made it is the right one. -/
def Stage.Fits (relations : RelationSet) (sentence : Sentence) : Stage → Prop
  | .ready => True
  | .missed => sentence.flaw? = none
  | .made analysis => sentence.flaw? = none ∧ analysis = relations.analyze sentence.tokens

namespace Task

/-- The sentences that are left lead from the tally to that of the whole part. -/
structure Sound (relations : RelationSet) (known : List Token → Prop) (sampleLimit : Nat)
    (part : List Sentence) (task : Task) : Prop where
  /-- They lead to it if nothing is kept. -/
  leads : task.rest.foldl relations.addAfresh task.tally = relations.countAfresh sampleLimit part
  /-- Their tokens are known. -/
  familiar : Familiar known task.rest
  /-- The stage fits the first of them. -/
  fits : ∀ sentence ∈ task.rest.head?, task.stage.Fits relations sentence

/-- A step keeps the task sound and the cache coherent. -/
theorem Sound.step {part : List Sentence} {task : Task} {cache : AnalysisCache}
    (sound : task.Sound relations known sampleLimit part) (coherent : relations.Coherent known cache)
    (distinguishes : ContentHash.Distinguishes known) :
    (task.step relations cache).1.Sound relations known sampleLimit part ∧
      relations.Coherent known (task.step relations cache).2 := by
  obtain ⟨rest, tally, stage⟩ := task
  cases rest with
  | nil => exact ⟨sound, coherent⟩
  | cons sentence rest =>
      obtain ⟨leads, familiar, fits⟩ := sound
      have occurs : known sentence.tokens := familiar sentence List.mem_cons_self
      have fit : stage.Fits relations sentence := fits sentence rfl
      have counted {next : Tally} (adds : next = relations.addAfresh tally sentence) :
          (⟨rest, next, .ready⟩ : Task).Sound relations known sampleLimit part :=
        ⟨adds ▸ leads, familiar.tail, fun _ _ => trivial⟩
      cases stage with
      | missed =>
          refine ⟨⟨leads, familiar, fun other same => ?_⟩, coherent⟩
          cases same
          exact ⟨fit, rfl⟩
      | made analysis =>
          obtain ⟨valid, rfl⟩ := fit
          refine ⟨counted ?_, Cache.Every.insert coherent ⟨_, occurs, rfl, rfl⟩⟩
          simp only [RelationSet.addAfresh, valid]
      | ready =>
          simp only [Task.step]
          cases flaw : sentence.flaw? with
          | some reason =>
              refine ⟨counted ?_, coherent⟩
              simp only [RelationSet.addAfresh, flaw]
          | none =>
              obtain ⟨entry, kept⟩ := Cache.Every.lookUp coherent sentence.hash
              cases looked : cache.lookUp sentence.hash with
              | mk value touched =>
                  rw [looked] at entry kept
                  cases value with
                  | none =>
                      refine ⟨⟨leads, familiar, fun other same => ?_⟩, kept⟩
                      cases same
                      exact flaw
                  | some analysis =>
                      have right := RelationSet.eq_analyze_of_entry distinguishes occurs
                        (entry analysis rfl)
                      refine ⟨counted ?_, kept⟩
                      simp only [RelationSet.addAfresh, flaw, right]

end Task

namespace Workshop

/-- The cache is coherent and every part has its sound task. -/
structure Sound (relations : RelationSet) (known : List Token → Prop) (sampleLimit : Nat)
    (parts : List (List Sentence)) (workshop : Workshop) : Prop where
  /-- The cache is coherent. -/
  coherent : relations.Coherent known workshop.cache
  /-- There are as many tasks as parts. -/
  length : workshop.tasks.length = parts.length
  /-- The tasks are sound. -/
  tasks : ∀ (place : Nat) (part : List Sentence) (task : Task), parts[place]? = some part →
    workshop.tasks[place]? = some task → task.Sound relations known sampleLimit part

variable {parts : List (List Sentence)} {workshop : Workshop}

theorem sound_opened {cache : AnalysisCache} (coherent : relations.Coherent known cache)
    (occur : ∀ part ∈ parts, Familiar known part) :
    (opened sampleLimit cache parts).Sound relations known sampleLimit parts := by
  refine ⟨coherent, List.length_map _, fun place part task here found => ?_⟩
  simp only [opened, List.getElem?_map, here, Option.map_some, Option.some.injEq] at found
  subst found
  exact ⟨rfl, occur part (List.mem_of_getElem? here), fun _ _ => trivial⟩

theorem Sound.stepAt (sound : workshop.Sound relations known sampleLimit parts)
    (distinguishes : ContentHash.Distinguishes known) (place : Nat) :
    (workshop.stepAt relations place).Sound relations known sampleLimit parts := by
  rw [Workshop.stepAt]
  cases found : workshop.tasks[place]? with
  | none => exact sound
  | some task =>
      obtain ⟨inside, -⟩ := List.getElem?_eq_some_iff.mp found
      obtain ⟨part, here⟩ : ∃ part, parts[place]? = some part :=
        ⟨_, List.getElem?_eq_getElem (sound.length ▸ inside)⟩
      obtain ⟨next, kept⟩ :=
        (sound.tasks place part task here found).step sound.coherent distinguishes
      refine ⟨kept, ?_, fun other another moved there isMoved => ?_⟩
      · rw [List.length_set]
        exact sound.length
      · rw [List.getElem?_set] at isMoved
        split at isMoved
        · next same =>
            subst same
            rw [Option.some.injEq] at isMoved
            rw [here, Option.some.injEq] at there
            rwa [← there, ← isMoved]
        · exact sound.tasks other another moved there isMoved

theorem Sound.run (sound : workshop.Sound relations known sampleLimit parts)
    (distinguishes : ContentHash.Distinguishes known) (schedule : List Nat) :
    (workshop.run relations schedule).Sound relations known sampleLimit parts := by
  induction schedule generalizing workshop with
  | nil => exact sound
  | cons place schedule induction => exact induction (sound.stepAt distinguishes place)

/-- When nothing is left, every task has the tally of its part. -/
theorem Sound.tallies_of_finished (sound : workshop.Sound relations known sampleLimit parts)
    (finished : workshop.Finished) :
    workshop.tasks.map Task.tally = parts.map (relations.countAfresh sampleLimit) := by
  refine List.ext_getElem? fun place => ?_
  rw [List.getElem?_map, List.getElem?_map]
  cases here : parts[place]? with
  | none =>
      have outside := List.getElem?_eq_none_iff.mp here
      rw [List.getElem?_eq_none (sound.length ▸ outside)]
      rfl
  | some part =>
      obtain ⟨inside, -⟩ := List.getElem?_eq_some_iff.mp here
      have found := List.getElem?_eq_getElem (sound.length.symm ▸ inside)
      have done := finished _ (List.getElem_mem (sound.length.symm ▸ inside))
      have leads := (sound.tasks place part _ here found).leads
      rw [done] at leads
      rw [found]
      exact congrArg some leads

end Workshop

namespace RelationSet

/-- With accepted grammars, a coherent cache of whatever size makes no difference.  Sentences that are counted
through it have the tally that all relations in their order give without a cache, and so has every part of a
corpus whose tasks share the cache, in whatever order they look up, make and keep analyses.  The cache is
coherent all along, and the heads and collocates that it gives for a sentence, or that a task is about to keep
for it, are tokens of the sentence. -/
theorem count_of_coherent {set : GrammarSet} {tagsets : Tagsets} {relations : RelationSet}
    (accepted : set.relations tagsets = .ok relations) {known : List Token → Prop}
    (distinguishes : ContentHash.Distinguishes known) {cache : AnalysisCache}
    (coherent : relations.Coherent known cache) (sampleLimit : Nat) {sentences : List Sentence}
    (occur : Familiar known sentences) :
    let counted := relations.count sampleLimit cache sentences
    (∃ listed, (set.grammars.mapM fun grammar => grammar.relation tagsets) = .ok listed ∧
      relations.active.Perm (listed.filter Relation.active)) ∧
    (relations.active.Pairwise fun left right =>
      left.priority < right.priority ∨ left.priority = right.priority ∧ left.name ≤ right.name) ∧
    counted.1 = relations.countAfresh sampleLimit sentences ∧
    relations.Coherent known counted.2 ∧
    (∀ kept, relations.Coherent known kept → ∀ sentence : Sentence, known sentence.tokens →
      Analysis.Within sentence.tokens (relations.analyzeWith kept sentence).1) ∧
    ∀ parts : List (List Sentence), (∀ part ∈ parts, Familiar known part) → ∀ schedule,
      let workshop := (Workshop.opened sampleLimit cache parts).run relations schedule
      relations.Coherent known workshop.cache ∧
      (∀ task ∈ workshop.tasks, ∀ sentence ∈ task.rest.head?, ∀ analysis,
        task.stage = .made analysis → Analysis.Within sentence.tokens analysis) ∧
      (workshop.Finished →
        workshop.tasks.map Task.tally = parts.map (relations.countAfresh sampleLimit)) ∧
      ∃ further, (workshop.run relations further).Finished := by
  intro counted
  obtain ⟨same, remains⟩ := coherent.count distinguishes occur sampleLimit
  refine ⟨GrammarSet.exists_perm_active accepted, GrammarSet.pairwise_active accepted, same, remains,
    ?_, ?_⟩
  · intro kept keptCoherent sentence occurs
    rw [(keptCoherent.analyzeWith distinguishes occurs).1]
    exact within_analyze accepted sentence.tokens
  · intro parts familiar schedule workshop
    have sound : workshop.Sound relations known sampleLimit parts :=
      (Workshop.sound_opened coherent familiar).run distinguishes schedule
    refine ⟨sound.coherent, ?_, sound.tallies_of_finished, workshop.exists_finished_run relations⟩
    intro task member sentence first analysis made
    obtain ⟨place, found⟩ := List.getElem?_of_mem member
    obtain ⟨inside, -⟩ := List.getElem?_eq_some_iff.mp found
    have here := List.getElem?_eq_getElem (sound.length ▸ inside)
    have fits := (sound.tasks place _ task here found).fits sentence first
    rw [made] at fits
    rw [fits.2]
    exact within_analyze accepted sentence.tokens

/-- Two tasks with the same sentences share a cache that has room for one analysis, which is there already. -/
theorem count_of_coherent_phrases :
    ∃ relations, GrammarSet.adjectives.relations .empty = .ok relations ∧
      let cache : AnalysisCache :=
        (Cache.empty 1).insert (.ofTokens [Phrase.house]) (relations.analyze [Phrase.house])
      let alone := relations.countAfresh 1 Phrase.sentences
      (relations.count 1 cache Phrase.sentences).1 = alone ∧
        ∀ schedule,
          let workshop :=
            (Workshop.opened 1 cache [Phrase.sentences, Phrase.sentences]).run relations schedule
          (workshop.Finished → workshop.tasks.map Task.tally = [alone, alone]) ∧
          ∃ further, (workshop.run relations further).Finished := by
  obtain ⟨relations, accepted⟩ := GrammarSet.exists_relations_adjectives
  refine ⟨relations, accepted, ?_⟩
  intro cache alone
  have coherent : relations.Coherent Phrase.Listed cache :=
    (Cache.every_empty 1).insert ⟨[Phrase.house], Or.inl rfl, rfl, rfl⟩
  obtain ⟨-, -, same, -, -, shared⟩ :=
    count_of_coherent accepted Phrase.distinguishes_listed coherent 1 Phrase.familiar_sentences
  refine ⟨same, fun schedule => ?_⟩
  have familiar : ∀ part ∈ [Phrase.sentences, Phrase.sentences], Familiar Phrase.Listed part := by
    simp [Phrase.familiar_sentences]
  obtain ⟨-, -, tallies, further⟩ := shared _ familiar schedule
  exact ⟨tallies, further⟩

end RelationSet
end Collocation
