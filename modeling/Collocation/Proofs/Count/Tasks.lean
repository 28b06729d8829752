import Collocation.Proofs.Count.Afresh

/-!
# Tasks that share a cache

Parts of a corpus are counted by tasks that share a cache.  Looking up an analysis, making it and keeping it
are steps of their own, so between them the other tasks may look up, make and keep analyses, and drive out
entries.  A schedule says which task makes the next step; the counts of a part one after another are one
schedule among all.
-/

namespace Collocation

/-- How far a task is with the first sentence that is left. -/
inductive Stage where
  /-- It has not been looked up. -/
  | ready
  /-- Its analysis was not found. -/
  | missed
  /-- Its analysis was made. -/
  | made (analysis : Analysis)

/-- A task that counts sentences. -/
structure Task where
  /-- The sentences that are left. -/
  rest : List Sentence
  /-- The tally of the others. -/
  tally : Tally
  /-- What comes next. -/
  stage : Stage := .ready

/-- Some tasks and the cache that they share. -/
structure Workshop where
  /-- The cache. -/
  cache : AnalysisCache
  /-- The tasks. -/
  tasks : List Task

namespace Task

/-- One step of a task; a task with nothing left does not do anything. -/
def step (relations : RelationSet) (task : Task) (cache : AnalysisCache) : Task × AnalysisCache :=
  match task.rest with
  | [] => (task, cache)
  | sentence :: rest =>
      match task.stage with
      | .ready =>
          match sentence.flaw? with
          | some reason => (⟨rest, task.tally.skip ⟨sentence.id, reason⟩, .ready⟩, cache)
          | none =>
              match cache.lookUp sentence.hash with
              | (some analysis, touched) =>
                  (⟨rest, relations.countAnalysed task.tally sentence analysis, .ready⟩, touched)
              | (none, touched) => ({ task with stage := .missed }, touched)
      | .missed => ({ task with stage := .made (relations.analyze sentence.tokens) }, cache)
      | .made analysis =>
          (⟨rest, relations.countAnalysed task.tally sentence analysis, .ready⟩,
            cache.insert sentence.hash analysis)

/-- How many steps a task makes at most. -/
def work (task : Task) : Nat :=
  match task.stage with
  | .ready => 3 * task.rest.length
  | .missed => 3 * task.rest.length - 1
  | .made _ => 3 * task.rest.length - 2

theorem work_step_lt (relations : RelationSet) {task : Task} (cache : AnalysisCache)
    (unfinished : task.rest ≠ []) : (task.step relations cache).1.work < task.work := by
  obtain ⟨rest, tally, stage⟩ := task
  cases rest with
  | nil => exact absurd rfl unfinished
  | cons sentence rest =>
      cases stage with
      | missed =>
          simp only [step, work, List.length_cons]
          omega
      | made analysis =>
          simp only [step, work, List.length_cons]
          omega
      | ready =>
          simp only [step]
          cases sentence.flaw? with
          | some reason =>
              simp only [work, List.length_cons]
              omega
          | none =>
              cases cache.lookUp sentence.hash with
              | mk value touched =>
                  cases value <;> simp only [work, List.length_cons] <;> omega

end Task

namespace Workshop

/-- A task for every part. -/
def opened (sampleLimit : Nat) (cache : AnalysisCache) (parts : List (List Sentence)) : Workshop :=
  ⟨cache, parts.map fun part => { rest := part, tally := .empty sampleLimit }⟩

/-- A step of the task at a place, if there is one. -/
def stepAt (relations : RelationSet) (workshop : Workshop) (place : Nat) : Workshop :=
  match workshop.tasks[place]? with
  | none => workshop
  | some task =>
      let (task, cache) := task.step relations workshop.cache
      ⟨cache, workshop.tasks.set place task⟩

/-- Steps of the tasks at some places, one after another. -/
def run (relations : RelationSet) (workshop : Workshop) (schedule : List Nat) : Workshop :=
  schedule.foldl (stepAt relations) workshop

/-- No task has anything left. -/
def Finished (workshop : Workshop) : Prop :=
  ∀ task ∈ workshop.tasks, task.rest = []

theorem run_append (relations : RelationSet) (workshop : Workshop) (first second : List Nat) :
    workshop.run relations (first ++ second) = (workshop.run relations first).run relations second :=
  List.foldl_append

/-! ## Progress -/

/-- How many steps all tasks make at most. -/
def work (workshop : Workshop) : Nat :=
  workshop.tasks.foldr (fun task work => task.work + work) 0

theorem work_stepAt_lt (relations : RelationSet) {workshop : Workshop} {place : Nat} {task : Task}
    (found : workshop.tasks[place]? = some task) (unfinished : task.rest ≠ []) :
    (workshop.stepAt relations place).work < workshop.work := by
  have less := task.work_step_lt relations workshop.cache unfinished
  have lighter {tasks : List Task} {place : Nat} {next : Task} (known : tasks[place]? = some task)
      (lighter : next.work < task.work) :
      (tasks.set place next).foldr (fun task work => task.work + work) 0 <
        tasks.foldr (fun task work => task.work + work) 0 := by
    induction tasks generalizing place with
    | nil => cases known
    | cons first tasks induction =>
        cases place with
        | zero =>
            obtain rfl : first = task := by simpa using known
            simpa using lighter
        | succ place =>
            have there : tasks[place]? = some task := by simpa using known
            simpa using induction there
  simp only [stepAt, found, work]
  exact lighter found less

/-- Whatever happened, all tasks can come to their ends. -/
theorem exists_finished_run (relations : RelationSet) (workshop : Workshop) :
    ∃ schedule, (workshop.run relations schedule).Finished := by
  generalize amount : workshop.work = work
  induction work using Nat.strongRecOn generalizing workshop with
  | ind work induction =>
      by_cases finished : workshop.Finished
      · exact ⟨[], finished⟩
      · simp only [Finished, Classical.not_forall] at finished
        obtain ⟨task, member, unfinished⟩ := finished
        obtain ⟨place, found⟩ := List.getElem?_of_mem member
        have less := work_stepAt_lt relations found unfinished
        obtain ⟨schedule, ends⟩ := induction _ (amount ▸ less) _ rfl
        exact ⟨place :: schedule, ends⟩

/-! ## One part after another -/

theorem exists_run_sentence (relations : RelationSet) (before after : List Task) (sentence : Sentence)
    (rest : List Sentence) (tally : Tally) (cache : AnalysisCache) :
    ∃ steps,
      (⟨cache, before ++ ⟨sentence :: rest, tally, .ready⟩ :: after⟩ : Workshop).run relations
          (List.replicate steps before.length) =
        let counted := relations.countSentence (tally, cache) sentence
        ⟨counted.2, before ++ ⟨rest, counted.1, .ready⟩ :: after⟩ := by
  simp only [RelationSet.countSentence, RelationSet.analyzeWith, Cache.getOrMake_eq_lookUp]
  cases flaw : sentence.flaw? with
  | some reason =>
      refine ⟨1, ?_⟩
      simp [run, stepAt, Task.step, flaw]
  | none =>
      cases looked : cache.lookUp sentence.hash with
      | mk value touched =>
          cases value with
          | some analysis =>
              refine ⟨1, ?_⟩
              simp [run, stepAt, Task.step, flaw, looked]
          | none =>
              refine ⟨3, ?_⟩
              simp [run, stepAt, Task.step, flaw, looked, List.replicate]

/-- A task that makes all its steps at once counts its sentences one after another. -/
theorem exists_run_task (relations : RelationSet) (before after : List Task) (rest : List Sentence)
    (tally : Tally) (cache : AnalysisCache) :
    ∃ schedule,
      (⟨cache, before ++ ⟨rest, tally, .ready⟩ :: after⟩ : Workshop).run relations schedule =
        let counted := rest.foldl relations.countSentence (tally, cache)
        ⟨counted.2, before ++ ⟨[], counted.1, .ready⟩ :: after⟩ := by
  induction rest generalizing tally cache with
  | nil => exact ⟨[], rfl⟩
  | cons sentence rest induction =>
      obtain ⟨steps, first⟩ := exists_run_sentence relations before after sentence rest tally cache
      let counted := relations.countSentence (tally, cache) sentence
      obtain ⟨schedule, others⟩ := induction counted.1 counted.2
      refine ⟨List.replicate steps before.length ++ schedule, ?_⟩
      rw [run_append, first, others]
      rfl

/-- Some schedule counts the parts one after another, as `RelationSet.countParts` does. -/
theorem exists_run_countParts (relations : RelationSet) (sampleLimit : Nat) (cache : AnalysisCache)
    (parts : List (List Sentence)) :
    ∃ schedule,
      (opened sampleLimit cache parts).run relations schedule =
        let counted := relations.countParts sampleLimit cache parts
        ⟨counted.2, counted.1.map fun tally => ⟨[], tally, .ready⟩⟩ := by
  have continues (ended : List Task) : ∃ schedule,
      (⟨cache, ended ++ (opened sampleLimit cache parts).tasks⟩ : Workshop).run relations schedule =
        let counted := relations.countParts sampleLimit cache parts
        ⟨counted.2, ended ++ counted.1.map fun tally => ⟨[], tally, .ready⟩⟩ := by
    induction parts generalizing cache ended with
    | nil => exact ⟨[], rfl⟩
    | cons part parts induction =>
        obtain ⟨first, counts⟩ := exists_run_task relations ended
          (opened sampleLimit cache parts).tasks part (.empty sampleLimit) cache
        let counted := relations.count sampleLimit cache part
        obtain ⟨others, continued⟩ := induction counted.2 (ended ++ [⟨[], counted.1, .ready⟩])
        rw [List.append_assoc, List.singleton_append] at continued
        refine ⟨first ++ others, ?_⟩
        rw [run_append]
        refine (congrArg (fun workshop => run relations workshop others) counts).trans ?_
        refine continued.trans ?_
        simp [RelationSet.countParts, counted]
  exact continues []

end Workshop
end Collocation
