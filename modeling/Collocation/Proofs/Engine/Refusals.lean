import Collocation.Proofs.Engine.Lifecycle

/-!
# Refused requests

An operation reads, checks and writes one thing after another: the counter of the runs, the rows of the
engine, the tables of the store.  Here every operation is taken apart into these steps, and a step that
is refused takes nothing back, so that whatever was written before it stays.  Together the steps do what
the operation does, and an operation that the engine refuses has written nothing.  What lies outside of the
engine is whether the workers of a new engine start; the grammars that it counts with are saved before.
-/

namespace Collocation

/-- What an error says about an engine is so.  That workers do not start is no matter of an engine. -/
def EngineError.Founded (engine : Engine) : EngineError → Prop
  | grammar cause =>
      ∃ (configuration : Configuration) (set : GrammarSet), set.relations configuration.tagsets = .error cause
  | store _ => engine.store.available = false
  | workers _ => False
  | unknownBatch id => engine.batch? id = none
  | unknownVersion version => engine.store.grammars[version]? = none
  | wrongStatus id status => ∃ batch, engine.batch? id = some batch ∧ batch.status = status
  | stillRunning count => engine.running = count ∧ count ≠ 0

/-! ## Steps -/

/-- A computation that changes an engine step by step.  When a step is refused, the changes of the steps
before it stay. -/
abbrev Steps (α : Type) : Type :=
  ExceptT EngineError (StateM Engine) α

namespace Steps

variable {α β : Type}

/-- What steps answer, and the engine that they leave behind. -/
def apply (steps : Steps α) (engine : Engine) : Except EngineError α × Engine :=
  (StateT.run (ExceptT.run steps) engine).run

/-- Continue with an answer, or refuse. -/
def settle (answer : Except EngineError α) : Steps α :=
  MonadExcept.ofExcept answer

/-- Refuse unless a condition holds. -/
def check (condition : Prop) [Decidable condition] (cause : EngineError) : Steps Unit :=
  unless condition do throw cause

/-- Ask the store. -/
def ask (question : Store → Except StoreError α) : Steps α := do
  settle (Engine.liftStore (question (← get).store))

/-- Change the store. -/
def write (change : Store → Except StoreError Store) : Steps Unit := do
  let store ← ask change
  modify fun engine => { engine with store }

/-- The row of a batch in the engine. -/
def row (id : BatchId) : Steps Batch := do
  match (← get).batch? id with
  | none => throw (.unknownBatch id)
  | some batch => return batch

/-- Let the store keep a batch if it answers. -/
def mirror (batch : Batch) : Steps Unit :=
  modify fun engine => { engine with store := engine.store.putIfAvailable batch }

/-- Keep a batch in the engine, then in the store. -/
def keep (batch : Batch) : Steps Unit := do
  modify fun engine => { engine with batches := engine.batches.insert batch.id batch }
  mirror batch

/-- Start workers. -/
def startWorkers (failing : Nat → Option String) (workers : Nat) : Steps Unit := do
  match failing workers with
  | some cause => throw (.workers cause)
  | none => return

/-- Take steps as one more run, which is over however they end. -/
def asRun (steps : Steps α) : Steps α :=
  ExceptT.mk do
    modify fun engine => { engine with running := engine.running + 1 }
    let answer ← steps.run
    modify fun engine => { engine with running := engine.running - 1 }
    return answer

section apply

variable (engine : Engine)

theorem apply_bind (steps : Steps α) (next : α → Steps β) :
    (steps >>= next).apply engine =
      match steps.apply engine with
      | (.ok answer, later) => (next answer).apply later
      | (.error cause, later) => (.error cause, later) := by
  simp only [apply, ExceptT.run_bind, StateT.run_bind, Id.run_bind]
  cases (StateT.run (ExceptT.run steps) engine).run with
  | mk answer later => cases answer <;> rfl

@[simp]
theorem apply_pure (answer : α) : (pure answer : Steps α).apply engine = (.ok answer, engine) :=
  rfl

@[simp]
theorem apply_throw (cause : EngineError) : (throw cause : Steps α).apply engine = (.error cause, engine) :=
  rfl

@[simp]
theorem apply_get : (get : Steps Engine).apply engine = (.ok engine, engine) :=
  rfl

@[simp]
theorem apply_modify (change : Engine → Engine) :
    (modify change : Steps Unit).apply engine = (.ok (), change engine) :=
  rfl

@[simp]
theorem apply_modifyGet (change : Engine → α × Engine) :
    (modifyGet change : Steps α).apply engine = (.ok (change engine).1, (change engine).2) :=
  rfl

@[simp]
theorem apply_settle (answer : Except EngineError α) : (settle answer).apply engine = (answer, engine) := by
  cases answer <;> rfl

@[simp]
theorem apply_asRun (steps : Steps α) :
    (asRun steps).apply engine =
      let ended := steps.apply { engine with running := engine.running + 1 }
      (ended.1, { ended.2 with running := ended.2.running - 1 }) :=
  rfl

@[simp]
theorem apply_check (condition : Prop) [Decidable condition] (cause : EngineError) :
    (check condition cause).apply engine = (if condition then .ok () else .error cause, engine) := by
  by_cases holds : condition <;> simp [check, holds]

@[simp]
theorem apply_ask (question : Store → Except StoreError α) :
    (ask question).apply engine = (Engine.liftStore (question engine.store), engine) := by
  simp [ask, apply_bind]

@[simp]
theorem apply_keep (batch : Batch) : (keep batch).apply engine = (.ok (), engine.keep batch) :=
  rfl

end apply

theorem apply_write (change : Store → Except StoreError Store) (engine : Engine) :
    (write change).apply engine =
      match Engine.liftStore (change engine.store) with
      | .ok store => (.ok (), { engine with store })
      | .error cause => (.error cause, engine) := by
  simp only [write, apply_bind, apply_ask]
  cases Engine.liftStore (change engine.store) <;> rfl

theorem apply_row (id : BatchId) (engine : Engine) :
    (row id).apply engine =
      match engine.batch? id with
      | none => (.error (.unknownBatch id), engine)
      | some batch => (.ok batch, engine) := by
  simp only [row, apply_bind, apply_get]
  cases engine.batch? id <;> rfl

theorem apply_startWorkers (failing : Nat → Option String) (workers : Nat) (engine : Engine) :
    (startWorkers failing workers).apply engine =
      match failing workers with
      | some cause => (.error (.workers cause), engine)
      | none => (.ok (), engine) := by
  rw [startWorkers]
  cases failing workers <;> rfl

theorem apply_forM_mirror (batches : List Batch) (change : Batch → Batch) (engine : Engine) :
    (forM batches fun batch => mirror (change batch)).apply engine =
      (.ok (), { engine with
        store := batches.foldl (fun store batch => store.putIfAvailable (change batch)) engine.store }) := by
  induction batches generalizing engine with
  | nil => rfl
  | cons batch batches induction =>
      rw [List.forM_cons, apply_bind]
      exact induction _

end Steps

/-! ## Requests -/

/-- A request that an engine may refuse. -/
inductive Request where
  /-- Run a batch; what a source gives for it, and what else happens to the engine meanwhile. -/
  | run (id : BatchId) (deliver : Batch → Engine → Delivery × Engine)
  /-- Let a batch wait again. -/
  | requeue (id : BatchId)
  /-- Exchange the grammars. -/
  | reload (set : GrammarSet)
  /-- Go back to stored grammars. -/
  | activate (version : String)
  /-- Show records. -/
  | sketch (query : Query)
  /-- Show the accessibility of a lexeme. -/
  | accessibility (lexeme : Lexeme)
  /-- Save the analyses that are at hand. -/
  | persist
  /-- Open a new engine on the store. -/
  | renew (configuration : Configuration) (set : GrammarSet) (norms : Norms)

namespace Request

/-- What is answered to a request that is not refused. -/
abbrev Answer : Request → Type
  | run _ _ | requeue _ => Batch
  | reload _ | activate _ | renew _ _ _ => Unit
  | sketch _ => List Record
  | accessibility _ => Option Accessibility
  | persist => Nat

/-- A refused operation leads nowhere. -/
def settled {α : Type} (engine : Engine) : Except EngineError (α × Engine) → Except EngineError α × Engine
  | .ok (answer, later) => (.ok answer, later)
  | .error cause => (.error cause, engine)

/-- What an engine answers to a request, and the engine afterwards.  If no new engine can be opened, the old one stays,
on the store as it is then. -/
def outcome (failing : Nat → Option String) (engine : Engine) :
    (request : Request) → Except EngineError request.Answer × Engine
  | run id deliver => (engine.run id fun batch started => pure (deliver batch started) : Id _).run
  | requeue id => settled engine (engine.requeue id)
  | reload set => settled engine ((engine.reload set).map ((), ·))
  | activate version => settled engine ((engine.activate version).map ((), ·))
  | sketch query => (engine.sketch query, engine)
  | accessibility lexeme => (engine.accessibility? lexeme, engine)
  | persist => settled engine engine.persist
  | renew configuration set norms =>
      match Engine.openOn failing configuration set norms engine.store with
      | (.ok fresh, _) => (.ok (), fresh)
      | (.error cause, store) => (.error cause, { engine with store })

/-- The steps of an exchange of grammars. -/
def reloadSteps (set : GrammarSet) : Steps Unit := do
  let relations ← Steps.settle (Engine.relationsOf (← get).configuration set)
  let running := (← get).running
  Steps.check (running = 0) (.stillRunning running)
  Steps.write (·.saveGrammars set)
  modify fun engine => { engine with cache := Engine.freshCache engine.configuration relations engine.store }
  modify fun engine => { engine with relations }

/-- The steps of a request in their order. -/
def steps (failing : Nat → Option String) : (request : Request) → Steps request.Answer
  | run id deliver => do
      let relations := (← get).relations
      Steps.asRun do
        let batch ← Steps.row id
        Steps.check (batch.status = .pending) (.wrongStatus id batch.status)
        let begun := batch.run relations.version
        Steps.keep begun
        let delivery ← modifyGet (deliver begun)
        modifyGet (·.countRun relations begun delivery)
  | requeue id => do
      let batch ← Steps.row id
      Steps.check (batch.status.isFinal = true) (.wrongStatus id batch.status)
      let fresh := Batch.fresh id batch.selection
      Steps.keep fresh
      return fresh
  | reload set => reloadSteps set
  | activate version => do
      match ← Steps.ask (·.grammarsOf? version) with
      | none => throw (.unknownVersion version)
      | some set => reloadSteps set
  | sketch query => do
      let version := (← get).version
      Steps.ask (·.sketch version query)
  | accessibility lexeme => Steps.ask (·.accessibilityOf? lexeme)
  | persist => do
      let fingerprint := (← get).relations.fingerprint
      let entries := (← get).cache.entries
      Steps.write (·.saveAnalyses fingerprint entries)
      return entries.length
  | renew configuration set norms => do
      let relations ← Steps.settle (Engine.relationsOf configuration set)
      Steps.write (·.saveGrammars set)
      Steps.startWorkers failing configuration.workers
      let known ← Steps.ask Store.allBatches
      modify fun { store, .. } => {
        configuration, norms, relations, store
        cache := Engine.freshCache configuration relations store
        batches := store.batches.map fun _ batch => Engine.takeOver batch
        nextBatch := store.batches.maxKey?.getD 0 + 1 }
      let interrupted := known.filter fun batch => batch.status = .running
      forM interrupted fun batch => Steps.mirror (Engine.takeOver batch)

/-! ## The steps of a request -/

section steps

open Steps

variable (failing : Nat → Option String) (engine : Engine)

theorem apply_reloadSteps (set : GrammarSet) :
    (reloadSteps set).apply engine = settled engine ((engine.reload set).map ((), ·)) := by
  simp only [reloadSteps, Engine.reload, apply_bind, apply_settle, apply_get, apply_check, apply_write]
  cases Engine.relationsOf engine.configuration set with
  | error cause => rfl
  | ok relations =>
      by_cases idle : engine.running = 0
      · simp only [idle, if_true, ne_eq, not_true_eq_false, if_false]
        cases Engine.liftStore (engine.store.saveGrammars set) <;> rfl
      · simp only [idle, if_false, ne_eq, not_false_eq_true, if_true]
        rfl

/-- A run that cannot start has raised the counter of the runs, and lowers it again. -/
theorem apply_run (id : BatchId) (deliver : Batch → Engine → Delivery × Engine) :
    ((run id deliver).steps failing).apply engine = outcome failing engine (run id deliver) := by
  simp only [steps, outcome, Engine.run, Engine.start, apply_bind, apply_get, apply_asRun, apply_row]
  have same : ({ engine with running := engine.running + 1 } : Engine).batch? id = engine.batch? id := rfl
  rw [same]
  cases engine.batch? id with
  | none => rfl
  | some batch =>
      by_cases pending : batch.status = .pending
      · simp only [pending, apply_check, apply_keep, apply_modifyGet, if_true]
        rfl
      · simp only [pending, apply_check, if_false]
        rfl

/-- The grammars are written before the workers start and before the batches are read, but a store that took the one
answers the other. -/
theorem apply_renew (configuration : Configuration) (set : GrammarSet) (norms : Norms) :
    ((renew configuration set norms).steps failing).apply engine =
      outcome failing engine (renew configuration set norms) := by
  simp only [steps, outcome, Engine.openOn, Engine.accept, apply_bind, apply_settle, apply_ask, apply_modify, apply_write,
    apply_startWorkers, apply_forM_mirror]
  cases Engine.relationsOf configuration set with
  | error cause => rfl
  | ok relations =>
      cases available : engine.store.available with
      | false =>
          simp only [Store.saveGrammars, Store.ask, available]
          rfl
      | true =>
          simp only [Store.saveGrammars, Store.allBatches, Store.ask, Engine.takeStore, available, if_true]
          cases failing configuration.workers <;> rfl

/-- The steps of a request do what the operation of the engine does. -/
theorem apply_steps (request : Request) :
    (request.steps failing).apply engine = outcome failing engine request := by
  cases request with
  | run id deliver => exact apply_run failing engine id deliver
  | reload set => exact apply_reloadSteps engine set
  | renew configuration set norms => exact apply_renew failing engine configuration set norms
  | sketch query => simp only [steps, outcome, Engine.sketch, apply_bind, apply_get, apply_ask]
  | accessibility lexeme => simp only [steps, outcome, Engine.accessibility?, apply_ask]
  | requeue id =>
      simp only [steps, outcome, Engine.requeue, apply_bind, apply_row]
      cases engine.batch? id with
      | none => rfl
      | some batch => cases final : batch.status.isFinal <;> simp [final, settled]
  | activate version =>
      simp only [steps, outcome, Engine.activate, apply_bind, apply_ask]
      cases Engine.liftStore (engine.store.grammarsOf? version) with
      | error cause => rfl
      | ok stored =>
          cases stored with
          | none => rfl
          | some set => exact apply_reloadSteps engine set
  | persist =>
      simp only [steps, outcome, Engine.persist, apply_bind, apply_get, apply_write, apply_pure]
      cases Engine.liftStore (engine.store.saveAnalyses engine.relations.fingerprint engine.cache.entries) <;>
        rfl

end steps

/-! ## Reasons -/

variable {failing : Nat → Option String} {engine after : Engine} {cause : EngineError}

theorem settled_eq_error_iff {α : Type} {answer : Except EngineError (α × Engine)} :
    settled engine answer = (.error cause, after) ↔ answer = .error cause ∧ after = engine := by
  cases answer with
  | error other => simp [settled, eq_comm]
  | ok answered => simp [settled]

theorem founded_of_store {α : Type} {answer : Except StoreError α}
    (offline : ∀ reason, answer = .error reason → engine.store.available = false)
    (refused : Engine.liftStore answer = .error cause) : cause.Founded engine := by
  cases answer with
  | ok value => cases refused
  | error reason => exact Except.error.inj refused ▸ offline reason rfl

theorem founded_of_ask {α : Type} {question : Store → α}
    (refused : Engine.liftStore (engine.store.ask question) = .error cause) : cause.Founded engine :=
  founded_of_store (fun reason => (Store.ask_eq_error_iff engine.store question reason).mp) refused

theorem founded_of_relationsOf {configuration : Configuration} {set : GrammarSet}
    (refused : Engine.relationsOf configuration set = .error cause) : cause.Founded engine := by
  rw [Engine.relationsOf] at refused
  cases accepted : set.relations configuration.tagsets with
  | ok relations =>
      rw [accepted] at refused
      cases refused
  | error rejected =>
      rw [accepted] at refused
      exact Except.error.inj refused ▸ ⟨configuration, set, accepted⟩

theorem founded_of_start {id : BatchId} (refused : engine.start id = .error cause) :
    cause.Founded engine := by
  unfold Engine.start at refused
  split at refused
  · next absent => exact Except.error.inj refused ▸ absent
  · next batch found =>
      split at refused
      · cases refused
      · exact Except.error.inj refused ▸ ⟨batch, found, rfl⟩

theorem founded_of_requeue {id : BatchId} (refused : engine.requeue id = .error cause) :
    cause.Founded engine := by
  unfold Engine.requeue at refused
  split at refused
  · next absent => exact Except.error.inj refused ▸ absent
  · next batch found =>
      split at refused
      · cases refused
      · exact Except.error.inj refused ▸ ⟨batch, found, rfl⟩

theorem founded_of_reload {set : GrammarSet} (refused : engine.reload set = .error cause) :
    cause.Founded engine := by
  unfold Engine.reload at refused
  rcases bind_eq_error_iff.mp refused with rejected | ⟨relations, -, refused⟩
  · exact founded_of_relationsOf rejected
  by_cases idle : engine.running = 0
  · simp only [idle, ne_eq, not_true_eq_false, if_false] at refused
    rcases bind_eq_error_iff.mp refused with unsaved | ⟨store, -, refused⟩
    · exact founded_of_ask unsaved
    · cases refused
  · simp only [idle, ne_eq, not_false_eq_true, if_true] at refused
    exact Except.error.inj refused ▸ ⟨rfl, idle⟩

theorem founded_of_activate {version : String} (refused : engine.activate version = .error cause) :
    cause.Founded engine := by
  unfold Engine.activate at refused
  rcases bind_eq_error_iff.mp refused with unread | ⟨stored, read, refused⟩
  · exact founded_of_ask unread
  cases stored with
  | some set => exact founded_of_reload refused
  | none =>
      have absent := (Store.ask_eq_ok_iff.mp (Engine.liftStore_eq_ok_iff.mp read)).2
      exact Except.error.inj refused ▸ absent

theorem founded_of_accept {configuration : Configuration} {set : GrammarSet}
    (refused : Engine.accept configuration set engine.store = .error cause) :
    cause.Founded engine := by
  unfold Engine.accept at refused
  rcases bind_eq_error_iff.mp refused with rejected | ⟨relations, -, refused⟩
  · exact founded_of_relationsOf rejected
  rcases bind_eq_error_iff.mp refused with unsaved | ⟨store, -, refused⟩
  · exact founded_of_ask unsaved
  · cases refused

theorem openOn_eq_error {configuration : Configuration} {set : GrammarSet} {norms : Norms} {store : Store}
    (refused : Engine.openOn failing configuration set norms engine.store = (.error cause, store)) :
    (Engine.accept configuration set engine.store = .error cause ∧ store = engine.store) ∨
      ∃ reason, failing configuration.workers = some reason ∧ cause = .workers reason ∧
        store = engine.store.withGrammars set := by
  rw [Engine.openOn] at refused
  cases accepts : Engine.accept configuration set engine.store with
  | error reason =>
      rw [accepts] at refused
      obtain ⟨same, rfl⟩ := Prod.mk.inj refused
      exact .inl ⟨congrArg _ (Except.error.inj same), rfl⟩
  | ok admitted =>
      obtain ⟨relations, saved⟩ := admitted
      rw [accepts] at refused
      obtain ⟨-, available, rfl⟩ := Engine.accept_eq_ok_iff.mp accepts
      cases started : failing configuration.workers with
      | some reason =>
          simp only [started] at refused
          obtain ⟨same, rfl⟩ := Prod.mk.inj refused
          exact .inr ⟨reason, rfl, (Except.error.inj same).symm, rfl⟩
      | none =>
          have answers : (engine.store.withGrammars set).available = true := available
          simp only [started, Engine.takeStore_of_available configuration relations norms answers] at refused
          cases (Prod.mk.inj refused).1

theorem unchanged_of_outcome {request : Request} (own : ∀ configuration set norms, request ≠ renew configuration set norms)
    (refused : outcome failing engine request = (.error cause, after)) : after = engine ∧ cause.Founded engine := by
  cases request with
  | renew configuration set norms => exact absurd rfl (own configuration set norms)
  | run id deliver =>
      simp only [outcome, Engine.run] at refused
      cases starts : engine.start id with
      | ok begun =>
          rw [starts] at refused
          cases (Prod.mk.inj refused).1
      | error reason =>
          rw [starts] at refused
          obtain ⟨same, unchanged⟩ := Prod.mk.inj refused
          exact ⟨unchanged.symm, founded_of_start (starts.trans (congrArg _ (Except.error.inj same)))⟩
  | requeue id =>
      obtain ⟨refused, same⟩ := settled_eq_error_iff.mp refused
      exact ⟨same, founded_of_requeue refused⟩
  | reload set =>
      obtain ⟨refused, same⟩ := settled_eq_error_iff.mp refused
      exact ⟨same, founded_of_reload (map_eq_error_iff.mp refused)⟩
  | activate version =>
      obtain ⟨refused, same⟩ := settled_eq_error_iff.mp refused
      exact ⟨same, founded_of_activate (map_eq_error_iff.mp refused)⟩
  | persist =>
      obtain ⟨refused, same⟩ := settled_eq_error_iff.mp refused
      refine ⟨same, ?_⟩
      rcases bind_eq_error_iff.mp refused with unsaved | ⟨store, -, refused⟩
      · exact founded_of_ask unsaved
      · cases refused
  | accessibility lexeme =>
      obtain ⟨offline, same⟩ := Prod.mk.inj refused
      exact ⟨same.symm, founded_of_ask offline⟩
  | sketch query =>
      obtain ⟨unread, same⟩ := Prod.mk.inj refused
      refine ⟨same.symm, founded_of_store (fun reason offline => ?_) unread⟩
      exact (Store.ask_eq_error_iff _ _ reason).mp (map_eq_error_iff.mp offline)

/-- A new engine that is refused leaves the old one on a store that has the grammars if the workers do not start, and as
it was otherwise. -/
theorem left_of_renew {configuration : Configuration} {set : GrammarSet} {norms : Norms}
    (refused : outcome failing engine (renew configuration set norms) = (.error cause, after)) :
    (after = engine ∧ cause.Founded engine) ∨
      ∃ reason, cause = .workers reason ∧ failing configuration.workers = some reason ∧
        after = { engine with store := engine.store.withGrammars set } := by
  simp only [outcome] at refused
  cases opens : Engine.openOn failing configuration set norms engine.store with
  | mk answer store =>
      rw [opens] at refused
      cases answer with
      | ok fresh => cases (Prod.mk.inj refused).1
      | error reason =>
          obtain ⟨same, rfl⟩ := Prod.mk.inj refused
          obtain rfl := Except.error.inj same
          rcases openOn_eq_error opens with ⟨rejected, rfl⟩ | ⟨reason, fails, rfl, rfl⟩
          · exact .inl ⟨rfl, founded_of_accept rejected⟩
          · exact .inr ⟨reason, rfl, fails, rfl⟩

/-- Workers are only started for grammars that were checked and saved. -/
theorem refused_of_workers {configuration : Configuration} {set : GrammarSet} {relations : RelationSet} {reason : String}
    (accepted : Engine.relationsOf configuration set = .ok relations) (available : engine.store.available = true)
    (fails : failing configuration.workers = some reason) (norms : Norms) :
    ((renew configuration set norms).steps failing).apply engine =
      (.error (.workers reason), { engine with store := engine.store.withGrammars set }) := by
  have accepts := Engine.accept_eq_ok_iff.mpr ⟨accepted, available, rfl⟩
  rw [apply_steps]
  simp only [outcome, Engine.openOn, accepts, fails]

end Request
end Collocation
