import Collocation.Engine.Run

/-!
# Histories

A history is what happens to an engine and its store: operations one after another, further operations
while a source is asked, and new engines in place of old ones.
-/

namespace Collocation

/-- What may be asked of an engine or happen to its store. -/
inductive Operation where
  /-- Make a batch. -/
  | create (selection : Selection)
  /-- Run a batch; some operations happen while the source is asked. -/
  | run (id : BatchId) (source : Source) (stop : StopRequest) (during : List Operation)
  /-- Let a batch wait again. -/
  | requeue (id : BatchId)
  /-- Exchange the grammars. -/
  | reload (set : GrammarSet)
  /-- Go back to stored grammars. -/
  | activate (version : String)
  /-- Save the analyses that are at hand. -/
  | persist
  /-- Switch the store off or on. -/
  | setAvailable (available : Bool)

/-- One event of a history. -/
inductive Event where
  /-- An operation. -/
  | operation (operation : Operation)
  /-- The engine goes away and a new one is opened on the store. -/
  | restart (configuration : Configuration) (set : GrammarSet) (norms : Norms)

namespace Engine

/-- The engine that an operation leads to; one that is refused leads nowhere. -/
def orSame {ε : Type} (engine : Engine) (outcome : Except ε Engine) : Engine :=
  match outcome with
  | .ok engine => engine
  | .error _ => engine

mutual

/-- The engine after an operation. -/
def perform : Operation → Engine → Engine
  | .create selection, engine => (engine.create selection).2
  | .run id source stop during, engine =>
      (Id.run (engine.run id fun batch started =>
        let later := performAll during started
        pure (later.deliveryFrom source batch stop, later))).2
  | .requeue id, engine => engine.orSame ((engine.requeue id).map Prod.snd)
  | .reload set, engine => engine.orSame (engine.reload set)
  | .activate version, engine => engine.orSame (engine.activate version)
  | .persist, engine => engine.orSame (engine.persist.map Prod.snd)
  | .setAvailable available, engine =>
      { engine with store := engine.store.setAvailable available }

/-- The engine after operations one after another. -/
def performAll : List Operation → Engine → Engine
  | [], engine => engine
  | operation :: operations, engine => performAll operations (perform operation engine)

end

/-- The engine after an event. -/
def after (engine : Engine) : Event → Engine
  | .operation operation => perform operation engine
  | .restart configuration set norms =>
      engine.orSame (onStore configuration set norms engine.store)

/-- The engine after a history. -/
def afterAll (engine : Engine) (history : List Event) : Engine :=
  history.foldl after engine

/-- An engine that a history leads to, from an empty store on. -/
inductive Reachable : Engine → Prop where
  /-- An engine opened on an empty store. -/
  | opened {configuration : Configuration} {set : GrammarSet} {norms : Norms} {engine : Engine}
      (opens : onStore configuration set norms .empty = .ok engine) : Reachable engine
  /-- An engine after one more event. -/
  | after {engine : Engine} (reachable : Reachable engine) (event : Event) :
      Reachable (engine.after event)

end Engine
end Collocation
