import Collocation.CommandLine.Arguments
import Collocation.CommandLine.Report
import Collocation.Corpus.Files
import Collocation.Engine.Run

/-!
# The command line

The command line counts a whole corpus as one batch and prints the sketch of a headword.
-/

namespace Collocation

/-- Why the work is given up. -/
inductive CommandError where
  /-- A file cannot be read. -/
  | unreadable (path : String)
  /-- A file holds no JSON of the right form. -/
  | invalid (path : String)
  /-- The pattern for the files of the corpus is malformed. -/
  | malformedPattern (pattern : String)
  /-- No file matches the pattern. -/
  | noFiles (pattern : String)
  /-- The norms cannot be read. -/
  | norms (path : String) (cause : NormError)
  /-- The engine refuses. -/
  | engine (cause : EngineError)
  /-- The batch failed. -/
  | failed (id : BatchId) (cause : Option Failure)
  deriving DecidableEq

/-- The wording of an error. -/
def CommandError.message : CommandError → String
  | unreadable path => s!"failed to read {path}"
  | invalid path => s!"invalid JSON in {path}"
  | malformedPattern pattern => s!"invalid corpus pattern {pattern}"
  | noFiles pattern => s!"no corpus files match {pattern}"
  | norms path .unreadable => s!"failed to read norms from {path}"
  | norms _ cause => cause.message
  | engine cause => cause.message
  | failed id cause =>
      let reason := cause.elim "unknown error" Failure.message
      s!"batch {id} failed: {reason}"

/-- How the work ends. -/
inductive CommandOutcome where
  /-- Nothing was begun. -/
  | refused (refusal : Refusal)
  /-- The work was given up. -/
  | error (cause : CommandError)
  /-- The lines of the report. -/
  | report (lines : List String)

namespace CommandOutcome

/-- The exit status. -/
def status : CommandOutcome → UInt32
  | refused .help => 0
  | refused _ => 2
  | error _ => 1
  | report _ => 0

/-- The lines of the output of a program with a name. -/
def output (program : String) : CommandOutcome → List String
  | refused .help => Refusal.helpLines program
  | refused _ => []
  | error _ => []
  | report lines => lines

/-- The line of the diagnostic. -/
def diagnostic? : CommandOutcome → Option String
  | refused .help => none
  | refused refusal => some s!"error: {refusal.message}"
  | error cause => some s!"Error: {cause.message}"
  | report _ => none

end CommandOutcome

namespace Arguments

/-- The query that the arguments ask. -/
def query (arguments : Arguments) : Query where
  headword := arguments.headword
  tag := arguments.tag
  relation := arguments.relation
  minScore := arguments.minScore
  limit := arguments.limit

/-- The value in a file of JSON. -/
def decoded {α : Type} (path : String) (content : Option (List UInt8)) (decode : String → Option α) :
    Except CommandError α :=
  match content.bind Text.decode? with
  | none => .error (.unreadable path)
  | some text =>
      match decode text with
      | none => .error (.invalid path)
      | some value => .ok value

/-- Count a corpus with an engine and answer the query. -/
def answer (arguments : Arguments) (engine : Engine) (corpus : Corpus) :
    Except CommandError (List String) := do
  let (waiting, engine) := engine.create .all
  let (result, engine) := engine.runFrom waiting.id (.corpus corpus) .never
  let batch ← result.mapError .engine
  if batch.status = .failed then throw (.failed batch.id (batch.report.bind BatchReport.failure))
  let records ← (engine.sketch arguments.query).mapError .engine
  let accessibility ← match arguments.tag with
    | none => pure none
    | some tag => (engine.accessibility? ⟨arguments.headword, tag⟩).mapError .engine
  return Report.lines records accessibility

variable {m : Type → Type} [Monad m]

/-- Do what the arguments ask for, looking at files. -/
def run (arguments : Arguments) (files : Files m) : m (Except CommandError (List String)) :=
  ExceptT.run do
    let configuration ← match arguments.config with
      | none => pure {}
      | some path => liftExcept (decoded path (← files.read path) Configuration.ofText?)
    let set ← liftExcept
      (decoded arguments.grammars (← files.read arguments.grammars) GrammarSet.ofText?)
    let glob ← liftExcept (match Glob.ofText? arguments.corpus with
      | none => .error (.malformedPattern arguments.corpus)
      | some glob => .ok glob)
    let corpus : Corpus ← ExceptT.lift (Corpus.ofGlob files glob)
    if corpus.files.isEmpty then throw (.noFiles arguments.corpus)
    let norms ← match arguments.norms with
      | none => pure ∅
      | some path =>
          let content ← files.read path
          liftExcept (((content.elim (.error .unreadable) Norms.ofBytes)).mapError (.norms path))
    let engine ← liftExcept ((Engine.onStore configuration set norms .empty).mapError .engine)
    liftExcept (arguments.answer engine corpus)
where
  /-- Give up with an error, or go on with a value. -/
  liftExcept {α : Type} (outcome : Except CommandError α) : ExceptT CommandError m α :=
    ExceptT.mk (pure outcome)

end Arguments

/-- Do what a command line asks for, looking at files. -/
def commandLine {m : Type → Type} [Monad m] (files : Files m) (arguments : List String) :
    m CommandOutcome := do
  match Arguments.ofList arguments with
  | .error refusal => return .refused refusal
  | .ok arguments =>
      match ← arguments.run files with
      | .ok lines => return .report lines
      | .error cause => return .error cause

end Collocation
