import Collocation.Corpus.Source

/-!
# Batches

A batch is a selection of sentences to be counted.  It waits, runs, and ends completed or failed; a batch
that ended can wait again.
-/

namespace Collocation

/-- The number of a batch. -/
abbrev BatchId := UInt64

/-- Why the store does not answer. -/
inductive StoreError where
  /-- The store is offline. -/
  | offline
  deriving DecidableEq, Repr

/-- The wording of the error. -/
def StoreError.message : StoreError → String
  | offline => "storage unavailable: memory store is offline"

/-- Where a batch stands. -/
inductive BatchStatus where
  /-- It waits. -/
  | pending
  /-- It runs. -/
  | running
  /-- Its counts are stored. -/
  | completed
  /-- It ended without storing anything. -/
  | failed
  deriving DecidableEq, Repr

/-- The word for a status. -/
def BatchStatus.name : BatchStatus → String
  | pending => "pending"
  | running => "running"
  | completed => "completed"
  | failed => "failed"

/-- The status for a word. -/
def BatchStatus.ofName? (name : String) : Option BatchStatus :=
  [pending, running, completed, failed].find? (·.name == name)

/-- Every status is the one for its word. -/
theorem BatchStatus.ofName?_name (status : BatchStatus) : ofName? status.name = some status := by
  cases status <;> decide

/-- Whether a batch has ended. -/
def BatchStatus.isFinal : BatchStatus → Bool
  | completed | failed => true
  | pending | running => false

/-- Why a batch failed. -/
inductive Failure where
  /-- It was asked to stop. -/
  | cancelled
  /-- The engine that ran it went away. -/
  | interrupted
  /-- The source gave no sentences. -/
  | source (cause : SourceError)
  /-- The store did not answer. -/
  | store (cause : StoreError)
  deriving DecidableEq, Repr

/-- The wording of a failure. -/
def Failure.message : Failure → String
  | cancelled => "cancelled"
  | interrupted => "interrupted"
  | source cause => cause.message
  | store cause => cause.message

/-- What is reported about a batch that ended. -/
structure BatchReport where
  /-- The numbers of the sentences that were left out. -/
  skipped : List SentenceId := []
  /-- The failure, if the batch failed. -/
  failure : Option Failure := none
  deriving DecidableEq

/-- A batch. -/
structure Batch where
  /-- Its number. -/
  id : BatchId
  /-- The sentences that it covers. -/
  selection : Selection
  /-- Where it stands. -/
  status : BatchStatus := .pending
  /-- The version of the grammars that it was started with. -/
  version : Option String := none
  /-- Whether it was started. -/
  started : Bool := false
  /-- Whether it ended. -/
  ended : Bool := false
  /-- What is reported about it. -/
  report : Option BatchReport := none
  deriving DecidableEq

namespace Batch

/-- The batch as it waits for its first run. -/
def fresh (id : BatchId) (selection : Selection) : Batch :=
  { id, selection }

/-- The batch once it runs. -/
def run (batch : Batch) (version : String) : Batch :=
  { batch with status := .running, version := some version, started := true }

/-- The batch once it is completed. -/
def complete (batch : Batch) (report : Option BatchReport) : Batch :=
  { batch with status := .completed, ended := true, report }

/-- The batch once it failed, with the sentences that were left out before. -/
def fail (batch : Batch) (skipped : List SentenceId) (failure : Failure) : Batch :=
  { batch with status := .failed, ended := true, report := some ⟨skipped, some failure⟩ }

end Batch
end Collocation
