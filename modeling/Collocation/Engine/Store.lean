import Collocation.Accessibility.Basic
import Collocation.Analysis
import Collocation.Engine.Batch
import Collocation.Score.Sketch

/-!
# The store

The store keeps what outlives an engine: grammars, batches, the tally of every completed batch, the totals
of every version with their records, accessibilities, and saved analyses.  While it is offline it neither
answers nor changes.
-/

namespace Collocation

/-- The sum of the tallies of a version. -/
structure Totals where
  /-- The batches that it covers. -/
  batches : List BatchId
  /-- Their tally. -/
  tally : Tally
  deriving DecidableEq

/-- What is stored when a batch completes. -/
structure Commit where
  /-- The batch. -/
  batch : Batch
  /-- The version of the grammars. -/
  version : String
  /-- The tally of the batch alone. -/
  tally : Tally
  /-- The totals of the version with the batch. -/
  totals : Totals
  /-- All records of the version. -/
  records : List Record
  /-- All accessibilities. -/
  accessibility : List Accessibility

/-- What outlives an engine. -/
structure Store where
  /-- Whether the store answers. -/
  available : Bool := true
  /-- The grammars of every version. -/
  grammars : Table String GrammarSet := ∅
  /-- The batches. -/
  batches : Table BatchId Batch := ∅
  /-- The tallies of the completed batches of every version. -/
  tallies : Table String (Table BatchId Tally) := ∅
  /-- The totals of every version. -/
  totals : Table String Totals := ∅
  /-- The records of every version by the lemma of their head. -/
  records : Table String (Table String (List Record)) := ∅
  /-- The accessibilities. -/
  accessibility : Table Lexeme Accessibility := ∅
  /-- Saved analyses under the fingerprints of their grammars. -/
  analyses : Table String (List (ContentHash × Analysis)) := ∅

/-- Records by the lemma of their head, in their order. -/
def recordsByHeadword (records : List Record) : Table String (List Record) :=
  records.foldl
    (fun table record => table.alter record.headword fun known => some (known.getD [] ++ [record])) ∅

/-- Accessibilities by their lexemes. -/
def accessibilityByLexeme (entries : List Accessibility) : Table Lexeme Accessibility :=
  entries.foldl (fun table entry => table.insert entry.lexeme entry) ∅

namespace Store

/-- A store that keeps nothing yet. -/
def empty : Store :=
  {}

/-- What the store answers if it is not offline. -/
def ask {α : Type} (store : Store) (answer : Store → α) : Except StoreError α :=
  if store.available then .ok (answer store) else .error .offline

@[simp]
theorem ask_of_available {α : Type} {store : Store} (answers : store.available = true)
    (answer : Store → α) : store.ask answer = .ok (answer store) := by
  simp [ask, answers]

/-- The only error is that the store is offline. -/
theorem ask_eq_error_iff {α : Type} (store : Store) (answer : Store → α) (error : StoreError) :
    store.ask answer = .error error ↔ store.available = false := by
  cases error
  cases available : store.available <;> simp [ask, available]

/-- Switch the store off and on. -/
def setAvailable (store : Store) (available : Bool) : Store :=
  { store with available }

/-! ## Changes -/

/-- Keep grammars under their version. -/
def saveGrammars (store : Store) (set : GrammarSet) : Except StoreError Store :=
  store.ask fun store => { store with grammars := store.grammars.insert set.version set }

/-- Keep a batch under its number. -/
def putBatch (store : Store) (batch : Batch) : Except StoreError Store :=
  store.ask fun store => { store with batches := store.batches.insert batch.id batch }

/-- Keep a batch if the store answers. -/
def putIfAvailable (store : Store) (batch : Batch) : Store :=
  match store.putBatch batch with
  | .ok store => store
  | .error _ => store

/-- The committed tallies of a version. -/
def talliesOf (store : Store) (version : String) : Table BatchId Tally :=
  store.tallies[version]?.getD ∅

/-- Keep everything about a completed batch. -/
def commit (store : Store) (commit : Commit) : Except StoreError Store :=
  store.ask fun store =>
    { store with
      tallies := store.tallies.insert commit.version
        ((store.talliesOf commit.version).insert commit.batch.id commit.tally)
      totals := store.totals.insert commit.version commit.totals
      records := store.records.insert commit.version (recordsByHeadword commit.records)
      accessibility := accessibilityByLexeme commit.accessibility
      batches := store.batches.insert commit.batch.id commit.batch }

/-- Keep analyses under the fingerprint of their grammars. -/
def saveAnalyses (store : Store) (fingerprint : String) (entries : List (ContentHash × Analysis)) :
    Except StoreError Store :=
  store.ask fun store => { store with analyses := store.analyses.insert fingerprint entries }

/-! ## Answers -/

/-- The grammars of a version. -/
def grammarsOf? (store : Store) (version : String) : Except StoreError (Option GrammarSet) :=
  store.ask fun store => store.grammars[version]?

/-- The batch with a number. -/
def batch? (store : Store) (id : BatchId) : Except StoreError (Option Batch) :=
  store.ask fun store => store.batches[id]?

/-- All batches in ascending order of their numbers. -/
def allBatches (store : Store) : Except StoreError (List Batch) :=
  store.ask fun store => store.batches.values

/-- The committed tallies of a version in ascending order of the batches. -/
def committed (store : Store) (version : String) : Except StoreError (List (BatchId × Tally)) :=
  store.ask fun store => (store.talliesOf version).toList

/-- The totals of a version. -/
def totalsOf? (store : Store) (version : String) : Except StoreError (Option Totals) :=
  store.ask fun store => store.totals[version]?

/-- The records of a headword under a version. -/
def recordsOf (store : Store) (version headword : String) : Except StoreError (List Record) :=
  store.ask fun store => (store.records[version]?.bind (·[headword]?)).getD []

/-- The records that a query asks for under a version, in their order. -/
def sketch (store : Store) (version : String) (query : Query) : Except StoreError (List Record) :=
  (store.recordsOf version query.headword).map query.rank

/-- The accessibility of a lexeme. -/
def accessibilityOf? (store : Store) (lexeme : Lexeme) : Except StoreError (Option Accessibility) :=
  store.ask fun store => store.accessibility[lexeme]?

/-- The analyses saved under a fingerprint. -/
def analysesOf (store : Store) (fingerprint : String) :
    Except StoreError (List (ContentHash × Analysis)) :=
  store.ask fun store => store.analyses[fingerprint]?.getD []

end Store
end Collocation
