import Collocation.Table
import Collocation.Tally.Lexeme

/-!
# Tallies

A tally counts lexemes and pairings over some sentences, and keeps for every pairing a sample of the
sentences that it was first seen in.  Tallies of consecutive sentences are joined by `++`.
-/

namespace Collocation

/-- How often each key was seen. -/
abbrev Counts (κ : Type) [Ord κ] :=
  Table κ UInt64

namespace Counts

variable {κ : Type} [Ord κ] [Std.TransOrd κ]

/-- One count more or less than none, as a sum. -/
def increased (current : Option UInt64) (count : UInt64) : UInt64 :=
  current.getD 0 + count

/-- How often a key was seen. -/
def count (counts : Counts κ) (key : κ) : UInt64 :=
  counts[key]?.getD 0

/-- A key was seen once more. -/
def see (counts : Counts κ) (key : κ) : Counts κ :=
  Table.join increased counts (key, 1)

/-- The sums of two counts. -/
def add (first second : Counts κ) : Counts κ :=
  Table.combine increased first second

variable [Std.LawfulEqOrd κ]

theorem count_see [DecidableEq κ] (counts : Counts κ) (key other : κ) :
    (counts.see key).count other = counts.count other + if key = other then 1 else 0 := by
  unfold see count
  split
  · next same =>
      subst same
      rw [Table.getElem?_join_self]
      rfl
  · next apart =>
      rw [Table.getElem?_join_of_ne increased counts apart]
      simp

theorem count_add (first second : Counts κ) (key : κ) :
    (first.add second).count key = first.count key + second.count key := by
  simp only [add, count, Table.getElem?_combine]
  cases second[key]? <;> simp [increased]

end Counts

/-- Add a sentence to a sample of limited length unless it is full or has the sentence. -/
def sample (limit : Nat) (examples : List SentenceId) (id : SentenceId) : List SentenceId :=
  if examples.length < limit ∧ id ∉ examples then examples ++ [id] else examples

/-- What is known of a pairing. -/
structure Attestation where
  /-- How often it was seen. -/
  frequency : UInt64 := 0
  /-- The first sentences that it was seen in, up to a limit. -/
  examples : List SentenceId := []
  deriving DecidableEq

namespace Attestation

/-- The pairing was seen once more, in a sentence. -/
def see (limit : Nat) (current : Option Attestation) (id : SentenceId) : Attestation :=
  let current := current.getD {}
  ⟨current.frequency + 1, sample limit current.examples id⟩

/-- What is known from earlier and from later sentences. -/
def append (limit : Nat) (earlier : Option Attestation) (later : Attestation) : Attestation :=
  let earlier := earlier.getD {}
  ⟨earlier.frequency + later.frequency, later.examples.foldl (sample limit) earlier.examples⟩

end Attestation

/-- The counts over some sentences. -/
structure Tally where
  /-- How many sentences are kept for a pairing. -/
  sampleLimit : Nat
  /-- How often a lexeme was a head. -/
  heads : Counts Lexeme := ∅
  /-- How often a lexeme was a collocate. -/
  collocates : Counts Lexeme := ∅
  /-- What is known of the pairings. -/
  pairings : Table Pairing Attestation := ∅
  /-- How often a lexeme was seen at all. -/
  lexemes : Counts Lexeme := ∅
  /-- How many tokens were seen. -/
  tokens : UInt64 := 0
  /-- How many sentences were counted. -/
  sentences : UInt64 := 0
  /-- The sentences that were left out. -/
  skipped : List Skipped := []
  deriving DecidableEq

namespace Tally

/-- Nothing seen. -/
def empty (sampleLimit : Nat) : Tally :=
  { sampleLimit }

/-- A pairing was seen in a sentence. -/
def seePairing (tally : Tally) (id : SentenceId) (pairing : Pairing) : Tally :=
  { tally with
    heads := tally.heads.see pairing.head
    collocates := tally.collocates.see pairing.collocate
    pairings := Table.join (Attestation.see tally.sampleLimit) tally.pairings (pairing, id) }

/-- The tokens of one more sentence were seen. -/
def seeTokens (tally : Tally) (tokens : List Token) : Tally :=
  { tally with
    lexemes := tokens.foldl (fun lexemes token => lexemes.see token.lexeme) tally.lexemes
    tokens := tally.tokens + UInt64.ofNat tokens.length
    sentences := tally.sentences + 1 }

/-- A sentence was left out. -/
def skip (tally : Tally) (skipped : Skipped) : Tally :=
  { tally with skipped := tally.skipped ++ [skipped] }

/-- The tally over the sentences of a tally and then those of a later one. -/
def append (tally later : Tally) : Tally :=
  { tally with
    heads := tally.heads.add later.heads
    collocates := tally.collocates.add later.collocates
    pairings := Table.combine (Attestation.append tally.sampleLimit) tally.pairings later.pairings
    lexemes := tally.lexemes.add later.lexemes
    tokens := tally.tokens + later.tokens
    sentences := tally.sentences + later.sentences
    skipped := tally.skipped ++ later.skipped }

instance : Append Tally :=
  ⟨append⟩

theorem append_eq (tally later : Tally) : tally ++ later = tally.append later :=
  rfl

/-- The tally over the sentences of all tallies in order. -/
def sum (sampleLimit : Nat) (tallies : List Tally) : Tally :=
  tallies.foldl append (empty sampleLimit)

/-- Report sentences that were rejected before counting; all sentences left out are then in the order of
their numbers, and those of one number in the order of their reports. -/
def addRejected (tally : Tally) (rejected : List Skipped) : Tally :=
  { tally with
    skipped := (tally.skipped ++ rejected).mergeSort fun left right => left.id ≤ right.id }

end Tally
end Collocation
