import Collocation.Score.Association
import Collocation.Tally.Basic

/-!
# Records

A record says all about a pairing under a version of the grammars: how often it was seen, how strong it
is, and where to find examples.  A tally gives a record for each of its pairings, in ascending order.
-/

namespace Collocation

/-- What is known of a pairing under a version. -/
structure Record where
  /-- The pairing. -/
  pairing : Pairing
  /-- How often it was seen. -/
  frequency : UInt64
  /-- Its scores. -/
  association : Association
  /-- Sentences that it was first seen in. -/
  examples : List SentenceId
  /-- The version of the grammars. -/
  version : String

/-- The lemma of the head. -/
def Record.headword (record : Record) : String :=
  record.pairing.head.base

namespace Tally

/-- The scores of a pairing that was seen with a frequency. -/
def association (tally : Tally) (pairing : Pairing) (frequency : UInt64) : Association :=
  .of tally.tokens frequency (tally.heads.count pairing.head)
    (tally.collocates.count pairing.collocate)

/-- The record of a pairing. -/
def record (tally : Tally) (version : String) (entry : Pairing × Attestation) : Record where
  pairing := entry.1
  frequency := entry.2.frequency
  association := tally.association entry.1 entry.2.frequency
  examples := entry.2.examples
  version := version

/-- The records of all pairings, in ascending order of the pairings. -/
def records (tally : Tally) (version : String) : List Record :=
  tally.pairings.toList.map (tally.record version)

/-- The record of a pairing, if its marginals add up. -/
def checkedRecord (tally : Tally) (version : String) (entry : Pairing × Attestation) :
    Except Overflow Record := do
  let head := tally.heads.count entry.1.head
  let collocate := tally.collocates.count entry.1.collocate
  let association ← Association.checked tally.tokens entry.2.frequency head collocate
  return { tally.record version entry with association }

/-- The records of all pairings, if the marginals of each of them add up. -/
def checkedRecords (tally : Tally) (version : String) : Except Overflow (List Record) :=
  tally.pairings.toList.mapM (tally.checkedRecord version)

end Tally
end Collocation
