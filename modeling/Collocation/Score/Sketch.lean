import Collocation.Score.Record

/-!
# Sketches

A sketch lists the records of a headword, the strongest first.  `Query.rank` filters records, puts them
into the order of `Record.rankOrder`, and cuts the list off at a limit.
-/

namespace Collocation

/-- The order of a sketch: higher logDice first, then higher frequency, then by collocate, relation and
part of speech of the head. -/
def Record.rankOrder : Record → Record → Ordering :=
  compareLex (compareOn fun record => -record.association.logDice.totalPlace)
    (compareLex (compareOn fun record => -(record.frequency.toNat : Int))
      (compareLex (compareOn fun record => record.pairing.collocate.base)
        (compareLex (compareOn fun record => record.pairing.collocate.tag)
          (compareLex (compareOn fun record => record.pairing.relation)
            (compareOn fun record => record.pairing.head.tag)))))

/-- A request for a sketch. -/
structure Query where
  /-- The lemma of the head. -/
  headword : String
  /-- The part of speech of the head, if it matters. -/
  tag : Option String := none
  /-- The relation, if it matters. -/
  relation : Option String := none
  /-- The least logDice, if there is one. -/
  minScore : Option Float := none
  /-- How many records are wanted at most. -/
  limit : Nat := 25

namespace Query

/-- Whether a record is asked for. -/
def accepts (query : Query) (record : Record) : Bool :=
  record.headword == query.headword &&
    query.tag.all (record.pairing.head.tag == ·) &&
    query.relation.all (record.pairing.relation == ·) &&
    query.minScore.all (· ≤ record.association.logDice.toFloat)

/-- The records that are asked for, in order and up to the limit. -/
def rank (query : Query) (records : List Record) : List Record :=
  ((records.filter query.accepts).mergeSort fun left right => (left.rankOrder right).isLE).take
    query.limit

end Query
end Collocation
