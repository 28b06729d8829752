import Collocation.Proofs.Answers
import Collocation.Proofs.Tally.Marginals
import Collocation.Score.Record

/-!
# Records of a tally

A tally has one record for each of its pairings, in ascending order, as long as the marginals of every pairing add up.
If its marginals are the sums of its joint counts, no pairing was seen more often than its head or its collocate, so no
score meets a zero denominator.
-/

namespace Collocation

/-- What tells the records of a version apart: the head with its part of speech, the relation, and the collocate with
its part of speech. -/
def Record.key (record : Record) : String × String × String × String × String :=
  let pairing := record.pairing
  (pairing.head.base, pairing.head.tag, pairing.relation, pairing.collocate.base, pairing.collocate.tag)

theorem Record.key_ne_of_pairing_ne {first second : Record} (apart : first.pairing ≠ second.pairing) :
    first.key ≠ second.key := by
  intro same
  simp only [key, Prod.mk.injEq] at same
  obtain ⟨base, tag, relation, collocateBase, collocateTag⟩ := same
  obtain ⟨⟨⟨_, _⟩, ⟨_, _⟩, _⟩, _⟩ := first
  obtain ⟨⟨⟨_, _⟩, ⟨_, _⟩, _⟩, _⟩ := second
  cases base
  cases tag
  cases relation
  cases collocateBase
  cases collocateTag
  exact apart rfl

/-! ## Scores -/

theorem ne_zero_of_lt_toNat {number : UInt64} {least : Nat} (above : least < number.toNat) : number ≠ 0 := by
  rintro rfl
  exact Nat.not_lt_zero least above

namespace Association

/-- A pair was seen, no more often than its head or its collocate, among some tokens. -/
structure Supported (tokens joint head collocate : UInt64) : Prop where
  seen : 0 < joint.toNat
  head : joint.toNat ≤ head.toNat
  collocate : joint.toNat ≤ collocate.toNat
  tokens : tokens ≠ 0

variable {tokens joint head collocate : UInt64}

theorem Supported.mutualInformationOf_eq (supported : Supported tokens joint head collocate) :
    mutualInformationOf joint head collocate tokens =
      (joint.toFloat * tokens.toFloat / (head.toFloat * collocate.toFloat)).log2 := by
  have seen := ne_zero_of_lt_toNat supported.seen
  have asHead := ne_zero_of_lt_toNat (Nat.lt_of_lt_of_le supported.seen supported.head)
  have asCollocate := ne_zero_of_lt_toNat (Nat.lt_of_lt_of_le supported.seen supported.collocate)
  rw [mutualInformationOf, if_neg]
  rintro (none | none | none | none)
  · exact seen none
  · exact asHead none
  · exact asCollocate none
  · exact supported.tokens none

theorem Supported.tScoreOf_eq (supported : Supported tokens joint head collocate) :
    tScoreOf joint head collocate tokens =
      (joint.toFloat - head.toFloat * collocate.toFloat / tokens.toFloat) / joint.toFloat.sqrt := by
  rw [tScoreOf, if_neg]
  rintro (none | none)
  · exact ne_zero_of_lt_toNat supported.seen none
  · exact supported.tokens none

/-- The ratio of logDice is above zero and at most one. -/
theorem Supported.ratio (supported : Supported tokens joint head collocate) :
    0 < 2 * joint.toNat ∧ 2 * joint.toNat ≤ head.toNat + collocate.toNat := by
  obtain ⟨seen, asHead, asCollocate, -⟩ := supported
  omega

theorem AddUp.toNat_add (adds : AddUp head collocate) : (head + collocate).toNat = head.toNat + collocate.toNat := by
  rw [UInt64.toNat_add, Nat.mod_eq_of_lt adds]

theorem Supported.logDiceOf_eq (supported : Supported tokens joint head collocate) (adds : AddUp head collocate) :
    logDiceOf joint head collocate =
      larger (logDiceMax + (2 * joint.toFloat / (head + collocate).toFloat).log2) 0 := by
  obtain ⟨some_seen, no_more⟩ := supported.ratio
  rw [logDiceOf, if_neg]
  rintro (none | none)
  · refine ne_zero_of_lt_toNat (Nat.lt_of_lt_of_le some_seen ?_) none
    rwa [adds.toNat_add]
  · exact ne_zero_of_lt_toNat supported.seen none

theorem checked_eq_ok_iff {association : Association} :
    checked tokens joint head collocate = .ok association ↔
      AddUp head collocate ∧ association = of tokens joint head collocate := by
  rw [checked]
  split
  · next adds => rw [Except.ok.injEq, and_iff_right adds, eq_comm]
  · next runsOver => exact ⟨fun same => (nomatch same), fun both => absurd both.1 runsOver⟩

end Association

/-! ## Records -/

namespace Tally

theorem records_pairwise (tally : Tally) (version : String) :
    (tally.records version).Pairwise fun left right => compare left.pairing right.pairing = .lt :=
  List.pairwise_map.mpr tally.pairings.ordered_keys_toList

theorem map_pairing_records (tally : Tally) (version : String) :
    (tally.records version).map Record.pairing = tally.pairings.keys := by
  rw [records, List.map_map, ← Std.ExtTreeMap.map_fst_toList_eq_keys]
  rfl

theorem nodup_map_key_records (tally : Tally) (version : String) :
    ((tally.records version).map Record.key).Nodup := by
  refine List.pairwise_map.mpr ((tally.records_pairwise version).imp fun {left right} before => ?_)
  refine Record.key_ne_of_pairing_ne fun same => ?_
  rw [same] at before
  simp at before

theorem known_of_mem_records {tally : Tally} {version : String} {record : Record}
    (member : record ∈ tally.records version) :
    tally.pairings[record.pairing]? = some ⟨record.frequency, record.examples⟩ ∧ record.version = version ∧
      record.association = tally.association record.pairing record.frequency := by
  obtain ⟨entry, listed, rfl⟩ := List.mem_map.mp member
  exact ⟨Std.ExtTreeMap.mem_toList_iff_getElem?_eq_some.mp listed, rfl, rfl⟩

variable {limit : Nat} {tally : Tally}

theorem le_frequencyOf {pairing : Pairing} {attestation : Attestation}
    (known : tally.pairings[pairing]? = some attestation) (place : Pairing → Lexeme) :
    attestation.frequency.toNat ≤ tally.frequencyOf place (place pairing) := by
  refine le_total_of_mem (List.mem_map.mpr ⟨(pairing, attestation), ?_, rfl⟩)
  exact List.mem_filter.mpr ⟨Std.ExtTreeMap.mem_toList_iff_getElem?_eq_some.mpr known, decide_eq_true rfl⟩

/-- Where the marginals are the sums of the joint counts, every known pairing can be scored. -/
theorem Conserved.supported (conserved : tally.Conserved limit) {pairing : Pairing} {attestation : Attestation}
    (known : tally.pairings[pairing]? = some attestation) :
    Association.Supported tally.tokens attestation.frequency (tally.heads.count pairing.head)
      (tally.collocates.count pairing.collocate) where
  seen := (conserved.attested pairing attestation known).1.seen
  head := (conserved.heads pairing.head).symm ▸ le_frequencyOf known Pairing.head
  collocate := (conserved.collocates pairing.collocate).symm ▸ le_frequencyOf known Pairing.collocate
  tokens := (conserved.attested pairing attestation known).2

/-! ## Checked records -/

/-- The marginals of every known pairing add up. -/
def AddsUp (tally : Tally) : Prop :=
  ∀ pairing ∈ tally.pairings.keys,
    Association.AddUp (tally.heads.count pairing.head) (tally.collocates.count pairing.collocate)

theorem checkedRecord_eq_ok_iff {version : String} {entry : Pairing × Attestation} {record : Record} :
    tally.checkedRecord version entry = .ok record ↔
      Association.AddUp (tally.heads.count entry.1.head) (tally.collocates.count entry.1.collocate) ∧
        record = tally.record version entry := by
  simp only [checkedRecord, bind_eq_ok_iff, pure_eq_ok_iff, Association.checked_eq_ok_iff]
  constructor
  · rintro ⟨association, ⟨adds, rfl⟩, rfl⟩
    exact ⟨adds, rfl⟩
  · rintro ⟨adds, rfl⟩
    exact ⟨_, ⟨adds, rfl⟩, rfl⟩

/-- As long as all marginals add up, the checked records are the records. -/
theorem checkedRecords_eq_ok_iff {version : String} {records : List Record} :
    tally.checkedRecords version = .ok records ↔ tally.AddsUp ∧ records = tally.records version := by
  have listed : (∃ records, tally.checkedRecords version = .ok records) ↔ tally.AddsUp := by
    simp only [checkedRecords, exists_mapM_eq_ok_iff, checkedRecord_eq_ok_iff, exists_and_left, exists_eq, and_true]
    rw [AddsUp, ← Std.ExtTreeMap.map_fst_toList_eq_keys, List.forall_mem_map]
  have same {records : List Record} (made : tally.checkedRecords version = .ok records) :
      records = tally.records version :=
    eq_map_of_mapM_eq_ok (fun _ _ made => (checkedRecord_eq_ok_iff.mp made).2) made
  constructor
  · exact fun made => ⟨listed.mp ⟨records, made⟩, same made⟩
  · rintro ⟨adds, rfl⟩
    obtain ⟨records, made⟩ := listed.mpr adds
    rw [made, same made]

/-- Scoring stops the program exactly if the marginals of a known pairing do not add up. -/
theorem checkedRecords_eq_error_iff {version : String} :
    tally.checkedRecords version = .error .overflow ↔ ∃ pairing ∈ tally.pairings.keys,
      UInt64.size ≤ (tally.heads.count pairing.head).toNat + (tally.collocates.count pairing.collocate).toNat := by
  have stopped : ¬ tally.AddsUp ↔ ∃ pairing ∈ tally.pairings.keys,
      UInt64.size ≤ (tally.heads.count pairing.head).toNat + (tally.collocates.count pairing.collocate).toNat := by
    simp only [AddsUp, Association.AddUp, Classical.not_forall, exists_prop, Nat.not_lt]
  rw [← stopped]
  cases made : tally.checkedRecords version with
  | error cause =>
      cases cause
      refine iff_of_true rfl fun adds => ?_
      rw [checkedRecords_eq_ok_iff.mpr ⟨adds, rfl⟩] at made
      cases made
  | ok records => exact iff_of_false (fun same => nomatch same) (not_not_intro (checkedRecords_eq_ok_iff.mp made).1)

/-- Some records are those of a tally under a version: one for each pairing, all distinct and ascending, each scored by
counts that give no denominator of zero. -/
structure Scored (version : String) (tally : Tally) (records : List Record) : Prop where
  /-- There is exactly one record for each pairing. -/
  listed : records.map Record.pairing = tally.pairings.keys
  /-- The records ascend. -/
  ascending : records.Pairwise fun left right => compare left.pairing right.pairing = .lt
  /-- No two records have one key. -/
  distinct : (records.map Record.key).Nodup
  /-- A record says what the tally knows. -/
  faithful : ∀ record ∈ records,
    tally.pairings[record.pairing]? = some ⟨record.frequency, record.examples⟩ ∧ record.version = version
  /-- The joint count is not zero and at most each of the marginals, so logDice has a ratio above zero and at most
  one. -/
  bounded : ∀ record ∈ records,
    let head := tally.heads.count record.pairing.head
    let collocate := tally.collocates.count record.pairing.collocate
    0 < record.frequency.toNat ∧ record.frequency.toNat ≤ min head.toNat collocate.toNat ∧
      0 < 2 * record.frequency.toNat ∧ 2 * record.frequency.toNat ≤ head.toNat + collocate.toNat
  /-- Every score is computed by its formula. -/
  regular : ∀ record ∈ records,
    let joint := record.frequency.toFloat
    let head := tally.heads.count record.pairing.head
    let collocate := tally.collocates.count record.pairing.collocate
    record.association.logDice = .ofFloat
      (Association.larger (Association.logDiceMax + (2 * joint / (head + collocate).toFloat).log2) 0) ∧
    record.association.mutualInformation = .ofFloat
      (joint * tally.tokens.toFloat / (head.toFloat * collocate.toFloat)).log2 ∧
    record.association.tScore = .ofFloat
      ((joint - head.toFloat * collocate.toFloat / tally.tokens.toFloat) / joint.sqrt)
  /-- The denominator of logDice is the sum of the marginals. -/
  added : ∀ record ∈ records,
    let head := tally.heads.count record.pairing.head
    let collocate := tally.collocates.count record.pairing.collocate
    (head + collocate).toNat = head.toNat + collocate.toNat

theorem Conserved.scored (conserved : tally.Conserved limit) (adds : tally.AddsUp) (version : String) :
    tally.Scored version (tally.records version) where
  listed := tally.map_pairing_records version
  ascending := tally.records_pairwise version
  distinct := tally.nodup_map_key_records version
  faithful := fun record member => by
    obtain ⟨known, versioned, -⟩ := known_of_mem_records member
    exact ⟨known, versioned⟩
  bounded := fun record member => by
    have supported := conserved.supported (known_of_mem_records member).1
    exact ⟨supported.seen, Nat.le_min.mpr ⟨supported.head, supported.collocate⟩, supported.ratio⟩
  regular := fun record member => by
    obtain ⟨known, -, scores⟩ := known_of_mem_records member
    have supported := conserved.supported known
    have here := adds record.pairing (tally.map_pairing_records version ▸ List.mem_map_of_mem member)
    rw [scores]
    exact ⟨congrArg Double.ofFloat (supported.logDiceOf_eq here),
      congrArg Double.ofFloat supported.mutualInformationOf_eq, congrArg Double.ofFloat supported.tScoreOf_eq⟩
  added := fun record member =>
    (adds record.pairing (tally.map_pairing_records version ▸ List.mem_map_of_mem member)).toNat_add

end Tally
end Collocation
