import Collocation.Proofs.Count.Histories
import Collocation.Proofs.Count.Splitting

/-!
# Laws of joining

Joining tallies is associative and the empty tally is its unit, samples included, as long as samples are of one length
and have no sentence twice.  What is counted can be joined in any order; only samples and the order of what was left out
depend on it.
-/

namespace Collocation

/-! ## Tables -/

namespace Table

variable {κ α : Type} [Ord κ] [Std.TransOrd κ] [Std.LawfulEqOrd κ]

theorem empty_combine {make : Option α → α → α} {table : Table κ α}
    (fresh : ∀ (key : κ) (value : α), table[key]? = some value → make none value = value) :
    combine make ∅ table = table := by
  refine Std.ExtTreeMap.ext_getElem? fun key => ?_
  rw [getElem?_combine, Std.ExtTreeMap.getElem?_empty]
  cases known : table[key]? with
  | none => rfl
  | some value => exact congrArg some (fresh key value known)

/-- Tables can be combined from either end if their values can be joined so. -/
theorem combine_combine {make : Option α → α → α} {first second third : Table κ α}
    (fresh : ∀ (key : κ) (last : α), third[key]? = some last → make none last = last)
    (joined : ∀ (key : κ) (middle last : α), second[key]? = some middle → third[key]? = some last →
      make (some (make first[key]? middle)) last = make first[key]? (make (some middle) last)) :
    combine make (combine make first second) third = combine make first (combine make second third) := by
  refine Std.ExtTreeMap.ext_getElem? fun key => ?_
  simp only [getElem?_combine]
  cases late : third[key]? with
  | none => rfl
  | some last =>
      cases known : second[key]? with
      | none => exact congrArg (fun value => some (make first[key]? value)) (fresh key last late).symm
      | some middle => exact congrArg some (joined key middle last known late)

end Table

namespace Counts

variable {κ : Type} [Ord κ] [Std.TransOrd κ] [Std.LawfulEqOrd κ]

theorem increased_none (count : UInt64) : increased none count = count :=
  UInt64.zero_add count

theorem empty_add (counts : Counts κ) : add ∅ counts = counts :=
  Table.empty_combine fun _ count _ => increased_none count

theorem add_assoc (first second third : Counts κ) : (first.add second).add third = first.add (second.add third) :=
  Table.combine_combine (fun _ count _ => increased_none count) fun _ _ _ _ _ => UInt64.add_assoc _ _ _

theorem add_comm (first second : Counts κ) : first.add second = second.add first := by
  refine Std.ExtTreeMap.ext_getElem? fun key => ?_
  simp only [add, Table.getElem?_combine]
  cases first[key]? <;> cases second[key]? <;> simp [increased, UInt64.add_comm]

end Counts

/-! ## Samples -/

namespace Attestation

variable {limit : Nat} {later : Attestation}

theorem WellSampled.foldl_sample (sampled : later.WellSampled limit) :
    later.examples.foldl (sample limit) [] = later.examples :=
  foldl_sample_of_nodup sampled.distinct sampled.bounded

theorem append_none (sampled : later.WellSampled limit) : append limit none later = later := by
  obtain ⟨frequency, examples⟩ := later
  exact congr (congrArg mk (UInt64.zero_add frequency)) sampled.foldl_sample

/-- What is known from three parts can be put together from either end if the middle sample is distinct. -/
theorem append_append (earlier : Option Attestation) {middle : Attestation} (distinct : middle.examples.Nodup)
    (last : Attestation) :
    append limit (some (append limit earlier middle)) last =
      append limit earlier (append limit (some middle) last) := by
  simp only [append, Option.getD_some, foldl_sample_foldl_sample limit distinct, List.foldl_append, UInt64.add_assoc]

end Attestation

/-! ## Tallies -/

namespace Tally

variable {limit : Nat} {tally later : Tally}

/-- The sample of a pairing. -/
def examplesOf (tally : Tally) (pairing : Pairing) : List SentenceId :=
  (tally.pairings[pairing]?.getD {}).examples

/-- The same was counted, and the same was left out in some order. -/
structure CountsAlike (tally other : Tally) : Prop where
  /-- The heads are the same. -/
  heads : tally.heads = other.heads
  /-- The collocates are the same. -/
  collocates : tally.collocates = other.collocates
  /-- The lexemes are the same. -/
  lexemes : tally.lexemes = other.lexemes
  /-- The pairings are the same, and were seen as often. -/
  frequencies : tally.frequencies = other.frequencies
  /-- There are as many tokens. -/
  tokens : tally.tokens = other.tokens
  /-- There are as many sentences. -/
  sentences : tally.sentences = other.sentences
  /-- The same was left out. -/
  skipped : tally.skipped.Perm other.skipped

theorem empty_append (sampled : tally.WellSampled limit) : empty limit ++ tally = tally := by
  obtain ⟨own, pairings⟩ := sampled
  have known : Table.combine (Attestation.append limit) ∅ tally.pairings = tally.pairings :=
    Table.empty_combine fun pairing attestation found => Attestation.append_none (pairings pairing attestation found)
  obtain ⟨length, heads, collocates, table, lexemes, tokens, sentences, skipped⟩ := tally
  obtain rfl : length = limit := own
  simp only [append_eq, append, empty, Counts.empty_add, UInt64.zero_add, List.nil_append, known]

/-- Tallies can be joined from either end. -/
theorem append_assoc {last : Tally} (sampled : later.WellSampled limit) (lastSampled : last.WellSampled limit)
    (own : tally.sampleLimit = limit) : tally ++ later ++ last = tally ++ (later ++ last) := by
  have pairings : Table.combine (Attestation.append limit)
        (Table.combine (Attestation.append limit) tally.pairings later.pairings) last.pairings =
      Table.combine (Attestation.append limit) tally.pairings
        (Table.combine (Attestation.append limit) later.pairings last.pairings) :=
    Table.combine_combine
      (fun pairing attestation found => Attestation.append_none (lastSampled.pairings pairing attestation found))
      fun pairing middle attestation known _ =>
        Attestation.append_append _ (sampled.pairings pairing middle known).distinct attestation
  simp only [append_eq, append, own, sampled.own, pairings, Counts.add_assoc, UInt64.add_assoc, List.append_assoc]

theorem wellSampled_examplesOf (sampled : tally.WellSampled limit) (pairing : Pairing) :
    (tally.examplesOf pairing).Nodup ∧ (tally.examplesOf pairing).length ≤ limit := by
  rw [examplesOf]
  cases known : tally.pairings[pairing]? with
  | none => exact ⟨List.nodup_nil, Nat.zero_le limit⟩
  | some attestation =>
      obtain ⟨distinct, bounded⟩ := sampled.pairings pairing attestation known
      exact ⟨distinct, bounded⟩

theorem examplesOf_append (sampled : tally.WellSampled limit) (pairing : Pairing) :
    (tally ++ later).examplesOf pairing =
      (tally.examplesOf pairing ++ later.examplesOf pairing).eraseDups.take limit := by
  obtain ⟨distinct, bounded⟩ := wellSampled_examplesOf sampled pairing
  have earlier : (tally.examplesOf pairing).foldl (sample limit) [] = tally.examplesOf pairing :=
    foldl_sample_of_nodup distinct bounded
  have joined : (tally ++ later).examplesOf pairing =
      (later.examplesOf pairing).foldl (sample limit) (tally.examplesOf pairing) := by
    simp only [examplesOf, append_eq, append, sampled.own, Table.getElem?_combine]
    cases later.pairings[pairing]? <;> rfl
  rw [joined, ← foldl_sample_nil, List.foldl_append, earlier]

theorem frequencies_append (tally later : Tally) :
    (tally ++ later).frequencies = tally.frequencies.add later.frequencies := by
  refine Std.ExtTreeMap.ext_getElem? fun pairing => ?_
  simp only [frequencies, append_eq, append, Counts.add, Table.getElem?_combine, Std.ExtTreeMap.getElem?_map]
  cases later.pairings[pairing]? with
  | none => rfl
  | some last => cases tally.pairings[pairing]? <;> rfl

/-! ## Sums -/

/-- What adds up when tallies are joined does not depend on the order of a sum if additions do not. -/
theorem view_sum_of_perm {β : Type} {view : Tally → β} {add : β → β → β}
    (joins : ∀ tally later : Tally, view (tally ++ later) = add (view tally) (view later))
    (assoc : ∀ first second third : β, add (add first second) third = add first (add second third))
    (comm : ∀ first second : β, add first second = add second first)
    {tallies others : List Tally} (permuted : tallies.Perm others) (limit : Nat) :
    view (sum limit tallies) = view (sum limit others) := by
  have viewed (list : List Tally) :
      view (sum limit list) = list.foldl (fun value tally => add value (view tally)) (view (empty limit)) :=
    (List.foldl_hom view fun tally later => (joins tally later).symm).symm
  rw [viewed, viewed]
  refine permuted.foldl_eq' (fun first _ second _ value => ?_) _
  rw [assoc, comm (view first), assoc]

theorem skipped_sum (limit : Nat) (tallies : List Tally) :
    (sum limit tallies).skipped = tallies.flatMap Tally.skipped := by
  have continues (tally : Tally) :
      (tallies.foldl append tally).skipped = tally.skipped ++ tallies.flatMap Tally.skipped := by
    induction tallies generalizing tally with
    | nil => exact (List.append_nil _).symm
    | cons later tallies induction => rw [List.foldl_cons, induction, List.flatMap_cons, append, List.append_assoc]
  exact continues (empty limit)

theorem countsAlike_sum_of_perm {tallies others : List Tally} (permuted : tallies.Perm others) (limit : Nat) :
    (sum limit tallies).CountsAlike (sum limit others) where
  heads := view_sum_of_perm (fun _ _ => rfl) Counts.add_assoc Counts.add_comm permuted limit
  collocates := view_sum_of_perm (fun _ _ => rfl) Counts.add_assoc Counts.add_comm permuted limit
  lexemes := view_sum_of_perm (fun _ _ => rfl) Counts.add_assoc Counts.add_comm permuted limit
  frequencies := view_sum_of_perm frequencies_append Counts.add_assoc Counts.add_comm permuted limit
  tokens := view_sum_of_perm (fun _ _ => rfl) UInt64.add_assoc UInt64.add_comm permuted limit
  sentences := view_sum_of_perm (fun _ _ => rfl) UInt64.add_assoc UInt64.add_comm permuted limit
  skipped := by
    rw [skipped_sum, skipped_sum]
    exact permuted.flatMap_right _

theorem Reflects.wellSampled {sightings : List Sighting} {sentences : List Sentence}
    (reflects : tally.Reflects limit sightings sentences) : tally.WellSampled limit := by
  refine ⟨reflects.sampleLimit, fun pairing attestation found => ?_⟩
  rw [Option.mem_def, reflects.pairings, attestationOf] at found
  split at found
  · cases found
  · obtain rfl := Option.some.inj found
    rw [← foldl_sample_nil]
    exact ⟨nodup_foldl_sample _ List.nodup_nil, length_foldl_sample_le _ (Nat.zero_le limit)⟩

/-- Among tallies whose samples are distinct and of one length, as all are that were obtained by counting, joining and
summing, joining is associative and the empty tally is its unit; the samples of a joined tally are again such, and have
the first distinct sentences of the samples that were joined.  The order of summing makes no difference to anything that
is counted, nor to what is left out but for its order. -/
theorem join_laws_of_wellSampled (limit : Nat) :
    (∀ first second third : Tally, first.WellSampled limit → second.WellSampled limit → third.WellSampled limit →
      first ++ second ++ third = first ++ (second ++ third)) ∧
    (∀ tally : Tally, tally.WellSampled limit → empty limit ++ tally = tally ∧ tally ++ empty limit = tally) ∧
    (∀ tally later : Tally, tally.WellSampled limit →
      (tally ++ later).WellSampled limit ∧ ∀ pairing : Pairing,
        (tally ++ later).examplesOf pairing =
          (tally.examplesOf pairing ++ later.examplesOf pairing).eraseDups.take limit) ∧
    (∀ tallies others : List Tally, tallies.Perm others → (sum limit tallies).CountsAlike (sum limit others)) ∧
    ∀ tally : Tally, tally.Obtained limit → tally.WellSampled limit := by
  refine ⟨fun first second third sampled secondSampled thirdSampled => ?_, fun tally sampled => ?_,
    fun tally later sampled => ?_, fun tallies others permuted => ?_, fun tally obtained => ?_⟩
  · exact append_assoc secondSampled thirdSampled sampled.own
  · exact ⟨empty_append sampled, append_empty tally limit⟩
  · exact ⟨sampled.append later, examplesOf_append sampled⟩
  · exact countsAlike_sum_of_perm permuted limit
  · obtain ⟨sightings, sentences, made⟩ := obtained.hasHistory
    exact made.reflects.wellSampled

/-- Samples of two sentences that overlap; in another order the samples of their sum differ, but no count does. -/
theorem join_laws_of_overlapping_samples :
    let pairing : Pairing := ⟨Phrase.house.lexeme, Phrase.old.lexeme, "modifier"⟩
    let seen (ids : List SentenceId) : Tally := ids.foldl (fun tally id => tally.seePairing id pairing) (empty 2)
    (∀ ids, (seen ids).WellSampled 2) ∧
      seen [1, 2] ++ seen [2, 3] ++ seen [4] = seen [1, 2] ++ (seen [2, 3] ++ seen [4]) ∧
      empty 2 ++ seen [2, 2, 3] = seen [2, 2, 3] ∧
      (seen [2, 2] ++ seen [2, 3]).examplesOf pairing = [2, 3] ∧
      (sum 2 [seen [1, 2], seen [4]]).CountsAlike (sum 2 [seen [4], seen [1, 2]]) ∧
      (sum 2 [seen [1, 2], seen [4]]).examplesOf pairing = [1, 2] ∧
      (sum 2 [seen [4], seen [1, 2]]).examplesOf pairing = [4, 1] := by
  intro pairing seen
  have sampled (ids : List SentenceId) : (seen ids).WellSampled 2 :=
    List.foldlRecOn (motive := fun tally : Tally => tally.WellSampled 2) ids _ (wellSampled_empty 2)
      fun _ sampled id _ => sampled.seePairing id pairing
  obtain ⟨associative, unit, joined, commutes, -⟩ := join_laws_of_wellSampled 2
  refine ⟨sampled, associative _ _ _ (sampled _) (sampled _) (sampled _), (unit _ (sampled _)).1, ?_,
    commutes _ _ (List.Perm.swap _ _ _), ?_, ?_⟩
  · rw [(joined _ _ (sampled _)).2]
    decide +kernel
  · decide +kernel
  · decide +kernel

end Tally
end Collocation
