import Collocation.Proofs.Tally.Sample

/-!
# Joined tallies

What is seen after a tally can be seen in a tally of its own that is joined to it.  For counts this is the
associativity of addition; for the examples of a pairing it needs that those of the later tally are
distinct, which holds of every tally that is made by seeing.
-/

namespace Collocation

namespace Table

variable {κ α β γ : Type} [Ord κ] [Std.TransOrd κ] [Std.LawfulEqOrd κ]

@[simp]
theorem combine_empty (make : Option α → β → α) (first : Table κ α) :
    combine make first (∅ : Table κ β) = first :=
  Std.ExtTreeMap.ext_getElem? fun key => by simp

theorem combine_join {make : Option α → β → α} {put : Option β → γ → β} {putBoth : Option α → γ → α}
    (first : Table κ α) (second : Table κ β) (entry : κ × γ)
    (commutes : make first[entry.1]? (put second[entry.1]? entry.2) =
      putBoth (combine make first second)[entry.1]? entry.2) :
    combine make first (join put second entry) = join putBoth (combine make first second) entry := by
  refine Std.ExtTreeMap.ext_getElem? fun key => ?_
  by_cases same : entry.1 = key
  · subst same
    rw [getElem?_combine, getElem?_join_self, getElem?_join_self]
    exact congrArg some commutes
  · rw [getElem?_combine, getElem?_join_of_ne _ _ same, getElem?_join_of_ne _ _ same, getElem?_combine]

end Table

namespace Counts

variable {κ : Type} [Ord κ] [Std.TransOrd κ] [Std.LawfulEqOrd κ]

theorem add_see (first second : Counts κ) (key : κ) :
    first.add (second.see key) = (first.add second).see key := by
  refine Table.combine_join first second (key, 1) ?_
  rw [Table.getElem?_combine]
  cases second[key]? with
  | none => simp [increased]
  | some count => simp [increased, UInt64.add_assoc]

theorem add_foldl_see {α : Type} (first second : Counts κ) (key : α → κ) (list : List α) :
    first.add (list.foldl (fun counts item => counts.see (key item)) second) =
      list.foldl (fun counts item => counts.see (key item)) (first.add second) := by
  induction list generalizing second with
  | nil => rfl
  | cons item list ih => rw [List.foldl_cons, ih, add_see, List.foldl_cons]

end Counts

namespace Attestation

theorem append_see (limit : Nat) (earlier : Option Attestation) {later : Option Attestation}
    (distinct : ∀ attestation ∈ later, attestation.examples.Nodup) (id : SentenceId) :
    append limit earlier (see limit later id) =
      see limit (later.elim earlier fun attestation => some (append limit earlier attestation)) id := by
  cases later with
  | none =>
      have alone := foldl_sample_foldl_sample limit List.nodup_nil [id]
        (earlier.getD {}).examples
      simp only [List.nil_append, List.foldl_cons, List.foldl_nil] at alone
      simp [append, see, alone]
  | some attestation =>
      have joined := foldl_sample_foldl_sample limit (distinct attestation rfl) [id]
        (earlier.getD {}).examples
      rw [List.foldl_append] at joined
      simp only [List.foldl_cons, List.foldl_nil] at joined
      simp [append, see, joined, UInt64.add_assoc]

/-- The examples are distinct and no more than a limit. -/
structure WellSampled (limit : Nat) (attestation : Attestation) : Prop where
  /-- They are distinct. -/
  distinct : attestation.examples.Nodup
  /-- They are within the limit. -/
  bounded : attestation.examples.length ≤ limit

theorem WellSampled.see {limit : Nat} {current : Option Attestation}
    (sampled : ∀ attestation ∈ current, attestation.WellSampled limit) (id : SentenceId) :
    (Attestation.see limit current id).WellSampled limit := by
  cases current with
  | none => exact ⟨nodup_sample List.nodup_nil id, length_sample_le (Nat.zero_le limit) id⟩
  | some attestation =>
      obtain ⟨distinct, bounded⟩ := sampled attestation rfl
      exact ⟨nodup_sample distinct id, length_sample_le bounded id⟩

theorem WellSampled.append {limit : Nat} {earlier : Option Attestation}
    (sampled : ∀ attestation ∈ earlier, attestation.WellSampled limit) (later : Attestation) :
    (Attestation.append limit earlier later).WellSampled limit := by
  cases earlier with
  | none =>
      exact ⟨nodup_foldl_sample _ List.nodup_nil, length_foldl_sample_le _ (Nat.zero_le limit)⟩
  | some attestation =>
      obtain ⟨distinct, bounded⟩ := sampled attestation rfl
      exact ⟨nodup_foldl_sample _ distinct, length_foldl_sample_le _ bounded⟩

end Attestation

namespace Tally

/-- The examples of every pairing are distinct and no more than a limit, which is the tally's own. -/
structure WellSampled (limit : Nat) (tally : Tally) : Prop where
  /-- It is the tally's own. -/
  own : tally.sampleLimit = limit
  /-- The examples of every pairing keep it. -/
  pairings : ∀ pairing : Pairing, ∀ attestation ∈ tally.pairings[pairing]?,
    attestation.WellSampled limit

theorem wellSampled_empty (limit : Nat) : (empty limit).WellSampled limit := by
  refine ⟨rfl, fun pairing attestation found => ?_⟩
  simp [empty] at found

variable {limit : Nat}

theorem WellSampled.seeTokens {tally : Tally} (sampled : tally.WellSampled limit)
    (tokens : List Token) : (tally.seeTokens tokens).WellSampled limit :=
  ⟨sampled.own, sampled.pairings⟩

theorem WellSampled.skip {tally : Tally} (sampled : tally.WellSampled limit) (skipped : Skipped) :
    (tally.skip skipped).WellSampled limit :=
  ⟨sampled.own, sampled.pairings⟩

theorem WellSampled.seePairing {tally : Tally} (sampled : tally.WellSampled limit) (id : SentenceId)
    (pairing : Pairing) : (tally.seePairing id pairing).WellSampled limit := by
  refine ⟨sampled.own, fun other attestation found => ?_⟩
  rw [Tally.seePairing, sampled.own] at found
  by_cases same : pairing = other
  · subst same
    rw [Table.getElem?_join_self, Option.mem_some_iff] at found
    exact found ▸ Attestation.WellSampled.see (sampled.pairings pairing) id
  · have apart : (pairing, id).1 ≠ other := same
    rw [Table.getElem?_join_of_ne _ _ apart] at found
    exact sampled.pairings other attestation found

/-- Whatever is joined to a tally, the samples stay within its limit. -/
theorem WellSampled.append {tally : Tally} (sampled : tally.WellSampled limit) (later : Tally) :
    (tally ++ later).WellSampled limit := by
  refine ⟨sampled.own, fun pairing attestation found => ?_⟩
  rw [append_eq, Tally.append, sampled.own, Table.getElem?_combine] at found
  cases known : later.pairings[pairing]? with
  | none =>
      rw [known] at found
      exact sampled.pairings pairing attestation found
  | some last =>
      rw [known, Option.mem_some_iff] at found
      exact found ▸ Attestation.WellSampled.append (sampled.pairings pairing) last

/-! ## What is seen after a tally -/

theorem append_empty (tally : Tally) (limit : Nat) : tally ++ empty limit = tally := by
  simp [append_eq, append, empty, Counts.add]

theorem append_skip (tally later : Tally) (skipped : Skipped) :
    tally ++ later.skip skipped = (tally ++ later).skip skipped := by
  simp [append_eq, append, skip]

theorem append_seeTokens (tally later : Tally) (tokens : List Token) :
    tally ++ later.seeTokens tokens = (tally ++ later).seeTokens tokens := by
  simp only [append_eq, append, seeTokens, mk.injEq, true_and, and_true]
  exact ⟨Counts.add_foldl_see _ _ Token.lexeme tokens, (UInt64.add_assoc _ _ _).symm,
    (UInt64.add_assoc _ _ _).symm⟩

theorem append_seePairing {tally later : Tally} (own : tally.sampleLimit = limit)
    (sampled : later.WellSampled limit) (id : SentenceId) (pairing : Pairing) :
    tally ++ later.seePairing id pairing = (tally ++ later).seePairing id pairing := by
  simp only [append_eq, append, seePairing, mk.injEq, true_and, and_true, sampled.own, own]
  refine ⟨Counts.add_see _ _ _, Counts.add_see _ _ _, ?_⟩
  refine Table.combine_join tally.pairings later.pairings (pairing, id) ?_
  rw [Table.getElem?_combine]
  have seen := Attestation.append_see limit tally.pairings[pairing]?
    (fun attestation found => (sampled.pairings pairing attestation found).distinct) id
  cases known : later.pairings[pairing]? <;> simpa [known] using seen

/-- Pairings that are seen later can be seen after both tallies are joined. -/
theorem append_foldl_seePairing {tally later : Tally} (own : tally.sampleLimit = limit)
    (sampled : later.WellSampled limit) (id : SentenceId) (pairings : List Pairing) :
    tally ++ pairings.foldl (·.seePairing id) later =
        pairings.foldl (·.seePairing id) (tally ++ later) ∧
      (pairings.foldl (·.seePairing id) later).WellSampled limit := by
  induction pairings generalizing later with
  | nil => exact ⟨rfl, sampled⟩
  | cons pairing pairings induction =>
      rw [List.foldl_cons, List.foldl_cons, ← append_seePairing own sampled]
      exact induction (sampled.seePairing id pairing)

end Tally
end Collocation
