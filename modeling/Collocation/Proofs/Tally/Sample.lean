import Collocation.Tally.Basic

/-!
# Samples

A sample keeps the first distinct sentences up to a limit.  What a sample leaves out makes no difference to
an earlier sample that it is added to, so a sample of sentences can be made of the samples of their parts.
-/

namespace Collocation

variable {limit : Nat}

theorem mem_sample_or_full (examples : List SentenceId) (id : SentenceId) :
    id ∈ sample limit examples id ∨ limit ≤ (sample limit examples id).length := by
  unfold sample
  split
  · exact Or.inl (List.mem_append_right examples List.mem_cons_self)
  · next kept =>
      by_cases room : examples.length < limit
      · exact Or.inl (Decidable.byContradiction fun absent => kept ⟨room, absent⟩)
      · exact Or.inr (Nat.le_of_not_lt room)

theorem sublist_sample (examples : List SentenceId) (id : SentenceId) :
    examples.Sublist (sample limit examples id) := by
  unfold sample
  split
  · exact List.sublist_append_left examples [id]
  · exact List.Sublist.refl examples

theorem nodup_sample {examples : List SentenceId} (distinct : examples.Nodup) (id : SentenceId) :
    (sample limit examples id).Nodup := by
  unfold sample
  split
  · next room =>
      refine List.nodup_append.mpr ⟨distinct, List.pairwise_singleton _ id, ?_⟩
      intro other member last isLast same
      rw [List.mem_singleton.mp isLast] at same
      exact room.2 (same ▸ member)
  · exact distinct

theorem length_sample_le {examples : List SentenceId} (bounded : examples.length ≤ limit)
    (id : SentenceId) : (sample limit examples id).length ≤ limit := by
  unfold sample
  split
  · next room =>
      rw [List.length_append, List.length_singleton]
      exact room.1
  · exact bounded

theorem sample_eq_self {examples : List SentenceId} {id : SentenceId}
    (idle : id ∈ examples ∨ limit ≤ examples.length) : sample limit examples id = examples := by
  unfold sample
  rw [if_neg]
  rintro ⟨room, absent⟩
  exact idle.elim absent (Nat.not_le_of_lt room)

/-! ## Many sentences -/

theorem sublist_foldl_sample (limit : Nat) (ids examples : List SentenceId) :
    examples.Sublist (ids.foldl (sample limit) examples) := by
  induction ids generalizing examples with
  | nil => exact List.Sublist.refl examples
  | cons id ids ih => exact (sublist_sample examples id).trans (ih _)

theorem nodup_foldl_sample (ids : List SentenceId) {examples : List SentenceId}
    (distinct : examples.Nodup) : (ids.foldl (sample limit) examples).Nodup := by
  induction ids generalizing examples with
  | nil => exact distinct
  | cons id ids ih => exact ih (nodup_sample distinct id)

theorem length_foldl_sample_le (ids : List SentenceId) {examples : List SentenceId}
    (bounded : examples.length ≤ limit) : (ids.foldl (sample limit) examples).length ≤ limit := by
  induction ids generalizing examples with
  | nil => exact bounded
  | cons id ids ih => exact ih (length_sample_le bounded id)

theorem length_foldl_sample_le_add (limit : Nat) (ids examples : List SentenceId) :
    (ids.foldl (sample limit) examples).length ≤ examples.length + ids.length := by
  induction ids generalizing examples with
  | nil => exact Nat.le_refl _
  | cons id ids induction =>
      have one : (sample limit examples id).length ≤ examples.length + 1 := by
        unfold sample
        split <;> simp
      refine Nat.le_trans (induction _) ?_
      rw [List.length_cons]
      omega

/-- Sentences that are added are in the sample afterwards, unless it is full. -/
theorem mem_foldl_sample_or_full {ids : List SentenceId} {id : SentenceId} (member : id ∈ ids)
    (examples : List SentenceId) :
    id ∈ ids.foldl (sample limit) examples ∨ limit ≤ (ids.foldl (sample limit) examples).length := by
  induction ids generalizing examples with
  | nil => cases member
  | cons first ids ih =>
      rcases List.mem_cons.mp member with rfl | later
      · have grown := sublist_foldl_sample limit ids (sample limit examples id)
        exact (mem_sample_or_full examples id).imp (fun inside => grown.subset inside)
          fun full => Nat.le_trans full grown.length_le
      · exact ih later _

theorem full_foldl_sample {ids : List SentenceId} (distinct : ids.Nodup) (many : limit ≤ ids.length)
    (examples : List SentenceId) : limit ≤ (ids.foldl (sample limit) examples).length := by
  refine Nat.le_of_not_lt fun room => ?_
  have inside : ids ⊆ ids.foldl (sample limit) examples := fun id member =>
    (mem_foldl_sample_or_full member examples).resolve_right (Nat.not_le_of_lt room)
  exact Nat.not_le_of_lt room (Nat.le_trans many (distinct.length_le_of_subset inside))

/-- Distinct sentences that there is room for are all added. -/
theorem foldl_sample_of_nodup {ids examples : List SentenceId} (distinct : (examples ++ ids).Nodup)
    (room : (examples ++ ids).length ≤ limit) : ids.foldl (sample limit) examples = examples ++ ids := by
  induction ids generalizing examples with
  | nil => exact (List.append_nil examples).symm
  | cons id ids induction =>
      have fresh : examples.length < limit ∧ id ∉ examples := by
        rw [List.length_append, List.length_cons] at room
        exact ⟨by omega, fun member => (List.nodup_append.mp distinct).2.2 id member id List.mem_cons_self rfl⟩
      rw [List.append_cons] at distinct room
      rw [List.foldl_cons, sample, if_pos fresh, induction distinct room, ← List.append_cons]

/-- A sample of the sentences behind some distinct ones, added to an earlier sample, is as good as the
sentences themselves. -/
theorem foldl_sample_foldl_sample (limit : Nat) {first : List SentenceId} (distinct : first.Nodup)
    (ids examples : List SentenceId) :
    (ids.foldl (sample limit) first).foldl (sample limit) examples =
      (first ++ ids).foldl (sample limit) examples := by
  induction ids generalizing first with
  | nil => simp
  | cons id ids ih =>
      rw [List.foldl_cons, ih (nodup_sample distinct id), sample]
      split
      · rw [List.append_assoc, List.singleton_append]
      · next dropped =>
          have idle : id ∈ first.foldl (sample limit) examples ∨
              limit ≤ (first.foldl (sample limit) examples).length := by
            by_cases member : id ∈ first
            · exact mem_foldl_sample_or_full member examples
            · have many : limit ≤ first.length :=
                Nat.le_of_not_lt fun room => dropped ⟨room, member⟩
              exact Or.inr (full_foldl_sample distinct many examples)
          rw [List.foldl_append, List.foldl_append, List.foldl_cons, sample_eq_self idle]

/-- A sample is filled up with the first distinct sentences that it does not have. -/
theorem foldl_sample_eq_take (ids : List SentenceId) {examples : List SentenceId} (bounded : examples.length ≤ limit) :
    ids.foldl (sample limit) examples =
      (examples ++ (ids.filter fun id => id ∉ examples).eraseDups).take limit := by
  induction ids generalizing examples with
  | nil => simp [List.take_of_length_le bounded]
  | cons id ids induction =>
      rw [List.foldl_cons, induction (length_sample_le bounded id)]
      by_cases known : id ∈ examples
      · rw [sample_eq_self (.inl known), List.filter_cons_of_neg (by simpa using known)]
      · rw [List.filter_cons_of_pos (by simpa using known), List.eraseDups_cons]
        by_cases room : examples.length < limit
        · have added : sample limit examples id = examples ++ [id] := if_pos ⟨room, known⟩
          have apart : (fun other => decide (other ∉ examples ++ [id])) =
              fun other => !other == id && decide (other ∉ examples) := by
            funext other
            rw [Bool.eq_iff_iff]
            simp [not_or, and_comm]
          rw [added, apart, List.append_assoc, List.singleton_append, List.filter_filter]
        · have full : limit ≤ examples.length := Nat.le_of_not_lt room
          rw [sample_eq_self (.inr full), List.take_append_of_le_length full, List.take_append_of_le_length full]

/-- A sample keeps the first distinct sentences. -/
theorem foldl_sample_nil (limit : Nat) (ids : List SentenceId) :
    ids.foldl (sample limit) [] = ids.eraseDups.take limit := by
  have all : (ids.filter fun id => id ∉ ([] : List SentenceId)) = ids := List.filter_eq_self.mpr fun _ _ => by simp
  rw [foldl_sample_eq_take ids (Nat.zero_le limit), all, List.nil_append]

end Collocation
