import Collocation.Proofs.Cache.Recency

/-!
# Warming a cache

The entries of a cache can be put into a new one.  As many of them are kept as its capacity allows, those that were
touched last, and in the same order.  As long as only keys are looked up that are there, the values stay the same
and there is no miss.
-/

namespace Collocation
namespace Cache

variable {κ α : Type} [DecidableEq κ] {cache left right : Cache κ α} {key : κ} {value : α}

/-- Entries for new keys are put in front of what is there. -/
theorem recent_warm {entries : List (κ × α)} (distinct : ((entries ++ cache.recent).map Prod.fst).Nodup) :
    (cache.warm entries).recent = (entries.reverse ++ cache.recent).take cache.capacity := by
  induction entries generalizing cache with
  | nil => exact (List.take_of_length_le cache.bounded).symm
  | cons entry entries induction =>
      rw [List.cons_append, List.map_cons, List.nodup_cons] at distinct
      have new : ∀ other ∈ cache.recent, other.1 ≠ entry.1 := fun other member same =>
        distinct.1 (List.mem_map.mpr ⟨other, List.mem_append_right _ member, same⟩)
      have inserted : (cache.insert entry.1 entry.2).recent = (entry :: cache.recent).take cache.capacity := by
        have kept : cache.recent.filter (fun other => other.1 ≠ entry.1) = cache.recent :=
          List.filter_eq_self.mpr fun other member => decide_eq_true (new other member)
        rw [recent_insert, kept]
      have moved : ((entries ++ entry :: cache.recent).map Prod.fst).Nodup := by
        refine (List.perm_middle.map Prod.fst).nodup_iff.mpr ?_
        exact List.nodup_cons.mpr distinct
      have shorter := ((List.take_sublist cache.capacity (entry :: cache.recent)).append_left entries).map Prod.fst
      have next := @induction (cache.insert entry.1 entry.2)
        (by rw [inserted]; exact moved.sublist shorter)
      rw [capacity_insert, inserted] at next
      rw [warm, List.foldl_cons, ← warm, next, List.reverse_cons, List.append_assoc, List.take_append,
        List.take_append, List.take_take, Nat.min_eq_left (Nat.sub_le _ _)]
      rfl

/-- A new cache that is warmed with the entries of another one keeps the last of them, as many as its capacity allows. -/
theorem entries_warm_entries (cache : Cache κ α) (capacity : Nat) :
    ((empty capacity : Cache κ α).warm cache.entries).entries =
      cache.entries.drop (cache.entries.length - capacity) := by
  have distinct : ((cache.entries ++ (empty capacity : Cache κ α).recent).map Prod.fst).Nodup := by
    rw [empty, List.append_nil, entries, List.map_reverse]
    exact List.nodup_reverse.mpr cache.nodup_keys
  rw [entries, recent_warm distinct, entries, List.reverse_reverse, empty, List.append_nil, List.reverse_take,
    List.length_reverse]

/-- As much is kept as there is, up to the capacity. -/
theorem length_entries_warm (cache : Cache κ α) (capacity : Nat) :
    ((empty capacity : Cache κ α).warm cache.entries).entries.length = min cache.entries.length capacity := by
  rw [entries_warm_entries, List.length_drop]
  omega

/-! ## Lookups of what is there -/

/-- An entry that is found is moved to the front, and none is driven out. -/
theorem perm_recent_insert (found : cache.peek? key = some value) :
    (cache.insert key value).recent.Perm cache.recent := by
  have member := peek?_eq_some_iff.mp found
  have front : ((key, value) :: cache.recent.filter fun entry => entry.1 ≠ key).Perm cache.recent := by
    refine (List.perm_ext_iff_of_nodup ?_ cache.nodup_keys.of_map).mpr fun entry => ?_
    · refine List.nodup_cons.mpr ⟨by simp, ?_⟩
      exact cache.nodup_keys.of_map.sublist List.filter_sublist
    · rw [List.mem_cons, List.mem_filter, decide_eq_true_eq]
      constructor
      · rintro (rfl | ⟨listed, -⟩)
        · exact member
        · exact listed
      · intro listed
        by_cases same : entry.1 = key
        · exact Or.inl (List.inj_on_of_nodup_map cache.nodup_keys listed member same)
        · exact Or.inr ⟨listed, same⟩
  rw [recent_insert, List.take_of_length_le (front.length_eq ▸ cache.bounded)]
  exact front

theorem peek?_insert_of_found (found : cache.peek? key = some value) (other : κ) :
    (cache.insert key value).peek? other = cache.peek? other := by
  refine Option.ext fun known => ?_
  rw [peek?_eq_some_iff, peek?_eq_some_iff, (perm_recent_insert found).mem_iff]

/-- A value that is there is found, nothing is made, and every key keeps its value. -/
theorem getOrMake_of_found (found : cache.peek? key = some value) (make : Unit → α) :
    (∀ other, (cache.getOrMake key make).2.peek? other = cache.peek? other) ∧
      (cache.getOrMake key make).2.misses = cache.misses := by
  rw [Cache.getOrMake, found]
  exact ⟨peek?_insert_of_found found, rfl⟩

/-! ## Caches that keep the same -/

/-- Two caches have room for as much and keep the same in the same order, whatever they counted. -/
structure Alike (left right : Cache κ α) : Prop where
  capacity : left.capacity = right.capacity
  recent : left.recent = right.recent

theorem Alike.insert (alike : left.Alike right) (key : κ) (value : α) :
    (left.insert key value).Alike (right.insert key value) :=
  ⟨alike.capacity, by rw [recent_insert, recent_insert, alike.capacity, alike.recent]⟩

theorem Alike.peek? (alike : left.Alike right) (key : κ) : left.peek? key = right.peek? key := by
  rw [Cache.peek?, Cache.peek?, alike.recent]

theorem Alike.getOrMake (alike : left.Alike right) (key : κ) (make : Unit → α) :
    (left.getOrMake key make).1 = (right.getOrMake key make).1 ∧
      (left.getOrMake key make).2.Alike (right.getOrMake key make).2 := by
  rw [Cache.getOrMake, Cache.getOrMake, alike.peek? key]
  cases right.peek? key with
  | none =>
      have missed : left.miss.Alike right.miss := ⟨alike.capacity, alike.recent⟩
      exact ⟨rfl, missed.insert key (make ())⟩
  | some value =>
      obtain ⟨capacity, recent⟩ := alike.insert key value
      exact ⟨rfl, capacity, recent⟩

/-- A cache that is warmed with the entries of one that has no more room is like it. -/
theorem alike_warm_entries (cache : Cache κ α) : ((empty cache.capacity).warm cache.entries).Alike cache := by
  refine ⟨capacity_warm _ _, List.reverse_injective ?_⟩
  have whole : cache.entries.length ≤ cache.capacity := by
    rw [entries, List.length_reverse]
    exact cache.bounded
  have restored := entries_warm_entries cache cache.capacity
  rw [Nat.sub_eq_zero_of_le whole, List.drop_zero] at restored
  exact restored

end Cache
end Collocation
