import Collocation.Cache

/-!
# Entries of a cache

A cache has no entries but those that were put into it.  So what holds of all entries is kept by whatever is
done with the cache, as long as it holds of every value that is put under a key.
-/

namespace Collocation
namespace Cache

variable {κ α : Type} {property : κ → α → Prop} {cache : Cache κ α}

/-- Every key has a property with its value. -/
def Every (property : κ → α → Prop) (cache : Cache κ α) : Prop :=
  ∀ entry ∈ cache.recent, property entry.1 entry.2

theorem every_empty (capacity : Nat) : (empty capacity : Cache κ α).Every property :=
  fun _ member => absurd member List.not_mem_nil

theorem Every.hit (every : cache.Every property) : cache.hit.Every property :=
  every

theorem Every.miss (every : cache.Every property) : cache.miss.Every property :=
  every

variable [DecidableEq κ] {key : κ} {value : α}

theorem recent_insert (cache : Cache κ α) (key : κ) (value : α) :
    (cache.insert key value).recent =
      ((key, value) :: cache.recent.filter fun entry => entry.1 ≠ key).take cache.capacity :=
  rfl

theorem Every.of_peek? (every : cache.Every property) (found : cache.peek? key = some value) :
    property key value := by
  obtain ⟨entry, known, rfl⟩ := Option.map_eq_some_iff.mp found
  have same : entry.1 = key := by simpa using List.find?_some known
  rw [← same]
  exact every entry (List.mem_of_find?_eq_some known)

/-- A new entry may drive out others, but brings in no other. -/
theorem Every.insert (every : cache.Every property) (new : property key value) :
    (cache.insert key value).Every property := by
  intro entry member
  rcases List.mem_cons.mp (List.mem_of_mem_take member) with rfl | old
  · exact new
  · exact every entry (List.mem_filter.mp old).1

theorem Every.warm (every : cache.Every property) {entries : List (κ × α)}
    (new : ∀ entry ∈ entries, property entry.1 entry.2) : (cache.warm entries).Every property := by
  induction entries generalizing cache with
  | nil => exact every
  | cons entry entries induction =>
      exact induction (every.insert (new entry List.mem_cons_self))
        fun other member => new other (List.mem_cons_of_mem entry member)

/-! ## Lookups -/

/-- Look up a key, every lookup being counted. -/
def lookUp (cache : Cache κ α) (key : κ) : Option α × Cache κ α :=
  match cache.peek? key with
  | some value => (some value, (cache.insert key value).hit)
  | none => (none, cache.miss)

/-- With some capacity it is the usual lookup. -/
theorem lookUp_eq_get (positive : cache.capacity ≠ 0) : cache.lookUp key = cache.get key := by
  cases found : cache.peek? key <;> simp [get, lookUp, positive, found]

/-- A value that was not found is made after the lookup, and kept by a step of its own. -/
theorem getOrMake_eq_lookUp (make : Unit → α) :
    cache.getOrMake key make =
      match cache.lookUp key with
      | (some value, touched) => (value, touched)
      | (none, touched) => (make (), touched.insert key (make ())) := by
  unfold getOrMake lookUp
  cases cache.peek? key <;> rfl

/-- A lookup finds nothing but entries, and leaves no others behind. -/
theorem Every.lookUp (every : cache.Every property) (key : κ) :
    (∀ value ∈ (cache.lookUp key).1, property key value) ∧ (cache.lookUp key).2.Every property := by
  rw [Cache.lookUp]
  cases found : cache.peek? key with
  | none => exact ⟨fun value known => absurd known (Option.not_mem_none value), every.miss⟩
  | some value =>
      have known := every.of_peek? found
      refine ⟨fun other same => ?_, (every.insert known).hit⟩
      rwa [← Option.mem_some.mp same]

end Cache
end Collocation
