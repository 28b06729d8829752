/-!
# Caches

A cache keeps values under keys, at most as many as its capacity says: the key that was not touched for
the longest time makes room for a new one.  A key is touched when a value is put under it and when its
value is found.  A cache without capacity keeps nothing.
-/

namespace Collocation

/-- Values under keys in the order of their last touch. -/
structure Cache (κ α : Type) where
  /-- How many values are kept. -/
  capacity : Nat
  /-- The keys with their values, the one touched last in front. -/
  recent : List (κ × α) := []
  /-- No key is listed twice. -/
  distinct : recent.Pairwise (fun left right => left.1 ≠ right.1) := by simp
  /-- The capacity is kept. -/
  bounded : recent.length ≤ capacity := by simp
  /-- How often a value was found. -/
  hits : UInt64 := 0
  /-- How often none was found. -/
  misses : UInt64 := 0

namespace Cache

variable {κ α : Type}

/-- A cache that keeps nothing yet. -/
def empty (capacity : Nat) : Cache κ α :=
  { capacity }

/-- The number of values. -/
def size (cache : Cache κ α) : Nat :=
  cache.recent.length

/-- The keys with their values, the one touched last at the end. -/
def entries (cache : Cache κ α) : List (κ × α) :=
  cache.recent.reverse

variable [DecidableEq κ]

/-- The value under a key, the cache being left as it is. -/
def peek? (cache : Cache κ α) (key : κ) : Option α :=
  (cache.recent.find? fun entry => entry.1 = key).map Prod.snd

/-- Put a value under a key. -/
def insert (cache : Cache κ α) (key : κ) (value : α) : Cache κ α where
  capacity := cache.capacity
  recent := ((key, value) :: cache.recent.filter fun entry => entry.1 ≠ key).take cache.capacity
  distinct := by
    refine List.Pairwise.sublist (List.take_sublist ..) (List.pairwise_cons.mpr ⟨?_, ?_⟩)
    · intro entry member
      exact fun same => (of_decide_eq_true (List.mem_filter.mp member).2) same.symm
    · exact cache.distinct.sublist List.filter_sublist
  bounded := List.length_take_le ..
  hits := cache.hits
  misses := cache.misses

/-- A lookup found a value. -/
def hit (cache : Cache κ α) : Cache κ α :=
  { cache with hits := cache.hits + 1 }

/-- A lookup found none. -/
def miss (cache : Cache κ α) : Cache κ α :=
  { cache with misses := cache.misses + 1 }

/-- Look up a key.  Without capacity there is no lookup to count. -/
def get (cache : Cache κ α) (key : κ) : Option α × Cache κ α :=
  if cache.capacity = 0 then (none, cache)
  else
    match cache.peek? key with
    | some value => (some value, (cache.insert key value).hit)
    | none => (none, cache.miss)

/-- Look up a key, and make and keep a value if there is none. -/
def getOrMake (cache : Cache κ α) (key : κ) (make : Unit → α) : α × Cache κ α :=
  match cache.peek? key with
  | some value => (value, (cache.insert key value).hit)
  | none =>
      let value := make ()
      (value, cache.miss.insert key value)

/-- Put values under keys one after another. -/
def warm (cache : Cache κ α) (entries : List (κ × α)) : Cache κ α :=
  entries.foldl (fun cache entry => cache.insert entry.1 entry.2) cache

/-! ## What is kept -/

@[simp]
theorem capacity_insert (cache : Cache κ α) (key : κ) (value : α) :
    (cache.insert key value).capacity = cache.capacity :=
  rfl

@[simp]
theorem capacity_get (cache : Cache κ α) (key : κ) :
    (cache.get key).2.capacity = cache.capacity := by
  unfold get
  split
  · rfl
  · split <;> rfl

@[simp]
theorem capacity_getOrMake (cache : Cache κ α) (key : κ) (make : Unit → α) :
    (cache.getOrMake key make).2.capacity = cache.capacity := by
  unfold getOrMake
  split <;> rfl

@[simp]
theorem capacity_warm (cache : Cache κ α) (entries : List (κ × α)) :
    (cache.warm entries).capacity = cache.capacity := by
  induction entries generalizing cache with
  | nil => rfl
  | cons entry entries ih => exact ih (cache.insert entry.1 entry.2)

/-- A value that was just put under a key is found, unless nothing is kept at all. -/
theorem peek?_insert_self (cache : Cache κ α) (key : κ) (value : α)
    (positive : 0 < cache.capacity) : (cache.insert key value).peek? key = some value := by
  obtain ⟨room, capacity⟩ := Nat.exists_eq_succ_of_ne_zero (Nat.ne_of_gt positive)
  simp [peek?, insert, capacity]

/-- Nothing is found in a cache without capacity. -/
theorem peek?_eq_none_of_capacity_eq_zero (cache : Cache κ α) (key : κ)
    (nothing : cache.capacity = 0) : cache.peek? key = none := by
  have empty : cache.recent = [] :=
    List.eq_nil_of_length_eq_zero (Nat.le_zero.mp (nothing ▸ cache.bounded))
  simp [peek?, empty]

/-- Whatever is made or found, it is what the key had or what is made for it. -/
theorem fst_getOrMake (cache : Cache κ α) (key : κ) (make : Unit → α) :
    (cache.getOrMake key make).1 = (cache.peek? key).getD (make ()) := by
  unfold getOrMake
  split <;> simp_all

end Cache
end Collocation
