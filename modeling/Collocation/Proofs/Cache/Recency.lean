import Collocation.Proofs.Cache.Entries
import Mathlib.Data.Finset.Card

/-!
# The least recently used key makes room

The log of a cache lists every touch of a key, put or found.  What a cache keeps can be read off its log: the keys
touched last, as many as its capacity says, each with the value that was last put under it.  So a key is found
exactly if it was put and fewer other keys than the capacity were touched since.
-/

namespace Collocation

/-! ## Lists -/

section Lists

variable {κ : Type} [DecidableEq κ] {key : κ}

theorem mem_take_iff (list : List κ) (count : Nat) :
    key ∈ list.take count ↔ key ∈ list ∧ (list.takeWhile (· ≠ key)).length < count := by
  induction list generalizing count with
  | nil => simp
  | cons first rest induction =>
      cases count with
      | zero => simp
      | succ count =>
          by_cases same : first = key
          · simp [same]
          · simp [same, Ne.symm same, induction count]

theorem takeWhile_filter (accepts : κ → Bool) (accepted : accepts key = true) (list : List κ) :
    (list.filter accepts).takeWhile (· ≠ key) = (list.takeWhile (· ≠ key)).filter accepts := by
  induction list with
  | nil => rfl
  | cons first rest induction =>
      by_cases same : first = key
      · simp [same, accepted]
      · rw [List.takeWhile_cons_of_pos (by simpa using same), List.filter_cons, List.filter_cons]
        split
        · rw [List.takeWhile_cons_of_pos (by simpa using same), induction]
        · exact induction

theorem take_filter_take {list : List κ} (distinct : list.Nodup) (count : Nat) :
    ((list.take (count + 1)).filter (· ≠ key)).take count = (list.filter (· ≠ key)).take count := by
  induction list generalizing count with
  | nil => rfl
  | cons first rest induction =>
      obtain ⟨absent, others⟩ := List.nodup_cons.mp distinct
      by_cases same : first = key
      · subst same
        have whole (part : List κ) (within : ∀ other ∈ part, other ∈ rest) :
            part.filter (· ≠ first) = part :=
          List.filter_eq_self.mpr fun other member => decide_eq_true fun equal =>
            absent (equal ▸ within other member)
        simp only [List.take_succ_cons, ne_eq, not_true_eq_false, decide_false, Bool.false_eq_true,
          not_false_eq_true, List.filter_cons_of_neg]
        rw [whole _ fun _ => List.mem_of_mem_take, whole _ fun _ => id, List.take_take, Nat.min_self]
      · cases count with
        | zero => rfl
        | succ count => simpa [same] using induction others count

end Lists

namespace Cache

/-! ## Requests and touches -/

/-- What may be asked of a cache. -/
inductive Request (κ α : Type) where
  /-- Put a value under a key. -/
  | insert (key : κ) (value : α)
  /-- Look up a key. -/
  | get (key : κ)
  /-- Look up a key, and make a value if there is none. -/
  | getOrMake (key : κ) (make : Unit → α)
  /-- Put values under keys one after another. -/
  | warm (entries : List (κ × α))

/-- A touch of a key. -/
inductive Touch (κ α : Type) where
  /-- A value was put under the key. -/
  | put (key : κ) (value : α)
  /-- The key was found. -/
  | found (key : κ)

variable {κ α : Type}

/-- The key that was touched. -/
def Touch.key : Touch κ α → κ
  | put key _ => key
  | found key => key

/-- Whether a request is a lookup. -/
def Request.isLookup : Request κ α → Bool
  | get _ | getOrMake _ _ => true
  | insert _ _ | warm _ => false

/-- Whether a request makes a value if there is none. -/
def Request.isMaking : Request κ α → Bool
  | getOrMake _ _ => true
  | get _ | insert _ _ | warm _ => false

/-- The touches so far, the last one in front. -/
abbrev Log (κ α : Type) :=
  List (Touch κ α)

variable [DecidableEq κ]

namespace Log

/-- The keys that were touched since the last touch of a key. -/
def since (log : Log κ α) (key : κ) : List κ :=
  (log.map Touch.key).takeWhile (· ≠ key)

/-- The keys under which values were put. -/
def inserted : Log κ α → List κ
  | [] => []
  | .put key _ :: log => key :: inserted log
  | .found _ :: log => inserted log

/-- The value that was last put under a key. -/
def lastValue? (log : Log κ α) (key : κ) : Option α :=
  match log with
  | [] => none
  | .put other value :: log => if other = key then some value else lastValue? log key
  | .found _ :: log => lastValue? log key

/-- What a lookup has to find: the last value of the key, if fewer other keys than the capacity were touched since
the last touch of the key. -/
def recalled? (capacity : Nat) (log : Log κ α) (key : κ) : Option α :=
  if (log.since key).toFinset.card < capacity then log.lastValue? key else none

/-- Whether a request is a lookup that has to find something. -/
def isAnswered (capacity : Nat) (log : Log κ α) : Request κ α → Bool
  | .get key | .getOrMake key _ => (log.recalled? capacity key).isSome
  | .insert _ _ | .warm _ => false

/-- The log after a request. -/
def after (capacity : Nat) (log : Log κ α) : Request κ α → Log κ α
  | .insert key value => .put key value :: log
  | .get key => if (log.recalled? capacity key).isSome then .found key :: log else log
  | .getOrMake key make =>
      if (log.recalled? capacity key).isSome then .found key :: log else .put key (make ()) :: log
  | .warm entries => entries.foldl (fun log entry => .put entry.1 entry.2 :: log) log

/-- The log after requests one after another. -/
def afterAll (capacity : Nat) (log : Log κ α) (requests : List (Request κ α)) : Log κ α :=
  requests.foldl (after capacity) log

/-- How many of some requests are lookups that have to find something. -/
def answered (capacity : Nat) : Log κ α → List (Request κ α) → Nat
  | _, [] => 0
  | log, request :: requests =>
      (log.isAnswered capacity request).toNat + answered capacity (log.after capacity request) requests

end Log

/-- The cache after a request. -/
def after (cache : Cache κ α) : Request κ α → Cache κ α
  | .insert key value => cache.insert key value
  | .get key => (cache.get key).2
  | .getOrMake key make => (cache.getOrMake key make).2
  | .warm entries => cache.warm entries

/-- The cache after requests one after another. -/
def afterAll (cache : Cache κ α) (requests : List (Request κ α)) : Cache κ α :=
  requests.foldl after cache

/-! ## Recency -/

namespace Log

variable {log : Log κ α} {key : κ} {value : α} {touch : Touch κ α}

/-- The keys in the order of their last touch, the one touched last in front. -/
def recency : Log κ α → List κ
  | [] => []
  | touch :: log => touch.key :: (recency log).filter (· ≠ touch.key)

theorem mem_recency_iff : key ∈ recency log ↔ key ∈ log.map Touch.key := by
  induction log with
  | nil => exact Iff.rfl
  | cons touch log induction =>
      by_cases same : key = touch.key <;> simp [recency, same, induction]

theorem nodup_recency (log : Log κ α) : (recency log).Nodup := by
  induction log with
  | nil => exact List.nodup_nil
  | cons touch log induction =>
      exact List.nodup_cons.mpr ⟨by simp, induction.sublist List.filter_sublist⟩

theorem since_cons_of_ne (apart : touch.key ≠ key) : since (touch :: log) key = touch.key :: since log key := by
  simp [since, apart]

theorem toFinset_takeWhile_recency (log : Log κ α) (key : κ) :
    ((recency log).takeWhile (· ≠ key)).toFinset = (log.since key).toFinset := by
  induction log with
  | nil => rfl
  | cons touch log induction =>
      by_cases same : touch.key = key
      · simp [recency, since, same]
      · have others := takeWhile_filter (· ≠ touch.key) (decide_eq_true (Ne.symm same)) (recency log)
        rw [recency, List.takeWhile_cons_of_pos (by simpa using same), others, since_cons_of_ne same,
          List.toFinset_cons, List.toFinset_cons, List.toFinset_filter, induction]
        ext other
        by_cases touched : other = touch.key <;> simp [touched]

theorem mem_take_recency_iff (capacity : Nat) :
    key ∈ (recency log).take capacity ↔
      key ∈ log.map Touch.key ∧ (log.since key).toFinset.card < capacity := by
  have nodup := (nodup_recency log).sublist (List.takeWhile_sublist (· ≠ key))
  rw [mem_take_iff, mem_recency_iff, ← toFinset_takeWhile_recency, List.toFinset_card_of_nodup nodup]

/-- A key is in front of those that were touched earlier. -/
theorem pairwise_recency (log : Log κ α) :
    (recency log).Pairwise fun newer older => (since log newer).length < (since log older).length := by
  induction log with
  | nil => exact .nil
  | cons touch log induction =>
      have later : ∀ key ∈ (recency log).filter (· ≠ touch.key),
          (since (touch :: log) key).length = (since log key).length + 1 := by
        intro key member
        have apart : key ≠ touch.key := by simpa using (List.mem_filter.mp member).2
        rw [since_cons_of_ne apart.symm, List.length_cons]
      refine List.pairwise_cons.mpr ⟨fun key member => ?_, ?_⟩
      · rw [later key member]
        simp [since]
      · refine List.Pairwise.imp_of_mem ?_ (induction.sublist List.filter_sublist)
        intro newer older member other less
        rw [later newer member, later older other]
        exact Nat.succ_lt_succ less

theorem answered_zero (log : Log κ α) (requests : List (Request κ α)) : answered 0 log requests = 0 := by
  induction requests generalizing log with
  | nil => rfl
  | cons request requests induction =>
      have nothing : isAnswered 0 log request = false := by
        cases request <;> simp [isAnswered, recalled?]
      rw [answered, nothing, induction]
      rfl

theorem answered_le (capacity : Nat) (log : Log κ α) (requests : List (Request κ α)) :
    answered capacity log requests ≤ requests.countP Request.isLookup := by
  induction requests generalizing log with
  | nil => exact Nat.le_refl _
  | cons request requests induction =>
      have one : (isAnswered capacity log request).toNat ≤ if request.isLookup = true then 1 else 0 := by
        cases request <;> simp [isAnswered, Request.isLookup, Bool.toNat_le]
      rw [answered, List.countP_cons, Nat.add_comm]
      exact Nat.add_le_add (induction _) one

omit [DecidableEq κ] in
theorem mem_map_key_of_mem_inserted (put : key ∈ inserted log) : key ∈ log.map Touch.key := by
  induction log with
  | nil => exact put
  | cons touch log induction =>
      cases touch with
      | found other => exact List.mem_cons_of_mem _ (induction put)
      | put other value =>
          rcases List.mem_cons.mp put with rfl | early
          · exact List.mem_cons_self
          · exact List.mem_cons_of_mem _ (induction early)

theorem mem_inserted_iff : key ∈ inserted log ↔ (lastValue? log key).isSome := by
  induction log with
  | nil => simp [inserted, lastValue?]
  | cons touch log induction =>
      cases touch with
      | found other => exact induction
      | put other value =>
          by_cases same : other = key
          · simp [inserted, lastValue?, same]
          · simp [inserted, lastValue?, same, Ne.symm same, induction]

end Log

/-! ## A cache and its log -/

variable {cache : Cache κ α} {log : Log κ α} {key : κ} {value : α} {touch : Touch κ α}

omit [DecidableEq κ] in
theorem nodup_keys (cache : Cache κ α) : (cache.recent.map Prod.fst).Nodup :=
  List.pairwise_map.mpr cache.distinct

/-- The value that is found under a key is the one that is kept with it. -/
theorem peek?_eq_some_iff : cache.peek? key = some value ↔ (key, value) ∈ cache.recent := by
  have kept {found : α} (known : cache.peek? key = some found) : (key, found) ∈ cache.recent := by
    obtain ⟨entry, listed, rfl⟩ := Option.map_eq_some_iff.mp known
    have same : entry.1 = key := by simpa using List.find?_some listed
    exact same ▸ List.mem_of_find?_eq_some listed
  refine ⟨kept, fun member => ?_⟩
  cases found : cache.peek? key with
  | none =>
      rw [peek?, Option.map_eq_none_iff, List.find?_eq_none] at found
      exact absurd (decide_eq_true rfl) (found (key, value) member)
  | some other =>
      have same := List.inj_on_of_nodup_map cache.nodup_keys (kept found) member rfl
      rw [(Prod.mk.inj same).2]

/-- A cache keeps the keys that were touched last, each with its last value, and every key that was touched was put. -/
structure Follows (cache : Cache κ α) (log : Log κ α) : Prop where
  keys : cache.recent.map Prod.fst = (Log.recency log).take cache.capacity
  values : ∀ entry ∈ cache.recent, Log.lastValue? log entry.1 = some entry.2
  known : ∀ touch ∈ log, touch.key ∈ Log.inserted log

theorem follows_empty (capacity : Nat) : (empty capacity : Cache κ α).Follows [] :=
  ⟨List.take_nil.symm, fun _ member => absurd member List.not_mem_nil, fun _ member => absurd member List.not_mem_nil⟩

theorem Follows.mem_keys_iff (follows : cache.Follows log) :
    key ∈ cache.recent.map Prod.fst ↔
      key ∈ Log.inserted log ∧ (Log.since log key).toFinset.card < cache.capacity := by
  rw [follows.keys, Log.mem_take_recency_iff]
  refine and_congr_left fun _ => ⟨fun touched => ?_, Log.mem_map_key_of_mem_inserted⟩
  obtain ⟨touch, member, rfl⟩ := List.mem_map.mp touched
  exact follows.known touch member

theorem Follows.peek?_eq (follows : cache.Follows log) (key : κ) :
    cache.peek? key = Log.recalled? cache.capacity log key := by
  cases found : cache.peek? key with
  | some value =>
      have member := peek?_eq_some_iff.mp found
      have few := (follows.mem_keys_iff.mp (List.mem_map_of_mem (f := Prod.fst) member)).2
      rw [Log.recalled?, if_pos few, follows.values _ member]
  | none =>
      rw [Log.recalled?]
      split
      · next few =>
          cases last : Log.lastValue? log key with
          | none => rfl
          | some value =>
              have put : key ∈ Log.inserted log := Log.mem_inserted_iff.mpr (by rw [last]; rfl)
              obtain ⟨entry, member, rfl⟩ := List.mem_map.mp (follows.mem_keys_iff.mpr ⟨put, few⟩)
              rw [peek?_eq_some_iff.mpr member] at found
              cases found
      · rfl

/-- A touch puts its key in front, with the value that is then its last. -/
theorem Follows.touched (follows : cache.Follows log) (touch : Touch κ α) (known : touch.key ∈ Log.inserted (touch :: log))
    (here : Log.lastValue? (touch :: log) touch.key = some value)
    (elsewhere : ∀ other ≠ touch.key, Log.lastValue? (touch :: log) other = Log.lastValue? log other)
    (longer : ∀ other ∈ Log.inserted log, other ∈ Log.inserted (touch :: log)) :
    (cache.insert touch.key value).Follows (touch :: log) where
  keys := by
    have others : (cache.recent.filter fun entry => entry.1 ≠ touch.key).map Prod.fst =
        (cache.recent.map Prod.fst).filter (· ≠ touch.key) := by
      rw [List.filter_map]
      rfl
    rw [recent_insert, List.map_take, List.map_cons, others, follows.keys, Log.recency, capacity_insert]
    cases cache.capacity with
    | zero => rw [List.take_zero, List.take_zero]
    | succ room => rw [List.take_succ_cons, List.take_succ_cons, take_filter_take (Log.nodup_recency log)]
  values := by
    intro entry member
    rcases List.mem_cons.mp (List.mem_of_mem_take member) with rfl | old
    · exact here
    · obtain ⟨listed, apart⟩ := List.mem_filter.mp old
      rw [elsewhere entry.1 (of_decide_eq_true apart), follows.values entry listed]
  known := by
    intro other member
    rcases List.mem_cons.mp member with rfl | early
    · exact known
    · exact longer _ (follows.known other early)

theorem Follows.put (follows : cache.Follows log) (key : κ) (value : α) :
    (cache.insert key value).Follows (.put key value :: log) :=
  follows.touched (.put key value) List.mem_cons_self (by simp [Log.lastValue?, Touch.key])
    (fun other apart => if_neg (Ne.symm apart))
    fun _ member => List.mem_cons_of_mem _ member

theorem Follows.found (follows : cache.Follows log) (known : cache.peek? key = some value) :
    (cache.insert key value).hit.Follows (.found key :: log) := by
  have last := follows.values _ (peek?_eq_some_iff.mp known)
  have put : key ∈ Log.inserted log := Log.mem_inserted_iff.mpr (by rw [last]; rfl)
  obtain ⟨keys, values, known⟩ := follows.touched (.found key) put last (fun _ _ => rfl) fun _ => id
  exact ⟨keys, values, known⟩

theorem Follows.miss (follows : cache.Follows log) : cache.miss.Follows log :=
  ⟨follows.keys, follows.values, follows.known⟩

theorem Follows.warm (follows : cache.Follows log) (entries : List (κ × α)) :
    (cache.warm entries).Follows (Log.after cache.capacity log (.warm entries)) := by
  induction entries generalizing cache log with
  | nil => exact follows
  | cons entry entries induction => exact induction (follows.put entry.1 entry.2)

theorem Follows.getOrMake (follows : cache.Follows log) (key : κ) (make : Unit → α) :
    (cache.getOrMake key make).2.Follows (Log.after cache.capacity log (.getOrMake key make)) := by
  rw [Log.after, ← follows.peek?_eq, Cache.getOrMake]
  cases found : cache.peek? key with
  | none => exact follows.miss.put key (make ())
  | some value => exact follows.found found

theorem Follows.get (follows : cache.Follows log) (key : κ) :
    (cache.get key).2.Follows (Log.after cache.capacity log (.get key)) := by
  rw [Log.after, ← follows.peek?_eq, Cache.get]
  by_cases nothing : cache.capacity = 0
  · rw [if_pos nothing, peek?_eq_none_of_capacity_eq_zero cache key nothing]
    exact follows
  · rw [if_neg nothing]
    cases found : cache.peek? key with
    | none => exact follows.miss
    | some value => exact follows.found found

/-- A cache and its log stay together whatever is asked. -/
theorem Follows.after (follows : cache.Follows log) (request : Request κ α) :
    (cache.after request).Follows (Log.after cache.capacity log request) := by
  cases request with
  | insert key value => exact follows.put key value
  | get key => exact follows.get key
  | getOrMake key make => exact follows.getOrMake key make
  | warm entries => exact follows.warm entries

@[simp]
theorem capacity_after (cache : Cache κ α) (request : Request κ α) : (cache.after request).capacity = cache.capacity := by
  cases request with
  | insert key value => rfl
  | get key => exact capacity_get cache key
  | getOrMake key make => exact capacity_getOrMake cache key make
  | warm entries => exact capacity_warm cache entries

theorem Follows.afterAll (follows : cache.Follows log) (requests : List (Request κ α)) :
    (cache.afterAll requests).Follows (Log.afterAll cache.capacity log requests) := by
  induction requests generalizing cache log with
  | nil => exact follows
  | cons request requests induction =>
      have next := induction (follows.after request)
      rwa [capacity_after] at next

@[simp]
theorem capacity_afterAll (cache : Cache κ α) (requests : List (Request κ α)) :
    (cache.afterAll requests).capacity = cache.capacity := by
  induction requests generalizing cache with
  | nil => rfl
  | cons request requests induction => exact (induction _).trans (capacity_after cache request)

/-! ## Counters and entries -/

theorem counters_warm (cache : Cache κ α) (entries : List (κ × α)) :
    (cache.warm entries).hits = cache.hits ∧ (cache.warm entries).misses = cache.misses := by
  induction entries generalizing cache with
  | nil => exact ⟨rfl, rfl⟩
  | cons entry entries induction => exact induction (cache.insert entry.1 entry.2)

theorem Follows.hits_after (follows : cache.Follows log) (request : Request κ α) :
    (cache.after request).hits = cache.hits + .ofNat (Log.isAnswered cache.capacity log request).toNat := by
  cases request with
  | insert key value => exact (UInt64.add_zero _).symm
  | warm entries => exact (counters_warm cache entries).1.trans (UInt64.add_zero _).symm
  | getOrMake key make =>
      rw [Log.isAnswered, ← follows.peek?_eq, Cache.after, Cache.getOrMake]
      cases cache.peek? key with
      | none => exact (UInt64.add_zero _).symm
      | some value => rfl
  | get key =>
      rw [Log.isAnswered, ← follows.peek?_eq, Cache.after, Cache.get]
      by_cases nothing : cache.capacity = 0
      · rw [if_pos nothing, peek?_eq_none_of_capacity_eq_zero cache key nothing]
        exact (UInt64.add_zero _).symm
      · rw [if_neg nothing]
        cases cache.peek? key with
        | none => exact (UInt64.add_zero _).symm
        | some value => rfl

/-- Every lookup is a hit or a miss, but without capacity only those count that make what they do not find. -/
theorem counters_after (cache : Cache κ α) (request : Request κ α) :
    (cache.after request).hits + (cache.after request).misses =
      cache.hits + cache.misses +
        .ofNat (if cache.capacity = 0 then request.isMaking else request.isLookup).toNat := by
  cases request with
  | insert key value => simp [after, insert, Request.isMaking, Request.isLookup]
  | warm entries => simp [after, counters_warm, Request.isMaking, Request.isLookup]
  | getOrMake key make =>
      simp only [after, Cache.getOrMake, Request.isMaking, Request.isLookup, ite_self, Bool.toNat_true]
      cases cache.peek? key <;> simp only [insert, hit, miss, UInt64.ofNat_one] <;> ac_rfl
  | get key =>
      by_cases nothing : cache.capacity = 0
      · simp [after, Cache.get, nothing, Request.isMaking]
      · simp only [after, Cache.get, nothing, if_false, Request.isLookup, Bool.toNat_true]
        cases cache.peek? key <;> simp only [insert, hit, miss, UInt64.ofNat_one] <;> ac_rfl

theorem Follows.hits_afterAll (follows : cache.Follows log) (requests : List (Request κ α)) :
    (cache.afterAll requests).hits = cache.hits + .ofNat (Log.answered cache.capacity log requests) := by
  induction requests generalizing cache log with
  | nil => exact (UInt64.add_zero _).symm
  | cons request requests induction =>
      have next := induction (follows.after request)
      rw [capacity_after, follows.hits_after] at next
      rw [Log.answered, UInt64.ofNat_add, ← UInt64.add_assoc]
      exact next

theorem counters_afterAll (cache : Cache κ α) (requests : List (Request κ α)) :
    (cache.afterAll requests).hits + (cache.afterAll requests).misses = cache.hits + cache.misses +
      .ofNat (requests.countP fun request =>
        if cache.capacity = 0 then request.isMaking else request.isLookup) := by
  induction requests generalizing cache with
  | nil => exact (UInt64.add_zero _).symm
  | cons request requests induction =>
      have next := induction (cache.after request)
      rw [capacity_after, counters_after] at next
      have once : ∀ flag : Bool, flag.toNat = if flag = true then 1 else 0 := by decide
      rw [once] at next
      rw [List.countP_cons, Nat.add_comm, UInt64.ofNat_add, ← UInt64.add_assoc]
      exact next

theorem toNat_counters {hits misses : UInt64} {lookups found : Nat} (looked : hits + misses = .ofNat lookups)
    (hit : hits = .ofNat found) (some_found : found ≤ lookups) (few : lookups < UInt64.size) :
    hits.toNat + misses.toNat = lookups ∧ hits.toNat = found := by
  have first : hits.toNat = found := by
    rw [hit, UInt64.toNat_ofNat_of_lt' (Nat.lt_of_le_of_lt some_found few)]
  have both : (hits.toNat + misses.toNat) % UInt64.size = lookups := by
    rw [← UInt64.toNat_ofNat_of_lt' few, ← looked]
    exact (UInt64.toNat_add hits misses).symm
  have fits : hits.toNat + misses.toNat < UInt64.size := by
    refine Nat.lt_of_not_le fun large => ?_
    have below := misses.toNat_lt_size
    rw [Nat.mod_eq_sub_mod large, Nat.mod_eq_of_lt (by omega)] at both
    omega
  exact ⟨(Nat.mod_eq_of_lt fits).symm.trans both, first⟩

/-- As many keys are kept as were put, unless these are more than the capacity. -/
theorem Follows.size_eq (follows : cache.Follows log) :
    cache.size = min cache.capacity (Log.inserted log).toFinset.card := by
  have same : (Log.recency log).toFinset = (Log.inserted log).toFinset := by
    ext key
    rw [List.mem_toFinset, List.mem_toFinset, Log.mem_recency_iff]
    refine ⟨fun touched => ?_, Log.mem_map_key_of_mem_inserted⟩
    obtain ⟨touch, member, rfl⟩ := List.mem_map.mp touched
    exact follows.known touch member
  rw [← same, List.toFinset_card_of_nodup (Log.nodup_recency log), ← List.length_take, ← follows.keys,
    List.length_map, size]

/-- The entries are what is recalled, the key touched last at the end. -/
theorem Follows.entries (follows : cache.Follows log) :
    (∀ key value, (key, value) ∈ cache.entries ↔ Log.recalled? cache.capacity log key = some value) ∧
      cache.entries.Pairwise fun older newer =>
        (Log.since log newer.1).length < (Log.since log older.1).length := by
  constructor
  · intro key value
    rw [Cache.entries, List.mem_reverse, ← peek?_eq_some_iff, follows.peek?_eq]
  · have ordered := (Log.pairwise_recency log).sublist (List.take_sublist cache.capacity _)
    rw [← follows.keys, List.pairwise_map] at ordered
    exact List.pairwise_reverse.mpr ordered

/-- A key is found if a value was put under it and fewer other keys than the capacity were touched since. -/
theorem Follows.isSome_peek?_iff (follows : cache.Follows log) :
    (cache.peek? key).isSome ↔
      key ∈ Log.inserted log ∧ (Log.since log key).toFinset.card < cache.capacity := by
  rw [← follows.mem_keys_iff, Option.isSome_iff_exists]
  constructor
  · rintro ⟨value, found⟩
    exact List.mem_map_of_mem (f := Prod.fst) (peek?_eq_some_iff.mp found)
  · intro listed
    obtain ⟨entry, member, rfl⟩ := List.mem_map.mp listed
    exact ⟨entry.2, peek?_eq_some_iff.mpr member⟩

theorem fst_get (positive : 0 < cache.capacity) (key : κ) : (cache.get key).1 = cache.peek? key := by
  rw [← lookUp_eq_get (Nat.ne_of_gt positive), lookUp]
  cases cache.peek? key <;> rfl

theorem getOrMake_of_get_eq_none (positive : 0 < cache.capacity) (make : Unit → α)
    (absent : (cache.get key).1 = none) :
    cache.getOrMake key make = (make (), (cache.get key).2.insert key (make ())) := by
  rw [getOrMake_eq_lookUp, lookUp_eq_get (Nat.ne_of_gt positive)]
  generalize cache.get key = looked at absent
  obtain ⟨found, later⟩ := looked
  cases absent
  rfl

theorem getOrMake_of_get_eq_some (positive : 0 < cache.capacity) (make : Unit → α)
    (found : (cache.get key).1 = some value) : cache.getOrMake key make = (value, (cache.get key).2) := by
  rw [getOrMake_eq_lookUp, lookUp_eq_get (Nat.ne_of_gt positive)]
  generalize cache.get key = looked at found
  obtain ⟨known, later⟩ := looked
  cases found
  rfl

theorem insert_of_capacity_eq_zero (cache : Cache κ α) (nothing : cache.capacity = 0) (key : κ) (value : α) :
    cache.insert key value = cache := by
  obtain ⟨capacity, recent, distinct, bounded, hits, misses⟩ := cache
  obtain rfl : capacity = 0 := nothing
  obtain rfl : recent = [] := List.eq_nil_of_length_eq_zero (Nat.le_zero.mp bounded)
  rfl

theorem get_of_capacity_eq_zero (nothing : cache.capacity = 0) (key : κ) : cache.get key = (none, cache) :=
  if_pos nothing

theorem getOrMake_of_capacity_eq_zero (nothing : cache.capacity = 0) (key : κ) (make : Unit → α) :
    cache.getOrMake key make = (make (), cache.miss) := by
  rw [Cache.getOrMake, peek?_eq_none_of_capacity_eq_zero cache key nothing]
  exact congrArg (Prod.mk (make ())) (insert_of_capacity_eq_zero cache.miss nothing key (make ()))

/-- Whatever was asked of a cache that was empty, a key is found exactly if a value was put under it and fewer other keys
than the capacity were touched since its last touch, and what is found is the value last put under it.  A value is made
exactly where none is found.  As many values are kept as keys were put, up to the capacity; every lookup is a hit or a
miss, and the hits are those that found something, both counted in words of 64 bits.  The entries are listed in the order of their last touch.  Without
capacity nothing is found or kept, and every value that is asked for is made and counts as one miss. -/
theorem answers_by_recency (capacity : Nat) (requests : List (Request κ α)) :
    let cache := (empty capacity : Cache κ α).afterAll requests
    let log : Log κ α := Log.afterAll capacity [] requests
    (0 < capacity →
      (∀ key, ((cache.get key).1.isSome ↔
            key ∈ Log.inserted log ∧ (Log.since log key).toFinset.card < capacity) ∧
          (∀ value, (cache.get key).1 = some value → Log.lastValue? log key = some value) ∧
          ∀ make,
            ((cache.get key).1 = none →
              cache.getOrMake key make = (make (), (cache.get key).2.insert key (make ()))) ∧
            ∀ value, (cache.get key).1 = some value → cache.getOrMake key make = (value, (cache.get key).2)) ∧
        cache.size = min capacity (Log.inserted log).toFinset.card ∧
        cache.hits + cache.misses = .ofNat (requests.countP Request.isLookup) ∧
        cache.hits = .ofNat (Log.answered capacity [] requests) ∧
        (requests.countP Request.isLookup < UInt64.size →
          cache.hits.toNat + cache.misses.toNat = requests.countP Request.isLookup ∧
            cache.hits.toNat = Log.answered capacity [] requests) ∧
        (∀ key value, (key, value) ∈ cache.entries ↔ Log.recalled? capacity log key = some value) ∧
        cache.entries.Pairwise fun older newer =>
          (Log.since log newer.1).length < (Log.since log older.1).length) ∧
    (capacity = 0 →
      (∀ key, cache.get key = (none, cache) ∧ ∀ make, cache.getOrMake key make = (make (), cache.miss)) ∧
        cache.entries = [] ∧ cache.size = 0 ∧ cache.hits = 0 ∧
        cache.misses = .ofNat (requests.countP Request.isMaking)) := by
  intro cache log
  have room : cache.capacity = capacity := capacity_afterAll _ _
  have follows : cache.Follows log := (follows_empty capacity).afterAll requests
  have hits : cache.hits = .ofNat (Log.answered capacity [] requests) :=
    ((follows_empty capacity).hits_afterAll requests).trans (UInt64.zero_add _)
  have counters : cache.hits + cache.misses = .ofNat (requests.countP fun request =>
      if capacity = 0 then request.isMaking else request.isLookup) :=
    (counters_afterAll _ requests).trans (UInt64.zero_add _)
  constructor
  · intro positive
    have within : 0 < cache.capacity := room.symm ▸ positive
    have looked : cache.hits + cache.misses = .ofNat (requests.countP Request.isLookup) := by
      simpa [Nat.ne_of_gt positive] using counters
    refine ⟨fun key => ⟨?_, fun value found => ?_, fun make =>
      ⟨getOrMake_of_get_eq_none within make, fun value => getOrMake_of_get_eq_some within make⟩⟩, ?_, looked, hits,
      toNat_counters looked hits (Log.answered_le capacity [] requests), ?_⟩
    · rw [fst_get within, follows.isSome_peek?_iff, room]
    · rw [fst_get within] at found
      exact follows.values _ (peek?_eq_some_iff.mp found)
    · rw [follows.size_eq, room]
    · exact room ▸ follows.entries
  · intro nothing
    have none : cache.capacity = 0 := room.trans nothing
    have empty : cache.recent = [] := List.eq_nil_of_length_eq_zero (Nat.le_zero.mp (none ▸ cache.bounded))
    have never : cache.hits = 0 := by
      rw [hits, nothing, Log.answered_zero]
      rfl
    refine ⟨fun key => ⟨get_of_capacity_eq_zero none key, fun make => getOrMake_of_capacity_eq_zero none key make⟩,
      ?_, ?_, never, ?_⟩
    · rw [entries, empty, List.reverse_nil]
    · rw [size, empty, List.length_nil]
    · simpa [never, nothing] using counters

/-- A key that was found makes room later than one that was put after it. -/
theorem answers_by_recency_of_found_key :
    let requests : List (Request String Nat) :=
      [.insert "old" 1, .insert "house" 2, .getOrMake "old" fun _ => 3, .insert "roof" 4]
    let cache := (empty 2 : Cache String Nat).afterAll requests
    0 < 2 ∧ (cache.get "house").1.isSome = false ∧ (cache.get "old").1.isSome = true ∧ cache.size = 2 ∧
      cache.hits.toNat + cache.misses.toNat = 1 ∧ cache.hits.toNat = 1 := by
  intro requests cache
  obtain ⟨found, size, -, -, counted, -⟩ := (answers_by_recency 2 requests).1 (by decide)
  refine ⟨by decide, ?_, (found "old").1.mpr (by decide), size, counted (by decide)⟩
  exact Bool.eq_false_iff.mpr fun known => absurd ((found "house").1.mp known).2 (by decide)

end Cache
end Collocation
