import Ballista.Lib.LinkedMap

/-! # The LRU cache policy

`LruCache` (cache/src/backend/policy/lru) keeps its entries in a linked hash map
from the least to the most recently used, and a resource counter. `get` moves a
hit to the back, `peek` reads without moving, `put` inserts at the back, consumes
the new entry's resources and restores the old value's, then pops entries from
the front while the counter exceeds its capacity; `remove` and `pop` restore
what they take. The counter is a parameter: `defaultResourceCounter` counts
entries and `fileCacheCounter` adds up object sizes, both instances of
`usageCounter`.

For a counter that is `Lawful` (restoring undoes consuming, and consuming
commutes), `evict_spec` and `putLru_spec` say that the loop of `put` always
ends, popping a prefix of the entries, and leaves the counter with exactly the
stored entries consumed, within its capacity. `runOps_tracks` follows a whole
run: when in addition restoring never brings the counter over its capacity
(`Monotone`), every cache the operations reach keeps `Tracks`. A lawful counter
that is over its capacity at a use of exactly one is not monotone, and a
`remove` then leaves the cache over capacity (`removal_exceedsCapacity_run`).
-/

namespace Ballista

namespace Cache

/-- `ResourceCounter`: take the resources of an entry, give them back, and
whether the resources in use exceed the capacity. -/
structure ResourceCounter (K V S : Type) where
  consume : K → V → S → S
  restore : K → V → S → S
  exceedCapacity : S → Bool

/-- The state of the source's counters: a capacity and the resources in use. -/
structure Usage where
  capacity : Nat
  used : Nat

/-- A counter that adds a cost per entry and exceeds past its capacity. -/
def usageCounter {K V : Type} (cost : K → V → Nat) : ResourceCounter K V Usage where
  consume key value usage := { usage with used := usage.used + cost key value }
  restore key value usage := { usage with used := usage.used - cost key value }
  exceedCapacity usage := decide (usage.capacity < usage.used)

/-- `DefaultResourceCounter::new`. -/
def DefaultResourceCounter.new (capacity : Nat) : Usage := ⟨capacity, 0⟩

/-- `DefaultResourceCounter`: one unit per entry. -/
def defaultResourceCounter (K V : Type) : ResourceCounter K V Usage := usageCounter fun _ _ => 1

/-- The field of `ObjectMeta` that `FileCacheCounter` reads. -/
structure ObjectMeta where
  size : Nat

/-- `FileCacheCounter::new`. -/
def FileCacheCounter.new (capacity : Nat) : Usage := ⟨capacity, 0⟩

/-- `FileCacheCounter`: the size of each cached object, by path. -/
def fileCacheCounter : ResourceCounter String ObjectMeta Usage :=
  usageCounter fun _ object => object.size

namespace ResourceCounter

variable {K V S : Type}

/-- Restoring an entry undoes consuming it, and consuming commutes: the state
depends only on the entries consumed and not restored. -/
structure Lawful (counter : ResourceCounter K V S) : Prop where
  restore_consume : ∀ key value state,
    counter.restore key value (counter.consume key value state) = state
  consume_comm : ∀ key value key' value' state,
    counter.consume key value (counter.consume key' value' state) =
      counter.consume key' value' (counter.consume key value state)

/-- Giving resources back never brings the counter over its capacity. -/
def Monotone (counter : ResourceCounter K V S) : Prop :=
  ∀ key value state, counter.exceedCapacity (counter.consume key value state) = false →
    counter.exceedCapacity state = false

theorem usageCounter_lawful (cost : K → V → Nat) : (usageCounter cost).Lawful where
  restore_consume key value usage := by simp [usageCounter]
  consume_comm key value key' value' usage := by simp [usageCounter, Nat.add_right_comm]

theorem usageCounter_monotone (cost : K → V → Nat) : (usageCounter cost).Monotone := by
  intro key value usage within
  simp only [usageCounter, decide_eq_false_iff_not, Nat.not_lt] at within ⊢
  omega

/-- The counter after consuming entries in order. -/
def consumeAll (counter : ResourceCounter K V S) (state : S) (entries : List (K × V)) : S :=
  entries.foldl (fun state entry => counter.consume entry.1 entry.2 state) state

variable {counter : ResourceCounter K V S} (lawful : counter.Lawful)
include lawful

theorem consumeAll_cons (state : S) (entry : K × V) (entries : List (K × V)) :
    counter.consumeAll state (entry :: entries) =
      counter.consume entry.1 entry.2 (counter.consumeAll state entries) := by
  induction entries generalizing state with
  | nil => rfl
  | cons next rest ih =>
    simp only [consumeAll, List.foldl_cons] at ih ⊢
    rw [lawful.consume_comm, ih]

omit lawful in
theorem consumeAll_append_singleton (state : S) (entries : List (K × V)) (entry : K × V) :
    counter.consumeAll state (entries ++ [entry]) =
      counter.consume entry.1 entry.2 (counter.consumeAll state entries) := by
  simp [consumeAll]

theorem consumeAll_perm {entries entries' : List (K × V)} (perm : entries.Perm entries')
    (state : S) : counter.consumeAll state entries = counter.consumeAll state entries' :=
  perm.foldl_eq' (fun _ _ _ _ _ => lawful.consume_comm _ _ _ _ _) state

/-- Restoring a stored entry gives back its resources, wherever it stands. -/
theorem consumeAll_of_get? [DecidableEq K] {map : LinkedMap K V} {key : K} {value : V}
    (found : map.get? key = some value) (state : S) :
    counter.consumeAll state map.entries =
      counter.consume key value (counter.consumeAll state (map.erase key).entries) := by
  rw [consumeAll_perm lawful (LinkedMap.perm_erase found), consumeAll_cons lawful]

end ResourceCounter

/-- The calls of the `CachePolicy` interface. -/
inductive CacheOp (K V : Type) where
  | get (key : K)
  | peek (key : K)
  | put (key : K) (value : V)
  | remove (key : K)
  | pop

/-- The key a call uses: `get` and `put` use theirs. -/
def CacheOp.usedKey {K V : Type} : CacheOp K V → Option K
  | .get key => some key
  | .put key _ => some key
  | _ => none

/-- The keys the calls used, the most recent first. -/
def recentKeys {K V : Type} (ops : List (CacheOp K V)) : List K :=
  (ops.filterMap CacheOp.usedKey).reverse

theorem recentKeys_of_usedKey {K V : Type} (ops : List (CacheOp K V)) {op : CacheOp K V}
    {key : K} (used : op.usedKey = some key) : recentKeys (ops ++ [op]) = key :: recentKeys ops := by
  simp [recentKeys, List.filterMap_append, used]

theorem recentKeys_of_usedKey_eq_none {K V : Type} (ops : List (CacheOp K V)) {op : CacheOp K V}
    (unused : op.usedKey = none) : recentKeys (ops ++ [op]) = recentKeys ops := by
  simp [recentKeys, List.filterMap_append, unused]

section Recency

variable {K : Type} [DecidableEq K]

/-- Keys from the least to the most recently used, for the keys used so far
with the most recent first. -/
def ByRecency (recent keys : List K) : Prop :=
  keys.Pairwise fun older newer => recent.idxOf newer < recent.idxOf older

theorem ByRecency.sublist {recent keys keys' : List K} (ordered : ByRecency recent keys)
    (sub : keys'.Sublist keys) : ByRecency recent keys' :=
  List.Pairwise.sublist sub ordered

/-- Using a key that is not among them keeps the keys in order. -/
theorem ByRecency.use_of_not_mem {recent keys : List K} (ordered : ByRecency recent keys)
    {key : K} (absent : key ∉ keys) : ByRecency (key :: recent) keys := by
  refine List.Pairwise.imp_of_mem (fun {older newer} olderMem newerMem below => ?_) ordered
  have olderApart : key ≠ older := fun same => absent (by rw [same]; exact olderMem)
  have newerApart : key ≠ newer := fun same => absent (by rw [same]; exact newerMem)
  rw [List.idxOf_cons_ne _ olderApart, List.idxOf_cons_ne _ newerApart]
  exact Nat.succ_lt_succ below

/-- Using a key moves it to the back of the order. -/
theorem ByRecency.use_moveToBack {recent keys : List K} (ordered : ByRecency recent keys)
    (key : K) : ByRecency (key :: recent) (keys.filter (· ≠ key) ++ [key]) := by
  rw [ByRecency, List.pairwise_append]
  refine ⟨(ordered.sublist List.filter_sublist).use_of_not_mem (by simp),
    List.pairwise_singleton _ _, fun older olderMem newer newerMem => ?_⟩
  have apart : key ≠ older := fun same => by simp [same] at olderMem
  rw [List.mem_singleton.mp newerMem, List.idxOf_cons_self, List.idxOf_cons_ne _ apart]
  exact Nat.succ_pos _

/-- The back part of ordered keys is ordered. -/
theorem ByRecency.back {recent front back : List K} (ordered : ByRecency recent (front ++ back)) :
    ByRecency recent back :=
  (List.pairwise_append.mp ordered).2.1

/-- The front part of ordered keys is less recently used than the back part. -/
theorem ByRecency.front_back {recent front back : List K}
    (ordered : ByRecency recent (front ++ back)) :
    ∀ older ∈ front, ∀ newer ∈ back, recent.idxOf newer < recent.idxOf older :=
  (List.pairwise_append.mp ordered).2.2

end Recency

/-- `LruCache`: the linked map and the state of the resource counter. -/
structure LruCache (K V S : Type) where
  map : LinkedMap K V
  resourceCounter : S

namespace LruCache

variable {K V S : Type} [DecidableEq K] (counter : ResourceCounter K V S)

/-- `with_resource_counter`: no entry. -/
def withResourceCounter (resourceCounter : S) : LruCache K V S :=
  ⟨LinkedMap.empty, resourceCounter⟩

/-- `get_lru`: a hit moves to the back. -/
def getLru (cache : LruCache K V S) (key : K) : Option V × LruCache K V S :=
  match cache.map.get? key with
  | some value => (some value, { cache with map := cache.map.toBack key })
  | none => (none, cache)

/-- `peek`: read without moving. -/
def peek (cache : LruCache K V S) (key : K) : Option V := cache.map.get? key

/-- `pop_lru`: take the front entry and restore its resources. -/
def popLru (cache : LruCache K V S) : Option (K × V) × LruCache K V S :=
  match cache.map.popFront with
  | (some entry, map) =>
    (some entry, ⟨map, counter.restore entry.1 entry.2 cache.resourceCounter⟩)
  | (none, map) => (none, { cache with map := map })

omit [DecidableEq K] in
@[simp] theorem popLru_fst (cache : LruCache K V S) :
    (cache.popLru counter).1 = cache.map.entries.head? := by
  rw [← LinkedMap.popFront_fst]
  unfold popLru
  split <;> rename_i found <;> simp [found]

omit [DecidableEq K] in
@[simp] theorem entries_popLru (cache : LruCache K V S) :
    (cache.popLru counter).2.map.entries = cache.map.entries.tail := by
  rw [← LinkedMap.entries_popFront]
  unfold popLru
  split <;> rename_i found <;> simp [found]

omit [DecidableEq K] in
theorem length_popLru_lt {cache : LruCache K V S} {entry : K × V} {rest : LruCache K V S}
    (popped : cache.popLru counter = (some entry, rest)) :
    rest.map.entries.length < cache.map.entries.length := by
  have front := popLru_fst counter cache
  have tail := entries_popLru counter cache
  rw [popped] at front tail
  dsimp only at front tail
  obtain ⟨others, split⟩ : ∃ others, cache.map.entries = entry :: others :=
    ⟨_, List.eq_cons_of_mem_head? front.symm⟩
  rw [tail, split]
  simp

/-- The loop of `put_lru`: pop the front entry while the counter exceeds its
capacity. `pop_lru` on an empty map changes nothing, so a counter still over its
capacity then spins forever: `none`. -/
def evict (cache : LruCache K V S) : Option (List (K × V) × LruCache K V S) :=
  if counter.exceedCapacity cache.resourceCounter then
    match _ : cache.popLru counter with
    | (some entry, rest) => (evict rest).map fun result => (entry :: result.1, result.2)
    | (none, _) => none
  else some ([], cache)
termination_by cache.map.entries.length
decreasing_by exact length_popLru_lt counter ‹_›

/-- `put_lru`: insert at the back, consume the new entry and restore the old
value; the old value and the entries the loop popped. -/
def putLru (cache : LruCache K V S) (key : K) (value : V) :
    Option ((Option V × List (K × V)) × LruCache K V S) :=
  let inserted := cache.map.insert key value
  let consumed := counter.consume key value cache.resourceCounter
  let restored :=
    match inserted.1 with
    | some old => counter.restore key old consumed
    | none => consumed
  (evict counter ⟨inserted.2, restored⟩).map fun result => ((inserted.1, result.1), result.2)

/-- `remove`: drop the key and restore its value's resources. -/
def remove (cache : LruCache K V S) (key : K) : Option V × LruCache K V S :=
  match cache.map.remove key with
  | (some value, map) => (some value, ⟨map, counter.restore key value cache.resourceCounter⟩)
  | (none, map) => (none, { cache with map := map })

omit [DecidableEq K] in
theorem evict_of_within {cache : LruCache K V S}
    (within : counter.exceedCapacity cache.resourceCounter = false) :
    evict counter cache = some ([], cache) := by
  rw [evict, if_neg (by simp [within])]

omit [DecidableEq K] in
theorem evict_of_exceed {cache : LruCache K V S} {entry : K × V} {rest : LruCache K V S}
    (exceeds : counter.exceedCapacity cache.resourceCounter = true)
    (popped : cache.popLru counter = (some entry, rest)) :
    evict counter cache = (evict counter rest).map fun result => (entry :: result.1, result.2) := by
  rw [evict, if_pos exceeds]
  split <;> simp_all

theorem getLru_of_get? {cache : LruCache K V S} {key : K} {value : V}
    (found : cache.map.get? key = some value) :
    cache.getLru key = (some value, { cache with map := (cache.map.insert key value).2 }) := by
  simp [getLru, found, LinkedMap.toBack_of_get? found]

theorem getLru_of_get?_eq_none {cache : LruCache K V S} {key : K}
    (missing : cache.map.get? key = none) : cache.getLru key = (none, cache) := by
  simp [getLru, missing]

theorem remove_of_get? {cache : LruCache K V S} {key : K} {value : V}
    (found : cache.map.get? key = some value) :
    cache.remove counter key =
      (some value, ⟨cache.map.erase key, counter.restore key value cache.resourceCounter⟩) := by
  simp [remove, LinkedMap.remove, found]

theorem remove_of_get?_eq_none {cache : LruCache K V S} {key : K}
    (missing : cache.map.get? key = none) :
    cache.remove counter key = (none, { cache with map := cache.map.erase key }) := by
  simp [remove, LinkedMap.remove, missing]

/-- A `put` of a new key that fits evicts nothing. -/
theorem putLru_of_within {cache : LruCache K V S} {key : K} {value : V}
    (missing : cache.map.get? key = none)
    (within : counter.exceedCapacity (counter.consume key value cache.resourceCounter) = false) :
    cache.putLru counter key value =
      some ((none, []), ⟨(cache.map.insert key value).2, counter.consume key value cache.resourceCounter⟩) := by
  have fits : counter.exceedCapacity
      (⟨(cache.map.insert key value).2, counter.consume key value cache.resourceCounter⟩ :
        LruCache K V S).resourceCounter = false := within
  simp [putLru, missing, evict_of_within counter fits]

omit [DecidableEq K] in
theorem resourceCounter_popLru_of_nil {cache : LruCache K V S} (empty : cache.map.entries = []) :
    (cache.popLru counter).2.resourceCounter = cache.resourceCounter := by
  have front := LinkedMap.popFront_fst cache.map
  rw [empty] at front
  unfold popLru
  split <;> rename_i found <;> simp_all

omit [DecidableEq K] in
theorem resourceCounter_popLru {cache : LruCache K V S} {entry : K × V}
    (front : cache.map.entries.head? = some entry) :
    (cache.popLru counter).2.resourceCounter =
      counter.restore entry.1 entry.2 cache.resourceCounter := by
  rw [← LinkedMap.popFront_fst] at front
  unfold popLru
  split <;> rename_i found <;> simp_all

section Lawful

variable {counter} (lawful : counter.Lawful) {initial : S}
  (fits : counter.exceedCapacity initial = false)
include lawful fits

omit [DecidableEq K] in
/-- The loop of `put` ends: it pops a prefix of the entries and leaves the
counter holding exactly the others, within its capacity. -/
theorem evict_spec (cache : LruCache K V S)
    (counted : cache.resourceCounter = counter.consumeAll initial cache.map.entries) :
    ∃ popped final, evict counter cache = some (popped, final) ∧
      popped ++ final.map.entries = cache.map.entries ∧
      final.resourceCounter = counter.consumeAll initial final.map.entries ∧
      counter.exceedCapacity final.resourceCounter = false := by
  generalize entries : cache.map.entries = list at counted
  induction list generalizing cache with
  | nil =>
    -- an empty cache holds the initial counter, within its capacity
    have within : counter.exceedCapacity cache.resourceCounter = false := by
      rw [counted]
      exact fits
    exact ⟨[], cache, evict_of_within counter within, by simp [entries], by rw [counted, entries],
      within⟩
  | cons entry rest ih =>
    by_cases exceeds : counter.exceedCapacity cache.resourceCounter = true
    · have front : cache.map.entries.head? = some entry := by rw [entries]; rfl
      have popped : cache.popLru counter = (some entry, (cache.popLru counter).2) :=
        Prod.ext (by rw [popLru_fst, front]) rfl
      have restEntries : (cache.popLru counter).2.map.entries = rest := by
        rw [entries_popLru, entries]
        rfl
      have restCounted : (cache.popLru counter).2.resourceCounter =
          counter.consumeAll initial rest := by
        rw [resourceCounter_popLru counter front, counted,
          ResourceCounter.consumeAll_cons lawful, lawful.restore_consume]
      obtain ⟨evicted, final, ran, split, finalCounted, within⟩ :=
        ih _ restEntries restCounted
      refine ⟨entry :: evicted, final, ?_, ?_, finalCounted, within⟩
      · rw [evict_of_exceed counter exceeds popped, ran]
        rfl
      · rw [List.cons_append, split]
    · have within : counter.exceedCapacity cache.resourceCounter = false := by simpa using exceeds
      exact ⟨[], cache, evict_of_within counter within, by simp [entries], by rw [counted, entries],
        within⟩

/-- `put` returns the key's old value and the entries its loop popped, the
least recently used first: they and the entries left make up the map with the
new entry at the back, and the counter holds exactly the entries left, within
its capacity. -/
theorem putLru_spec (cache : LruCache K V S)
    (counted : cache.resourceCounter = counter.consumeAll initial cache.map.entries)
    (key : K) (value : V) :
    ∃ popped final, cache.putLru counter key value = some ((cache.map.get? key, popped), final) ∧
      popped ++ final.map.entries = (cache.map.insert key value).2.entries ∧
      final.resourceCounter = counter.consumeAll initial final.map.entries ∧
      counter.exceedCapacity final.resourceCounter = false := by
  have inserted : (cache.map.insert key value).2.entries =
      (cache.map.erase key).entries ++ [(key, value)] := rfl
  cases found : cache.map.get? key with
  | none =>
    have insertedCounted : counter.consume key value cache.resourceCounter =
        counter.consumeAll initial (cache.map.insert key value).2.entries := by
      rw [inserted, LinkedMap.entries_erase_of_get?_eq_none found,
        ResourceCounter.consumeAll_append_singleton, counted]
    obtain ⟨popped, final, ran, split, finalCounted, within⟩ :=
      evict_spec lawful fits ⟨(cache.map.insert key value).2, _⟩ insertedCounted
    refine ⟨popped, final, ?_, split, finalCounted, within⟩
    simp [putLru, found, ran]
  | some old =>
    -- the old value's resources go back, wherever its entry stood
    have insertedCounted :
        counter.restore key old (counter.consume key value cache.resourceCounter) =
          counter.consumeAll initial (cache.map.insert key value).2.entries := by
      rw [inserted, ResourceCounter.consumeAll_append_singleton, counted,
        ResourceCounter.consumeAll_of_get? lawful found, lawful.consume_comm,
        lawful.restore_consume]
    obtain ⟨popped, final, ran, split, finalCounted, within⟩ :=
      evict_spec lawful fits ⟨(cache.map.insert key value).2, _⟩ insertedCounted
    refine ⟨popped, final, ?_, split, finalCounted, within⟩
    simp [putLru, found, ran]

end Lawful

end LruCache

variable {K V S : Type} [DecidableEq K] (counter : ResourceCounter K V S)

/-- One call on the cache, its results dropped; `none` when a `put` spins. -/
def CacheOp.apply : CacheOp K V → LruCache K V S → Option (LruCache K V S)
  | .get key, cache => some (cache.getLru key).2
  | .peek _, cache => some cache
  | .put key value, cache => (cache.putLru counter key value).map Prod.snd
  | .remove key, cache => some (cache.remove counter key).2
  | .pop, cache => some (cache.popLru counter).2

/-- The calls one after another; `none` when a `put` spins. -/
def runOps : List (CacheOp K V) → LruCache K V S → Option (LruCache K V S)
  | [], cache => some cache
  | op :: rest, cache => (op.apply counter cache).bind (runOps rest)

/-- What the cache keeps along a run from the counter `initial`, after the
calls `ops`. -/
structure Tracks (initial : S) (ops : List (CacheOp K V)) (cache : LruCache K V S) : Prop where
  /-- The counter has consumed exactly the stored entries. -/
  counted : cache.resourceCounter = counter.consumeAll initial cache.map.entries
  /-- The counter is within its capacity. -/
  within : counter.exceedCapacity cache.resourceCounter = false
  /-- The entries go from the least to the most recently used. -/
  ordered : ByRecency (recentKeys ops) (cache.map.entries.map Prod.fst)

theorem tracks_withResourceCounter {initial : S} (fits : counter.exceedCapacity initial = false) :
    Tracks counter initial [] (LruCache.withResourceCounter initial : LruCache K V S) where
  counted := rfl
  within := fits
  ordered := List.Pairwise.nil

section Run

variable {counter} (lawful : counter.Lawful) (monotone : counter.Monotone) {initial : S}
  (fits : counter.exceedCapacity initial = false)
include lawful

/-- A hit of `get` keeps the counter and moves the key to the back. -/
theorem Tracks.get {ops : List (CacheOp K V)} {cache : LruCache K V S}
    (tracks : Tracks counter initial ops cache) (key : K) :
    Tracks counter initial (ops ++ [.get key]) (cache.getLru key).2 := by
  have used := recentKeys_of_usedKey ops (rfl : (CacheOp.get key : CacheOp K V).usedKey = some key)
  cases found : cache.map.get? key with
  | none =>
    rw [LruCache.getLru_of_get?_eq_none found]
    refine ⟨tracks.counted, tracks.within, ?_⟩
    rw [used]
    exact tracks.ordered.use_of_not_mem (LinkedMap.get?_eq_none_iff.mp found)
  | some value =>
    rw [LruCache.getLru_of_get? found]
    refine ⟨?_, tracks.within, ?_⟩
    · rw [tracks.counted, ResourceCounter.consumeAll_of_get? lawful found,
        LinkedMap.entries_insert, ← LinkedMap.entries_erase,
        ResourceCounter.consumeAll_append_singleton]
    · rw [used, LinkedMap.keys_insert]
      exact tracks.ordered.use_moveToBack key

omit lawful in
theorem Tracks.peek {ops : List (CacheOp K V)} {cache : LruCache K V S}
    (tracks : Tracks counter initial ops cache) (key : K) :
    Tracks counter initial (ops ++ [.peek key]) cache := by
  refine ⟨tracks.counted, tracks.within, ?_⟩
  rw [recentKeys_of_usedKey_eq_none ops rfl]
  exact tracks.ordered

include monotone in
/-- `remove` gives back the resources of what it takes. -/
theorem Tracks.remove {ops : List (CacheOp K V)} {cache : LruCache K V S}
    (tracks : Tracks counter initial ops cache) (key : K) :
    Tracks counter initial (ops ++ [.remove key]) (cache.remove counter key).2 := by
  have ordered : ByRecency (recentKeys (ops ++ [.remove key]))
      ((cache.map.erase key).entries.map Prod.fst) := by
    rw [recentKeys_of_usedKey_eq_none ops rfl, LinkedMap.keys_erase]
    exact tracks.ordered.sublist List.filter_sublist
  cases found : cache.map.get? key with
  | none =>
    rw [LruCache.remove_of_get?_eq_none counter found]
    refine ⟨?_, tracks.within, ordered⟩
    dsimp only
    rw [LinkedMap.entries_erase_of_get?_eq_none found]
    exact tracks.counted
  | some value =>
    rw [LruCache.remove_of_get? counter found]
    have restored : counter.restore key value cache.resourceCounter =
        counter.consumeAll initial (cache.map.erase key).entries := by
      rw [tracks.counted, ResourceCounter.consumeAll_of_get? lawful found, lawful.restore_consume]
    refine ⟨restored, ?_, ordered⟩
    apply monotone key value
    rw [restored, ← ResourceCounter.consumeAll_of_get? lawful found, ← tracks.counted]
    exact tracks.within

include monotone in
/-- `pop` gives back the resources of the front entry. -/
theorem Tracks.pop {ops : List (CacheOp K V)} {cache : LruCache K V S}
    (tracks : Tracks counter initial ops cache) :
    Tracks counter initial (ops ++ [.pop]) (cache.popLru counter).2 := by
  have ordered : ByRecency (recentKeys (ops ++ [.pop]))
      ((cache.popLru counter).2.map.entries.map Prod.fst) := by
    rw [recentKeys_of_usedKey_eq_none ops rfl, LruCache.entries_popLru, List.map_tail]
    exact tracks.ordered.sublist (List.tail_sublist _)
  cases entries : cache.map.entries with
  | nil =>
    refine ⟨?_, ?_, ordered⟩
    · rw [LruCache.resourceCounter_popLru_of_nil counter entries, LruCache.entries_popLru, entries,
        tracks.counted, entries]
      rfl
    · rw [LruCache.resourceCounter_popLru_of_nil counter entries]
      exact tracks.within
  | cons entry rest =>
    have front : cache.map.entries.head? = some entry := by rw [entries]; rfl
    have counted : cache.resourceCounter =
        counter.consume entry.1 entry.2 (counter.consumeAll initial rest) := by
      rw [tracks.counted, entries, ResourceCounter.consumeAll_cons lawful]
    have restored : (cache.popLru counter).2.resourceCounter = counter.consumeAll initial rest := by
      rw [LruCache.resourceCounter_popLru counter front, counted, lawful.restore_consume]
    refine ⟨?_, ?_, ordered⟩
    · rw [restored, LruCache.entries_popLru, entries]
      rfl
    · rw [restored]
      apply monotone entry.1 entry.2
      rw [← counted]
      exact tracks.within

include fits in
/-- `put` ends; the map with the new entry at the back is ordered, and what the
loop leaves of it is tracked. -/
theorem Tracks.put {ops : List (CacheOp K V)} {cache : LruCache K V S}
    (tracks : Tracks counter initial ops cache) (key : K) (value : V) :
    ∃ popped final, cache.putLru counter key value = some ((cache.map.get? key, popped), final) ∧
      popped ++ final.map.entries = (cache.map.insert key value).2.entries ∧
      ByRecency (recentKeys (ops ++ [.put key value]))
        ((cache.map.insert key value).2.entries.map Prod.fst) ∧
      Tracks counter initial (ops ++ [.put key value]) final := by
  obtain ⟨popped, final, ran, split, counted, within⟩ :=
    LruCache.putLru_spec lawful fits cache tracks.counted key value
  have ordered : ByRecency (recentKeys (ops ++ [.put key value]))
      ((cache.map.insert key value).2.entries.map Prod.fst) := by
    rw [recentKeys_of_usedKey ops rfl, LinkedMap.keys_insert]
    exact tracks.ordered.use_moveToBack key
  refine ⟨popped, final, ran, split, ordered, counted, within, ?_⟩
  rw [← split, List.map_append] at ordered
  exact ordered.back

include monotone fits in
/-- Every call keeps the cache tracked, and a `put` ends. -/
theorem Tracks.apply {ops : List (CacheOp K V)} {cache : LruCache K V S}
    (tracks : Tracks counter initial ops cache) :
    ∀ op : CacheOp K V, ∃ next, op.apply counter cache = some next ∧
      Tracks counter initial (ops ++ [op]) next
  | .get key => ⟨_, rfl, tracks.get lawful key⟩
  | .peek key => ⟨_, rfl, tracks.peek key⟩
  | .put key value => by
    obtain ⟨_, final, ran, -, -, finalTracks⟩ := tracks.put lawful fits key value
    exact ⟨final, by simp [CacheOp.apply, ran], finalTracks⟩
  | .remove key => ⟨_, rfl, tracks.remove lawful monotone key⟩
  | .pop => ⟨_, rfl, tracks.pop lawful monotone⟩

include monotone fits in
theorem runOps_tracks_from :
    ∀ (ops past : List (CacheOp K V)) (cache : LruCache K V S),
      Tracks counter initial past cache →
        ∃ final, runOps counter ops cache = some final ∧
          Tracks counter initial (past ++ ops) final
  | [], past, cache, tracks => ⟨cache, rfl, by rw [List.append_nil]; exact tracks⟩
  | op :: rest, past, cache, tracks => by
    obtain ⟨next, applied, nextTracks⟩ := tracks.apply lawful monotone fits op
    obtain ⟨final, ran, finalTracks⟩ := runOps_tracks_from rest (past ++ [op]) next nextTracks
    refine ⟨final, ?_, ?_⟩
    · rw [runOps, applied, Option.bind_some, ran]
    · rw [List.append_assoc] at finalTracks
      exact finalTracks

end Run

/-- Every run of `get`, `peek`, `put`, `remove` and `pop` from a new cache,
with a lawful counter that restoring never brings over its capacity and that
starts within it: every `put` ends, the counter holds exactly the stored
entries and is within its capacity, the entries go from the least to the most
recently used, `pop` takes the least recently used, and `put` returns the key's
old value with the entries it evicted, the least recently used ones, which
together with the entries left make up the map with the new entry at the back. -/
theorem runOps_tracks {counter : ResourceCounter K V S} (lawful : counter.Lawful)
    (monotone : counter.Monotone) {initial : S} (fits : counter.exceedCapacity initial = false)
    (ops : List (CacheOp K V)) :
    ∃ cache, runOps counter ops (LruCache.withResourceCounter initial) = some cache ∧
      Tracks counter initial ops cache ∧
      (∀ key value, ∃ popped final,
        cache.putLru counter key value = some ((cache.map.get? key, popped), final) ∧
          popped ++ final.map.entries = (cache.map.insert key value).2.entries ∧
          ∀ entry ∈ popped, ∀ kept ∈ final.map.entries,
            (recentKeys (ops ++ [.put key value])).idxOf kept.1 <
              (recentKeys (ops ++ [.put key value])).idxOf entry.1) ∧
      (cache.popLru counter).1 = cache.map.entries.head? := by
  obtain ⟨cache, ran, tracks⟩ := runOps_tracks_from lawful monotone fits ops []
    (LruCache.withResourceCounter initial) (tracks_withResourceCounter counter fits)
  rw [List.nil_append] at tracks
  refine ⟨cache, ran, tracks, fun key value => ?_, LruCache.popLru_fst counter cache⟩
  obtain ⟨popped, final, putRan, split, ordered, -⟩ := tracks.put lawful fits key value
  refine ⟨popped, final, putRan, split, fun entry evicted kept stays => ?_⟩
  rw [← split, List.map_append] at ordered
  exact ordered.front_back entry.1 (List.mem_map_of_mem evicted) kept.1 (List.mem_map_of_mem stays)

/-- Sizes added up, over the capacity at a use of exactly one. -/
def exactlyOneCounter : ResourceCounter String Nat Usage :=
  { usageCounter (fun _ size => size) with exceedCapacity := fun usage => usage.used == 1 }

/-- A lawful counter that starts within its capacity but is not monotone: after
two entries of sizes 2 and 1, removing the first leaves a use of 1, over the
capacity. -/
theorem removal_exceedsCapacity_run :
    exactlyOneCounter.Lawful ∧ exactlyOneCounter.exceedCapacity ⟨0, 0⟩ = false ∧
      ∃ cache, runOps exactlyOneCounter [.put "a" 2, .put "b" 1, .remove "a"]
          (LruCache.withResourceCounter ⟨0, 0⟩) = some cache ∧
        exactlyOneCounter.exceedCapacity cache.resourceCounter = true := by
  have lawful : exactlyOneCounter.Lawful :=
    ⟨(ResourceCounter.usageCounter_lawful _).restore_consume,
      (ResourceCounter.usageCounter_lawful _).consume_comm⟩
  refine ⟨lawful, rfl, ?_⟩
  let start : LruCache String Nat Usage := LruCache.withResourceCounter ⟨0, 0⟩
  let first : LruCache String Nat Usage := ⟨(start.map.insert "a" 2).2, ⟨0, 2⟩⟩
  let second : LruCache String Nat Usage := ⟨(first.map.insert "b" 1).2, ⟨0, 3⟩⟩
  have putFirst : start.putLru exactlyOneCounter "a" 2 = some ((none, []), first) :=
    LruCache.putLru_of_within exactlyOneCounter rfl rfl
  have putSecond : first.putLru exactlyOneCounter "b" 1 = some ((none, []), second) :=
    LruCache.putLru_of_within exactlyOneCounter (by decide) rfl
  have removed := LruCache.remove_of_get? exactlyOneCounter
    (by decide : second.map.get? "a" = some 2)
  refine ⟨(second.remove exactlyOneCounter "a").2, ?_, by rw [removed]; rfl⟩
  rw [runOps, CacheOp.apply, putFirst, Option.map_some, Option.bind_some, runOps, CacheOp.apply,
    putSecond]
  rfl

/-- The default counter of capacity 2 over a run that evicts. -/
theorem runOps_tracks_defaultCounter :
    ∃ cache, runOps (defaultResourceCounter Nat String) [.put 1 "a", .put 2 "b", .get 1, .put 3 "c"]
        (LruCache.withResourceCounter (DefaultResourceCounter.new 2)) = some cache ∧
      Tracks (defaultResourceCounter Nat String) (DefaultResourceCounter.new 2)
        [.put 1 "a", .put 2 "b", .get 1, .put 3 "c"] cache :=
  let ⟨cache, ran, tracks, _⟩ := runOps_tracks (ResourceCounter.usageCounter_lawful _)
    (ResourceCounter.usageCounter_monotone _)
    (rfl : (defaultResourceCounter Nat String).exceedCapacity (DefaultResourceCounter.new 2) = false)
    [.put 1 "a", .put 2 "b", .get 1, .put 3 "c"]
  ⟨cache, ran, tracks⟩

end Cache

end Ballista
