import Mathlib.Data.List.Sort

/-! # Maps kept sorted by key

A `SortedMap` holds its bindings as a list in strictly increasing order of
keys, the order in which an ordered map iterates them, and carries that order
as a field. Inserting replaces the binding of a key or adds one in its place,
erasing drops it, and `rangeFrom` gives the bindings at or above a key. A
binding is in the map exactly when looking its key up finds its value
(`get?_eq_some_iff`), so two sorted maps with the same lookups are equal
(`ext_get?`).

`ringFrom` is the order in which the keys, read as points on a ring, are met
from a point on: the bindings at or above it, then those below it. A walk that
goes from the point to the end and then through the whole map meets them in
that order first (`take_rangeFrom_append`).
-/

/-- A map as its bindings in strictly increasing order of keys. -/
structure SortedMap (κ ν : Type) [LinearOrder κ] where
  entries : List (κ × ν)
  sorted : entries.Pairwise fun first second => first.1 < second.1

namespace SortedMap

variable {κ ν : Type} [LinearOrder κ]

/-- The map with no binding. -/
def empty : SortedMap κ ν := ⟨[], .nil⟩

/-- Bind a key in a sorted list: replace its binding, or add one before the
first larger key. -/
def insertList (key : κ) (value : ν) : List (κ × ν) → List (κ × ν)
  | [] => [(key, value)]
  | (other, stored) :: rest =>
    if key < other then (key, value) :: (other, stored) :: rest
    else if key = other then (key, value) :: rest
    else (other, stored) :: insertList key value rest

theorem mem_insertList {key : κ} {value : ν} :
    ∀ {entries : List (κ × ν)} {entry : κ × ν}, entry ∈ insertList key value entries →
      entry = (key, value) ∨ entry ∈ entries
  | [], entry, mem => .inl (List.mem_singleton.mp mem)
  | (other, stored) :: rest, entry, mem => by
    unfold insertList at mem
    split_ifs at mem with below same
    · exact (List.mem_cons.mp mem).imp id id
    · exact (List.mem_cons.mp mem).imp id (List.mem_cons_of_mem _)
    · rcases List.mem_cons.mp mem with first | later
      · exact .inr (first ▸ List.mem_cons_self)
      · exact (mem_insertList later).imp id (List.mem_cons_of_mem _)

theorem sorted_insertList (key : κ) (value : ν) :
    ∀ {entries : List (κ × ν)}, entries.Pairwise (fun first second => first.1 < second.1) →
      (insertList key value entries).Pairwise fun first second => first.1 < second.1
  | [], _ => List.pairwise_singleton _ _
  | (other, stored) :: rest, sorted => by
    rw [List.pairwise_cons] at sorted
    unfold insertList
    split_ifs with below same
    · -- the new binding goes first, below every key of the list
      refine List.Pairwise.cons (fun entry mem => ?_) (List.Pairwise.cons sorted.1 sorted.2)
      rcases List.mem_cons.mp mem with rfl | later
      · exact below
      · exact lt_trans below (sorted.1 entry later)
    · subst same
      exact List.Pairwise.cons sorted.1 sorted.2
    · -- the key lies above the first one, and so does everything bound after it
      refine List.Pairwise.cons (fun entry mem => ?_) (sorted_insertList key value sorted.2)
      rcases mem_insertList mem with rfl | later
      · exact lt_of_le_of_ne (not_lt.mp below) (Ne.symm same)
      · exact sorted.1 entry later

/-- `insert`: bind a key, replacing its binding. -/
def insert (map : SortedMap κ ν) (key : κ) (value : ν) : SortedMap κ ν :=
  ⟨insertList key value map.entries, sorted_insertList key value map.sorted⟩

/-- `remove`: drop the binding of a key. -/
def erase (map : SortedMap κ ν) (key : κ) : SortedMap κ ν :=
  ⟨map.entries.filter (·.1 ≠ key), map.sorted.filter _⟩

/-- `get`: the value bound to a key. -/
def get? (map : SortedMap κ ν) (key : κ) : Option ν :=
  (map.entries.find? (·.1 = key)).map Prod.snd

/-- `len`: the number of bindings. -/
def length (map : SortedMap κ ν) : Nat := map.entries.length

/-- `range(key..)`: the bindings at or above a key, in order. -/
def rangeFrom (map : SortedMap κ ν) (key : κ) : List (κ × ν) :=
  map.entries.filter (key ≤ ·.1)

/-- The bindings in the order of a ring walked from a point: those at or above
it, then those below. -/
def ringFrom (map : SortedMap κ ν) (key : κ) : List (κ × ν) :=
  map.entries.filter (key ≤ ·.1) ++ map.entries.filter (·.1 < key)

/-- A binding is in the map exactly when its key is bound to its value: the
keys of a sorted map are distinct. -/
theorem get?_eq_some_iff {map : SortedMap κ ν} {key : κ} {value : ν} :
    map.get? key = some value ↔ (key, value) ∈ map.entries := by
  obtain ⟨entries, sorted⟩ := map
  simp only [get?]
  induction entries with
  | nil => simp
  | cons entry rest ih =>
    rw [List.pairwise_cons] at sorted
    by_cases same : entry.1 = key
    · -- the first binding has the key, and no later one has it
      subst same
      have later : (entry.1, value) ∉ rest := fun mem => lt_irrefl _ (sorted.1 (entry.1, value) mem)
      rw [List.find?_cons_of_pos (by simp), Option.map_some, Option.some.injEq, List.mem_cons]
      constructor
      · rintro rfl
        exact .inl rfl
      · rintro (same | mem)
        · exact congrArg Prod.snd same.symm
        · exact absurd mem later
    · have other : (key, value) ≠ entry := fun eq => same (by rw [← eq])
      rw [List.find?_cons_of_neg (by simpa using same), List.mem_cons]
      simp only [other, false_or]
      exact ih sorted.2

theorem mem_entries_insert {map : SortedMap κ ν} {key : κ} {value : ν} {entry : κ × ν} :
    entry ∈ (map.insert key value).entries ↔ entry = (key, value) ∨ (entry ∈ map.entries ∧ entry.1 ≠ key) := by
  obtain ⟨entries, sorted⟩ := map
  simp only [insert]
  induction entries with
  | nil => simp [insertList]
  | cons first rest ih =>
    obtain ⟨other, stored⟩ := first
    rw [List.pairwise_cons] at sorted
    unfold insertList
    split_ifs with below same
    · -- every binding of the list has a larger key
      simp only [List.mem_cons]
      constructor
      · rintro (rfl | rfl | later)
        · exact .inl rfl
        · exact .inr ⟨.inl rfl, (ne_of_lt below).symm⟩
        · exact .inr ⟨.inr later, (ne_of_lt (lt_trans below (sorted.1 _ later))).symm⟩
      · rintro (rfl | ⟨rfl | later, -⟩)
        · exact .inl rfl
        · exact .inr (.inl rfl)
        · exact .inr (.inr later)
    · subst same
      simp only [List.mem_cons]
      constructor
      · rintro (rfl | later)
        · exact .inl rfl
        · exact .inr ⟨.inr later, (ne_of_lt (sorted.1 _ later)).symm⟩
      · rintro (rfl | ⟨rfl | later, apart⟩)
        · exact .inl rfl
        · exact absurd rfl apart
        · exact .inr later
    · rw [List.mem_cons, ih sorted.2, List.mem_cons]
      constructor
      · rintro (rfl | rfl | ⟨later, apart⟩)
        · exact .inr ⟨.inl rfl, Ne.symm same⟩
        · exact .inl rfl
        · exact .inr ⟨.inr later, apart⟩
      · rintro (rfl | ⟨rfl | later, apart⟩)
        · exact .inr (.inl rfl)
        · exact .inl rfl
        · exact .inr (.inr ⟨later, apart⟩)

theorem mem_entries_erase {map : SortedMap κ ν} {key : κ} {entry : κ × ν} :
    entry ∈ (map.erase key).entries ↔ entry ∈ map.entries ∧ entry.1 ≠ key := by
  simp [erase]

@[simp] theorem get?_insert (map : SortedMap κ ν) (key other : κ) (value : ν) :
    (map.insert key value).get? other = if other = key then some value else map.get? other := by
  cases found : (map.insert key value).get? other with
  | none =>
    split_ifs with same
    · subst same
      rw [get?_eq_some_iff.mpr (mem_entries_insert.mpr (.inl rfl))] at found
      cases found
    · cases before : map.get? other with
      | none => rfl
      | some stored =>
        have kept : (other, stored) ∈ (map.insert key value).entries :=
          mem_entries_insert.mpr (.inr ⟨get?_eq_some_iff.mp before, same⟩)
        rw [get?_eq_some_iff.mpr kept] at found
        cases found
  | some stored =>
    rcases mem_entries_insert.mp (get?_eq_some_iff.mp found) with same | ⟨before, apart⟩
    · cases same
      simp
    · rw [if_neg apart, get?_eq_some_iff.mpr before]

@[simp] theorem get?_erase (map : SortedMap κ ν) (key other : κ) :
    (map.erase key).get? other = if other = key then none else map.get? other := by
  split_ifs with same
  · cases found : (map.erase key).get? other with
    | none => rfl
    | some stored => exact absurd (mem_entries_erase.mp (get?_eq_some_iff.mp found)).2 (by simpa using same)
  · cases found : map.get? other with
    | none =>
      cases erased : (map.erase key).get? other with
      | none => rfl
      | some stored =>
        rw [← found, (get?_eq_some_iff.mpr (mem_entries_erase.mp (get?_eq_some_iff.mp erased)).1)]
    | some stored => exact get?_eq_some_iff.mpr (mem_entries_erase.mpr ⟨get?_eq_some_iff.mp found, same⟩)

/-- Sorted maps with the same lookups are the same map. -/
theorem ext_get? {map other : SortedMap κ ν} (same : ∀ key, map.get? key = other.get? key) :
    map = other := by
  have mem : ∀ entry, entry ∈ map.entries ↔ entry ∈ other.entries := fun entry => by
    rw [← get?_eq_some_iff, ← get?_eq_some_iff, same]
  have nodup : ∀ sorted : SortedMap κ ν, sorted.entries.Nodup := fun sorted =>
    sorted.sorted.imp fun below => ne_of_apply_ne Prod.fst (ne_of_lt below)
  have perm := (List.perm_ext_iff_of_nodup (nodup map) (nodup other)).mpr mem
  obtain ⟨entries, sorted⟩ := map
  obtain ⟨otherEntries, otherSorted⟩ := other
  have equal : entries = otherEntries :=
    perm.eq_of_pairwise (fun _ _ _ _ below above => absurd (lt_trans below above) (lt_irrefl _))
      sorted otherSorted
  subst equal
  rfl

/-- The bindings below a key come first in a sorted map, then those at or above it. -/
theorem entries_eq_filter_append (map : SortedMap κ ν) (key : κ) :
    map.entries = map.entries.filter (·.1 < key) ++ map.entries.filter (key ≤ ·.1) := by
  obtain ⟨entries, sorted⟩ := map
  induction entries with
  | nil => rfl
  | cons entry rest ih =>
    rw [List.pairwise_cons] at sorted
    by_cases below : entry.1 < key
    · have notAbove : ¬key ≤ entry.1 := not_le.mpr below
      simp only [List.filter_cons, below, notAbove, decide_true, decide_false, if_true,
        Bool.false_eq_true, if_false, List.cons_append]
      exact congrArg (entry :: ·) (ih sorted.2)
    · -- every later key lies above this one, so nothing after it is below the key
      have above : key ≤ entry.1 := not_lt.mp below
      have noneBelow : rest.filter (·.1 < key) = [] := List.filter_eq_nil_iff.mpr
        fun later mem => by simpa using le_trans above (le_of_lt (sorted.1 later mem))
      have allAbove : rest.filter (key ≤ ·.1) = rest := List.filter_eq_self.mpr
        fun later mem => by simpa using le_trans above (le_of_lt (sorted.1 later mem))
      simp only [List.filter_cons, below, above, decide_true, decide_false, if_true,
        Bool.false_eq_true, if_false, noneBelow, allAbove, List.nil_append]

theorem length_ringFrom (map : SortedMap κ ν) (key : κ) : (map.ringFrom key).length = map.length := by
  rw [ringFrom, length, List.length_append, Nat.add_comm, ← List.length_append,
    ← entries_eq_filter_append]

/-- Walking from a point to the end and on through the whole map meets, as
long as it has not gone round once, the bindings in the order of the ring. -/
theorem take_rangeFrom_append (map : SortedMap κ ν) (key : κ) {count : Nat} (within : count ≤ map.length) :
    (map.rangeFrom key ++ map.entries).take count = (map.ringFrom key).take count := by
  have walked : map.rangeFrom key ++ map.entries = map.ringFrom key ++ map.entries.filter (key ≤ ·.1) := by
    conv_lhs => rw [entries_eq_filter_append map key]
    simp only [rangeFrom, ringFrom, List.append_assoc]
  rw [walked, List.take_append_of_le_length (by rw [length_ringFrom]; exact within)]

/-- Erasing keys one by one keeps the bindings of the other keys. -/
theorem entries_foldl_erase (keys : List κ) :
    ∀ map : SortedMap κ ν, (keys.foldl erase map).entries = map.entries.filter (·.1 ∉ keys) := by
  induction keys with
  | nil => simp
  | cons key rest ih =>
    intro map
    rw [List.foldl_cons, ih, erase, List.filter_filter]
    congr 1
    funext entry
    by_cases erased : entry.1 = key <;> by_cases later : entry.1 ∈ rest <;> simp [erased, later]

theorem get?_foldl_erase (keys : List κ) :
    ∀ (map : SortedMap κ ν) (key : κ),
      (keys.foldl erase map).get? key = if key ∈ keys then none else map.get? key := by
  induction keys with
  | nil => simp
  | cons erased rest ih =>
    intro map key
    rw [List.foldl_cons, ih, get?_erase]
    by_cases later : key ∈ rest <;> by_cases same : key = erased <;> simp [later, same]

/-- Binding keys one by one to one value. -/
theorem get?_foldl_insert (keys : List κ) (value : ν) :
    ∀ (map : SortedMap κ ν) (key : κ),
      (keys.foldl (fun map key => map.insert key value) map).get? key =
        if key ∈ keys then some value else map.get? key := by
  induction keys with
  | nil => simp
  | cons bound rest ih =>
    intro map key
    rw [List.foldl_cons, ih, get?_insert]
    by_cases later : key ∈ rest <;> by_cases same : key = bound <;> simp [later, same]

/-- The ring from a key holds the bindings of the map, in another order. -/
theorem mem_ringFrom {map : SortedMap κ ν} {key : κ} {entry : κ × ν} :
    entry ∈ map.ringFrom key ↔ entry ∈ map.entries := by
  by_cases above : key ≤ entry.1 <;> simp [ringFrom, above, not_le.mp]

/-- Erasing keys erases them from the ring from any key, in place. -/
theorem ringFrom_foldl_erase (keys : List κ) (map : SortedMap κ ν) (key : κ) :
    (keys.foldl erase map).ringFrom key = (map.ringFrom key).filter (·.1 ∉ keys) := by
  simp only [ringFrom, entries_foldl_erase, List.filter_append, List.filter_filter, Bool.and_comm]

end SortedMap
