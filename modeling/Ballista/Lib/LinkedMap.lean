import Mathlib.Data.List.Nodup
import Mathlib.Data.List.Perm.Basic

/-! # Linked hash maps

A `LinkedMap` is a finite map that keeps its entries in an order, from front to
back, as a linked hash map does: `insert` puts the entry at the back, dropping the
key's old entry from where it stood, `toBack` moves a key's entry to the back,
`popFront` takes the entry at the front and `remove` drops a key. The entries
are a list whose keys are distinct, which the structure carries.

Lookups are characterized by membership (`get?_eq_some_iff`), each operation by
its list of entries, and `perm_erase` puts a present entry in front of the rest,
which is how a sum over the entries sees its removal.
-/

/-- Entries from front to back, each key once. -/
structure LinkedMap (κ ν : Type) where
  entries : List (κ × ν)
  nodup : (entries.map Prod.fst).Nodup

namespace LinkedMap

variable {κ ν : Type} [DecidableEq κ]

/-- The map with no entry. -/
def empty : LinkedMap κ ν := ⟨[], List.nodup_nil⟩

/-- The value of a key. -/
def get? (map : LinkedMap κ ν) (key : κ) : Option ν :=
  (map.entries.find? (·.1 = key)).map Prod.snd

/-- Drop a key's entry, keeping the others in order. -/
def erase (map : LinkedMap κ ν) (key : κ) : LinkedMap κ ν :=
  ⟨map.entries.filter (·.1 ≠ key), map.nodup.sublist (List.filter_sublist.map Prod.fst)⟩

theorem not_mem_keys_erase (map : LinkedMap κ ν) (key : κ) :
    key ∉ (map.erase key).entries.map Prod.fst := by
  simp [erase]

/-- Put an entry at the back, dropping the key's old entry; the old value. -/
def insert (map : LinkedMap κ ν) (key : κ) (value : ν) : Option ν × LinkedMap κ ν :=
  (map.get? key,
    ⟨(map.erase key).entries ++ [(key, value)], by
      rw [List.map_append, List.map_singleton, List.nodup_append]
      refine ⟨(map.erase key).nodup, List.nodup_singleton key, fun other mem last below same => ?_⟩
      rw [List.mem_singleton.mp below] at same
      rw [same] at mem
      exact map.not_mem_keys_erase key mem⟩)

/-- Move a key's entry to the back, when there is one. -/
def toBack (map : LinkedMap κ ν) (key : κ) : LinkedMap κ ν :=
  match map.get? key with
  | some value => (map.insert key value).2
  | none => map

/-- Drop a key's entry; its value. -/
def remove (map : LinkedMap κ ν) (key : κ) : Option ν × LinkedMap κ ν :=
  (map.get? key, map.erase key)

/-- Take the entry at the front. -/
def popFront : LinkedMap κ ν → Option (κ × ν) × LinkedMap κ ν
  | ⟨[], nodup⟩ => (none, ⟨[], nodup⟩)
  | ⟨entry :: rest, nodup⟩ => (some entry, ⟨rest, (List.nodup_cons.mp nodup).2⟩)

theorem get?_eq_some_iff {map : LinkedMap κ ν} {key : κ} {value : ν} :
    map.get? key = some value ↔ (key, value) ∈ map.entries := by
  obtain ⟨entries, nodup⟩ := map
  simp only [get?]
  induction entries with
  | nil => simp
  | cons entry rest ih =>
    rw [List.map_cons, List.nodup_cons] at nodup
    by_cases same : entry.1 = key
    · -- the front entry has the key, and no later one has it
      subst same
      have later : (entry.1, value) ∉ rest := fun mem =>
        nodup.1 (List.mem_map.mpr ⟨_, mem, rfl⟩)
      rw [List.find?_cons_of_pos (by simp)]
      simp only [Option.map_some, Option.some.injEq, List.mem_cons, later, or_false]
      exact ⟨fun found => by rw [← found], fun found => congrArg Prod.snd found.symm⟩
    · rw [List.find?_cons_of_neg (by simpa using same), ih nodup.2]
      simp only [List.mem_cons]
      exact ⟨.inr, fun found => found.resolve_left fun first => same (by rw [← first])⟩

theorem get?_eq_none_iff {map : LinkedMap κ ν} {key : κ} :
    map.get? key = none ↔ key ∉ map.entries.map Prod.fst := by
  constructor
  · intro missing mem
    obtain ⟨⟨other, value⟩, stored, same⟩ := List.mem_map.mp mem
    subst same
    rw [get?_eq_some_iff.mpr stored] at missing
    cases missing
  · intro absent
    cases found : map.get? key with
    | none => rfl
    | some value => exact absurd (List.mem_map.mpr ⟨_, get?_eq_some_iff.mp found, rfl⟩) absent

@[simp] theorem get?_empty (key : κ) : (empty : LinkedMap κ ν).get? key = none := rfl

@[simp] theorem entries_erase (map : LinkedMap κ ν) (key : κ) :
    (map.erase key).entries = map.entries.filter (·.1 ≠ key) := rfl

@[simp] theorem get?_erase (map : LinkedMap κ ν) (key other : κ) :
    (map.erase key).get? other = if other = key then none else map.get? other := by
  split_ifs with same
  · rw [same]
    exact get?_eq_none_iff.mpr (map.not_mem_keys_erase key)
  · cases found : map.get? other with
    | none =>
      rw [get?_eq_none_iff] at found ⊢
      exact fun mem => found ((List.filter_sublist.map Prod.fst).subset mem)
    | some value =>
      rw [get?_eq_some_iff] at found ⊢
      exact List.mem_filter.mpr ⟨found, by simpa using same⟩

@[simp] theorem insert_fst (map : LinkedMap κ ν) (key : κ) (value : ν) :
    (map.insert key value).1 = map.get? key := rfl

@[simp] theorem entries_insert (map : LinkedMap κ ν) (key : κ) (value : ν) :
    (map.insert key value).2.entries = map.entries.filter (·.1 ≠ key) ++ [(key, value)] := rfl

@[simp] theorem get?_insert (map : LinkedMap κ ν) (key other : κ) (value : ν) :
    (map.insert key value).2.get? other = if other = key then some value else map.get? other := by
  split_ifs with same
  · rw [same, get?_eq_some_iff, entries_insert]
    simp
  · have erased : (map.erase key).get? other = map.get? other := by rw [get?_erase, if_neg same]
    rw [← erased]
    cases found : (map.erase key).get? other with
    | none =>
      rw [get?_eq_none_iff] at found ⊢
      simpa [same] using found
    | some stored =>
      rw [get?_eq_some_iff] at found ⊢
      exact List.mem_append_left _ found

@[simp] theorem remove_fst (map : LinkedMap κ ν) (key : κ) :
    (map.remove key).1 = map.get? key := rfl

@[simp] theorem remove_snd (map : LinkedMap κ ν) (key : κ) :
    (map.remove key).2 = map.erase key := rfl

omit [DecidableEq κ] in
@[simp] theorem popFront_fst (map : LinkedMap κ ν) : map.popFront.1 = map.entries.head? := by
  obtain ⟨_ | _, _⟩ := map <;> rfl

omit [DecidableEq κ] in
@[simp] theorem entries_popFront (map : LinkedMap κ ν) :
    map.popFront.2.entries = map.entries.tail := by
  obtain ⟨_ | _, _⟩ := map <;> rfl

theorem toBack_of_get? {map : LinkedMap κ ν} {key : κ} {value : ν}
    (found : map.get? key = some value) : map.toBack key = (map.insert key value).2 := by
  simp [toBack, found]

theorem keys_erase (map : LinkedMap κ ν) (key : κ) :
    (map.erase key).entries.map Prod.fst = (map.entries.map Prod.fst).filter (· ≠ key) := by
  simp [List.filter_map, Function.comp_def]

theorem keys_insert (map : LinkedMap κ ν) (key : κ) (value : ν) :
    (map.insert key value).2.entries.map Prod.fst =
      (map.entries.map Prod.fst).filter (· ≠ key) ++ [key] := by
  rw [entries_insert, List.map_append, ← entries_erase, keys_erase]
  rfl

theorem entries_erase_of_get?_eq_none {map : LinkedMap κ ν} {key : κ}
    (missing : map.get? key = none) : (map.erase key).entries = map.entries := by
  rw [entries_erase, List.filter_eq_self]
  intro entry mem
  have apart : entry.1 ≠ key := fun same =>
    get?_eq_none_iff.mp missing (List.mem_map.mpr ⟨entry, mem, same⟩)
  simpa using apart

/-- A present entry stands in front of the others, up to order. -/
theorem perm_erase {map : LinkedMap κ ν} {key : κ} {value : ν}
    (found : map.get? key = some value) :
    map.entries.Perm ((key, value) :: (map.erase key).entries) := by
  obtain ⟨entries, nodup⟩ := map
  rw [get?_eq_some_iff] at found
  simp only [entries_erase]
  induction entries with
  | nil => cases found
  | cons entry rest ih =>
    rw [List.map_cons, List.nodup_cons] at nodup
    rcases List.mem_cons.mp found with same | later
    · -- the front entry is the one, and the others have other keys
      subst same
      have others : rest.filter (·.1 ≠ key) = rest := List.filter_eq_self.mpr fun other mem => by
        have apart : other.1 ≠ key := fun same => nodup.1 (List.mem_map.mpr ⟨other, mem, same⟩)
        simpa using apart
      rw [List.filter_cons_of_neg (by simp), others]
    · have apart : entry.1 ≠ key := fun same =>
        nodup.1 (same ▸ List.mem_map.mpr ⟨(key, value), later, rfl⟩)
      rw [List.filter_cons_of_pos (by simpa using apart)]
      exact ((ih nodup.2 later).cons entry).trans (List.Perm.swap _ _ _)

end LinkedMap
