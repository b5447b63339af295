import Mathlib.Data.List.Basic

/-! # Finite tables over association lists

A `Table κ ν` is a list of key-value pairs read as a finite map: lookups take the
first entry of a key, and every operation that writes a key writes all of its
entries, so that the first-entry reading is the one every lemma speaks about.
Iteration follows the order of the list. `insert` overwrites a key in place and
appends a new key at the end, `erase` drops a key, `modify` rewrites the value
of a key in place, and `upsert` rewrites it or appends it from a default: the
operations of a hash map. A hash map hands its entries out in an order of its
own, which an `Iteration` stands for: some permutation of the keys as the table
lists them. `arrange` lists the entries in that order.
-/

/-- A finite map as an association list. -/
abbrev Table (κ ν : Type) := List (κ × ν)

namespace Table

variable {κ ν : Type} [DecidableEq κ]

/-- The value of the first entry of a key. -/
def get? : Table κ ν → κ → Option ν
  | [], _ => none
  | (other, value) :: rest, key => if key = other then some value else get? rest key

/-- Whether some entry has this key. -/
def contains (table : Table κ ν) (key : κ) : Bool := (table.get? key).isSome

/-- The keys, in iteration order. -/
def keys (table : Table κ ν) : List κ := table.map Prod.fst

/-- Rewrite the value of every entry of a key. -/
def modify (table : Table κ ν) (key : κ) (update : ν → ν) : Table κ ν :=
  table.map fun entry => if entry.1 = key then (entry.1, update entry.2) else entry

/-- Write a value at a key: in place when the key is present, at the end otherwise. -/
def insert (table : Table κ ν) (key : κ) (value : ν) : Table κ ν :=
  if table.contains key then table.modify key (fun _ => value) else table ++ [(key, value)]

/-- Rewrite the value of a key, starting from a default when the key is absent. -/
def upsert (table : Table κ ν) (key : κ) (default : ν) (update : ν → ν) : Table κ ν :=
  if table.contains key then table.modify key update else table ++ [(key, update default)]

/-- Drop every entry of a key. -/
def erase : Table κ ν → κ → Table κ ν
  | [], _ => []
  | (other, value) :: rest, key =>
    if other = key then erase rest key else (other, value) :: erase rest key

/-- Rewrite every value, keeping the keys and their order. -/
def mapValues {μ : Type} (table : Table κ ν) (update : κ → ν → μ) : Table κ μ :=
  table.map fun entry => (entry.1, update entry.1 entry.2)

/-- The order in which a hash map hands out its keys, from the keys as the
table lists them: each key once. -/
structure Iteration (κ : Type) where
  permute : List κ → List κ
  permute_perm : ∀ keys, (permute keys).Perm keys

omit [DecidableEq κ] in
/-- The iteration in the table's own order. -/
def Iteration.listed : Iteration κ := ⟨id, List.Perm.refl⟩

/-- The entries in the order of an iteration. -/
def arrange (table : Table κ ν) (iteration : Iteration κ) : Table κ ν :=
  (iteration.permute table.keys).filterMap fun key => (table.get? key).map (key, ·)

@[simp] theorem get?_nil (key : κ) : get? ([] : Table κ ν) key = none := rfl

theorem get?_cons (other key : κ) (value : ν) (rest : Table κ ν) :
    get? ((other, value) :: rest) key = if key = other then some value else get? rest key := rfl

omit [DecidableEq κ] in
theorem keys_cons (key : κ) (value : ν) (rest : Table κ ν) :
    keys ((key, value) :: rest) = key :: keys rest := rfl

/-- A key of the rest of a table is not the key of an entry in front of it that
the rest does not have. -/
theorem get?_cons_of_mem_keys {rest : Table κ ν} {key other : κ} (mem : key ∈ rest.keys)
    (fresh : other ∉ rest.keys) (value : ν) : get? ((other, value) :: rest) key = get? rest key := by
  rw [get?_cons, if_neg fun same : key = other => fresh (same ▸ mem)]

theorem get?_eq_some_mem {table : Table κ ν} {key : κ} {value : ν}
    (found : table.get? key = some value) : (key, value) ∈ table := by
  induction table with
  | nil => simp at found
  | cons entry rest ih =>
    obtain ⟨other, previous⟩ := entry
    by_cases same : key = other
    · subst other
      simp only [get?, ↓reduceIte, Option.some.injEq] at found
      subst previous
      exact List.mem_cons_self
    · simp only [get?, same, ↓reduceIte] at found
      exact List.mem_cons_of_mem _ (ih found)

theorem get?_eq_none_iff {table : Table κ ν} {key : κ} :
    table.get? key = none ↔ key ∉ table.keys := by
  induction table with
  | nil => simp [keys]
  | cons entry rest ih =>
    obtain ⟨other, value⟩ := entry
    by_cases same : key = other
    · simp [get?, same, keys]
    · simp only [get?, same, ↓reduceIte, ih, keys, List.map_cons, List.mem_cons, false_or]

theorem get?_of_mem {table : Table κ ν} {key : κ} {value : ν} (distinct : table.keys.Nodup)
    (mem : (key, value) ∈ table) : table.get? key = some value := by
  induction table with
  | nil => cases mem
  | cons entry rest ih =>
    obtain ⟨other, previous⟩ := entry
    simp only [keys, List.map_cons, List.nodup_cons] at distinct
    rcases List.mem_cons.mp mem with same | later
    · cases same
      simp [get?]
    · have present : key ∈ keys rest := List.mem_map.mpr ⟨_, later, rfl⟩
      have different : key ≠ other := fun same => distinct.1 (same ▸ present)
      simp [get?, different, ih distinct.2 later]

theorem isSome_get?_iff {table : Table κ ν} {key : κ} :
    (table.get? key).isSome ↔ key ∈ table.keys := by
  rw [← not_iff_not, Option.not_isSome_iff_eq_none, get?_eq_none_iff]

theorem contains_iff {table : Table κ ν} {key : κ} : table.contains key ↔ key ∈ table.keys :=
  isSome_get?_iff

theorem mem_keys_of_get? {table : Table κ ν} {key : κ} {value : ν}
    (found : table.get? key = some value) : key ∈ table.keys :=
  isSome_get?_iff.mp (by simp [found])

@[simp] theorem keys_modify (table : Table κ ν) (key : κ) (update : ν → ν) :
    (table.modify key update).keys = table.keys := by
  induction table with
  | nil => rfl
  | cons entry rest ih =>
    by_cases same : entry.1 = key
    · simp_all [modify, keys]
    · simp_all [modify, keys]

omit [DecidableEq κ] in
@[simp] theorem keys_mapValues {μ : Type} (table : Table κ ν) (update : κ → ν → μ) :
    (table.mapValues update).keys = table.keys := by
  simp [mapValues, keys, Function.comp_def]

theorem get?_modify (table : Table κ ν) (key other : κ) (update : ν → ν) :
    (table.modify key update).get? other =
      if other = key then (table.get? other).map update else table.get? other := by
  induction table with
  | nil => simp [modify]
  | cons entry rest ih =>
    obtain ⟨head, value⟩ := entry
    simp only [modify, List.map_cons] at ih ⊢
    by_cases atHead : head = key
    · subst head
      by_cases same : other = key
      · simp [get?, same]
      · simp [get?, same, ih]
    · by_cases found : other = head
      · subst head
        simp [get?, atHead]
      · simp [get?, atHead, found, ih]

@[simp] theorem get?_modify_self (table : Table κ ν) (key : κ) (update : ν → ν) :
    (table.modify key update).get? key = (table.get? key).map update := by
  simp [get?_modify]

theorem get?_modify_of_ne (table : Table κ ν) {key other : κ} (update : ν → ν)
    (different : other ≠ key) : (table.modify key update).get? other = table.get? other := by
  simp [get?_modify, different]

theorem get?_append_of_not_mem (table : Table κ ν) {key other : κ} (value : ν)
    (absent : key ∉ table.keys) :
    (table ++ [(key, value)]).get? other =
      if other = key then some value else table.get? other := by
  induction table with
  | nil => simp [get?]
  | cons entry rest ih =>
    obtain ⟨head, previous⟩ := entry
    simp only [keys, List.map_cons, List.mem_cons, not_or] at absent
    by_cases found : other = head
    · subst head
      simp [get?, Ne.symm absent.1]
    · simp [get?, found, ih absent.2]

theorem get?_insert (table : Table κ ν) (key other : κ) (value : ν) :
    (table.insert key value).get? other =
      if other = key then some value else table.get? other := by
  unfold insert
  split
  · rename_i present
    by_cases same : other = key
    · subst other
      obtain ⟨previous, found⟩ := Option.isSome_iff_exists.mp present
      simp [found]
    · simp [get?_modify_of_ne _ _ same, same]
  · rename_i absent
    exact get?_append_of_not_mem _ _ (fun mem => absent (contains_iff.mpr mem))

@[simp] theorem get?_insert_self (table : Table κ ν) (key : κ) (value : ν) :
    (table.insert key value).get? key = some value := by
  simp [get?_insert]

theorem insert_ne_nil (table : Table κ ν) (key : κ) (value : ν) : table.insert key value ≠ [] := by
  intro empty
  have found := get?_insert_self table key value
  rw [empty, get?_nil] at found
  cases found

theorem get?_upsert (table : Table κ ν) (key other : κ) (default : ν) (update : ν → ν) :
    (table.upsert key default update).get? other =
      if other = key then some (update ((table.get? key).getD default))
      else table.get? other := by
  unfold upsert
  split
  · rename_i present
    obtain ⟨previous, found⟩ := Option.isSome_iff_exists.mp present
    by_cases same : other = key
    · subst other
      simp [found]
    · simp [get?_modify_of_ne _ _ same, same]
  · rename_i absent
    have missing : key ∉ table.keys := fun mem => absent (contains_iff.mpr mem)
    rw [get?_append_of_not_mem _ _ missing]
    by_cases same : other = key
    · simp [same, get?_eq_none_iff.mpr missing]
    · simp [same]

theorem get?_erase (table : Table κ ν) (key other : κ) :
    (table.erase key).get? other = if other = key then none else table.get? other := by
  induction table with
  | nil => simp [erase]
  | cons entry rest ih =>
    obtain ⟨head, value⟩ := entry
    by_cases atHead : head = key
    · subst head
      by_cases same : other = key
      · subst other
        simpa [erase] using ih
      · simp [erase, get?_cons, same, ih]
    · by_cases found : other = head
      · subst head
        simp [erase, get?, atHead]
      · simp [erase, get?, atHead, found, ih]

theorem get?_foldl_insert {α : Type} (items : List α) (keyOf : α → κ) (valueOf : α → ν)
    (table : Table κ ν) {key : κ} (absent : ∀ item ∈ items, keyOf item ≠ key) :
    (items.foldl (fun table item => table.insert (keyOf item) (valueOf item)) table).get? key =
      table.get? key := by
  induction items generalizing table with
  | nil => rfl
  | cons item rest ih =>
    have different : key ≠ keyOf item := Ne.symm (absent item List.mem_cons_self)
    rw [List.foldl_cons, ih _ (fun other mem => absent other (List.mem_cons_of_mem _ mem)),
      get?_insert]
    simp [different]

theorem get?_mapValues {μ : Type} (table : Table κ ν) (update : κ → ν → μ) (key : κ) :
    (table.mapValues update).get? key = (table.get? key).map (update key) := by
  induction table with
  | nil => rfl
  | cons entry rest ih =>
    obtain ⟨head, value⟩ := entry
    by_cases same : key = head
    · subst head
      simp [mapValues, get?]
    · simp only [mapValues, List.map_cons] at ih ⊢
      simp [get?, same, ih]

theorem keys_insert_of_mem {table : Table κ ν} {key : κ} (value : ν)
    (present : key ∈ table.keys) : (table.insert key value).keys = table.keys := by
  simp [insert, contains_iff.mpr present]

theorem mem_keys_insert {table : Table κ ν} {key other : κ} {value : ν} :
    other ∈ (table.insert key value).keys ↔ other = key ∨ other ∈ table.keys := by
  rw [← isSome_get?_iff, ← isSome_get?_iff, get?_insert]
  by_cases same : other = key <;> simp [same]

theorem mem_keys_upsert {table : Table κ ν} {key other : κ} {default : ν} {update : ν → ν} :
    other ∈ (table.upsert key default update).keys ↔ other = key ∨ other ∈ table.keys := by
  rw [← isSome_get?_iff, ← isSome_get?_iff, get?_upsert]
  by_cases same : other = key <;> simp [same]

theorem mem_insert_cases {table : Table κ ν} {key : κ} {value : ν} {entry : κ × ν}
    (mem : entry ∈ table.insert key value) : entry = (key, value) ∨ entry ∈ table := by
  unfold insert at mem
  split at mem
  · obtain ⟨previous, present, rfl⟩ := List.mem_map.mp mem
    by_cases same : previous.1 = key
    · left
      simp [same]
    · right
      simpa [same] using present
  · rcases List.mem_append.mp mem with present | added
    · exact .inr present
    · exact .inl (List.mem_singleton.mp added)

theorem keys_insert_nodup {table : Table κ ν} (key : κ) (value : ν) (distinct : table.keys.Nodup) :
    (table.insert key value).keys.Nodup := by
  unfold insert
  split
  · simpa using distinct
  · rename_i absent
    have missing : key ∉ table.keys := fun mem => absent (contains_iff.mpr mem)
    have appended : (table ++ [(key, value)]).keys = table.keys ++ [key] := by simp [keys]
    rw [appended, List.nodup_append]
    refine ⟨distinct, by simp, ?_⟩
    intro other mem added appendedKey same
    rw [List.mem_singleton] at appendedKey
    rw [same, appendedKey] at mem
    exact missing mem

theorem keys_upsert_nodup {table : Table κ ν} (key : κ) (default : ν) (update : ν → ν)
    (distinct : table.keys.Nodup) : (table.upsert key default update).keys.Nodup := by
  unfold upsert
  split
  · simpa using distinct
  · rename_i absent
    have missing : key ∉ table.keys := fun mem => absent (contains_iff.mpr mem)
    have appended : (table ++ [(key, update default)]).keys = table.keys ++ [key] := by simp [keys]
    rw [appended, List.nodup_append]
    refine ⟨distinct, by simp, ?_⟩
    intro other mem added appendedKey same
    rw [List.mem_singleton] at appendedKey
    rw [same, appendedKey] at mem
    exact missing mem

theorem keys_erase_sublist (table : Table κ ν) (key : κ) : (table.erase key).keys.Sublist table.keys := by
  induction table with
  | nil => exact List.Sublist.slnil
  | cons entry rest ih =>
    obtain ⟨other, value⟩ := entry
    by_cases same : other = key
    · simpa [erase, same, keys] using ih.cons other
    · simpa [erase, same, keys] using ih.cons_cons other

/-- Inserting items at keys already present keeps the keys. -/
theorem keys_foldl_insert {α : Type} (items : List α) (keyOf : α → κ) (valueOf : α → ν)
    (table : Table κ ν) (present : ∀ item ∈ items, keyOf item ∈ table.keys) :
    (items.foldl (fun table item => table.insert (keyOf item) (valueOf item)) table).keys =
      table.keys := by
  induction items generalizing table with
  | nil => rfl
  | cons item rest ih =>
    have kept := keys_insert_of_mem (valueOf item) (present item List.mem_cons_self)
    rw [List.foldl_cons, ih _ (fun other mem => kept ▸ present other (List.mem_cons_of_mem _ mem)),
      kept]

/-- Inserting items under distinct keys, each item is found at its key. -/
theorem get?_foldl_insert_of_mem {α : Type} {items : List α} (keyOf : α → κ) (valueOf : α → ν)
    (table : Table κ ν) (distinct : (items.map keyOf).Nodup) {item : α} (mem : item ∈ items) :
    (items.foldl (fun table item => table.insert (keyOf item) (valueOf item)) table).get?
      (keyOf item) = some (valueOf item) := by
  induction items generalizing table with
  | nil => cases mem
  | cons head rest ih =>
    rw [List.map_cons, List.nodup_cons] at distinct
    rw [List.foldl_cons]
    rcases List.mem_cons.mp mem with rfl | later
    · have absent : ∀ other ∈ rest, keyOf other ≠ keyOf item := by
        intro other mem same
        rw [← same] at distinct
        exact distinct.1 (List.mem_map_of_mem mem)
      rw [get?_foldl_insert _ _ _ _ absent, get?_insert_self]
    · exact ih _ distinct.2 later

/-- Inserting items in turn, a key holds the value of the last item at it, or
what the table held when no item is. -/
theorem get?_foldl_insert_last {α : Type} (keyOf : α → κ) (valueOf : α → ν) (key : κ) :
    ∀ (items : List α) (table : Table κ ν),
      (items.foldl (fun table item => table.insert (keyOf item) (valueOf item)) table).get? key =
        ((items.filter fun item => keyOf item = key).getLast?.map valueOf).or (table.get? key)
  | [], table => by simp
  | item :: rest, table => by
    rw [List.foldl_cons, get?_foldl_insert_last keyOf valueOf key rest, get?_insert]
    by_cases same : keyOf item = key
    · have found : key = keyOf item := same.symm
      rw [if_pos found, List.filter_cons_of_pos (by simpa using same), List.getLast?_cons]
      cases (rest.filter fun item => keyOf item = key).getLast? <;> rfl
    · have apart : key ≠ keyOf item := fun h => same h.symm
      rw [if_neg apart, List.filter_cons_of_neg (by simpa using same)]

theorem mem_of_mem_erase {table : Table κ ν} {key : κ} {entry : κ × ν}
    (mem : entry ∈ table.erase key) : entry ∈ table := by
  induction table with
  | nil => cases mem
  | cons head rest ih =>
    obtain ⟨other, value⟩ := head
    by_cases same : other = key
    · simp only [erase, same, ↓reduceIte] at mem
      exact List.mem_cons_of_mem _ (ih mem)
    · simp only [erase, same, ↓reduceIte, List.mem_cons] at mem
      rcases mem with rfl | later
      · exact List.mem_cons_self
      · exact List.mem_cons_of_mem _ (ih later)

/-- A table is empty exactly when no key has a value. -/
theorem eq_nil_iff_get?_eq_none {table : Table κ ν} : table = [] ↔ ∀ key, table.get? key = none := by
  constructor
  · rintro rfl key
    rfl
  · intro missing
    cases table with
    | nil => rfl
    | cons entry rest => simpa [get?] using missing entry.1

/-- Two tables with the same keys in the same order, each once, and the same
value at every key are the same table. -/
theorem ext_of_keys {table other : Table κ ν} (keys : table.keys = other.keys)
    (distinct : table.keys.Nodup) (same : ∀ key, table.get? key = other.get? key) : table = other := by
  induction table generalizing other with
  | nil =>
    cases other with
    | nil => rfl
    | cons entry rest => simp [Table.keys] at keys
  | cons entry rest ih =>
    cases other with
    | nil => simp [Table.keys] at keys
    | cons entry' rest' =>
      obtain ⟨key, value⟩ := entry
      obtain ⟨key', value'⟩ := entry'
      simp only [Table.keys, List.map_cons, List.cons.injEq] at keys
      obtain ⟨rfl, restKeys⟩ := keys
      simp only [Table.keys, List.map_cons, List.nodup_cons] at distinct
      have atKey := same key
      simp only [get?, ↓reduceIte, Option.some.injEq] at atKey
      subst atKey
      congr 1
      refine ih restKeys distinct.2 fun other => ?_
      by_cases hit : other = key
      · subst hit
        have absent : other ∉ keys rest' := by
          unfold keys
          rw [← restKeys]
          exact distinct.1
        rw [get?_eq_none_iff.mpr distinct.1, get?_eq_none_iff.mpr absent]
      · simpa [get?, hit] using same other

/-- Rewriting a key that has no entry changes nothing. -/
theorem modify_of_not_mem_keys {table : Table κ ν} {key : κ} (update : ν → ν) (absent : key ∉ table.keys) :
    table.modify key update = table := by
  induction table with
  | nil => rfl
  | cons entry rest ih =>
    rw [keys, List.map_cons, List.mem_cons, not_or] at absent
    simp only [modify, List.map_cons] at ih ⊢
    rw [if_neg (Ne.symm absent.1), ih absent.2]

/-- Dropping a key that has no entry changes nothing. -/
theorem erase_of_not_mem_keys {table : Table κ ν} {key : κ} (absent : key ∉ table.keys) :
    table.erase key = table := by
  induction table with
  | nil => rfl
  | cons entry rest ih =>
    rw [keys, List.map_cons, List.mem_cons, not_or] at absent
    rw [erase, if_neg (Ne.symm absent.1), ih absent.2]

/-- With one entry per key, the entry of a key stands between the others, and
rewriting the key rewrites that entry in place. -/
theorem exists_modify_eq {table : Table κ ν} {key : κ} {value : ν} (distinct : table.keys.Nodup)
    (found : table.get? key = some value) :
    ∃ front back, table = front ++ (key, value) :: back ∧
      ∀ update, table.modify key update = front ++ (key, update value) :: back := by
  induction table with
  | nil => cases found
  | cons entry rest ih =>
    obtain ⟨other, current⟩ := entry
    rw [keys, List.map_cons, List.nodup_cons] at distinct
    rw [get?_cons] at found
    by_cases same : key = other
    · -- the first entry is the key's, and no later one is
      subst same
      rw [if_pos rfl, Option.some.injEq] at found
      subst found
      refine ⟨[], rest, rfl, fun update => ?_⟩
      have later := modify_of_not_mem_keys update distinct.1
      simp only [modify, List.map_cons, List.nil_append] at later ⊢
      rw [later, if_pos trivial]
    · rw [if_neg same] at found
      obtain ⟨front, back, whole, modified⟩ := ih distinct.2 found
      refine ⟨(other, current) :: front, back, by rw [whole, List.cons_append], fun update => ?_⟩
      have later := modified update
      simp only [modify, List.map_cons, if_neg (Ne.symm same)] at later ⊢
      rw [later, List.cons_append]

theorem mem_of_mem_arrange {table : Table κ ν} {iteration : Iteration κ} {entry : κ × ν}
    (mem : entry ∈ table.arrange iteration) : entry ∈ table := by
  obtain ⟨key, -, found⟩ := List.mem_filterMap.mp mem
  obtain ⟨value, present, rfl⟩ := Option.map_eq_some_iff.mp found
  exact get?_eq_some_mem present

/-- An iteration lists every key. -/
theorem keys_arrange (table : Table κ ν) (iteration : Iteration κ) :
    (table.arrange iteration).keys = iteration.permute table.keys := by
  have present : ∀ key ∈ iteration.permute table.keys, (table.get? key).isSome := fun key mem =>
    isSome_get?_iff.mpr ((iteration.permute_perm _).subset mem)
  rw [arrange]
  generalize iteration.permute table.keys = listed at present
  induction listed with
  | nil => rfl
  | cons key rest ih =>
    obtain ⟨value, found⟩ := Option.isSome_iff_exists.mp (present key List.mem_cons_self)
    rw [List.filterMap_cons, found, Option.map_some, keys_cons,
      ih fun other mem => present other (List.mem_cons_of_mem _ mem)]

/-- With one entry per key, an iteration lists every entry. -/
theorem mem_arrange {table : Table κ ν} (iteration : Iteration κ) (distinct : table.keys.Nodup)
    (entry : κ × ν) : entry ∈ table.arrange iteration ↔ entry ∈ table := by
  refine ⟨mem_of_mem_arrange, fun mem => List.mem_filterMap.mpr ⟨entry.1, ?_, ?_⟩⟩
  · exact (iteration.permute_perm _).symm.subset (List.mem_map_of_mem mem)
  · rw [get?_of_mem distinct mem, Option.map_some]

end Table
