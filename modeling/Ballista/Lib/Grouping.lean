import Ballista.Lib.Table

/-! # Grouping a list by key

Programs group items in a hash map with `entry(key).or_default()` and then fold
the item into the entry, pushing it onto a list or into an inner map. Over a
`Table`, the fold writes each item into the entry of its key
(`foldlUpsert`); what an entry ends up holding is the items of its key, in
order, folded into what it held or into the default (`getD_get?_foldlUpsert`). So
grouping by key (`groupBy`) gives each key met the items of that key
(`get?_groupBy`); the keys are distinct, and the groups together are the items
rearranged (`flatten_groupBy_perm`).
-/

namespace Table

variable {κ α β : Type} [DecidableEq κ]

/-- Each item folded into the entry of its key, from the default when the key
has none yet. -/
def foldlUpsert (keyOf : α → κ) (default : β) (step : β → α → β) (groups : Table κ β)
    (items : List α) : Table κ β :=
  items.foldl (fun groups item => groups.upsert (keyOf item) default fun value => step value item) groups

/-- `entry(key_of(item)).or_default().push(item)` for each item in turn: the
items grouped by key, keys in the order first met. -/
def groupBy (keyOf : α → κ) (items : List α) : Table κ (List α) :=
  foldlUpsert keyOf [] (fun group item => group ++ [item]) [] items

@[simp] theorem foldlUpsert_nil (keyOf : α → κ) (default : β) (step : β → α → β) (groups : Table κ β) :
    foldlUpsert keyOf default step groups [] = groups := rfl

theorem foldlUpsert_cons (keyOf : α → κ) (default : β) (step : β → α → β) (groups : Table κ β)
    (item : α) (items : List α) :
    foldlUpsert keyOf default step groups (item :: items) =
      foldlUpsert keyOf default step (groups.upsert (keyOf item) default fun value => step value item)
        items := rfl

/-- A key has an entry after the fold when it had one or an item has it. -/
theorem mem_keys_foldlUpsert {keyOf : α → κ} {default : β} {step : β → α → β} {groups : Table κ β}
    {items : List α} {key : κ} :
    key ∈ (foldlUpsert keyOf default step groups items).keys ↔
      key ∈ groups.keys ∨ ∃ item ∈ items, keyOf item = key := by
  induction items generalizing groups with
  | nil => simp
  | cons item rest ih =>
    rw [foldlUpsert_cons, ih, mem_keys_upsert]
    constructor
    · rintro ((same | earlier) | ⟨other, mem, keyed⟩)
      · exact .inr ⟨item, List.mem_cons_self, same.symm⟩
      · exact .inl earlier
      · exact .inr ⟨other, List.mem_cons_of_mem _ mem, keyed⟩
    · rintro (earlier | ⟨other, mem, keyed⟩)
      · exact .inl (.inr earlier)
      · rcases List.mem_cons.mp mem with rfl | later
        · exact .inl (.inl keyed.symm)
        · exact .inr ⟨other, later, keyed⟩

/-- The fold keeps the keys distinct. -/
theorem keys_foldlUpsert_nodup {keyOf : α → κ} {default : β} {step : β → α → β} {groups : Table κ β}
    (distinct : groups.keys.Nodup) (items : List α) :
    (foldlUpsert keyOf default step groups items).keys.Nodup := by
  induction items generalizing groups with
  | nil => exact distinct
  | cons item rest ih => exact ih (keys_upsert_nodup _ _ _ distinct)

/-- **What an entry holds after the fold**: the items of its key, in order,
folded into what it held, or into the default when it held nothing. -/
theorem getD_get?_foldlUpsert (keyOf : α → κ) (default : β) (step : β → α → β) (items : List α)
    (groups : Table κ β) (key : κ) :
    ((foldlUpsert keyOf default step groups items).get? key).getD default =
      (items.filter fun item => keyOf item = key).foldl step ((groups.get? key).getD default) := by
  induction items generalizing groups with
  | nil => rfl
  | cons item rest ih =>
    rw [foldlUpsert_cons, ih, get?_upsert, List.filter_cons]
    by_cases same : keyOf item = key
    · -- the item is folded into the key's entry first
      subst same
      simp
    · simp [same, Ne.symm same]

/-- Pushing items one by one appends them. -/
theorem foldl_push {α : Type} (items acc : List α) :
    items.foldl (fun group item => group ++ [item]) acc = acc ++ items := by
  induction items generalizing acc with
  | nil => simp
  | cons item rest ih => rw [List.foldl_cons, ih, List.append_assoc, List.singleton_append]

/-- **What the fold from no entries gives a key**: the items of that key folded
from the default, when an item has it, and nothing otherwise. -/
theorem get?_foldlUpsert_nil (keyOf : α → κ) (default : β) (step : β → α → β) (items : List α) (key : κ) :
    (foldlUpsert keyOf default step [] items).get? key =
      if ∃ item ∈ items, keyOf item = key then
        some ((items.filter fun item => keyOf item = key).foldl step default)
      else none := by
  have held := getD_get?_foldlUpsert keyOf default step items [] key
  rw [get?_nil, Option.getD_none] at held
  split
  · rename_i met
    obtain ⟨value, found⟩ := Option.isSome_iff_exists.mp (isSome_get?_iff.mpr (mem_keys_foldlUpsert.mpr (.inr met)))
    rw [found, Option.getD_some] at held
    rw [found, held]
  · rename_i unmet
    exact get?_eq_none_iff.mpr fun mem => unmet ((mem_keys_foldlUpsert.mp mem).resolve_left (by simp [keys]))

/-- The items grouped by key: a key has a group when an item has it, and the
group is the items of that key, in order. -/
theorem get?_groupBy (keyOf : α → κ) (items : List α) (key : κ) :
    (groupBy keyOf items).get? key =
      if ∃ item ∈ items, keyOf item = key then some (items.filter fun item => keyOf item = key) else none := by
  rw [groupBy, get?_foldlUpsert_nil, foldl_push, List.nil_append]

/-- The items of some distinct keys, key by key, are all the items whose keys
are among them, rearranged. -/
theorem flatMap_filter_perm (keyOf : α → κ) :
    ∀ {keys : List κ} {items : List α}, keys.Nodup → (∀ item ∈ items, keyOf item ∈ keys) →
      (keys.flatMap fun key => items.filter fun item => keyOf item = key).Perm items
  | [], [], _, _ => List.Perm.refl _
  | [], item :: _, _, covered => absurd (covered item List.mem_cons_self) List.not_mem_nil
  | key :: keys, items, distinct, covered => by
    rw [List.nodup_cons] at distinct
    -- the later keys take their items from those of other keys than the first
    have later : (keys.flatMap fun other => items.filter fun item => keyOf item = other) =
        keys.flatMap fun other => (items.filter fun item => keyOf item ≠ key).filter fun item => keyOf item = other := by
      refine List.flatMap_congr fun other mem => ?_
      rw [List.filter_filter]
      refine List.filter_congr fun item _ => ?_
      by_cases same : keyOf item = other
      · subst same
        have apart : keyOf item ≠ key := fun first => distinct.1 (first ▸ mem)
        simp [apart]
      · simp [same]
    have rest : (keys.flatMap fun other =>
        (items.filter fun item => keyOf item ≠ key).filter fun item => keyOf item = other).Perm
          (items.filter fun item => keyOf item ≠ key) :=
      flatMap_filter_perm keyOf distinct.2 fun item mem => by
        obtain ⟨present, apart⟩ := List.mem_filter.mp mem
        exact (List.mem_cons.mp (covered item present)).resolve_left (by simpa using apart)
    rw [List.flatMap_cons, later]
    refine (rest.append_left _).trans ?_
    simpa using List.filter_append_perm (fun item => decide (keyOf item = key)) items

theorem keys_groupBy_nodup (keyOf : α → κ) (items : List α) : (groupBy keyOf items).keys.Nodup := by
  unfold groupBy
  refine keys_foldlUpsert_nodup ?_ items
  exact List.nodup_nil

theorem mem_keys_groupBy {keyOf : α → κ} {items : List α} {key : κ} :
    key ∈ (groupBy keyOf items).keys ↔ ∃ item ∈ items, keyOf item = key := by
  rw [groupBy, mem_keys_foldlUpsert]
  simp [keys]

/-- Each group is the items of its key, one at least. -/
theorem mem_groupBy {keyOf : α → κ} {items : List α} {key : κ} {group : List α}
    (mem : (key, group) ∈ groupBy keyOf items) :
    group = (items.filter fun item => keyOf item = key) ∧ group ≠ [] := by
  have found := get?_of_mem (keys_groupBy_nodup keyOf items) mem
  rw [get?_groupBy] at found
  split at found
  · rename_i met
    cases found
    obtain ⟨item, present, keyed⟩ := met
    exact ⟨rfl, List.ne_nil_of_mem (List.mem_filter.mpr ⟨present, decide_eq_true keyed⟩)⟩
  · cases found

theorem groupBy_eq_map_keys (keyOf : α → κ) (items : List α) :
    groupBy keyOf items = (groupBy keyOf items).keys.map fun key => (key, items.filter fun item => keyOf item = key) := by
  conv_lhs => rw [← List.map_id (groupBy keyOf items)]
  rw [keys, List.map_map]
  refine List.map_congr_left fun entry mem => ?_
  obtain ⟨key, group⟩ := entry
  rw [(mem_groupBy mem).1]
  rfl

/-- The groups, together, are the items rearranged. -/
theorem flatten_groupBy_perm (keyOf : α → κ) (items : List α) :
    ((groupBy keyOf items).map Prod.snd).flatten.Perm items := by
  rw [groupBy_eq_map_keys, List.map_map, ← List.flatMap_def]
  exact flatMap_filter_perm keyOf (keys_groupBy_nodup keyOf items)
    fun item mem => mem_keys_groupBy.mpr ⟨item, mem, rfl⟩

/-- Folding mapped items by key is folding the items by the key of their image. -/
theorem foldlUpsert_map {γ : Type} (keyOf : α → κ) (default : β) (step : β → α → β) (f : γ → α)
    (groups : Table κ β) (items : List γ) :
    foldlUpsert keyOf default step groups (items.map f) =
      foldlUpsert (fun item => keyOf (f item)) default (fun value item => step value (f item)) groups items := by
  rw [foldlUpsert, List.foldl_map]
  rfl

end Table
