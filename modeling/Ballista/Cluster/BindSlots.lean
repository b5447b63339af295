import Ballista.Cluster.Bind

/-! # The slots the binders hand out

A binder holds the free slots of the executors as a list of counts and binds
each task to the executor of the slot under its cursor, taking one of that
slot's free slots. Seen as units, the executor id once for each free slot
(`slotUnits`), taking a slot takes one unit of its executor
(`slotUnits_modify_perm`), so the tasks bound together with the units left are
the units the binder was given; the count `total_slots` of the binders is the
number of units (`foldl_slots_eq`).

The bias binder's cursor only moves past slots with none left (`Drained`), so
when it runs off the end no slot is left (`Drained.slotUnits_eq_nil`). The
round-robin binder's cursor steps on after every task and goes back to the
first slot when it is past the end or on a slot with none left. That the first
slot then has one left rests on the slots having been sorted by free slots,
descending (`Descending`), which the binder keeps in a weaker form: the counts,
with one added to each slot before the cursor, descend (`Staggered`). Both
ways back to the first slot find the counts themselves descending, and the
slot under the cursor has one left whenever any slot has (`Staggered.take`).
-/

namespace Ballista

namespace Cluster

/-- The free slots as units: the executor id once for each free slot. -/
def slotUnits (slots : List AvailableTaskSlots) : List String :=
  slots.flatMap fun slot => List.replicate slot.slots slot.executorId

@[simp] theorem slotUnits_cons (slot : AvailableTaskSlots) (slots : List AvailableTaskSlots) :
    slotUnits (slot :: slots) = List.replicate slot.slots slot.executorId ++ slotUnits slots :=
  List.flatMap_cons

@[simp] theorem slotUnits_append (slots others : List AvailableTaskSlots) :
    slotUnits (slots ++ others) = slotUnits slots ++ slotUnits others :=
  List.flatMap_append

theorem slotUnits_perm {slots others : List AvailableTaskSlots} (rearranged : slots.Perm others) :
    (slotUnits slots).Perm (slotUnits others) :=
  rearranged.flatMap_right _

theorem length_slotUnits (slots : List AvailableTaskSlots) :
    (slotUnits slots).length = (slots.map AvailableTaskSlots.slots).sum := by
  induction slots with
  | nil => rfl
  | cons slot slots ih => simp [ih]

/-- `total_slots`, the fold of the binders over the slots, counts the units. -/
theorem foldl_slots_eq (slots : List AvailableTaskSlots) (acc : Nat) :
    slots.foldl (fun acc slot => acc + slot.slots) acc = acc + (slotUnits slots).length := by
  induction slots generalizing acc with
  | nil => rfl
  | cons slot slots ih =>
    rw [List.foldl_cons, ih, slotUnits_cons, List.length_append, List.length_replicate]
    omega

theorem slotUnits_eq_nil_iff {slots : List AvailableTaskSlots} :
    slotUnits slots = [] ↔ ∀ slot ∈ slots, slot.slots = 0 := by
  simp [slotUnits, List.flatMap_eq_nil_iff]

/-- An executor has as many units as its slots have free slots together. -/
theorem count_slotUnits (slots : List AvailableTaskSlots) (executorId : String) :
    (slotUnits slots).count executorId =
      ((slots.filter fun slot => slot.executorId = executorId).map AvailableTaskSlots.slots).sum := by
  induction slots with
  | nil => rfl
  | cons slot slots ih =>
    rw [slotUnits_cons, List.count_append, List.count_replicate, ih]
    by_cases same : slot.executorId = executorId
    · simp [same]
    · simp [same]

/-- Taking one of the free slots of the slot at an index takes a unit of its
executor. -/
theorem slotUnits_modify_perm {slots : List AvailableTaskSlots} {index : Nat}
    {slot : AvailableTaskSlots} (found : slots[index]? = some slot) (free : slot.slots ≠ 0) :
    (slot.executorId :: slotUnits (slots.modify index fun slot => { slot with slots := slot.slots - 1 })).Perm
      (slotUnits slots) := by
  obtain ⟨inRange, rfl⟩ := List.getElem?_eq_some_iff.mp found
  have taken : List.replicate slots[index].slots slots[index].executorId =
      slots[index].executorId :: List.replicate (slots[index].slots - 1) slots[index].executorId := by
    rw [← List.replicate_succ, Nat.sub_add_cancel (Nat.pos_of_ne_zero free)]
  have whole : slotUnits slots = slotUnits (slots.take index) ++
      (List.replicate slots[index].slots slots[index].executorId ++ slotUnits (slots.drop (index + 1))) := by
    conv_lhs => rw [← List.take_append_drop index slots, ← List.getElem_cons_drop inRange]
    rw [slotUnits_append, slotUnits_cons]
  rw [List.modify_eq_take_cons_drop inRange, whole, taken, slotUnits_append, slotUnits_cons]
  exact List.perm_middle.symm

/-- The same for the slot written back with one free slot fewer, as the
round-robin binder writes it. -/
theorem slotUnits_set_perm {slots : List AvailableTaskSlots} {index : Nat}
    {slot : AvailableTaskSlots} (found : slots[index]? = some slot) (free : slot.slots ≠ 0) :
    (slot.executorId :: slotUnits (slots.set index { slot with slots := slot.slots - 1 })).Perm
      (slotUnits slots) := by
  have written : slots.set index { slot with slots := slot.slots - 1 } =
      slots.modify index fun slot => { slot with slots := slot.slots - 1 } := by
    rw [List.modify_eq_set_getElem?, found]
    rfl
  rw [written]
  exact slotUnits_modify_perm found free

/-! ## The bias binder's cursor -/

/-- The slots the bias binder's cursor has moved past have none left. -/
def Drained (slots : List AvailableTaskSlots) (idxSlot : Nat) : Prop :=
  ∀ ⦃index : Nat⦄ ⦃slot : AvailableTaskSlots⦄, index < idxSlot → slots[index]? = some slot → slot.slots = 0

theorem drained_zero (slots : List AvailableTaskSlots) : Drained slots 0 :=
  fun _ _ before => absurd before (Nat.not_lt_zero _)

theorem getElem?_zipIdx_drop (slots : List AvailableTaskSlots) (idxSlot offset : Nat) :
    (slots.zipIdx.drop idxSlot)[offset]? = slots[idxSlot + offset]?.map fun slot => (slot, idxSlot + offset) := by
  rw [List.getElem?_drop, List.getElem?_zipIdx, Nat.zero_add]

/-- The slot found from the cursor on has one left, and those it skips none. -/
theorem nextFreeSlot_eq_some {slots : List AvailableTaskSlots} {idxSlot index : Nat}
    {slot : AvailableTaskSlots} (found : nextFreeSlot slots idxSlot = some (slot, index)) :
    idxSlot ≤ index ∧ slots[index]? = some slot ∧ slot.slots ≠ 0 ∧
      ∀ ⦃other : Nat⦄ ⦃skipped : AvailableTaskSlots⦄, idxSlot ≤ other → other < index →
        slots[other]? = some skipped → skipped.slots = 0 := by
  obtain ⟨free, offset, inRange, hit, before⟩ := List.find?_eq_some_iff_getElem.mp found
  have atOffset := getElem?_zipIdx_drop slots idxSlot offset
  rw [List.getElem?_eq_getElem inRange, hit] at atOffset
  obtain ⟨entry, entryFound, same⟩ := Option.map_eq_some_iff.mp atOffset.symm
  cases same
  refine ⟨Nat.le_add_right _ _, entryFound, by simpa using free, ?_⟩
  intro other skipped after below skippedFound
  have inDrop : other - idxSlot < (slots.zipIdx.drop idxSlot).length := by
    simp only [List.length_drop, List.length_zipIdx]
    have := (List.getElem?_eq_some_iff.mp entryFound).1
    omega
  have notFree := before (other - idxSlot) (by omega)
  have atOther := getElem?_zipIdx_drop slots idxSlot (other - idxSlot)
  rw [Nat.add_sub_cancel' after, skippedFound, List.getElem?_eq_getElem inDrop] at atOther
  simp only [Option.map_some, Option.some.injEq] at atOther
  rw [atOther] at notFree
  simpa using notFree

/-- When no slot from the cursor on has one left, the search runs off the end. -/
theorem nextFreeSlot_eq_none {slots : List AvailableTaskSlots} {idxSlot : Nat}
    (nothing : nextFreeSlot slots idxSlot = none) {index : Nat} {slot : AvailableTaskSlots}
    (after : idxSlot ≤ index) (found : slots[index]? = some slot) : slot.slots = 0 := by
  have entry : (slot, index) ∈ slots.zipIdx.drop idxSlot := by
    refine List.mem_iff_getElem?.mpr ⟨index - idxSlot, ?_⟩
    rw [getElem?_zipIdx_drop, Nat.add_sub_cancel' after, found]
    rfl
  simpa using List.find?_eq_none.mp nothing _ entry

/-- When the bias binder's cursor runs off the end, no slot is left. -/
theorem Drained.slotUnits_eq_nil {slots : List AvailableTaskSlots} {idxSlot : Nat}
    (drained : Drained slots idxSlot) (nothing : nextFreeSlot slots idxSlot = none) : slotUnits slots = [] := by
  refine slotUnits_eq_nil_iff.mpr fun slot mem => ?_
  obtain ⟨index, found⟩ := List.mem_iff_getElem?.mp mem
  by_cases before : index < idxSlot
  · exact drained before found
  · exact nextFreeSlot_eq_none nothing (Nat.le_of_not_lt before) found

/-- Taking a slot of the one found keeps the slots before the cursor drained. -/
theorem Drained.take {slots : List AvailableTaskSlots} {idxSlot index : Nat} {slot : AvailableTaskSlots}
    (drained : Drained slots idxSlot) (found : nextFreeSlot slots idxSlot = some (slot, index)) :
    Drained (slots.modify index fun slot => { slot with slots := slot.slots - 1 }) index := by
  obtain ⟨-, -, -, skipped⟩ := nextFreeSlot_eq_some found
  intro other kept before keptFound
  have different : index ≠ other := Nat.ne_of_gt before
  simp only [List.getElem?_modify, different, if_false] at keptFound
  simp only [Functor.map, Option.map_id'] at keptFound
  by_cases passed : other < idxSlot
  · exact drained passed keptFound
  · exact skipped (Nat.le_of_not_lt passed) before keptFound

/-! ## The round-robin binder's cursor -/

/-- The slots descend by free slots. -/
def Descending (slots : List AvailableTaskSlots) : Prop :=
  ∀ ⦃first second : Nat⦄ ⦃early late : AvailableTaskSlots⦄, first < second →
    slots[first]? = some early → slots[second]? = some late → late.slots ≤ early.slots

/-- The round-robin binder's slots: the cursor within them, and the counts,
with one added to each slot before the cursor, descending. -/
structure Staggered (slots : List AvailableTaskSlots) (idxSlot : Nat) : Prop where
  cursor : idxSlot ≤ slots.length
  descending : ∀ ⦃first second : Nat⦄ ⦃early late : AvailableTaskSlots⦄, first < second →
    slots[first]? = some early → slots[second]? = some late →
      late.slots + (if second < idxSlot then 1 else 0) ≤ early.slots + (if first < idxSlot then 1 else 0)

/-- The binders sort the slots by free slots, descending. -/
theorem descending_insertionSort (slots : List AvailableTaskSlots) :
    Descending (slots.insertionSort fun first second => second.slots ≤ first.slots) := by
  have total : Std.Total fun first second : AvailableTaskSlots => second.slots ≤ first.slots :=
    ⟨fun first second => le_total second.slots first.slots⟩
  have trans : IsTrans AvailableTaskSlots fun first second : AvailableTaskSlots => second.slots ≤ first.slots :=
    ⟨fun _ _ _ second third => le_trans third second⟩
  have sorted := List.pairwise_iff_getElem.mp (List.pairwise_insertionSort (fun first second : AvailableTaskSlots => second.slots ≤ first.slots) slots)
  intro first second early late before earlyFound lateFound
  obtain ⟨earlyRange, rfl⟩ := List.getElem?_eq_some_iff.mp earlyFound
  obtain ⟨lateRange, rfl⟩ := List.getElem?_eq_some_iff.mp lateFound
  exact sorted first second earlyRange lateRange before

theorem Descending.staggered {slots : List AvailableTaskSlots} (descending : Descending slots) :
    Staggered slots 0 where
  cursor := Nat.zero_le _
  descending := fun _ _ _ _ before earlyFound lateFound => by
    simpa using descending before earlyFound lateFound

/-- Where some slot is left, the first slot of descending slots has one. -/
theorem Descending.first_free {slots : List AvailableTaskSlots} (descending : Descending slots)
    (free : slotUnits slots ≠ []) : ∃ slot, slots[0]? = some slot ∧ slot.slots ≠ 0 := by
  obtain ⟨slot, mem, left⟩ : ∃ slot ∈ slots, slot.slots ≠ 0 := by
    by_contra none
    exact free (slotUnits_eq_nil_iff.mpr fun slot mem => by
      by_contra left
      exact none ⟨slot, mem, left⟩)
  obtain ⟨index, found⟩ := List.mem_iff_getElem?.mp mem
  have nonempty : 0 < slots.length := by
    have := (List.getElem?_eq_some_iff.mp found).1
    omega
  obtain ⟨first, firstFound⟩ : ∃ first, slots[0]? = some first :=
    ⟨slots[0], List.getElem?_eq_getElem nonempty⟩
  refine ⟨first, firstFound, ?_⟩
  rcases Nat.eq_zero_or_pos index with atFirst | later
  · subst atFirst
    rw [firstFound] at found
    cases found
    exact left
  · have := descending later firstFound found
    omega

/-- Past the end of the slots, the counts themselves descend. -/
theorem Staggered.descending_of_past {slots : List AvailableTaskSlots} {idxSlot : Nat}
    (staggered : Staggered slots idxSlot) (past : slots.length ≤ idxSlot) : Descending slots := by
  intro first second early late before earlyFound lateFound
  have secondRange := (List.getElem?_eq_some_iff.mp lateFound).1
  have weighed := staggered.descending before earlyFound lateFound
  rw [if_pos (by omega), if_pos (by omega)] at weighed
  omega

/-- On a slot with none left, the counts themselves descend: the slots after
the cursor have none left either, and those before it descend. -/
theorem Staggered.descending_of_empty {slots : List AvailableTaskSlots} {idxSlot : Nat}
    (staggered : Staggered slots idxSlot) {slot : AvailableTaskSlots} (found : slots[idxSlot]? = some slot)
    (empty : slot.slots = 0) : Descending slots := by
  intro first second early late before earlyFound lateFound
  rcases Nat.lt_trichotomy second idxSlot with passed | atCursor | ahead
  · have weighed := staggered.descending before earlyFound lateFound
    rw [if_pos passed, if_pos (before.trans passed)] at weighed
    omega
  · subst atCursor
    rw [found] at lateFound
    cases lateFound
    omega
  · have weighed := staggered.descending ahead found lateFound
    rw [if_neg (Nat.lt_irrefl _), if_neg (Nat.not_lt_of_gt ahead)] at weighed
    omega

/-- Taking a slot at the cursor and stepping on keeps the slots staggered. -/
theorem Staggered.stay {slots : List AvailableTaskSlots} {idxSlot : Nat} (staggered : Staggered slots idxSlot)
    (inRange : idxSlot < slots.length) {slot : AvailableTaskSlots} (found : slots[idxSlot]? = some slot) :
    Staggered (slots.set idxSlot { slot with slots := slot.slots - 1 }) (idxSlot + 1) where
  cursor := by rw [List.length_set]; omega
  descending := by
    intro first second early late before earlyFound lateFound
    rw [List.getElem?_set] at earlyFound lateFound
    -- the slot taken weighs as it did, one below and now before the cursor
    by_cases atFirst : idxSlot = first
    · subst atFirst
      rw [if_pos rfl, if_pos inRange] at earlyFound
      rw [if_neg (Nat.ne_of_lt before)] at lateFound
      cases earlyFound
      have weighed := staggered.descending before found lateFound
      dsimp only
      split_ifs at weighed ⊢ <;> omega
    · rw [if_neg atFirst] at earlyFound
      by_cases atSecond : idxSlot = second
      · subst atSecond
        rw [if_pos rfl, if_pos inRange] at lateFound
        cases lateFound
        have weighed := staggered.descending before earlyFound found
        rw [if_neg (Nat.lt_irrefl _), if_pos before] at weighed
        simp only [if_pos (Nat.lt_succ_self _), if_pos (Nat.lt_succ_of_lt before)]
        omega
      · rw [if_neg atSecond] at lateFound
        have weighed := staggered.descending before earlyFound lateFound
        split_ifs at weighed ⊢ <;> omega

/-- Taking a slot at the first slot of descending slots staggers them. -/
theorem Descending.reset {slots : List AvailableTaskSlots} (descending : Descending slots)
    {slot : AvailableTaskSlots} (found : slots[0]? = some slot) :
    Staggered (slots.set 0 { slot with slots := slot.slots - 1 }) 1 where
  cursor := by
    rw [List.length_set]
    exact (List.getElem?_eq_some_iff.mp found).1
  descending := by
    intro first second early late before earlyFound lateFound
    rw [List.getElem?_set, if_neg (Nat.ne_of_lt (Nat.zero_lt_of_lt before))] at lateFound
    rw [List.getElem?_set] at earlyFound
    by_cases atFirst : 0 = first
    · subst atFirst
      rw [if_pos rfl, if_pos (List.getElem?_eq_some_iff.mp found).1] at earlyFound
      cases earlyFound
      have := descending before found lateFound
      dsimp only
      split_ifs <;> omega
    · rw [if_neg atFirst] at earlyFound
      have := descending before earlyFound lateFound
      split_ifs <;> omega

/-- The round-robin binder's step: where some slot is left, the slot its
cursor lands on has one, and taking it and stepping on keeps the slots
staggered. -/
theorem Staggered.take {slots : List AvailableTaskSlots} {idxSlot : Nat} (staggered : Staggered slots idxSlot)
    (free : slotUnits slots ≠ []) :
    ∃ first, slots[if slots.length ≤ idxSlot then 0 else idxSlot]? = some first ∧
      ∃ slot, slots[if first.slots = 0 then 0 else if slots.length ≤ idxSlot then 0 else idxSlot]? = some slot ∧
        slot.slots ≠ 0 ∧
        Staggered (slots.set (if first.slots = 0 then 0 else if slots.length ≤ idxSlot then 0 else idxSlot)
          { slot with slots := slot.slots - 1 })
          ((if first.slots = 0 then 0 else if slots.length ≤ idxSlot then 0 else idxSlot) + 1) := by
  by_cases past : slots.length ≤ idxSlot
  · -- past the end: back to the first slot, which has one left
    obtain ⟨slot, found, left⟩ := (staggered.descending_of_past past).first_free free
    refine ⟨slot, by rw [if_pos past, found], slot, ?_⟩
    simp only [if_pos past, ite_self]
    exact ⟨found, left, (staggered.descending_of_past past).reset found⟩
  · have inRange := Nat.lt_of_not_le past
    obtain ⟨first, firstFound⟩ : ∃ first, slots[idxSlot]? = some first :=
      ⟨slots[idxSlot], List.getElem?_eq_getElem inRange⟩
    refine ⟨first, by rw [if_neg past, firstFound], ?_⟩
    by_cases empty : first.slots = 0
    · -- on a slot with none left: back to the first slot, which has one left
      have descending := staggered.descending_of_empty firstFound empty
      obtain ⟨slot, found, left⟩ := descending.first_free free
      simp only [if_pos empty]
      exact ⟨slot, found, left, descending.reset found⟩
    · simp only [if_neg empty, if_neg past]
      exact ⟨first, firstFound, empty, staggered.stay inRange firstFound⟩

end Cluster

end Ballista
