import Mathlib
import Ballista.Lib.Table
import Ballista.Lib.Interleaving

/-! # Executor slots under concurrent calls

Both `ClusterState` implementations keep one `AvailableTaskSlots` entry per
executor. `bind_schedulable_tasks` hands slots to tasks (`bind_task_bias`),
`unbind_tasks` hands them back, and `register_executor` sets an executor's
count. What the calls owe each other is an accounting: an executor's stored
count is the count of its last registration, less the tasks bound to it since,
plus the slots returned for it since (`accountedSlots`, over the calls in the
order they completed).

Each call does the same thing to the slots it works on (`SlotsCall.apply`,
`slotsOf_apply`). `InMemoryClusterState` runs a call under its one mutex, so a
call is one atomic step (`Cluster.InMemory`). `KeyValueState` reads the slots,
works on them and writes them back as separate steps under a lock of the
store; binding takes the lock `(Slots, "global")` while returning and
registering take `(Slots, "all")`, so a bind and an unbind can both read the same slots and the
later write loses the other's change (`keyValue_lostIncrement_run`).
-/

namespace Ballista

/-- `AvailableTaskSlots`: the free task slots of one executor. -/
structure AvailableTaskSlots where
  executorId : String
  slots : Nat
  deriving DecidableEq, Repr

/-- `ExecutorSlot`: a number of slots handed back for an executor. -/
abbrev ExecutorSlot := String × Nat

/-- `Keyspace` of a `KeyValueStore`. -/
inductive Keyspace where
  | executors
  | jobStatus
  | executionGraph
  | slots
  | sessions
  | heartbeats
  deriving DecidableEq, Repr

/-! ## The slots and what the calls do to them

The entries are the value of `ExecutorTaskSlots` in the store, and the values
of the map in memory, in its iteration order; `register_executor` keeps one
entry per executor, and the calls below find an executor's entry by its id. -/

/-- The entries as a table from executor id to free slots. -/
def slotsTable (taskSlots : List AvailableTaskSlots) : Table String Nat :=
  taskSlots.map fun data => (data.executorId, data.slots)

/-- The free slots stored for an executor. -/
def slotsOf (taskSlots : List AvailableTaskSlots) (executorId : String) : Option Nat :=
  (slotsTable taskSlots).get? executorId

/-- The entries a binding may use: those with a free slot, of an executor in the
given set when one is given. -/
def availableSlots (taskSlots : List AvailableTaskSlots) (executors : Option (List String)) :
    List AvailableTaskSlots :=
  taskSlots.filter fun data =>
    0 < data.slots && (executors.map fun executors => executors.contains data.executorId).getD true

/-- `slot.slots -= 1` on the entry of an executor. -/
def takeSlot (taskSlots : List AvailableTaskSlots) (executorId : String) : List AvailableTaskSlots :=
  taskSlots.map fun data =>
    if data.executorId = executorId then { data with slots := data.slots - 1 } else data

/-- `while slot.slots == 0 { idx_slot += 1 }`: the executors from the first one
with a free slot on. -/
def skipExhausted (taskSlots : List AvailableTaskSlots) : List String → List String
  | [] => []
  | executorId :: rest =>
    if (slotsOf taskSlots executorId).getD 0 = 0 then skipExhausted taskSlots rest
    else executorId :: rest

/-- The loop of `bind_task_bias` over the runnable tasks: each goes to the current
executor with a free slot, in the sorted order, and takes one of its slots; the
loop returns when no executor has a slot left. -/
def assignSlots (taskSlots : List AvailableTaskSlots) (order : List String) :
    Nat → List AvailableTaskSlots × List String
  | 0 => (taskSlots, [])
  | tasks + 1 =>
    match skipExhausted taskSlots order with
    | [] => (taskSlots, [])
    | executorId :: rest =>
      let (taskSlots, bound) := assignSlots (takeSlot taskSlots executorId) (executorId :: rest) tasks
      (taskSlots, executorId :: bound)

/-- `bind_task_bias` on the available entries, for `tasks` runnable tasks of the
running stages of the active jobs: the entries after binding, and the executor
of each bound task. The entries are sorted by free slots, descending; the sort
is stable, as `sort_by` is. -/
def bindTaskBias (taskSlots : List AvailableTaskSlots) (executors : Option (List String))
    (tasks : Nat) : List AvailableTaskSlots × List String :=
  let available := availableSlots taskSlots executors
  let totalSlots := available.foldl (fun acc data => acc + data.slots) (0 : Nat)
  if totalSlots = 0 then (taskSlots, [])
  else
    assignSlots taskSlots
      ((available.insertionSort fun first second => second.slots ≤ first.slots).map
        AvailableTaskSlots.executorId) tasks

/-- The increments of `unbind_tasks`: the slots handed back, summed by executor
in a `u32` (`*v += num_slots`), which wraps around in a release build. -/
def aggregateIncrements (executorSlots : List ExecutorSlot) : Table String Nat :=
  executorSlots.foldl (fun increments slot => increments.upsert slot.1 0 fun total => (total + slot.2) % 2 ^ 32) []

/-- `unbind_tasks` on the entries: each executor's increment is added to its
entry, a `u32` again (`data.slots += num_slots`). -/
def unbindSlots (taskSlots : List AvailableTaskSlots) (increments : Table String Nat) :
    List AvailableTaskSlots :=
  taskSlots.map fun data =>
    match increments.get? data.executorId with
    | some slots => { data with slots := (data.slots + slots) % 2 ^ 32 }
    | none => data

/-- `register_executor` on the entries: the executor's entry is replaced, or
pushed when it has none. -/
def registerSlots (taskSlots : List AvailableTaskSlots) (available : AvailableTaskSlots) :
    List AvailableTaskSlots :=
  match taskSlots.findIdx? (·.executorId = available.executorId) with
  | some idx => taskSlots.set idx available
  | none => taskSlots ++ [available]

/-- A call of `ClusterState` on the slots. A binding is given the number of
runnable tasks its active jobs offer, and the executors it may bind to. -/
inductive SlotsCall where
  | bindSchedulableTasks (executors : Option (List String)) (tasks : Nat)
  | unbindTasks (executorSlots : List ExecutorSlot)
  | registerExecutor (executorId : String) (slots : Nat)
  deriving DecidableEq, Repr

/-- What a completed call did to the slots. -/
inductive SlotEvent where
  | registered (executorId : String) (slots : Nat)
  | bound (executorIds : List String)
  | returned (executorSlots : List ExecutorSlot)
  deriving DecidableEq, Repr

/-- What a call does to the entries it works on, and the event it completes with. -/
def SlotsCall.apply (taskSlots : List AvailableTaskSlots) : SlotsCall → List AvailableTaskSlots × SlotEvent
  | .bindSchedulableTasks executors tasks =>
    let (taskSlots, bound) := bindTaskBias taskSlots executors tasks
    (taskSlots, .bound bound)
  | .unbindTasks executorSlots =>
    (unbindSlots taskSlots (aggregateIncrements executorSlots), .returned executorSlots)
  | .registerExecutor executorId slots =>
    (registerSlots taskSlots ⟨executorId, slots⟩, .registered executorId slots)

/-! ## The accounting -/

/-- The slots an unbind hands back for an executor. -/
def returnedSlots (executorSlots : List ExecutorSlot) (executorId : String) : Nat :=
  (executorSlots.filter fun slot => slot.1 = executorId).foldr (fun slot total => slot.2 + total) 0

/-- An executor's count after one more completed call. -/
def accountEvent (executorId : String) (count : Option Int) : SlotEvent → Option Int
  | .registered registeredId slots => if registeredId = executorId then some slots else count
  | .bound executorIds => count.map (· - executorIds.count executorId)
  | .returned executorSlots => count.map (· + returnedSlots executorSlots executorId)

/-- The free slots the completed calls account for: the count of an executor's
last registration, less the tasks bound to it since, plus the slots returned
for it since; none before it registered. -/
def accountedSlots (history : List SlotEvent) (executorId : String) : Option Int :=
  history.foldl (accountEvent executorId) none

/-! ## What each call does to an executor's slots -/

theorem slotsOf_takeSlot (taskSlots : List AvailableTaskSlots) (taken executorId : String) :
    slotsOf (takeSlot taskSlots taken) executorId =
      if executorId = taken then (slotsOf taskSlots executorId).map (· - 1)
      else slotsOf taskSlots executorId := by
  have table : slotsTable (takeSlot taskSlots taken) = (slotsTable taskSlots).modify taken (· - 1) := by
    simp only [slotsTable, takeSlot, Table.modify, List.map_map]
    congr 1
    funext data
    by_cases same : data.executorId = taken <;> simp [same]
  rw [slotsOf, table, Table.get?_modify]
  rfl

theorem slotsOf_unbindSlots (taskSlots : List AvailableTaskSlots) (increments : Table String Nat)
    (executorId : String) :
    slotsOf (unbindSlots taskSlots increments) executorId =
      (slotsOf taskSlots executorId).map fun slots =>
        ((increments.get? executorId).map fun increment => (slots + increment) % 2 ^ 32).getD slots := by
  have table : slotsTable (unbindSlots taskSlots increments) =
      (slotsTable taskSlots).mapValues fun executorId slots =>
        ((increments.get? executorId).map fun increment => (slots + increment) % 2 ^ 32).getD slots := by
    simp only [slotsTable, unbindSlots, Table.mapValues, List.map_map]
    congr 1
    funext data
    cases found : increments.get? data.executorId <;> simp [found]
  rw [slotsOf, table, Table.get?_mapValues]
  rfl

@[simp] theorem slotsOf_nil (executorId : String) : slotsOf [] executorId = none := rfl

/-- The free slots stored for an executor are those of one of its entries. -/
theorem mem_of_slotsOf_eq_some {taskSlots : List AvailableTaskSlots} {executorId : String} {slots : Nat}
    (found : slotsOf taskSlots executorId = some slots) : ⟨executorId, slots⟩ ∈ taskSlots := by
  obtain ⟨data, mem, same⟩ := List.mem_map.mp (Table.get?_eq_some_mem found)
  cases same
  exact mem

@[simp] theorem slotsOf_cons (data : AvailableTaskSlots) (rest : List AvailableTaskSlots)
    (executorId : String) :
    slotsOf (data :: rest) executorId =
      if executorId = data.executorId then some data.slots else slotsOf rest executorId := rfl

theorem slotsOf_registerSlots (available : AvailableTaskSlots) (executorId : String) :
    ∀ taskSlots : List AvailableTaskSlots, slotsOf (registerSlots taskSlots available) executorId =
      if executorId = available.executorId then some available.slots
      else slotsOf taskSlots executorId
  | [] => by simp [registerSlots]
  | data :: rest => by
    have later := slotsOf_registerSlots available executorId rest
    unfold registerSlots at later ⊢
    by_cases replaced : data.executorId = available.executorId
    · -- the first entry is the executor's: it is replaced in place
      have first : (data :: rest).findIdx? (·.executorId = available.executorId) = some 0 := by
        simp [List.findIdx?_cons, replaced]
      rw [first]
      dsimp only
      rw [List.set_cons_zero]
      by_cases same : executorId = available.executorId <;> simp [same, replaced]
    · -- it is not: the executor's entry is replaced further on, or pushed
      have further : (data :: rest).findIdx? (·.executorId = available.executorId) =
          (rest.findIdx? (·.executorId = available.executorId)).map (· + 1) := by
        simp [List.findIdx?_cons, replaced]
      -- the first entry keeps its place before the executor's, wherever that is
      have apart : executorId = data.executorId → executorId ≠ available.executorId :=
        fun first same => replaced (first.symm.trans same)
      rw [further]
      cases found : rest.findIdx? (·.executorId = available.executorId) with
      | none =>
        rw [found] at later
        simp only at later
        simp only [Option.map_none, List.cons_append, slotsOf_cons, later]
        exact ite_ite_comm _ _ _ _ apart
      | some idx =>
        rw [found] at later
        simp only at later
        simp only [Option.map_some, List.set_cons_succ, slotsOf_cons, later]
        exact ite_ite_comm _ _ _ _ apart

/-- The aggregation sums each executor's slots, modulo `2 ^ 32` as a `u32` does. -/
theorem aggregateIncrements_get? (executorSlots : List ExecutorSlot) (executorId : String) :
    ((aggregateIncrements executorSlots).get? executorId).getD 0 =
      returnedSlots executorSlots executorId % 2 ^ 32 := by
  -- the fold is run from any table whose sum for the executor fits, which it adds the slots to
  suffices summed : ∀ (increments : Table String Nat), (increments.get? executorId).getD 0 < 2 ^ 32 →
      ((executorSlots.foldl (fun increments slot => increments.upsert slot.1 0 fun total => (total + slot.2) % 2 ^ 32)
        increments).get? executorId).getD 0 =
        ((increments.get? executorId).getD 0 + returnedSlots executorSlots executorId) % 2 ^ 32 by
    simpa [aggregateIncrements] using summed [] (by simp)
  induction executorSlots with
  | nil =>
    intro increments fits
    rw [List.foldl_nil, show returnedSlots [] executorId = 0 from rfl, Nat.add_zero, Nat.mod_eq_of_lt fits]
  | cons slot rest ih =>
    intro increments fits
    have stillFits : ((increments.upsert slot.1 0 fun total => (total + slot.2) % 2 ^ 32).get? executorId).getD 0 <
        2 ^ 32 := by
      rw [Table.get?_upsert]
      split
      · exact Nat.mod_lt _ (Nat.two_pow_pos 32)
      · exact fits
    rw [List.foldl_cons, ih _ stillFits, Table.get?_upsert]
    by_cases same : executorId = slot.1
    · simp [same, returnedSlots]
      omega
    · simp [same, returnedSlots, Ne.symm same]

/-- Slots handed back that keep the executor's entry below `2 ^ 32` are added to it. -/
theorem slotsOf_unbindSlots_of_fits {taskSlots : List AvailableTaskSlots} {executorSlots : List ExecutorSlot}
    {executorId : String}
    (fits : ∀ slots, slotsOf taskSlots executorId = some slots → slots + returnedSlots executorSlots executorId < 2 ^ 32) :
    slotsOf (unbindSlots taskSlots (aggregateIncrements executorSlots)) executorId =
      (slotsOf taskSlots executorId).map (· + returnedSlots executorSlots executorId) := by
  have summed := aggregateIncrements_get? executorSlots executorId
  rw [slotsOf_unbindSlots]
  cases found : slotsOf taskSlots executorId with
  | none => rfl
  | some slots =>
    have within := fits slots found
    simp only [Option.map_some, Option.some.injEq]
    -- the increment is the slots handed back, which do not wrap
    cases increment : (aggregateIncrements executorSlots).get? executorId with
    | none =>
      rw [increment, Option.getD_none] at summed
      simp only [Option.map_none, Option.getD_none]
      omega
    | some added =>
      rw [increment, Option.getD_some] at summed
      simp only [Option.map_some, Option.getD_some]
      omega

theorem skipExhausted_free (taskSlots : List AvailableTaskSlots) :
    ∀ {order rest : List String} {executorId : String},
      skipExhausted taskSlots order = executorId :: rest →
        (slotsOf taskSlots executorId).getD 0 ≠ 0
  | [], _, _, skipped => by cases skipped
  | other :: order, rest, executorId, skipped => by
    unfold skipExhausted at skipped
    split at skipped
    · exact skipExhausted_free taskSlots skipped
    · rename_i free
      simp only [List.cons.injEq] at skipped
      obtain ⟨rfl, rfl⟩ := skipped
      exact free

/-- **The binding loop takes one slot for each task it binds**, and never more
than an executor has. -/
theorem assignSlots_spec (executorId : String) :
    ∀ (tasks : Nat) {taskSlots result : List AvailableTaskSlots} {order bound : List String},
      assignSlots taskSlots order tasks = (result, bound) →
        slotsOf result executorId = (slotsOf taskSlots executorId).map (· - bound.count executorId) ∧
          bound.count executorId ≤ (slotsOf taskSlots executorId).getD 0
  | 0, taskSlots, result, order, bound, ran => by
    cases ran
    simp
  | tasks + 1, taskSlots, result, order, bound, ran => by
    unfold assignSlots at ran
    split at ran
    · cases ran
      simp
    · rename_i chosen rest skipped
      have free := skipExhausted_free taskSlots skipped
      dsimp only at ran
      generalize later : assignSlots (takeSlot taskSlots chosen) (chosen :: rest) tasks = next at ran
      obtain ⟨taken, boundLater⟩ := next
      cases ran
      obtain ⟨slotsLater, fewer⟩ := assignSlots_spec executorId tasks later
      rw [slotsOf_takeSlot] at slotsLater fewer
      by_cases same : executorId = chosen
      · -- the chosen executor had a free slot, and gave one more
        subst chosen
        rw [if_pos rfl] at slotsLater fewer
        cases found : slotsOf taskSlots executorId with
        | none => simp [found] at free
        | some slots =>
          rw [found] at slotsLater fewer free
          simp only [Option.map_some, Option.getD_some] at slotsLater fewer free ⊢
          rw [slotsLater, List.count_cons_self]
          exact ⟨congrArg some (by omega), by omega⟩
      · simp only [same, if_false] at slotsLater fewer
        simp [slotsLater, fewer, Ne.symm same]

theorem bindTaskBias_spec {taskSlots result : List AvailableTaskSlots}
    {executors : Option (List String)} {tasks : Nat} {bound : List String} (executorId : String)
    (ran : bindTaskBias taskSlots executors tasks = (result, bound)) :
    slotsOf result executorId = (slotsOf taskSlots executorId).map (· - bound.count executorId) ∧
      bound.count executorId ≤ (slotsOf taskSlots executorId).getD 0 := by
  unfold bindTaskBias at ran
  dsimp only at ran
  split at ran
  · cases ran
    simp
  · exact assignSlots_spec executorId tasks ran

/-- A call that keeps an executor's entry below `2 ^ 32`, as the `u32` it is:
the slots an unbind hands back for the executor, added to its entry, stay
below; the other calls only take slots away or set a count. -/
def SlotsCall.Fits (taskSlots : List AvailableTaskSlots) (executorId : String) : SlotsCall → Prop
  | .unbindTasks executorSlots =>
    ∀ slots, slotsOf taskSlots executorId = some slots → slots + returnedSlots executorSlots executorId < 2 ^ 32
  | _ => True

/-- **Each call does what the accounting says** to the entries it works on,
when it keeps the executor's entry below `2 ^ 32`. -/
theorem slotsOf_apply (taskSlots : List AvailableTaskSlots) (call : SlotsCall) (executorId : String)
    (fits : call.Fits taskSlots executorId) :
    (slotsOf (call.apply taskSlots).1 executorId).map Nat.cast =
      accountEvent executorId ((slotsOf taskSlots executorId).map Nat.cast) (call.apply taskSlots).2 := by
  cases call with
  | bindSchedulableTasks executors tasks =>
    generalize ran : bindTaskBias taskSlots executors tasks = bindResult
    obtain ⟨result, bound⟩ := bindResult
    obtain ⟨slotsAfter, fewer⟩ := bindTaskBias_spec executorId ran
    simp only [SlotsCall.apply, ran, accountEvent, slotsAfter]
    cases found : slotsOf taskSlots executorId with
    | none => rfl
    | some slots =>
      rw [found, Option.getD_some] at fewer
      simp only [Option.map_some, Option.some.injEq]
      omega
  | unbindTasks executorSlots =>
    simp only [SlotsCall.apply, accountEvent, slotsOf_unbindSlots_of_fits fits, Option.map_map]
    congr 1
  | registerExecutor registeredId slots =>
    simp only [SlotsCall.apply, accountEvent, slotsOf_registerSlots]
    by_cases same : executorId = registeredId
    · simp [same]
    · simp [same, Ne.symm same]

/-! ## `KeyValueState`

A call takes its lock, gets the entries, works on them, puts them back and
releases the lock, each a step of its own; `get` and `put` are atomic, and a
lock excludes the calls that take the same key. -/

/-- The lock a call takes: `(Slots, "global")` to bind, `(Slots, "all")` to
return slots or register an executor. -/
def SlotsCall.lockKey : SlotsCall → Keyspace × String
  | .bindSchedulableTasks _ _ => (.slots, "global")
  | .unbindTasks _ => (.slots, "all")
  | .registerExecutor _ _ => (.slots, "all")

/-- The store as the calls see it: the entries at `(Slots, "all")`, the locks
held, and the calls completed so far, in order (not state of the source). -/
structure KeyValueSlots where
  taskSlots : List AvailableTaskSlots
  locks : List (Keyspace × String)
  history : List SlotEvent

/-- Where a call is: before its lock, holding it before the get, holding it
with the entries it will put, holding it with the put done, or completed. -/
inductive KeyValuePhase where
  | lock
  | get
  | put (taskSlots : List AvailableTaskSlots) (event : SlotEvent)
  | unlock (event : SlotEvent)
  | done
  deriving DecidableEq

/-- A call in progress. -/
structure KeyValueCall where
  call : SlotsCall
  phase : KeyValuePhase

/-- One step of a call on the store. -/
def keyValueStep (store : KeyValueSlots) (proc : KeyValueCall) :
    Option (KeyValueSlots × KeyValueCall) :=
  match proc.phase with
  | .lock =>
    -- the lock is taken when no call holds it, and waited for otherwise
    if proc.call.lockKey ∈ store.locks then none
    else some ({ store with locks := proc.call.lockKey :: store.locks }, { proc with phase := .get })
  | .get =>
    let (taskSlots, event) := proc.call.apply store.taskSlots
    match event with
    -- `bind_schedulable_tasks` puts the entries only when it bound a task
    | .bound [] => some (store, { proc with phase := .unlock event })
    | _ => some (store, { proc with phase := .put taskSlots event })
  | .put taskSlots event =>
    some ({ store with taskSlots := taskSlots }, { proc with phase := .unlock event })
  | .unlock event =>
    some ({ store with locks := store.locks.erase proc.call.lockKey,
                       history := store.history ++ [event] },
      { proc with phase := .done })
  | .done => none

/-- No entry yet, no lock held, and the calls before their locks. -/
def keyValueStart (calls : List SlotsCall) : Interleaving.Config KeyValueSlots KeyValueCall :=
  { shared := { taskSlots := [], locks := [], history := [] },
    procs := calls.map fun call => { call := call, phase := .lock } }

/-- An executor registers with two slots; then a binding of one task and a
return of one slot run at once. -/
def slotsRaceCalls : List SlotsCall :=
  [.registerExecutor "executor-1" 2, .bindSchedulableTasks none 1, .unbindTasks [("executor-1", 1)]]

/-- The registration runs alone; the binding takes its lock and gets the
entries; the return then runs from its lock to its unlock; the binding puts
the entries it got and unlocks. -/
def slotsRaceSchedule : List Nat := [0, 0, 0, 0, 1, 1, 2, 2, 2, 2, 1, 1]

/-- After all three calls completed, the executor holds one slot where the
accounting gives two: the slot returned is lost. -/
theorem keyValue_lostIncrement_run :
    ∃ final, Interleaving.Reaches keyValueStep (keyValueStart slotsRaceCalls) final ∧
      (∀ proc ∈ final.procs, proc.phase = .done) ∧
      final.shared.history.head? = some (.registered "executor-1" 2) ∧
      slotsOf final.shared.taskSlots "executor-1" = some 1 ∧
      accountedSlots final.shared.history "executor-1" = some 2 :=
  Interleaving.Reaches.exists_of_schedule_any slotsRaceSchedule (by decide +kernel)

end Ballista
