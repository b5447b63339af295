import Ballista.Cluster.BindFrame
import Ballista.Cluster.BindRuns
import Ballista.Cluster.ConsistentHashBind

/-! # The in-memory cluster state

`InMemoryClusterState` keeps the free slots of the executors in a map from
executor id under one mutex, beside the executors' metadata and their last
heartbeats. `bind_schedulable_tasks` collects mutable references to the entries
with a free slot, of the executors asked for, and hands them to the binder of
the distribution policy: what the binder leaves in a slot, it leaves in the map.
Each entry is stored under its own executor id (`TaskSlots`), and a binder
keeps each slot with its executor (`bindWith_takes`), so the model writes the
slots a binder left back by executor id (`TaskSlots.writeBack`).

With the bias and the round-robin policy, each executor's entry loses exactly
the slots of the tasks bound to it (`bindSchedulableTasks_slotsOf`). This is the
accounting of `Ballista.Cluster.Slots` with the binders themselves in place of
a count of runnable tasks: every sequence of calls on the state, the
executor's removal included, keeps each entry at the count of the executor's
last registration, less the tasks bound to it since, plus the slots returned
for it since (`InMemoryClusterState.runCalls_accounted`), as long as the slots
registered for and handed back to an executor stay below `2 ^ 32` all added up:
an entry is a `u32`, and handing slots back adds to it with wrapping. The calls
take the mutex for all they do to the slots, so any interleaving of them is
such a sequence.
-/

namespace Ballista

namespace Cluster

/-- `TaskDistributionPolicy`. -/
inductive TaskDistributionPolicy where
  | bias
  | roundRobin
  | consistentHash (numReplicas tolerance : Nat)
  deriving DecidableEq, Repr

/-- The entries of `task_slots`, the values of the map in its iteration order.
`register_executor` stores each under its own executor id, so no executor has
two. -/
structure TaskSlots where
  entries : List AvailableTaskSlots
  distinct : (entries.map AvailableTaskSlots.executorId).Nodup

/-- What `get_topology_nodes` reads of an executor's `ExecutorMetadata`. -/
structure ExecutorAddress where
  host : String
  port : Nat
  deriving DecidableEq, Repr

/-- `executor_status::Status`, without the text each state carries. -/
inductive ExecutorStatus where
  | active
  | dead
  | unknown
  | terminating
  deriving DecidableEq, Repr

/-- `ExecutorHeartbeat`, of which the scheduler reads the time and the status. -/
structure ExecutorHeartbeat where
  timestamp : Nat
  status : Option ExecutorStatus
  deriving DecidableEq, Repr

/-- `InMemoryClusterState`: the free slots of the executors, the metadata of
the executors by id, and each executor's last heartbeat. -/
structure InMemoryClusterState where
  taskSlots : TaskSlots
  executors : Table String ExecutorAddress
  heartbeats : Table String ExecutorHeartbeat

/-- `unbind_tasks` adds to the entries in place. -/
theorem executorIds_unbindSlots (taskSlots : List AvailableTaskSlots) (increments : Table String Nat) :
    (unbindSlots taskSlots increments).map AvailableTaskSlots.executorId =
      taskSlots.map AvailableTaskSlots.executorId := by
  rw [unbindSlots, List.map_map]
  congr 1
  funext data
  simp only [Function.comp_apply]
  split <;> rfl

/-- `register_executor` replaces the executor's entry in place, or pushes a new
one: no executor gets a second entry. -/
theorem nodup_registerSlots {taskSlots : List AvailableTaskSlots}
    (distinct : (taskSlots.map AvailableTaskSlots.executorId).Nodup) (available : AvailableTaskSlots) :
    ((registerSlots taskSlots available).map AvailableTaskSlots.executorId).Nodup := by
  unfold registerSlots
  split
  · -- the entry found is the executor's: it is replaced in place
    rename_i index found
    obtain ⟨inRange, same, -⟩ := List.findIdx?_eq_some_iff_getElem.mp found
    have rebuilt : available = { taskSlots[index] with slots := available.slots } := by
      obtain ⟨executorId, slots⟩ := available
      simp only [decide_eq_true_eq] at same
      simp only [same]
    rw [rebuilt, executorIds_set (List.getElem?_eq_getElem inRange)]
    exact distinct
  · -- no entry is the executor's: the new one is pushed
    rename_i none
    rw [List.map_append, List.nodup_append]
    refine ⟨distinct, List.nodup_singleton _, fun executorId mem other pushed same => ?_⟩
    obtain ⟨data, present, rfl⟩ := List.mem_map.mp mem
    rw [List.map_singleton, List.mem_singleton] at pushed
    have differs := List.findIdx?_eq_none_iff.mp none data present
    exact absurd (same.trans pushed) (by simpa using differs)

/-! ## Reading an executor's entry -/

/-- Rewriting every entry's free slots rewrites the executor's. -/
theorem slotsOf_map_slots (entries : List AvailableTaskSlots) (update : AvailableTaskSlots → Nat)
    (executorId : String) :
    slotsOf (entries.map fun data => { data with slots := update data }) executorId =
      (slotsOf entries executorId).map fun slots => update ⟨executorId, slots⟩ := by
  induction entries with
  | nil => rfl
  | cons data rest ih =>
    rw [List.map_cons, slotsOf_cons, slotsOf_cons, ih]
    by_cases same : executorId = data.executorId
    · subst same
      simp
    · simp [same]

theorem slotsOf_eq_none_iff {entries : List AvailableTaskSlots} {executorId : String} :
    slotsOf entries executorId = none ↔ executorId ∉ entries.map AvailableTaskSlots.executorId := by
  induction entries with
  | nil => simp
  | cons data rest ih =>
    rw [slotsOf_cons, List.map_cons, List.mem_cons]
    by_cases same : executorId = data.executorId
    · simp [same]
    · simp [same, ih]

/-- With one entry per executor, an executor's free slots are its units. -/
theorem getD_slotsOf_eq_count {entries : List AvailableTaskSlots}
    (distinct : (entries.map AvailableTaskSlots.executorId).Nodup) (executorId : String) :
    (slotsOf entries executorId).getD 0 = (slotUnits entries).count executorId := by
  induction entries with
  | nil => rfl
  | cons data rest ih =>
    rw [List.map_cons, List.nodup_cons] at distinct
    rw [slotsOf_cons, slotUnits_cons, List.count_append, List.count_replicate, ← ih distinct.2]
    by_cases same : executorId = data.executorId
    · -- the executor's entry is the first, and no later one is its
      subst same
      have later : slotsOf rest data.executorId = none := slotsOf_eq_none_iff.mpr distinct.1
      simp [later]
    · simp [same, Ne.symm same]

/-- The entries a binding may use, read by executor: the executor's own entry,
when it has a free slot and is one of the executors asked for. -/
theorem slotsOf_availableSlots {entries : List AvailableTaskSlots}
    (distinct : (entries.map AvailableTaskSlots.executorId).Nodup) (executors : Option (List String))
    (executorId : String) :
    slotsOf (availableSlots entries executors) executorId =
      (slotsOf entries executorId).filter fun slots =>
        0 < slots && (executors.map fun executors => executors.contains executorId).getD true := by
  induction entries with
  | nil => rfl
  | cons data rest ih =>
    rw [List.map_cons, List.nodup_cons] at distinct
    rw [availableSlots, List.filter_cons, slotsOf_cons]
    by_cases same : executorId = data.executorId
    · -- the first entry is the executor's, and no later one is
      subst same
      have later : slotsOf (availableSlots rest executors) data.executorId = none :=
        slotsOf_eq_none_iff.mpr fun mem =>
          distinct.1 ((List.map_subset _ (List.filter_subset_self _)) mem)
      rw [if_pos rfl, Option.filter_some]
      by_cases kept : (0 < data.slots && (executors.map fun executors =>
          executors.contains data.executorId).getD true) = true
      · rw [if_pos kept, if_pos kept, slotsOf_cons, if_pos rfl]
      · rw [if_neg kept, if_neg kept]
        exact later
    · rw [if_neg same, ← ih distinct.2]
      split
      · rw [slotsOf_cons, if_neg same]
        rfl
      · rfl

/-- An entry a binding may use has the free slots of the executor's entry. -/
theorem getD_slotsOf_availableSlots_le {entries : List AvailableTaskSlots}
    (distinct : (entries.map AvailableTaskSlots.executorId).Nodup) (executors : Option (List String))
    (executorId : String) :
    (slotsOf (availableSlots entries executors) executorId).getD 0 ≤ (slotsOf entries executorId).getD 0 := by
  rw [slotsOf_availableSlots distinct]
  cases slotsOf entries executorId with
  | none => exact Nat.le_refl _
  | some slots =>
    rw [Option.filter_some]
    split <;> simp

namespace TaskSlots

/-- No executor yet. -/
def empty : TaskSlots := ⟨[], List.nodup_nil⟩

/-- Rewrite the free slots of every entry, each keeping its executor. -/
def mapSlots (taskSlots : TaskSlots) (update : AvailableTaskSlots → Nat) : TaskSlots :=
  ⟨taskSlots.entries.map fun data => { data with slots := update data }, by
    rw [List.map_map]
    exact taskSlots.distinct⟩

/-- The slots a binder left, written back to the entries they came from: the
binder held references to them, which the model finds by executor id. -/
def writeBack (taskSlots : TaskSlots) (slotsLeft : List AvailableTaskSlots) : TaskSlots :=
  taskSlots.mapSlots fun data => (slotsOf slotsLeft data.executorId).getD data.slots

/-- `data.slots = slots` on the entry of an executor, when it has one. -/
def setSlots (taskSlots : TaskSlots) (executorId : String) (slots : Nat) : TaskSlots :=
  taskSlots.mapSlots fun data => if data.executorId = executorId then slots else data.slots

/-- `unbind_tasks`: each executor's increment added to its entry. -/
def unbind (taskSlots : TaskSlots) (increments : Table String Nat) : TaskSlots :=
  ⟨unbindSlots taskSlots.entries increments, by
    rw [executorIds_unbindSlots]
    exact taskSlots.distinct⟩

/-- `task_slots.insert`: the executor's entry replaced, or pushed when it has none. -/
def register (taskSlots : TaskSlots) (available : AvailableTaskSlots) : TaskSlots :=
  ⟨registerSlots taskSlots.entries available, nodup_registerSlots taskSlots.distinct available⟩

/-- `task_slots.remove`: the executor's entry dropped. -/
def remove (taskSlots : TaskSlots) (executorId : String) : TaskSlots :=
  ⟨taskSlots.entries.filter fun data => data.executorId ≠ executorId,
    taskSlots.distinct.sublist (List.filter_sublist.map _)⟩

theorem entries_writeBack (taskSlots : TaskSlots) (slotsLeft : List AvailableTaskSlots) :
    (taskSlots.writeBack slotsLeft).entries =
      taskSlots.entries.map fun data => { data with slots := (slotsOf slotsLeft data.executorId).getD data.slots } :=
  rfl

/-- The entries a binding may use are entries, so no executor has two of them. -/
theorem nodup_availableSlots (taskSlots : TaskSlots) (executors : Option (List String)) :
    ((availableSlots taskSlots.entries executors).map AvailableTaskSlots.executorId).Nodup :=
  taskSlots.distinct.sublist (List.filter_sublist.map _)

/-- **What a binder that took slots does to the entries.** When the slots a
binder left belong to the executors of the entries it was given, one each, and
the executors of its tasks together with the free slots left are the free
slots given, each executor's entry, written back, loses one slot for each task
bound to it; and no executor got more tasks than the free slots of its entry
among those given. -/
theorem slotsOf_writeBack {taskSlots : TaskSlots} {executors : Option (List String)}
    {boundTo : List String} {slotsLeft : List AvailableTaskSlots}
    (kept : (slotsLeft.map AvailableTaskSlots.executorId).Perm
      ((availableSlots taskSlots.entries executors).map AvailableTaskSlots.executorId))
    (taken : (boundTo ++ slotUnits slotsLeft).Perm (slotUnits (availableSlots taskSlots.entries executors)))
    (executorId : String) :
    slotsOf (taskSlots.writeBack slotsLeft).entries executorId =
        (slotsOf taskSlots.entries executorId).map (· - boundTo.count executorId) ∧
      boundTo.count executorId ≤ (slotsOf (availableSlots taskSlots.entries executors) executorId).getD 0 := by
  have given := taskSlots.nodup_availableSlots executors
  have left : (slotsLeft.map AvailableTaskSlots.executorId).Nodup := kept.nodup_iff.mpr given
  -- the units of an executor: those of its tasks and those left are those given
  have counted : boundTo.count executorId + (slotsOf slotsLeft executorId).getD 0 =
      (slotsOf (availableSlots taskSlots.entries executors) executorId).getD 0 := by
    rw [getD_slotsOf_eq_count left, getD_slotsOf_eq_count given, ← taken.count_eq, List.count_append]
  rw [entries_writeBack, slotsOf_map_slots]
  dsimp only
  by_cases offered : executorId ∈ (availableSlots taskSlots.entries executors).map AvailableTaskSlots.executorId
  · -- the executor's entry was given to the binder: it holds what the binder left
    obtain ⟨slots, found⟩ := Option.ne_none_iff_exists'.mp (mt slotsOf_eq_none_iff.mp (not_not.mpr offered))
    obtain ⟨slotsAfter, foundLeft⟩ := Option.ne_none_iff_exists'.mp
      (mt slotsOf_eq_none_iff.mp (not_not.mpr (kept.mem_iff.mpr offered)))
    have atEntry := found
    rw [slotsOf_availableSlots taskSlots.distinct] at atEntry
    rw [found, foundLeft] at counted
    rw [(Option.filter_eq_some_iff.mp atEntry).1, foundLeft, found]
    simp only [Option.getD_some, Option.map_some] at counted ⊢
    exact ⟨congrArg some (by omega), by omega⟩
  · -- it was not: the binder left nothing of it, and bound no task to it
    have none : slotsOf slotsLeft executorId = none := slotsOf_eq_none_iff.mpr (mt kept.mem_iff.mp offered)
    have noneGiven := slotsOf_eq_none_iff.mpr offered
    rw [none, noneGiven] at counted
    simp only [Option.getD_none] at counted
    rw [noneGiven, none, show boundTo.count executorId = 0 by omega]
    simp

end TaskSlots

namespace InMemoryClusterState

/-- No executor yet. -/
def empty : InMemoryClusterState := ⟨TaskSlots.empty, [], []⟩

/-- One entry's turn in `get_topology_nodes`: when the entry is of an executor
asked for whose metadata is known, a node named by the executor's host and
port, with the entry's free slots and the time of the executor's last
heartbeat (0 when there is none), unless a node of that name was seen as late. -/
def addTopologyNode (state : InMemoryClusterState) (executors : Option (List String))
    (nodes : Table String (TopologyNode × Nat)) (slots : AvailableTaskSlots) :
    Table String (TopologyNode × Nat) :=
  if (executors.map fun executors => executors.contains slots.executorId).getD true then
    match state.executors.get? slots.executorId with
    | none => nodes
    | some executor =>
      let node : TopologyNode :=
        { id := slots.executorId, name := executor.host ++ ":" ++ toString executor.port,
          availableSlots := slots.slots }
      let lastSeenTs := ((state.heartbeats.get? slots.executorId).map ExecutorHeartbeat.timestamp).getD 0
      match nodes.get? node.name with
      | some (_, existingTs) =>
        if existingTs < lastSeenTs then nodes.insert node.name (node, lastSeenTs) else nodes
      | none => nodes.insert node.name (node, lastSeenTs)
  else nodes

/-- `get_topology_nodes`: the nodes of the entries, by name; of the entries at
one address, the node kept is the first of those last seen. -/
def getTopologyNodes (state : InMemoryClusterState) (executors : Option (List String)) :
    Table String (TopologyNode × Nat) :=
  state.taskSlots.entries.foldl (state.addTopologyNode executors) []

variable {Plan Key : Type} [LinearOrder Key]

/-- A binder's outcome on the state: its tasks and the jobs as it left them,
with the slots it left written back; a binder that does not return leaves the
slots as they were. -/
def bound (state : InMemoryClusterState)
    (ran : Except Fault (List (BoundTask Plan) × List AvailableTaskSlots × Table String (JobInfoCache Plan))) :
    Except Fault (List (BoundTask Plan) × Table String (JobInfoCache Plan)) × InMemoryClusterState :=
  match ran with
  | .error fault => (.error fault, state)
  | .ok (tasks, slotsLeft, jobs) =>
    (.ok (tasks, jobs), { state with taskSlots := state.taskSlots.writeBack slotsLeft })

/-- Binding writes the free slots only. -/
theorem executors_bound (state : InMemoryClusterState)
    (ran : Except Fault (List (BoundTask Plan) × List AvailableTaskSlots × Table String (JobInfoCache Plan))) :
    (state.bound ran).2.executors = state.executors := by
  unfold bound
  split <;> rfl

/-- `if_skip` of the round-robin pass of the consistent-hash policy: the stages
the consistent-hash binder takes, those whose scan files it can hash. -/
def scansOnce (getScanFiles : Plan → Except BallistaError (List (List (List PartitionedFile))))
    (plan : Plan) : Bool :=
  match getScanFiles plan with
  | .ok scanFiles => !isSkipConsistentHash scanFiles
  | .error _ => false

/-- **`bind_schedulable_tasks`** of `InMemoryClusterState`, with `get_scan_files`
and the hash function of the ring as parameters: the entries with a free slot,
of the executors asked for, go to the binder of the policy. The consistent-hash
policy first binds the stages it cannot hash round robin, then binds the others
over the ring of `get_topology_nodes` and writes the slots the ring's nodes were
left with to their executors' entries. The tasks bound, and the jobs as left. -/
def bindSchedulableTasks (getScanFiles : Plan → Except BallistaError (List (List (List PartitionedFile))))
    (hashFunc : String → Key) (distribution : TaskDistributionPolicy)
    (activeJobs : Table String (JobInfoCache Plan)) (executors : Option (List String))
    (state : InMemoryClusterState) :
    Except Fault (List (BoundTask Plan) × Table String (JobInfoCache Plan)) × InMemoryClusterState :=
  let available := availableSlots state.taskSlots.entries executors
  match distribution with
  | .bias => state.bound (bindTaskBias available activeJobs fun _ => false)
  | .roundRobin => state.bound (bindTaskRoundRobin available activeJobs fun _ => false)
  | .consistentHash numReplicas tolerance =>
    match bindTaskRoundRobin available activeJobs (scansOnce getScanFiles) with
    | .error fault => (.error fault, state)
    | .ok (tasks, slotsLeft, jobs) =>
      let state := { state with taskSlots := state.taskSlots.writeBack slotsLeft }
      match bindTaskConsistentHash ((state.getTopologyNodes executors).map fun entry => entry.2.1)
          numReplicas tolerance jobs (fun _ plan => getScanFiles plan) hashFunc with
      | .error fault => (.error fault, state)
      | .ok (hashTasks, chTopology, jobs) =>
        if hashTasks.isEmpty then (.ok (tasks, jobs), state)
        else
          match chTopology with
          | none => (.error (.panic "called `Option::unwrap()` on a `None` value"), state)
          | some chTopology =>
            (.ok (tasks ++ hashTasks, jobs),
              { state with
                taskSlots := chTopology.nodeReplicas.foldl
                  (fun taskSlots entry => taskSlots.setSlots entry.2.1.id entry.2.1.availableSlots)
                  state.taskSlots })

/-- **`unbind_tasks`**: the slots handed back, summed by executor, added to the
entries of the executors that have one. -/
def unbindTasks (state : InMemoryClusterState) (executorSlots : List ExecutorSlot) :
    InMemoryClusterState :=
  { state with taskSlots := state.taskSlots.unbind (aggregateIncrements executorSlots) }

/-- `save_executor_heartbeat`: the executor's last heartbeat replaced. -/
def saveExecutorHeartbeat (state : InMemoryClusterState) (executorId : String)
    (heartbeat : ExecutorHeartbeat) : InMemoryClusterState :=
  { state with heartbeats := state.heartbeats.insert executorId heartbeat }

/-- `save_executor_metadata`. -/
def saveExecutorMetadata (state : InMemoryClusterState) (executorId : String) (address : ExecutorAddress) :
    InMemoryClusterState :=
  { state with executors := state.executors.insert executorId address }

/-- **`register_executor`**: the executor's metadata saved, an active heartbeat
saved at the time of the call, and the executor's entry set to its free slots. -/
def registerExecutor (state : InMemoryClusterState) (executorId : String) (address : ExecutorAddress)
    (availableTaskSlots timestamp : Nat) : InMemoryClusterState :=
  let state := (state.saveExecutorMetadata executorId address).saveExecutorHeartbeat executorId
    ⟨timestamp, some .active⟩
  { state with taskSlots := state.taskSlots.register ⟨executorId, availableTaskSlots⟩ }

/-- **`remove_executor`**: the executor's entry and heartbeat dropped; its
metadata stays. -/
def removeExecutor (state : InMemoryClusterState) (executorId : String) : InMemoryClusterState :=
  { state with
    taskSlots := state.taskSlots.remove executorId
    heartbeats := state.heartbeats.erase executorId }

/-! ## Binding with the bias and the round-robin policy -/

section Binding

variable (getScanFiles : Plan → Except BallistaError (List (List (List PartitionedFile))))
  (hashFunc : String → Key)

/-- The round-robin binder starts staggered, counting the free slots it sorted. -/
theorem roundRobin_begins (slots : List AvailableTaskSlots) :
    Staggered (slots.insertionSort fun first second => second.slots ≤ first.slots) 0 ∧
      slots.foldl (fun acc slot => acc + slot.slots) 0 =
        (slotUnits (slots.insertionSort fun first second => second.slots ≤ first.slots)).length := by
  refine ⟨(descending_insertionSort slots).staggered, ?_⟩
  rw [foldl_slots_eq, Nat.zero_add]
  exact (slotUnits_perm (List.perm_insertionSort _ slots)).length_eq.symm

/-- The bias and round-robin binders return over formed graphs, having taken
slots, and leave the same jobs with formed graphs. -/
theorem exists_bindTask_takes (activeJobs : Table String (JobInfoCache Plan))
    (distinct : activeJobs.keys.Nodup) (formed : ∀ entry ∈ activeJobs, entry.2.executionGraph.Formed)
    (slots : List AvailableTaskSlots) :
    (∃ tasks slotsLeft jobsLeft, bindTaskBias slots activeJobs (fun _ => false) = .ok (tasks, slotsLeft, jobsLeft) ∧
      (slotsLeft.map AvailableTaskSlots.executorId).Perm (slots.map AvailableTaskSlots.executorId) ∧
      (tasks.map Prod.fst ++ slotUnits slotsLeft).Perm (slotUnits slots) ∧
      jobsLeft.keys = activeJobs.keys ∧ ∀ entry ∈ jobsLeft, entry.2.executionGraph.Formed) ∧
    (∃ tasks slotsLeft jobsLeft, bindTaskRoundRobin slots activeJobs (fun _ => false) = .ok (tasks, slotsLeft, jobsLeft) ∧
      (slotsLeft.map AvailableTaskSlots.executorId).Perm (slots.map AvailableTaskSlots.executorId) ∧
      (tasks.map Prod.fst ++ slotUnits slotsLeft).Perm (slotUnits slots) ∧
      jobsLeft.keys = activeJobs.keys ∧ ∀ entry ∈ jobsLeft, entry.2.executionGraph.Formed) := by
  obtain ⟨tasks, slotsLeft, jobsLeft, ran, binds⟩ :=
    bindWith_spec bindsPartitions_bias (fun slots => drained_zero _) slots activeJobs distinct formed
  obtain ⟨tasks', slotsLeft', jobsLeft', ran', binds'⟩ :=
    bindWith_spec bindsPartitions_roundRobin roundRobin_begins slots activeJobs distinct formed
  obtain ⟨kept, taken⟩ := bindWith_takes keepsSlots_bias ran
  obtain ⟨kept', taken'⟩ := bindWith_takes keepsSlots_roundRobin ran'
  exact ⟨⟨tasks, slotsLeft, jobsLeft, ran, kept, taken, binds.keys, binds.formed⟩,
    ⟨tasks', slotsLeft', jobsLeft', ran', kept', taken', binds'.keys, binds'.formed⟩⟩

/-- **`bind_schedulable_tasks` with the bias or the round-robin policy.** Over
active jobs with formed graphs, the call returns, and each executor's entry
loses one free slot for each task bound to it; those are no more than the free
slots of its entry when it is one the binder may use (it has a free slot and is
of an executor asked for), and none otherwise. -/
theorem bindSchedulableTasks_slotsOf {distribution : TaskDistributionPolicy}
    (simple : distribution = .bias ∨ distribution = .roundRobin) (activeJobs : Table String (JobInfoCache Plan))
    (distinct : activeJobs.keys.Nodup) (formed : ∀ entry ∈ activeJobs, entry.2.executionGraph.Formed)
    (executors : Option (List String)) (state : InMemoryClusterState) :
    ∃ tasks jobsLeft,
      (bindSchedulableTasks getScanFiles hashFunc distribution activeJobs executors state).1 = .ok (tasks, jobsLeft) ∧
      ∀ executorId,
        slotsOf (bindSchedulableTasks getScanFiles hashFunc distribution activeJobs executors state).2.taskSlots.entries
            executorId =
          (slotsOf state.taskSlots.entries executorId).map (· - (tasks.map Prod.fst).count executorId) ∧
        (tasks.map Prod.fst).count executorId ≤
          (slotsOf (availableSlots state.taskSlots.entries executors) executorId).getD 0 := by
  obtain ⟨⟨tasks, slotsLeft, jobsLeft, ran, kept, taken, -⟩, ⟨tasks', slotsLeft', jobsLeft', ran', kept', taken', -⟩⟩ :=
    exists_bindTask_takes activeJobs distinct formed (availableSlots state.taskSlots.entries executors)
  rcases simple with rfl | rfl
  · refine ⟨tasks, jobsLeft, by simp [bindSchedulableTasks, bound, ran], fun executorId => ?_⟩
    simpa [bindSchedulableTasks, bound, ran] using TaskSlots.slotsOf_writeBack kept taken executorId
  · refine ⟨tasks', jobsLeft', by simp [bindSchedulableTasks, bound, ran'], fun executorId => ?_⟩
    simpa [bindSchedulableTasks, bound, ran'] using TaskSlots.slotsOf_writeBack kept' taken' executorId

/-- With the bias or the round-robin policy over formed graphs, the call
leaves the same jobs, their graphs formed. -/
theorem bindSchedulableTasks_formed {distribution : TaskDistributionPolicy}
    (simple : distribution = .bias ∨ distribution = .roundRobin) (activeJobs : Table String (JobInfoCache Plan))
    (distinct : activeJobs.keys.Nodup) (formed : ∀ entry ∈ activeJobs, entry.2.executionGraph.Formed)
    (executors : Option (List String)) (state : InMemoryClusterState) :
    ∃ tasks jobsLeft,
      (bindSchedulableTasks getScanFiles hashFunc distribution activeJobs executors state).1 = .ok (tasks, jobsLeft) ∧
      jobsLeft.keys = activeJobs.keys ∧ ∀ entry ∈ jobsLeft, entry.2.executionGraph.Formed := by
  obtain ⟨⟨tasks, _, jobsLeft, ran, -, -, keys, formedLeft⟩, ⟨tasks', _, jobsLeft', ran', -, -, keys', formedLeft'⟩⟩ :=
    exists_bindTask_takes activeJobs distinct formed (availableSlots state.taskSlots.entries executors)
  rcases simple with rfl | rfl
  · exact ⟨tasks, jobsLeft, by simp [bindSchedulableTasks, bound, ran], keys, formedLeft⟩
  · exact ⟨tasks', jobsLeft', by simp [bindSchedulableTasks, bound, ran'], keys', formedLeft'⟩

end Binding

end InMemoryClusterState

/-- The graph of `forkJobs` is the one `ExecutionGraph::new` builds, so it is formed. -/
theorem forkJobs_formed : ∀ entry ∈ forkJobs, entry.2.executionGraph.Formed := by
  rintro entry (_ | ⟨_, ⟨⟩⟩)
  exact Reaches.formed_of_start (Relation.ReflTransGen.refl : Reaches RetryLimits.taskManager forkJob forkJob)

/-! ## Runs of calls -/

/-- A call on the in-memory cluster state. -/
inductive ClusterCall (Plan : Type) where
  | bindSchedulableTasks (distribution : TaskDistributionPolicy)
      (activeJobs : Table String (JobInfoCache Plan)) (executors : Option (List String))
  | unbindTasks (executorSlots : List ExecutorSlot)
  | registerExecutor (executorId : String) (address : ExecutorAddress) (availableTaskSlots timestamp : Nat)
  | removeExecutor (executorId : String)

/-- What a completed call did to the slots: what `Slots` accounts for, or the
removal of an executor's entry. A bind that failed bound nothing. -/
inductive ClusterEvent where
  | slots (event : SlotEvent)
  | removed (executorId : String)
  deriving DecidableEq, Repr

/-- An executor's count after one more completed call. -/
def accountClusterEvent (executorId : String) (count : Option Int) : ClusterEvent → Option Int
  | .slots event => accountEvent executorId count event
  | .removed removedId => if removedId = executorId then none else count

/-- The free slots the completed calls account for: the count of an executor's
last registration, less the tasks bound to it since, plus the slots returned
for it since; none before it registered or after it was removed. -/
def clusterAccountedSlots (history : List ClusterEvent) (executorId : String) : Option Int :=
  history.foldl (accountClusterEvent executorId) none

/-- The entries hold what the history accounts for. -/
def ClusterAccounted (state : InMemoryClusterState) (history : List ClusterEvent) : Prop :=
  ∀ executorId, (slotsOf state.taskSlots.entries executorId).map Nat.cast = clusterAccountedSlots history executorId

variable {Plan Key : Type} [LinearOrder Key]
  (getScanFiles : Plan → Except BallistaError (List (List (List PartitionedFile)))) (hashFunc : String → Key)

theorem clusterAccountedSlots_append_singleton (history : List ClusterEvent) (event : ClusterEvent)
    (executorId : String) :
    clusterAccountedSlots (history ++ [event]) executorId =
      accountClusterEvent executorId (clusterAccountedSlots history executorId) event := by
  simp [clusterAccountedSlots]

theorem clusterAccounted_empty : ClusterAccounted InMemoryClusterState.empty [] := fun _ => rfl

/-- Dropping an executor's entries leaves every other executor's. -/
theorem slotsOf_filter_ne (entries : List AvailableTaskSlots) (removed executorId : String) :
    slotsOf (entries.filter fun data => data.executorId ≠ removed) executorId =
      if removed = executorId then none else slotsOf entries executorId := by
  induction entries with
  | nil => simp
  | cons data rest ih =>
    rw [List.filter_cons, slotsOf_cons]
    by_cases dropped : data.executorId = removed
    · subst dropped
      by_cases same : data.executorId = executorId
      · simpa [same] using ih
      · simpa [same, Ne.symm same] using ih
    · simp only [ne_eq, dropped, not_false_eq_true, decide_true, if_true, slotsOf_cons, ih]
      by_cases same : executorId = data.executorId
      · subst same
        simp [Ne.symm dropped]
      · simp [same]

/-- A call the accounting covers: a bind with the bias or the round-robin
policy over active jobs keyed once each with formed graphs, or any other call. -/
def ClusterCall.Admissible : ClusterCall Plan → Prop
  | .bindSchedulableTasks distribution activeJobs _ =>
    (distribution = .bias ∨ distribution = .roundRobin) ∧ activeJobs.keys.Nodup ∧
      ∀ entry ∈ activeJobs, entry.2.executionGraph.Formed
  | _ => True

/-- The slots a call gives an executor: the count it registers the executor
with, or the slots it hands back for it. -/
def ClusterCall.slotsGiven (executorId : String) : ClusterCall Plan → Nat
  | .registerExecutor registeredId _ availableTaskSlots _ => if registeredId = executorId then availableTaskSlots else 0
  | .unbindTasks executorSlots => returnedSlots executorSlots executorId
  | _ => 0

/-- A call run on the state: the state it leaves and what it did to the slots. -/
def ClusterCall.apply (state : InMemoryClusterState) : ClusterCall Plan → InMemoryClusterState × ClusterEvent
  | .bindSchedulableTasks distribution activeJobs executors =>
    match state.bindSchedulableTasks getScanFiles hashFunc distribution activeJobs executors with
    | (.ok (tasks, _), state) => (state, .slots (.bound (tasks.map Prod.fst)))
    | (.error _, state) => (state, .slots (.bound []))
  | .unbindTasks executorSlots => (state.unbindTasks executorSlots, .slots (.returned executorSlots))
  | .registerExecutor executorId address availableTaskSlots timestamp =>
    (state.registerExecutor executorId address availableTaskSlots timestamp,
      .slots (.registered executorId availableTaskSlots))
  | .removeExecutor executorId => (state.removeExecutor executorId, .removed executorId)

/-- Calls run one after the other: the state they leave, and what each did. -/
def runCalls (state : InMemoryClusterState) : List (ClusterCall Plan) → InMemoryClusterState × List ClusterEvent
  | [] => (state, [])
  | call :: calls =>
    let (next, event) := call.apply getScanFiles hashFunc state
    let (final, events) := runCalls next calls
    (final, event :: events)

/-- No call raises an executor's entry by more than the slots it gives the executor. -/
theorem ClusterCall.getD_slotsOf_apply_le {call : ClusterCall Plan} (admissible : call.Admissible)
    (state : InMemoryClusterState) (executorId : String) :
    (slotsOf (call.apply getScanFiles hashFunc state).1.taskSlots.entries executorId).getD 0 ≤
      (slotsOf state.taskSlots.entries executorId).getD 0 + call.slotsGiven executorId := by
  cases call with
  | bindSchedulableTasks distribution activeJobs executors =>
    obtain ⟨simple, distinct, formed⟩ := admissible
    obtain ⟨tasks, jobsLeft, ran, slots⟩ :=
      state.bindSchedulableTasks_slotsOf getScanFiles hashFunc simple activeJobs distinct formed executors
    obtain ⟨slotsAfter, -⟩ := slots executorId
    simp only [ClusterCall.apply, ClusterCall.slotsGiven]
    generalize state.bindSchedulableTasks getScanFiles hashFunc distribution activeJobs executors = result
      at ran slotsAfter ⊢
    obtain ⟨outcome, next⟩ := result
    subst ran
    rw [slotsAfter]
    cases slotsOf state.taskSlots.entries executorId <;> simp
  | unbindTasks executorSlots =>
    have summed := aggregateIncrements_get? executorSlots executorId
    simp only [ClusterCall.apply, ClusterCall.slotsGiven, InMemoryClusterState.unbindTasks, TaskSlots.unbind,
      slotsOf_unbindSlots]
    -- a wrapped sum is no larger than the sum
    cases slotsOf state.taskSlots.entries executorId with
    | none => simp
    | some slots =>
      cases increment : (aggregateIncrements executorSlots).get? executorId with
      | none => simp
      | some added =>
        rw [increment, Option.getD_some] at summed
        simp only [Option.map_some, Option.getD_some]
        omega
  | registerExecutor registeredId address availableTaskSlots timestamp =>
    simp only [ClusterCall.apply, ClusterCall.slotsGiven, InMemoryClusterState.registerExecutor,
      InMemoryClusterState.saveExecutorHeartbeat, InMemoryClusterState.saveExecutorMetadata, TaskSlots.register]
    rw [slotsOf_registerSlots]
    by_cases same : executorId = registeredId
    · simp [same]
    · simp [same, Ne.symm same]
  | removeExecutor removedId =>
    simp only [ClusterCall.apply, ClusterCall.slotsGiven, InMemoryClusterState.removeExecutor, TaskSlots.remove,
      slotsOf_filter_ne]
    split <;> simp

/-- **Each call does what the accounting says** to the entries, from entries
that hold what the history accounts for, when the slots it gives keep every
entry below `2 ^ 32`. -/
theorem ClusterAccounted.apply {state : InMemoryClusterState} {history : List ClusterEvent}
    (accounted : ClusterAccounted state history) {call : ClusterCall Plan} (admissible : call.Admissible)
    (fits : ∀ executorId, (slotsOf state.taskSlots.entries executorId).getD 0 + call.slotsGiven executorId < 2 ^ 32) :
    ClusterAccounted (call.apply getScanFiles hashFunc state).1 (history ++ [(call.apply getScanFiles hashFunc state).2]) := by
  intro executorId
  rw [clusterAccountedSlots_append_singleton, ← accounted executorId]
  cases call with
  | bindSchedulableTasks distribution activeJobs executors =>
    obtain ⟨simple, distinct, formed⟩ := admissible
    obtain ⟨tasks, jobsLeft, ran, slots⟩ :=
      state.bindSchedulableTasks_slotsOf getScanFiles hashFunc simple activeJobs distinct formed executors
    obtain ⟨slotsAfter, fewer⟩ := slots executorId
    simp only [ClusterCall.apply]
    generalize state.bindSchedulableTasks getScanFiles hashFunc distribution activeJobs executors = result
      at ran slotsAfter ⊢
    obtain ⟨outcome, next⟩ := result
    subst ran
    simp only [accountClusterEvent, accountEvent, slotsAfter]
    -- the executor's entry gave up no more slots than it had
    cases found : slotsOf state.taskSlots.entries executorId with
    | none => rfl
    | some slots =>
      have within := fewer.trans (getD_slotsOf_availableSlots_le state.taskSlots.distinct executors executorId)
      rw [found, Option.getD_some] at within
      simp only [Option.map_some, Option.some.injEq]
      omega
  | unbindTasks executorSlots =>
    refine slotsOf_apply state.taskSlots.entries (.unbindTasks executorSlots) executorId fun slots found => ?_
    have within := fits executorId
    rw [found, Option.getD_some] at within
    exact within
  | registerExecutor registeredId address availableTaskSlots timestamp =>
    exact slotsOf_apply state.taskSlots.entries (.registerExecutor registeredId availableTaskSlots) executorId trivial
  | removeExecutor removedId =>
    simp only [ClusterCall.apply, accountClusterEvent, InMemoryClusterState.removeExecutor, TaskSlots.remove,
      slotsOf_filter_ne]
    split <;> rfl

/-- Calls run on entries that hold what the history accounts for keep them so,
their events appended, when each entry and the slots the calls give its
executor stay below `2 ^ 32` all added up. -/
theorem ClusterAccounted.runCalls {state : InMemoryClusterState} {history : List ClusterEvent}
    (accounted : ClusterAccounted state history) :
    ∀ (calls : List (ClusterCall Plan)), (∀ call ∈ calls, call.Admissible) →
      (∀ executorId, (slotsOf state.taskSlots.entries executorId).getD 0 +
        (calls.map (ClusterCall.slotsGiven executorId)).sum < 2 ^ 32) →
      ClusterAccounted (runCalls getScanFiles hashFunc state calls).1
        (history ++ (runCalls getScanFiles hashFunc state calls).2)
  | [], _, _ => by simpa [Cluster.runCalls] using accounted
  | call :: calls, admissible, headroom => by
    have now := admissible call List.mem_cons_self
    have first := accounted.apply getScanFiles hashFunc now fun executorId => by
      have within := headroom executorId
      rw [List.map_cons, List.sum_cons] at within
      omega
    -- the run goes on from the state the first call leaves, whose entries grew by no more than it gave
    have rest := first.runCalls calls (fun later mem => admissible later (List.mem_cons_of_mem call mem))
      fun executorId => by
        have within := headroom executorId
        have raised := ClusterCall.getD_slotsOf_apply_le getScanFiles hashFunc now state executorId
        rw [List.map_cons, List.sum_cons] at within
        omega
    simpa [Cluster.runCalls] using rest

/-- **The in-memory cluster state keeps the accounting over every run.** From no
executor, after any calls one after the other (binds with the bias or the
round-robin policy over active jobs with formed graphs, unbinds, registrations
and removals, in any order) in which the slots registered for and handed back
to each executor stay below `2 ^ 32` all added up, each executor's entry holds
the count of its last registration, less the tasks bound to it since, plus the
slots returned for it since; an executor that never registered or was removed
since has none. -/
theorem InMemoryClusterState.runCalls_accounted (calls : List (ClusterCall Plan))
    (admissible : ∀ call ∈ calls, call.Admissible)
    (fits : ∀ executorId, (calls.map (ClusterCall.slotsGiven executorId)).sum < 2 ^ 32) :
    ClusterAccounted (runCalls getScanFiles hashFunc InMemoryClusterState.empty calls).1
      (runCalls getScanFiles hashFunc InMemoryClusterState.empty calls).2 := by
  -- no executor has an entry to begin with
  have headroom : ∀ executorId, (slotsOf InMemoryClusterState.empty.taskSlots.entries executorId).getD 0 +
      (calls.map (ClusterCall.slotsGiven executorId)).sum < 2 ^ 32 := fun executorId =>
    (Nat.zero_add _).trans_lt (fits executorId)
  simpa using clusterAccounted_empty.runCalls getScanFiles hashFunc calls admissible headroom

/-- `executor-1` registers with two free slots, the job of `forkJobs` is bound
with the bias policy, one slot is handed back, and the executor is removed. -/
def registerBindUnbindRemove : List (ClusterCall ShapePlan) :=
  [.registerExecutor "executor-1" ⟨"localhost", 50051⟩ 2 0, .bindSchedulableTasks .bias forkJobs none,
    .unbindTasks [("executor-1", 1)], .removeExecutor "executor-1"]

theorem runCalls_accounted_registerBindUnbindRemove :
    (∀ call ∈ registerBindUnbindRemove, call.Admissible) ∧
      (∀ executorId, (registerBindUnbindRemove.map (ClusterCall.slotsGiven executorId)).sum < 2 ^ 32) ∧
      ClusterAccounted
        (runCalls (fun _ : ShapePlan => .ok []) String.length InMemoryClusterState.empty registerBindUnbindRemove).1
        (runCalls (fun _ : ShapePlan => .ok []) String.length InMemoryClusterState.empty registerBindUnbindRemove).2 := by
  have admissible : ∀ call ∈ registerBindUnbindRemove, call.Admissible := by
    intro call mem
    simp only [registerBindUnbindRemove, List.mem_cons, List.not_mem_nil, or_false] at mem
    rcases mem with rfl | rfl | rfl | rfl
    · trivial
    · exact ⟨.inl rfl, List.nodup_singleton _, forkJobs_formed⟩
    · trivial
    · trivial
  -- `executor-1` is given its two slots and one back; no other executor is given any
  have fits : ∀ executorId, (registerBindUnbindRemove.map (ClusterCall.slotsGiven executorId)).sum < 2 ^ 32 := by
    intro executorId
    by_cases same : "executor-1" = executorId <;>
      simp [registerBindUnbindRemove, ClusterCall.slotsGiven, returnedSlots, same]
  exact ⟨admissible, fits, InMemoryClusterState.runCalls_accounted _ _ registerBindUnbindRemove admissible fits⟩

end Cluster

end Ballista
