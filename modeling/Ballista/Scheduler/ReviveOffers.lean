import Ballista.Cluster.InMemory
import Ballista.Scheduler.TaskManager
import Ballista.Lib.Grouping

/-! # Offering the free slots to the waiting tasks

`revive_offers` of `SchedulerState` binds the waiting tasks of the running jobs
to the free slots of the alive executors (`ExecutorManager.bindSchedulableTasks`)
and launches them (`launch_tasks`): the bound tasks are put together by executor
and, for each executor, by stage (`executorStageAssignments`), and each
executor's stages are prepared by the task manager and sent to it. When an
executor's metadata cannot be found, or the launch to it fails, the slots of its
tasks are handed back as unassigned; `revive_offers` returns them to the cluster
state (`unbind_tasks`). An executor the launch failed to reach is removed.

Each executor is handed its own bound tasks, one group per stage
(`executorStageAssignments_get?`), and the slots handed back for an executor
are as many as the tasks bound to it (`launchTasks_spec`). So after
`revive_offers` each executor's entry holds its free slots less the tasks bound
to it; an executor whose tasks were handed back has its entry as before when
its metadata was missing, and none when the launch to it failed
(`reviveOffers_slotsOf`). The slots handed back are added to a `u32`, which
stays below `2 ^ 32` when the entries did.

The launches run in tasks of their own, spawned after `revive_offers` returns
and joined by `launch_tasks`; the model runs them in the order of the table,
each against the state the ones before left. Removing an executor also rolls
back its work in the active jobs (`executor_lost`): the event loop's handler
does that over the graphs (`SchedulerServer.reviveOffers`).
-/

namespace Ballista

open Cluster (InMemoryClusterState BoundTask TaskDistributionPolicy PartitionedFile ExecutorStatus)

variable {Plan Encoded : Type}

/-- The key `launch_tasks` groups an executor's tasks by: their job and stage. -/
def TaskDescription.stageKey (task : TaskDescription Plan) : String × Nat :=
  (task.partition.jobId, task.partition.stageId)

/-- `executor_stage_assignments` of `launch_tasks`: the bound tasks by executor
and, for each executor, by stage, each in the order first met. -/
def executorStageAssignments (boundTasks : List (BoundTask Plan)) :
    Table String (Table (String × Nat) (List (TaskDescription Plan))) :=
  Table.foldlUpsert Prod.fst []
    (fun stageTasks (bound : BoundTask Plan) => stageTasks.upsert bound.2.stageKey [] (· ++ [bound.2]))
    [] boundTasks

/-- An executor with a bound task is handed its tasks grouped by stage; one with
none gets no entry. -/
theorem executorStageAssignments_get? (boundTasks : List (BoundTask Plan)) (executorId : String) :
    (executorStageAssignments boundTasks).get? executorId =
      if ∃ bound ∈ boundTasks, bound.1 = executorId then
        some (Table.groupBy TaskDescription.stageKey
          ((boundTasks.filter fun bound => bound.1 = executorId).map Prod.snd))
      else none := by
  rw [executorStageAssignments, Table.get?_foldlUpsert_nil, Table.groupBy, Table.foldlUpsert_map]
  rfl

theorem keys_executorStageAssignments_nodup (boundTasks : List (BoundTask Plan)) :
    (executorStageAssignments boundTasks).keys.Nodup := by
  unfold executorStageAssignments
  refine Table.keys_foldlUpsert_nodup ?_ boundTasks
  exact List.nodup_nil

theorem mem_executorStageAssignments {boundTasks : List (BoundTask Plan)} {executorId : String}
    {stages : Table (String × Nat) (List (TaskDescription Plan))}
    (mem : (executorId, stages) ∈ executorStageAssignments boundTasks) :
    (∃ bound ∈ boundTasks, bound.1 = executorId) ∧
      stages = Table.groupBy TaskDescription.stageKey
        ((boundTasks.filter fun bound => bound.1 = executorId).map Prod.snd) := by
  have found := Table.get?_of_mem (keys_executorStageAssignments_nodup boundTasks) mem
  rw [executorStageAssignments_get?] at found
  split at found
  · rename_i met
    cases found
    exact ⟨met, rfl⟩
  · cases found

/-- An executor's tasks are as many as its bound tasks. -/
theorem count_map_fst {β : Type} (pairs : List (String × β)) (executorId : String) :
    (pairs.map Prod.fst).count executorId = (pairs.filter fun pair => pair.1 = executorId).length := by
  rw [List.count_eq_length_filter, List.filter_map, List.length_map]
  congr 2

/-- The groups of an executor hold, together, one task for each task bound to it. -/
theorem sum_length_executorStageAssignments {boundTasks : List (BoundTask Plan)} {executorId : String}
    {stages : Table (String × Nat) (List (TaskDescription Plan))}
    (mem : (executorId, stages) ∈ executorStageAssignments boundTasks) :
    ((stages.map Prod.snd).map List.length).sum = (boundTasks.map Prod.fst).count executorId := by
  rw [(mem_executorStageAssignments mem).2, ← List.length_flatten,
    (Table.flatten_groupBy_perm _ _).length_eq, List.length_map, count_map_fst]

/-- **`launch_tasks` hands each executor its own tasks, stage by stage.** An
executor has an entry exactly when a task is bound to it. The entry's stage
keys are distinct; each group holds one task at least, and is the tasks of its
job and stage bound to the executor, in the order bound; so the groups together
are the executor's tasks, each once. -/
theorem executorStageAssignments_spec (boundTasks : List (BoundTask Plan)) (executorId : String) :
    (executorId ∈ (executorStageAssignments boundTasks).keys ↔ executorId ∈ boundTasks.map Prod.fst) ∧
    ∀ stages, (executorStageAssignments boundTasks).get? executorId = some stages →
      stages.keys.Nodup ∧
      (∀ stage ∈ stages, stage.2 ≠ [] ∧
        stage.2 = ((boundTasks.filter fun bound => bound.1 = executorId).map Prod.snd).filter
          fun task => task.stageKey = stage.1) ∧
      (stages.map Prod.snd).flatten.Perm ((boundTasks.filter fun bound => bound.1 = executorId).map Prod.snd) := by
  constructor
  · rw [executorStageAssignments, Table.mem_keys_foldlUpsert, List.mem_map]
    simp [Table.keys]
  · intro stages found
    rw [executorStageAssignments_get?] at found
    split at found
    · cases found
      refine ⟨Table.keys_groupBy_nodup _ _, fun stage mem => ?_, Table.flatten_groupBy_perm _ _⟩
      obtain ⟨key, group⟩ := stage
      exact ⟨(Table.mem_groupBy mem).2, (Table.mem_groupBy mem).1⟩
    · cases found

/-- What `SchedulerState` holds that offering the slots reads and writes: the
cluster state of the executor manager, and the task manager's encoded stage
plans of the active jobs. -/
structure SchedulerState (Encoded : Type) where
  clusterState : InMemoryClusterState
  activeJobCache : ActiveJobCache Encoded

section Launch

variable (encode : Plan → Except BallistaError Encoded)
  (launcher : String → List (MultiTaskDefinition Encoded) → Except BallistaError Unit)

/-- The task `launch_tasks` spawns for one executor: the executor's metadata is
read, the task manager prepares its stages (`launch_multi_task`) and the
launcher sends the definitions prepared, if any; a failed launch removes the
executor. `true` when the tasks went out. -/
def launchExecutorTasks (executorId : String) (tasks : List (List (TaskDescription Plan)))
    (state : SchedulerState Encoded) : Bool × SchedulerState Encoded :=
  match state.clusterState.executors.get? executorId with
  | none => (false, state)
  | some _ =>
    let (prepared, activeJobCache) := (launchMultiTask encode tasks).exec state.activeJobCache
    let state := { state with activeJobCache := activeJobCache }
    let launched : Except BallistaError Unit :=
      match prepared with
      | .error e => .error e
      | .ok multiTasks => if multiTasks.isEmpty then .ok () else launcher executorId multiTasks
    match launched with
    | .ok () => (true, state)
    | .error _ => (false, { state with clusterState := state.clusterState.removeExecutor executorId })

/-- One executor's turn in `launch_tasks`: its stages launched, and its slots
handed back as unassigned, one for each of its tasks, when they did not go out. -/
def launchExecutorStages (launched : List ExecutorSlot × SchedulerState Encoded)
    (assignment : String × Table (String × Nat) (List (TaskDescription Plan))) :
    List ExecutorSlot × SchedulerState Encoded :=
  let (unassigned, state) := launched
  let (executorId, stageTasks) := assignment
  let tasks := stageTasks.map Prod.snd
  let nTasks := (tasks.map List.length).sum
  let (success, state) := launchExecutorTasks encode launcher executorId tasks state
  (if success then unassigned else unassigned ++ [(executorId, nTasks)], state)

/-- **`launch_tasks`**: the bound tasks go out executor by executor; the slots
of the executors whose tasks did not go out. -/
def launchTasks (boundTasks : List (BoundTask Plan)) (state : SchedulerState Encoded) :
    List ExecutorSlot × SchedulerState Encoded :=
  (executorStageAssignments boundTasks).foldl (launchExecutorStages encode launcher) ([], state)

/-- What one executor's launch does to the cluster state: when its tasks did
not go out though its metadata was found, the launch failed and removed it;
otherwise nothing. -/
theorem launchExecutorTasks_clusterState (executorId : String) (tasks : List (List (TaskDescription Plan)))
    (state : SchedulerState Encoded) :
    (launchExecutorTasks encode launcher executorId tasks state).2.clusterState =
      if !(launchExecutorTasks encode launcher executorId tasks state).1 &&
          state.clusterState.executors.contains executorId then
        state.clusterState.removeExecutor executorId
      else state.clusterState := by
  unfold launchExecutorTasks
  split
  · -- no metadata: nothing launched, nothing removed
    rename_i missing
    simp [Table.contains, missing]
  · rename_i address found
    have present : state.clusterState.executors.contains executorId = true := by simp [Table.contains, found]
    generalize (launchMultiTask encode tasks).exec state.activeJobCache = prepared
    obtain ⟨prepared, cache⟩ := prepared
    -- the launch fails when the stages cannot be prepared or the launcher errs
    rcases prepared with fault | multiTasks
    · simp [present]
    · by_cases empty : multiTasks.isEmpty
      · simp [empty]
      · cases sent : launcher executorId multiTasks with
        | ok _ => simp [empty, sent]
        | error fault => simp [empty, sent, present]

/-- A launch keeps the executors' metadata: removing an executor keeps it too. -/
theorem executors_launchExecutorTasks (executorId : String) (tasks : List (List (TaskDescription Plan)))
    (state : SchedulerState Encoded) :
    (launchExecutorTasks encode launcher executorId tasks state).2.clusterState.executors =
      state.clusterState.executors := by
  rw [launchExecutorTasks_clusterState]
  split <;> rfl

theorem launchExecutorStages_eq (unassigned : List ExecutorSlot) (state : SchedulerState Encoded)
    (assignment : String × Table (String × Nat) (List (TaskDescription Plan))) :
    launchExecutorStages encode launcher (unassigned, state) assignment =
      let launched := launchExecutorTasks encode launcher assignment.1 (assignment.2.map Prod.snd) state
      (if launched.1 then unassigned
        else unassigned ++ [(assignment.1, ((assignment.2.map Prod.snd).map List.length).sum)], launched.2) := rfl

/-- **The launches over any assignments, from any state.** The slots handed back
are those of some of the executors, in order, each with one slot for each of
its tasks; the cluster state is left with those of them whose metadata it had
removed, one after the other. -/
theorem foldl_launchExecutorStages :
    ∀ (assignments : List (String × Table (String × Nat) (List (TaskDescription Plan))))
      (unassigned : List ExecutorSlot) (state : SchedulerState Encoded),
      ∃ failed : List (String × Table (String × Nat) (List (TaskDescription Plan))),
        failed.Sublist assignments ∧
        (assignments.foldl (launchExecutorStages encode launcher) (unassigned, state)).1 =
          unassigned ++ failed.map (fun assignment =>
            (assignment.1, ((assignment.2.map Prod.snd).map List.length).sum)) ∧
        (assignments.foldl (launchExecutorStages encode launcher) (unassigned, state)).2.clusterState =
          ((failed.map Prod.fst).filter state.clusterState.executors.contains).foldl
            InMemoryClusterState.removeExecutor state.clusterState
  | [], unassigned, state => ⟨[], .slnil, by simp, rfl⟩
  | assignment :: rest, unassigned, state => by
    rw [List.foldl_cons, launchExecutorStages_eq]
    have effect := launchExecutorTasks_clusterState encode launcher assignment.1 (assignment.2.map Prod.snd) state
    have metadata := executors_launchExecutorTasks encode launcher assignment.1 (assignment.2.map Prod.snd) state
    generalize launchExecutorTasks encode launcher assignment.1 (assignment.2.map Prod.snd) state = launched
      at effect metadata ⊢
    obtain ⟨success, next⟩ := launched
    dsimp only at effect metadata ⊢
    -- the executors met later are looked up in the same metadata
    obtain ⟨failed, sub, slots, clusterState⟩ := foldl_launchExecutorStages rest
      (if success then unassigned else unassigned ++ [(assignment.1, ((assignment.2.map Prod.snd).map List.length).sum)])
      next
    rw [metadata] at clusterState
    cases success with
    | true =>
      -- the tasks went out: nothing handed back, and the cluster state is as it was
      refine ⟨failed, sub.cons assignment, by simpa using slots, ?_⟩
      simpa [effect] using clusterState
    | false =>
      -- handed back: removed first when its metadata was found
      refine ⟨assignment :: failed, sub.cons_cons assignment, by simpa using slots, ?_⟩
      rw [clusterState, effect, List.map_cons, List.filter_cons]
      by_cases found : state.clusterState.executors.contains assignment.1 <;> simp [found]

/-- Handing back slots, one entry per executor with one slot for each task
bound to it, returns to each such executor its tasks' slots. -/
theorem returnedSlots_eq_of_nodup {counts : String → Nat} :
    ∀ {slots : List ExecutorSlot}, (slots.map Prod.fst).Nodup → (∀ slot ∈ slots, slot.2 = counts slot.1) →
      ∀ executorId, returnedSlots slots executorId = if executorId ∈ slots.map Prod.fst then counts executorId else 0
  | [], _, _, executorId => by simp [returnedSlots]
  | slot :: rest, distinct, counted, executorId => by
    rw [List.map_cons, List.nodup_cons] at distinct
    have later := returnedSlots_eq_of_nodup distinct.2 (fun other mem => counted other (List.mem_cons_of_mem _ mem))
      executorId
    simp only [returnedSlots, List.filter_cons] at later ⊢
    by_cases same : slot.1 = executorId
    · -- the executor's only entry is the first
      subst same
      simp only [decide_true, if_true, List.foldr_cons, later, if_neg distinct.1, List.map_cons,
        List.mem_cons_self, counted slot List.mem_cons_self]
      rfl
    · simp only [same, decide_false, Bool.false_eq_true, if_false, later, List.map_cons, List.mem_cons,
        Ne.symm same, false_or]

/-- **`launch_tasks`**: the slots handed back are those of distinct executors
that were bound tasks, one for each task bound to the executor; the launches
leave the cluster state with those of them whose metadata it had removed. -/
theorem launchTasks_spec (boundTasks : List (BoundTask Plan)) (state : SchedulerState Encoded) :
    ((launchTasks encode launcher boundTasks state).1.map Prod.fst).Nodup ∧
      (∀ slot ∈ (launchTasks encode launcher boundTasks state).1,
        slot.1 ∈ boundTasks.map Prod.fst ∧ slot.2 = (boundTasks.map Prod.fst).count slot.1) ∧
      (launchTasks encode launcher boundTasks state).2.clusterState =
        (((launchTasks encode launcher boundTasks state).1.map Prod.fst).filter
          state.clusterState.executors.contains).foldl InMemoryClusterState.removeExecutor state.clusterState := by
  obtain ⟨failed, sub, slots, clusterState⟩ :=
    foldl_launchExecutorStages encode launcher (executorStageAssignments boundTasks) [] state
  rw [List.nil_append] at slots
  unfold launchTasks
  rw [slots, List.map_map]
  -- the executors handed back are keys of the assignments, so distinct
  have executors : failed.map ((fun slot : ExecutorSlot => slot.1) ∘ fun assignment =>
      (assignment.1, ((assignment.2.map Prod.snd).map List.length).sum)) = failed.map Prod.fst := rfl
  rw [executors]
  refine ⟨(keys_executorStageAssignments_nodup boundTasks).sublist (sub.map Prod.fst), ?_, clusterState⟩
  intro slot mem
  obtain ⟨⟨executorId, stages⟩, present, rfl⟩ := List.mem_map.mp mem
  have assigned := sub.subset present
  obtain ⟨⟨bound, boundMem, rfl⟩, -⟩ := mem_executorStageAssignments assigned
  exact ⟨List.mem_map_of_mem boundMem, sum_length_executorStageAssignments assigned⟩

end Launch

namespace ExecutorManager

/-- `get_alive_executors`: the executors whose last heartbeat reports them
active and came after the threshold. -/
def getAliveExecutors (clusterState : InMemoryClusterState) (lastSeenTsThreshold : Nat) : List String :=
  (clusterState.heartbeats.filter fun entry =>
    entry.2.status = some .active && lastSeenTsThreshold < entry.2.timestamp).map Prod.fst

variable {Key : Type} [LinearOrder Key]

/-- **`ExecutorManager::bind_schedulable_tasks`**: nothing is bound without an
active job or an alive executor; otherwise the cluster state binds to the alive
executors. -/
def bindSchedulableTasks (getScanFiles : Plan → Except BallistaError (List (List (List PartitionedFile))))
    (hashFunc : String → Key) (distribution : TaskDistributionPolicy)
    (activeJobs : Table String (Cluster.JobInfoCache Plan)) (lastSeenTsThreshold : Nat)
    (clusterState : InMemoryClusterState) :
    Except Fault (List (BoundTask Plan) × Table String (Cluster.JobInfoCache Plan)) × InMemoryClusterState :=
  if activeJobs.isEmpty then (.ok ([], activeJobs), clusterState)
  else
    let aliveExecutors := getAliveExecutors clusterState lastSeenTsThreshold
    if aliveExecutors.isEmpty then (.ok ([], activeJobs), clusterState)
    else clusterState.bindSchedulableTasks getScanFiles hashFunc distribution activeJobs (some aliveExecutors)

variable (getScanFiles : Plan → Except BallistaError (List (List (List PartitionedFile))))
  (hashFunc : String → Key)

/-- The executor manager's bind with the bias or the round-robin policy returns
over formed graphs, binding to alive executors only: each executor's entry
loses one free slot for each task bound to it, no more than the free slots of
its entry when it is alive. -/
theorem slotsOf_bindSchedulableTasks {distribution : TaskDistributionPolicy}
    (simple : distribution = .bias ∨ distribution = .roundRobin) (activeJobs : Table String (Cluster.JobInfoCache Plan))
    (distinct : activeJobs.keys.Nodup) (formed : ∀ entry ∈ activeJobs, entry.2.executionGraph.Formed)
    (lastSeenTsThreshold : Nat) (clusterState : InMemoryClusterState) :
    ∃ tasks jobsLeft,
      (bindSchedulableTasks getScanFiles hashFunc distribution activeJobs lastSeenTsThreshold clusterState).1 =
        .ok (tasks, jobsLeft) ∧
      ∀ executorId,
        slotsOf (bindSchedulableTasks getScanFiles hashFunc distribution activeJobs lastSeenTsThreshold
            clusterState).2.taskSlots.entries executorId =
          (slotsOf clusterState.taskSlots.entries executorId).map (· - (tasks.map Prod.fst).count executorId) ∧
        (tasks.map Prod.fst).count executorId ≤
          (slotsOf (availableSlots clusterState.taskSlots.entries
            (some (getAliveExecutors clusterState lastSeenTsThreshold))) executorId).getD 0 := by
  unfold bindSchedulableTasks
  split
  · exact ⟨[], activeJobs, rfl, fun executorId => by simp⟩
  · dsimp only
    split
    · exact ⟨[], activeJobs, rfl, fun executorId => by simp⟩
    · exact clusterState.bindSchedulableTasks_slotsOf getScanFiles hashFunc simple activeJobs distinct formed _

/-- The executor manager's bind with the bias or the round-robin policy writes
the free slots only. -/
theorem executors_bindSchedulableTasks {distribution : TaskDistributionPolicy}
    (simple : distribution = .bias ∨ distribution = .roundRobin) (activeJobs : Table String (Cluster.JobInfoCache Plan))
    (lastSeenTsThreshold : Nat) (clusterState : InMemoryClusterState) :
    (bindSchedulableTasks getScanFiles hashFunc distribution activeJobs lastSeenTsThreshold clusterState).2.executors =
      clusterState.executors := by
  unfold bindSchedulableTasks
  split
  · rfl
  · dsimp only
    split
    · rfl
    · rcases simple with rfl | rfl <;> exact clusterState.executors_bound _

end ExecutorManager

variable {Key : Type} [LinearOrder Key]
  (getScanFiles : Plan → Except BallistaError (List (List (List PartitionedFile)))) (hashFunc : String → Key)
  (encode : Plan → Except BallistaError Encoded)
  (launcher : String → List (MultiTaskDefinition Encoded) → Except BallistaError Unit)

/-- **`revive_offers`**: the schedulable tasks bound, launched when there are
any, and the unassigned slots handed back. -/
def SchedulerState.reviveOffers (distribution : TaskDistributionPolicy)
    (activeJobs : Table String (Cluster.JobInfoCache Plan)) (lastSeenTsThreshold : Nat)
    (state : SchedulerState Encoded) : Except Fault Unit × SchedulerState Encoded :=
  match ExecutorManager.bindSchedulableTasks getScanFiles hashFunc distribution activeJobs lastSeenTsThreshold
      state.clusterState with
  | (.error fault, clusterState) => (.error fault, { state with clusterState := clusterState })
  | (.ok (schedulableTasks, _), clusterState) =>
    let state := { state with clusterState := clusterState }
    if schedulableTasks.isEmpty then (.ok (), state)
    else
      let (unassigned, state) := launchTasks encode launcher schedulableTasks state
      if unassigned.isEmpty then (.ok (), state)
      else (.ok (), { state with clusterState := state.clusterState.unbindTasks unassigned })

/-- `unassigned_executor_slots` of `revive_offers`: what `launch_tasks` hands
back of the tasks the executor manager bound, one entry for each executor whose
tasks did not go out. -/
def SchedulerState.unassignedExecutorSlots (distribution : TaskDistributionPolicy)
    (activeJobs : Table String (Cluster.JobInfoCache Plan)) (lastSeenTsThreshold : Nat)
    (state : SchedulerState Encoded) (schedulableTasks : List (BoundTask Plan)) : List ExecutorSlot :=
  (launchTasks encode launcher schedulableTasks
    { state with
      clusterState := (ExecutorManager.bindSchedulableTasks getScanFiles hashFunc distribution activeJobs
        lastSeenTsThreshold state.clusterState).2 }).1

/-! ## The slots after `revive_offers` -/

/-- Slots handed back that keep an executor's entry below `2 ^ 32` are added to it. -/
theorem slotsOf_unbindTasks {clusterState : InMemoryClusterState} {executorSlots : List ExecutorSlot}
    {executorId : String}
    (fits : ∀ slots, slotsOf clusterState.taskSlots.entries executorId = some slots →
      slots + returnedSlots executorSlots executorId < 2 ^ 32) :
    slotsOf (clusterState.unbindTasks executorSlots).taskSlots.entries executorId =
      (slotsOf clusterState.taskSlots.entries executorId).map (· + returnedSlots executorSlots executorId) :=
  slotsOf_unbindSlots_of_fits fits

theorem slotsOf_foldl_removeExecutor (executorId : String) :
    ∀ (removed : List String) (clusterState : InMemoryClusterState),
      slotsOf (removed.foldl InMemoryClusterState.removeExecutor clusterState).taskSlots.entries executorId =
        if executorId ∈ removed then none else slotsOf clusterState.taskSlots.entries executorId
  | [], clusterState => by simp
  | first :: rest, clusterState => by
    rw [List.foldl_cons, slotsOf_foldl_removeExecutor executorId rest]
    simp only [InMemoryClusterState.removeExecutor, Cluster.TaskSlots.remove, Cluster.slotsOf_filter_ne,
      List.mem_cons]
    by_cases same : first = executorId
    · simp [same]
    · simp [same, Ne.symm same]

/-- Slots taken from an entry and given back leave it as it was. -/
theorem map_sub_add_of_le {count : Nat} {slots : Option Nat} (within : count ≤ slots.getD 0) :
    (slots.map (· - count)).map (· + count) = slots := by
  cases slots with
  | none => rfl
  | some slots =>
    rw [Option.getD_some] at within
    simp only [Option.map_some, Option.some.injEq]
    omega

/-- What `revive_offers` does to the slots, once the bind has returned: the
slots `launch_tasks` hands back are those of distinct executors that were bound
tasks, one for each task bound to the executor; those of them whose metadata
was found have no entry, and the slots handed back are added to the others'
entries as the bind left them, when that keeps them below `2 ^ 32`. -/
theorem reviveOffers_bound {distribution : TaskDistributionPolicy}
    {activeJobs : Table String (Cluster.JobInfoCache Plan)} {lastSeenTsThreshold : Nat} {state : SchedulerState Encoded}
    {tasks : List (BoundTask Plan)} {jobsLeft : Table String (Cluster.JobInfoCache Plan)}
    {bindState : InMemoryClusterState}
    (bound : ExecutorManager.bindSchedulableTasks getScanFiles hashFunc distribution activeJobs lastSeenTsThreshold
      state.clusterState = (.ok (tasks, jobsLeft), bindState))
    (fits : ∀ executorId slots, slotsOf bindState.taskSlots.entries executorId = some slots →
      slots + (tasks.map Prod.fst).count executorId < 2 ^ 32) :
    ((launchTasks encode launcher tasks { state with clusterState := bindState }).1.map Prod.fst).Nodup ∧
      (∀ slot ∈ (launchTasks encode launcher tasks { state with clusterState := bindState }).1,
        slot.1 ∈ tasks.map Prod.fst ∧ slot.2 = (tasks.map Prod.fst).count slot.1) ∧
      (state.reviveOffers getScanFiles hashFunc encode launcher distribution activeJobs lastSeenTsThreshold).1 = .ok () ∧
      ∀ executorId,
        slotsOf (state.reviveOffers getScanFiles hashFunc encode launcher distribution activeJobs
            lastSeenTsThreshold).2.clusterState.taskSlots.entries executorId =
          (slotsOf ((((launchTasks encode launcher tasks { state with clusterState := bindState }).1.map Prod.fst).filter
              bindState.executors.contains).foldl InMemoryClusterState.removeExecutor bindState).taskSlots.entries
              executorId).map
            (· + returnedSlots (launchTasks encode launcher tasks { state with clusterState := bindState }).1
              executorId) := by
  obtain ⟨distinct, counted, clusterState⟩ := launchTasks_spec encode launcher tasks { state with clusterState := bindState }
  unfold SchedulerState.reviveOffers
  rw [bound]
  dsimp only
  generalize launched : launchTasks encode launcher tasks { state with clusterState := bindState } = result
    at distinct counted clusterState ⊢
  obtain ⟨unassigned, launchedState⟩ := result
  dsimp only at distinct counted clusterState ⊢
  refine ⟨distinct, counted, ?_⟩
  -- each executor gets back no more than the tasks bound to it
  have handedBack : ∀ executorId, returnedSlots unassigned executorId ≤ (tasks.map Prod.fst).count executorId := by
    intro executorId
    rw [@returnedSlots_eq_of_nodup (fun executorId => (tasks.map Prod.fst).count executorId) unassigned distinct
      (fun slot mem => (counted slot mem).2) executorId]
    split <;> omega
  split
  · -- nothing bound: nothing launched
    rename_i none
    have nothing : unassigned = [] := by
      rw [List.isEmpty_iff.mp none] at launched
      exact (congrArg Prod.fst launched).symm
    subst nothing
    exact ⟨rfl, fun executorId => by simp [returnedSlots]⟩
  · refine ⟨?_, fun executorId => ?_⟩
    · split <;> rfl
    · split
      · -- every executor's tasks went out: nothing to hand back
        rename_i none
        obtain rfl := List.isEmpty_iff.mp none
        rw [clusterState]
        simp [returnedSlots]
      · refine (slotsOf_unbindTasks fun slots found => ?_).trans (by rw [clusterState])
        -- an entry the launches left is one the bind left
        rw [clusterState, slotsOf_foldl_removeExecutor] at found
        split at found
        · cases found
        · have within := fits executorId slots found
          have fewer := handedBack executorId
          omega

/-- **`revive_offers` with the bias or the round-robin policy.** Over active
jobs with formed graphs, from entries below `2 ^ 32`, the executor manager
binds tasks to alive executors, no more to each than its free slots, and
`revive_offers` returns. Afterwards an executor whose tasks were handed back
unassigned has no entry when its metadata was found (the launch to it failed
and removed it), and its entry as before otherwise; every other executor's
entry has lost one free slot for each task bound to it. Only executors that
were bound tasks are handed back. -/
theorem SchedulerState.reviveOffers_slotsOf {distribution : TaskDistributionPolicy}
    (simple : distribution = .bias ∨ distribution = .roundRobin)
    (activeJobs : Table String (Cluster.JobInfoCache Plan)) (distinct : activeJobs.keys.Nodup)
    (formed : ∀ entry ∈ activeJobs, entry.2.executionGraph.Formed) (lastSeenTsThreshold : Nat)
    (state : SchedulerState Encoded) (fits : ∀ data ∈ state.clusterState.taskSlots.entries, data.slots < 2 ^ 32) :
    ∃ (tasks : List (BoundTask Plan)) (jobsLeft : Table String (Cluster.JobInfoCache Plan)),
      (ExecutorManager.bindSchedulableTasks getScanFiles hashFunc distribution activeJobs lastSeenTsThreshold
        state.clusterState).1 = .ok (tasks, jobsLeft) ∧
      (state.reviveOffers getScanFiles hashFunc encode launcher distribution activeJobs lastSeenTsThreshold).1 = .ok () ∧
      (state.unassignedExecutorSlots getScanFiles hashFunc encode launcher distribution activeJobs lastSeenTsThreshold
        tasks).map Prod.fst ⊆ tasks.map Prod.fst ∧
      ∀ executorId,
        (tasks.map Prod.fst).count executorId ≤
          (slotsOf (availableSlots state.clusterState.taskSlots.entries
            (some (ExecutorManager.getAliveExecutors state.clusterState lastSeenTsThreshold))) executorId).getD 0 ∧
        slotsOf (state.reviveOffers getScanFiles hashFunc encode launcher distribution activeJobs
            lastSeenTsThreshold).2.clusterState.taskSlots.entries executorId =
          if executorId ∈ (state.unassignedExecutorSlots getScanFiles hashFunc encode launcher distribution activeJobs
              lastSeenTsThreshold tasks).map Prod.fst then
            if state.clusterState.executors.contains executorId then none
            else slotsOf state.clusterState.taskSlots.entries executorId
          else (slotsOf state.clusterState.taskSlots.entries executorId).map (· - (tasks.map Prod.fst).count executorId) := by
  obtain ⟨tasks, jobsLeft, bindRan, bindSlots⟩ := ExecutorManager.slotsOf_bindSchedulableTasks getScanFiles hashFunc
    simple activeJobs distinct formed lastSeenTsThreshold state.clusterState
  have metadata := ExecutorManager.executors_bindSchedulableTasks getScanFiles hashFunc simple activeJobs
    lastSeenTsThreshold state.clusterState
  -- the bind took no more from an entry than it had, so taken and given back it fits again
  have taken : ∀ executorId, (tasks.map Prod.fst).count executorId ≤
      (slotsOf state.clusterState.taskSlots.entries executorId).getD 0 := fun executorId =>
    (bindSlots executorId).2.trans
      (Cluster.getD_slotsOf_availableSlots_le state.clusterState.taskSlots.distinct _ executorId)
  have bindFits : ∀ executorId slots,
      slotsOf (ExecutorManager.bindSchedulableTasks getScanFiles hashFunc distribution activeJobs lastSeenTsThreshold
        state.clusterState).2.taskSlots.entries executorId = some slots →
      slots + (tasks.map Prod.fst).count executorId < 2 ^ 32 := by
    intro executorId slots found
    rw [(bindSlots executorId).1] at found
    obtain ⟨before, present, rfl⟩ := Option.map_eq_some_iff.mp found
    have within := taken executorId
    rw [present, Option.getD_some] at within
    have below : before < 2 ^ 32 := fits _ (mem_of_slotsOf_eq_some present)
    omega
  obtain ⟨unassignedDistinct, counted, returned, revived⟩ :=
    reviveOffers_bound getScanFiles hashFunc encode launcher (Prod.ext bindRan rfl) bindFits
  refine ⟨tasks, jobsLeft, bindRan, returned, fun executorId mem => ?_, fun executorId => ⟨(bindSlots executorId).2, ?_⟩⟩
  · obtain ⟨slot, present, rfl⟩ := List.mem_map.mp mem
    exact (counted slot present).1
  have handedBack := @returnedSlots_eq_of_nodup (fun executorId => (tasks.map Prod.fst).count executorId) _
    unassignedDistinct (fun slot mem => (counted slot mem).2) executorId
  rw [revived, slotsOf_foldl_removeExecutor, handedBack, (bindSlots executorId).1]
  simp only [SchedulerState.unassignedExecutorSlots, List.mem_filter, metadata]
  by_cases back : executorId ∈ (launchTasks encode launcher tasks
      { state with clusterState := (ExecutorManager.bindSchedulableTasks getScanFiles hashFunc distribution activeJobs
        lastSeenTsThreshold state.clusterState).2 }).1.map Prod.fst
  · by_cases found : state.clusterState.executors.contains executorId
    · -- the launch to it failed: removed
      simp [back, found]
    · -- its metadata was missing: its slots are back
      simp only [back, found, and_false, if_false, if_true, Bool.false_eq_true]
      exact map_sub_add_of_le (taken executorId)
  · simp [back, Function.comp_def]

/-- Two executors registered with an active heartbeat at time 10, and no stage
plan encoded yet. -/
def twoExecutorsScheduler : SchedulerState ShapePlan :=
  ⟨(InMemoryClusterState.empty.registerExecutor "executor-1" ⟨"localhost", 50051⟩ 2 10).registerExecutor
    "executor-2" ⟨"localhost", 50052⟩ 1 10, []⟩

/-- The launcher of `twoExecutorsScheduler`: `executor-2` cannot be reached. -/
def reachesExecutorOne (executorId : String) (_ : List (MultiTaskDefinition ShapePlan)) : Except BallistaError Unit :=
  if executorId = "executor-2" then .error (.internal "Failed to connect to executor executor-2") else .ok ()

theorem reviveOffers_slotsOf_forkJobs :
    (TaskDistributionPolicy.bias = .bias ∨ TaskDistributionPolicy.bias = .roundRobin) ∧
      Cluster.forkJobs.keys.Nodup ∧ (∀ entry ∈ Cluster.forkJobs, entry.2.executionGraph.Formed) ∧
      (∀ data ∈ twoExecutorsScheduler.clusterState.taskSlots.entries, data.slots < 2 ^ 32) ∧
      ∃ (tasks : List (BoundTask ShapePlan)) (jobsLeft : Table String (Cluster.JobInfoCache ShapePlan)),
        (ExecutorManager.bindSchedulableTasks (fun _ : ShapePlan => .ok []) String.length .bias
          Cluster.forkJobs 5 twoExecutorsScheduler.clusterState).1 = .ok (tasks, jobsLeft) ∧
        (twoExecutorsScheduler.reviveOffers (fun _ : ShapePlan => .ok []) String.length
          encodeShape reachesExecutorOne .bias Cluster.forkJobs 5).1 = .ok () ∧
        (twoExecutorsScheduler.unassignedExecutorSlots (fun _ : ShapePlan => .ok []) String.length
          encodeShape reachesExecutorOne .bias Cluster.forkJobs 5 tasks).map Prod.fst ⊆ tasks.map Prod.fst ∧
        ∀ executorId,
          (tasks.map Prod.fst).count executorId ≤
            (slotsOf (availableSlots twoExecutorsScheduler.clusterState.taskSlots.entries
              (some (ExecutorManager.getAliveExecutors twoExecutorsScheduler.clusterState 5))) executorId).getD 0 ∧
          slotsOf (twoExecutorsScheduler.reviveOffers (fun _ : ShapePlan => .ok []) String.length
              encodeShape reachesExecutorOne .bias Cluster.forkJobs 5).2.clusterState.taskSlots.entries
              executorId =
            if executorId ∈ (twoExecutorsScheduler.unassignedExecutorSlots (fun _ : ShapePlan => .ok [])
                String.length encodeShape reachesExecutorOne .bias Cluster.forkJobs 5 tasks).map Prod.fst then
              if twoExecutorsScheduler.clusterState.executors.contains executorId then none
              else slotsOf twoExecutorsScheduler.clusterState.taskSlots.entries executorId
            else (slotsOf twoExecutorsScheduler.clusterState.taskSlots.entries executorId).map
              (· - (tasks.map Prod.fst).count executorId) := by
  have fits : ∀ data ∈ twoExecutorsScheduler.clusterState.taskSlots.entries, data.slots < 2 ^ 32 := by decide
  exact ⟨.inl rfl, List.nodup_singleton _, Cluster.forkJobs_formed, fits,
    SchedulerState.reviveOffers_slotsOf (fun _ : ShapePlan => .ok []) String.length encodeShape
      reachesExecutorOne (.inl rfl) Cluster.forkJobs (List.nodup_singleton _) Cluster.forkJobs_formed 5
      twoExecutorsScheduler fits⟩

end Ballista

