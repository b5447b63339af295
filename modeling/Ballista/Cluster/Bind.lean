import Ballista.Scheduler.KeyedRuns
import Ballista.Cluster.Slots

/-! # The task binders

`bind_task_bias` and `bind_task_round_robin` hand the free slots of the
executors to the waiting tasks of the active jobs. Both sort the slots by free
slots, descending, walk the jobs whose status is running, and for each job ask
its graph for a running stage with a task waiting (`fetch_running_stage`,
which revives the resolved stages when there is none) until there is none;
the runnable partitions of each such stage, at most `total_slots` of them, are
bound to slots. They differ only in that loop over the partitions: the bias
binder fills the slot under its cursor before it moves on and returns when the
cursor runs off the slots, the round-robin binder moves its cursor on after
every task, back to the first slot when it is past the end or on an empty one,
and returns when no slot is left in total (`biasPartitions`,
`roundRobinPartitions`). Everything else is `bindWith`.

The tests of the graph drive it through `pop_next_task` instead. With a single
slot the round-robin binder does exactly what `pop_next_task` does, and the
bias binder too, except that after binding it asks for a stage once more, and
that request revives the resolved stages when no running stage has a task
left (`bindTask_singleSlot`, `biasRevives_run`).
-/

namespace Ballista

open ExceptT

variable {Plan : Type} [StagePlan Plan]

namespace ExecutionGraph

/-- The graph as a search for a running stage with a task waiting leaves it:
when there is none, the resolved stages are revived. -/
def reviveIdle (graph : ExecutionGraph Plan) : ExecutionGraph Plan :=
  match firstAvailableStage graph.stages with
  | some _ => graph
  | none => graph.revive.2

omit [StagePlan Plan] in
theorem reviveIdle_of_found {graph : ExecutionGraph Plan} {entry : Nat × RunningStage Plan}
    (found : firstAvailableStage graph.stages = some entry) : graph.reviveIdle = graph := by
  simp only [reviveIdle, found]

omit [StagePlan Plan] in
theorem reviveIdle_of_none {graph : ExecutionGraph Plan}
    (nothing : firstAvailableStage graph.stages = none) : graph.reviveIdle = graph.revive.2 := by
  simp only [reviveIdle, nothing]

omit [StagePlan Plan] in
theorem revive_of_resolvedStages_eq_nil {graph : ExecutionGraph Plan}
    (none : graph.resolvedStages = []) : graph.revive = (false, graph) := by
  simp [revive, none]

omit [StagePlan Plan] in
theorem revive_of_fst_eq_false {graph : ExecutionGraph Plan} (idle : graph.revive.1 = false) :
    graph.revive.2 = graph := by
  have none : graph.resolvedStages = [] := by simpa [revive] using idle
  rw [revive_of_resolvedStages_eq_nil none]

omit [StagePlan Plan] in
/-- After `revive` no stage is left resolved. -/
theorem WellKeyed.resolvedStages_revive {graph : ExecutionGraph Plan} (keyed : graph.WellKeyed) :
    graph.revive.2.resolvedStages = [] := by
  refine List.eq_nil_iff_forall_not_mem.mpr fun stage mem => ?_
  obtain ⟨stageId, entry⟩ := mem_resolvedStages.mp mem
  have found := Table.get?_of_mem keyed.revive.distinct entry
  rw [keyed.get?_revive_eq] at found
  obtain ⟨old, -, revived⟩ := Option.map_eq_some_iff.mp found
  cases old <;> simp [ExecutionStage.revived] at revived

omit [StagePlan Plan] in
theorem WellKeyed.revive_revive {graph : ExecutionGraph Plan} (keyed : graph.WellKeyed) :
    graph.revive.2.revive = (false, graph.revive.2) :=
  revive_of_resolvedStages_eq_nil keyed.resolvedStages_revive

omit [StagePlan Plan] in
theorem WellKeyed.reviveIdle {graph : ExecutionGraph Plan} (keyed : graph.WellKeyed) :
    graph.reviveIdle.WellKeyed := by
  unfold ExecutionGraph.reviveIdle
  split
  · exact keyed
  · exact keyed.revive

omit [StagePlan Plan] in
@[simp] theorem isFailed_reviveIdle (graph : ExecutionGraph Plan) :
    graph.reviveIdle.isFailed = graph.isFailed := by
  unfold reviveIdle
  split <;> rfl

end ExecutionGraph

open ExecutionGraph

/-! ## Finding a stage and a partition -/

omit [StagePlan Plan] in
theorem firstRunnableStage_nil (stages : Table Nat (ExecutionStage Plan)) :
    firstRunnableStage stages [] = (firstAvailableStage stages).map Prod.fst := by
  rw [firstRunnableStage, firstAvailableStage, List.map_findSome?]
  congr 1
  funext entry
  obtain ⟨stageId, stage⟩ := entry
  cases stage with
  | running stage =>
    by_cases waiting : 0 < stage.availableTasks
    · simp [waiting]
    · simp [waiting]
  | _ => simp

omit [StagePlan Plan] in
theorem availableTasks_pos_of_firstAvailableStage {stages : Table Nat (ExecutionStage Plan)}
    {stageId : Nat} {stage : RunningStage Plan}
    (found : firstAvailableStage stages = some (stageId, stage)) : 0 < stage.availableTasks := by
  unfold firstAvailableStage at found
  obtain ⟨⟨key, entryStage⟩, -, picked⟩ := List.exists_of_findSome?_eq_some found
  cases entryStage with
  | running running =>
    dsimp only at picked
    split at picked
    · cases picked
      assumption
    · cases picked
  | _ => cases picked

omit [StagePlan Plan] in
theorem exists_firstAvailablePartition {stage : RunningStage Plan} (waiting : 0 < stage.availableTasks) :
    ∃ partitionId, firstAvailablePartition stage.taskInfos = some partitionId := by
  obtain ⟨info, mem, none⟩ := List.countP_pos_iff.mp waiting
  exact Option.isSome_iff_exists.mp (List.findIdx?_isSome.trans (List.any_eq_true.mpr ⟨info, mem, none⟩))

/-! ## The two searches of the graph

With an empty black list, `get_running_stage_id` and `pop_next_task` look for
the same stage, and both revive the resolved stages when there is none; after
one `revive` a keyed graph has no resolved stage left, so the depth of their
recursion never matters. -/

omit [StagePlan Plan] in
theorem getRunningStageIdFrom_one {graph : ExecutionGraph Plan} (idle : graph.revive = (false, graph)) :
    (getRunningStageIdFrom [] 1).exec graph =
      (.ok ((firstAvailableStage graph.stages).map Prod.fst), graph) := by
  cases found : firstAvailableStage graph.stages with
  | some entry => simp [getRunningStageIdFrom, exec_bind, firstRunnableStage_nil, found]
  | none =>
    simp [getRunningStageIdFrom, exec_bind, exec_map, firstRunnableStage_nil, found, reviveM, idle]

omit [StagePlan Plan] in
/-- `get_running_stage_id` with an empty black list: the first running stage
with a task waiting, reviving the resolved stages when there is none. -/
theorem ExecutionGraph.WellKeyed.getRunningStageIdFrom_nil {graph : ExecutionGraph Plan}
    (keyed : graph.WellKeyed) :
    (getRunningStageIdFrom [] 2).exec graph =
      (.ok ((firstAvailableStage graph.reviveIdle.stages).map Prod.fst), graph.reviveIdle) := by
  cases found : firstAvailableStage graph.stages with
  | some entry =>
    rw [reviveIdle_of_found found]
    simp [getRunningStageIdFrom, exec_bind, firstRunnableStage_nil, found]
  | none =>
    rw [reviveIdle_of_none found, getRunningStageIdFrom]
    simp only [exec_bind, exec_get, firstRunnableStage_nil, found, reviveM, exec_modifyGet,
      Option.map_none]
    cases revived : graph.revive.1 with
    | true => simpa using getRunningStageIdFrom_one keyed.revive_revive
    | false => simp [revive_of_fst_eq_false revived, found]

omit [StagePlan Plan] in
theorem fetchRunningStage_of_isFailed {graph : ExecutionGraph Plan} (failed : graph.isFailed = true)
    (blackList : List Nat) : (fetchRunningStage blackList).exec graph = (.ok none, graph) := by
  simp [fetchRunningStage, exec_bind, failed]

omit [StagePlan Plan] in
/-- `fetch_running_stage` with an empty black list hands out the stage
`pop_next_task` would take a task of. -/
theorem ExecutionGraph.WellKeyed.fetchRunningStage_nil {graph : ExecutionGraph Plan} (keyed : graph.WellKeyed)
    (running : graph.isFailed = false) :
    (fetchRunningStage []).exec graph =
      (.ok ((firstAvailableStage graph.reviveIdle.stages).map Prod.snd), graph.reviveIdle) := by
  simp only [fetchRunningStage, exec_bind, exec_get, running, Bool.false_eq_true, if_false,
    keyed.getRunningStageIdFrom_nil]
  cases found : firstAvailableStage graph.reviveIdle.stages with
  | none => simp
  | some entry =>
    obtain ⟨stageId, stage⟩ := entry
    simp [exec_bind, keyed.reviveIdle.get?_of_firstAvailableStage found]

omit [StagePlan Plan] in
theorem popNextTaskFrom_of_none {graph : ExecutionGraph Plan} (running : graph.isFailed = false)
    (nothing : firstAvailableStage graph.stages = none) (executorId : String) (depth : Nat) :
    (popNextTaskFrom executorId (depth + 1)).exec graph =
      if graph.revive.1 then (popNextTaskFrom executorId depth).exec graph.revive.2
      else (.ok none, graph.revive.2) := by
  simp only [popNextTaskFrom, exec_bind, exec_get, running, Bool.false_eq_true, if_false, nothing,
    Option.isSome_none, exec_pure, reviveM, exec_modifyGet]
  split <;> rfl

namespace Cluster

open ExceptT ExecutionGraph

/-- `JobInfoCache`: an active job's graph, and the job status cached beside it. -/
structure JobInfoCache (Plan : Type) where
  executionGraph : ExecutionGraph Plan
  status : Option JobStatus.Status
  deriving DecidableEq

/-- `BoundTask`: a task and the executor it is bound to. -/
abbrev BoundTask (Plan : Type) := String × TaskDescription Plan

/-- The local state of a binder: the slots in their sorted order, the cursor
`idx_slot`, the count `total_slots`, and the tasks bound so far. -/
structure Binding (Plan : Type) where
  slots : List AvailableTaskSlots
  idxSlot : Nat
  totalSlots : Nat
  schedulableTasks : List (BoundTask Plan)
  deriving DecidableEq

/-- The runnable tasks of a fetched stage: its partitions with no task yet, in
order, at most `total_slots` of them. -/
def runnableTasks (stage : RunningStage Plan) (totalSlots : Nat) : List Nat :=
  ((stage.taskInfos.zipIdx.filter fun entry => entry.1.isNone).map Prod.snd).take totalSlots

/-- The body every binder runs for a runnable partition and the executor it goes
to: the next task id is drawn, the partition holds a task running on the
executor, and the task is described. The stage is the binder's handle on the
fetched stage, which writes through to the graph. -/
def bindPartition (jobId sessionId : String) (dataCache : Bool) (stage : RunningStage Plan)
    (partitionId : Nat) (executorId : String) :
    GraphM Plan (TaskDescription Plan × RunningStage Plan) := do
  let taskId := (← get).taskIdGen
  let stage := { stage with
    taskInfos := stage.taskInfos.set partitionId (some (createTaskInfo executorId taskId)) }
  modify fun graph => { graph.setStage stage.stageId (.running stage) with taskIdGen := taskId + 1 }
  let some taskAttempt := stage.taskFailureNumbers[partitionId]?
    | throw (.panic "index out of bounds")
  return ({ sessionId := sessionId,
            partition := { jobId := jobId, stageId := stage.stageId, partitionId := partitionId },
            stageAttemptNum := stage.stageAttemptNum, taskId := taskId, taskAttempt := taskAttempt,
            dataCache := dataCache, plan := stage.plan }, stage)

/-- `while slot.slots == 0 { idx_slot += 1; .. }`: the first slot from the
cursor on with a slot left, with its index, or `none` when the cursor runs off
the end. -/
def nextFreeSlot (slots : List AvailableTaskSlots) (idxSlot : Nat) :
    Option (AvailableTaskSlots × Nat) :=
  (slots.zipIdx.drop idxSlot).find? fun entry => entry.1.slots != 0

/-- The loop of `bind_task_bias` over the runnable partitions of a stage: the
partition goes to the first slot from the cursor on with a slot left, which
gives one up and stays under the cursor; `true` when the binder returns, the
cursor having run off the slots. -/
def biasPartitions (jobId sessionId : String) :
    RunningStage Plan → List Nat → Binding Plan → GraphM Plan (Bool × Binding Plan)
  | _, [], binding => return (false, binding)
  | stage, partitionId :: rest, binding =>
    match nextFreeSlot binding.slots binding.idxSlot with
    | none => return (true, binding)
    | some (slot, idxSlot) => do
      let (task, stage) ← bindPartition jobId sessionId false stage partitionId slot.executorId
      biasPartitions jobId sessionId stage rest
        { binding with
          slots := binding.slots.modify idxSlot fun slot => { slot with slots := slot.slots - 1 },
          idxSlot := idxSlot,
          schedulableTasks := binding.schedulableTasks ++ [(slot.executorId, task)] }

/-- The loop of `bind_task_round_robin` over the runnable partitions of a
stage: the cursor goes back to the first slot when it is past the end or on a
slot with none left, the partition goes to the slot under it, and the cursor
moves on; `true` when the binder returns, no slot being left in total. Taking
a slot from one with none left is the underflow of `u32`. -/
def roundRobinPartitions (jobId sessionId : String) :
    RunningStage Plan → List Nat → Binding Plan → GraphM Plan (Bool × Binding Plan)
  | _, [], binding => return (false, binding)
  | stage, partitionId :: rest, binding => do
    let idxSlot := if binding.slots.length ≤ binding.idxSlot then 0 else binding.idxSlot
    let some slot := binding.slots[idxSlot]? | throw (.panic "index out of bounds")
    let idxSlot := if slot.slots = 0 then 0 else idxSlot
    let some slot := binding.slots[idxSlot]? | throw (.panic "index out of bounds")
    let (task, stage) ← bindPartition jobId sessionId false stage partitionId slot.executorId
    if slot.slots = 0 then throw (.panic "attempt to subtract with overflow")
    else
      let binding := { binding with
        slots := binding.slots.set idxSlot { slot with slots := slot.slots - 1 },
        idxSlot := idxSlot + 1, totalSlots := binding.totalSlots - 1,
        schedulableTasks := binding.schedulableTasks ++ [(slot.executorId, task)] }
      if binding.totalSlots = 0 then return (true, binding)
      else roundRobinPartitions jobId sessionId stage rest binding

/-- What bounds the rounds of a binder over one job: each round but the last
black-lists a stage or binds at least one of the tasks the running stages have
waiting or the resolved stages will have once revived. -/
def bindRounds (graph : ExecutionGraph Plan) : Nat :=
  graph.stages.length + (graph.stages.map fun entry =>
    match entry.2 with
    | .resolved stage => stage.partitions
    | .running stage => stage.availableTasks
    | _ => 0).sum

/-- The loop both binders run over one job's stages, on fuel: each round
fetches a running stage outside the black list with a task waiting; a stage
`if_skip` picks is black-listed, and the runnable tasks of any other go
through the binder's loop over partitions. `true` when the binder returns. -/
def bindStagesFrom
    (partitions : RunningStage Plan → List Nat → Binding Plan → GraphM Plan (Bool × Binding Plan))
    (ifSkip : Plan → Bool) : Nat → List Nat → Binding Plan → GraphM Plan (Bool × Binding Plan)
  | 0, _, _ => throw .diverges
  | fuel + 1, blackList, binding => do
    match ← fetchRunningStage blackList with
    | none => return (false, binding)
    | some stage =>
      if ifSkip stage.plan then
        bindStagesFrom partitions ifSkip fuel (blackList ++ [stage.stageId]) binding
      else
        let (stopped, binding) ← partitions stage (runnableTasks stage binding.totalSlots) binding
        if stopped then return (true, binding)
        else bindStagesFrom partitions ifSkip fuel blackList binding

/-- The binders' loop over the active jobs, in the map's iteration order: a job
whose status is not running is skipped, and the stages of any other are bound
under its graph's write lock; `true` from a job's stages returns from the
binder. The jobs with their graphs as the binder leaves them. -/
def bindJobsWith {β : Type} (bindStages : String → ExecutionGraph Plan → β → GraphM Plan (Bool × β)) :
    Table String (JobInfoCache Plan) → β → Except Fault (β × Table String (JobInfoCache Plan))
  | [], binding => .ok (binding, [])
  | (jobId, jobInfo) :: rest, binding =>
    match jobInfo.status with
    | some (.running _) =>
      match (bindStages jobId jobInfo.executionGraph binding).exec jobInfo.executionGraph with
      | (.error fault, _) => .error fault
      | (.ok (true, binding), graph) =>
        .ok (binding, (jobId, { jobInfo with executionGraph := graph }) :: rest)
      | (.ok (false, binding), graph) =>
        (bindJobsWith bindStages rest binding).map fun (binding, rest) =>
          (binding, (jobId, { jobInfo with executionGraph := graph }) :: rest)
    | _ =>
      (bindJobsWith bindStages rest binding).map fun (binding, rest) =>
        (binding, (jobId, jobInfo) :: rest)

/-- The loop of the bias and round-robin binders over the jobs: each job's
stages from an empty black list. -/
def bindJobs
    (partitions : String → String → RunningStage Plan → List Nat → Binding Plan →
      GraphM Plan (Bool × Binding Plan))
    (ifSkip : Plan → Bool) :
    Table String (JobInfoCache Plan) → Binding Plan →
      Except Fault (Binding Plan × Table String (JobInfoCache Plan)) :=
  bindJobsWith fun jobId graph binding =>
    bindStagesFrom (partitions jobId graph.sessionId) ifSkip (bindRounds graph + 1) [] binding

/-- What both binders do: nothing when no slot is free; otherwise the slots,
sorted by free slots, descending, as the stable `sort_by` sorts them, go
through the jobs. The tasks bound, and the slots and jobs as left. -/
def bindWith
    (partitions : String → String → RunningStage Plan → List Nat → Binding Plan →
      GraphM Plan (Bool × Binding Plan))
    (slots : List AvailableTaskSlots) (activeJobs : Table String (JobInfoCache Plan))
    (ifSkip : Plan → Bool) :
    Except Fault (List (BoundTask Plan) × List AvailableTaskSlots × Table String (JobInfoCache Plan)) :=
  let totalSlots := slots.foldl (fun acc slot => acc + slot.slots) 0
  if totalSlots = 0 then .ok ([], slots, activeJobs)
  else
    (bindJobs partitions ifSkip activeJobs
      { slots := slots.insertionSort fun first second => second.slots ≤ first.slots,
        idxSlot := 0, totalSlots := totalSlots, schedulableTasks := [] }).map
      fun (binding, activeJobs) => (binding.schedulableTasks, binding.slots, activeJobs)

/-- **`bind_task_bias`.** -/
def bindTaskBias (slots : List AvailableTaskSlots) (activeJobs : Table String (JobInfoCache Plan))
    (ifSkip : Plan → Bool) :
    Except Fault (List (BoundTask Plan) × List AvailableTaskSlots × Table String (JobInfoCache Plan)) :=
  bindWith biasPartitions slots activeJobs ifSkip

/-- **`bind_task_round_robin`.** -/
def bindTaskRoundRobin (slots : List AvailableTaskSlots)
    (activeJobs : Table String (JobInfoCache Plan)) (ifSkip : Plan → Bool) :
    Except Fault (List (BoundTask Plan) × List AvailableTaskSlots × Table String (JobInfoCache Plan)) :=
  bindWith roundRobinPartitions slots activeJobs ifSkip

/-! ## One round of a binder -/

section Rounds

variable {partitions : RunningStage Plan → List Nat → Binding Plan → GraphM Plan (Bool × Binding Plan)}
  {ifSkip : Plan → Bool} {fuel : Nat} {blackList : List Nat} {binding : Binding Plan}
  {graph next : ExecutionGraph Plan}

omit [StagePlan Plan] in
/-- A round that fetches no stage ends the loop over the stages. -/
theorem bindStagesFrom_of_fetch_none (fetched : (fetchRunningStage blackList).exec graph = (.ok none, next)) :
    (bindStagesFrom partitions ifSkip (fuel + 1) blackList binding).exec graph =
      (.ok (false, binding), next) := by
  simp [bindStagesFrom, exec_bind, fetched]

omit [StagePlan Plan] in
/-- A round that fetches a stage `if_skip` keeps binds its runnable tasks, and
the loop goes on unless the binder returned. -/
theorem bindStagesFrom_of_fetch_some {stage : RunningStage Plan}
    (fetched : (fetchRunningStage blackList).exec graph = (.ok (some stage), next))
    (kept : ifSkip stage.plan = false) :
    (bindStagesFrom partitions ifSkip (fuel + 1) blackList binding).exec graph =
      match (partitions stage (runnableTasks stage binding.totalSlots) binding).exec next with
      | (.ok (true, binding), next) => (.ok (true, binding), next)
      | (.ok (false, binding), next) => (bindStagesFrom partitions ifSkip fuel blackList binding).exec next
      | (.error fault, next) => (.error fault, next) := by
  simp only [bindStagesFrom, exec_bind, fetched, kept, Bool.false_eq_true, if_false]
  rcases (partitions stage (runnableTasks stage binding.totalSlots) binding).exec next with
    ⟨_ | ⟨_ | _, _⟩, _⟩ <;> rfl

end Rounds

omit [StagePlan Plan] in
/-- A job on its own in the map: its stages are bound, and the binder stops there. -/
theorem bindJobsWith_singleton {β : Type}
    {bindStages : String → ExecutionGraph Plan → β → GraphM Plan (Bool × β)}
    {jobId scheduler : String} {jobInfo : JobInfoCache Plan}
    (running : jobInfo.status = some (.running scheduler)) (binding : β) :
    bindJobsWith bindStages [(jobId, jobInfo)] binding =
      match (bindStages jobId jobInfo.executionGraph binding).exec jobInfo.executionGraph with
      | (.ok (_, binding), graph) => .ok (binding, [(jobId, { jobInfo with executionGraph := graph })])
      | (.error fault, _) => .error fault := by
  simp only [bindJobsWith, running]
  rcases (bindStages jobId jobInfo.executionGraph binding).exec jobInfo.executionGraph with
    ⟨_ | ⟨_ | _, _⟩, _⟩ <;> rfl

/-! ## A single slot against `pop_next_task` -/

theorem head?_map_snd_filter_zipIdx {α : Type} (p : α → Bool) (items : List α) (start : Nat) :
    (((items.zipIdx start).filter fun entry => p entry.1).map Prod.snd).head? =
      (items.findIdx? p).map (· + start) := by
  induction items generalizing start with
  | nil => rfl
  | cons item rest ih =>
    rw [List.zipIdx_cons, List.filter_cons, List.findIdx?_cons]
    by_cases hit : p item
    · simp [hit]
    · simp [hit, ih, Option.map_map, Function.comp_def, Nat.add_assoc, Nat.add_comm 1]

omit [StagePlan Plan] in
/-- With one slot the runnable tasks are the first waiting partition. -/
theorem runnableTasks_one (stage : RunningStage Plan) :
    runnableTasks stage 1 = (firstAvailablePartition stage.taskInfos).toList := by
  rw [runnableTasks, List.take_one, head?_map_snd_filter_zipIdx]
  simp [firstAvailablePartition]

omit [StagePlan Plan] in
/-- The graph a bound partition leaves. -/
theorem bindPartition_graph (jobId sessionId : String) (dataCache : Bool) (stage : RunningStage Plan)
    (partitionId : Nat) (executorId : String) (graph : ExecutionGraph Plan) :
    ((bindPartition jobId sessionId dataCache stage partitionId executorId).exec graph).2 =
      { graph.setStage stage.stageId (.running { stage with
          taskInfos := stage.taskInfos.set partitionId (some (createTaskInfo executorId graph.taskIdGen)) })
        with taskIdGen := graph.taskIdGen + 1 } := by
  simp only [bindPartition, exec_bind, exec_get, exec_modify]
  split <;> rfl

omit [StagePlan Plan] in
theorem wellKeyed_bindPartition {graph : ExecutionGraph Plan} (keyed : graph.WellKeyed)
    (jobId sessionId : String) (dataCache : Bool) (stage : RunningStage Plan) (partitionId : Nat)
    (executorId : String) :
    ((bindPartition jobId sessionId dataCache stage partitionId executorId).exec graph).2.WellKeyed := by
  rw [bindPartition_graph]
  have written := keyed.setStage_self (show (ExecutionStage.running { stage with
    taskInfos := stage.taskInfos.set partitionId (some (createTaskInfo executorId graph.taskIdGen)) }).stageId =
      stage.stageId from rfl)
  exact written.of_stages rfl

omit [StagePlan Plan] in
theorem isFailed_bindPartition (jobId sessionId : String) (dataCache : Bool)
    (stage : RunningStage Plan) (partitionId : Nat) (executorId : String) (graph : ExecutionGraph Plan) :
    ((bindPartition jobId sessionId dataCache stage partitionId executorId).exec graph).2.isFailed =
      graph.isFailed := by
  rw [bindPartition_graph]
  rfl

omit [StagePlan Plan] in
/-- `pop_next_task` takes the task a binder binds to the same partition, under
the task id it draws first. -/
theorem takeNextTask_eq_bindPartition {graph : ExecutionGraph Plan} (keyed : graph.WellKeyed)
    {stageId partitionId : Nat} {stage : RunningStage Plan}
    (found : firstAvailableStage graph.stages = some (stageId, stage))
    (partition : firstAvailablePartition stage.taskInfos = some partitionId) (executorId : String) :
    (takeNextTask executorId graph.taskIdGen).exec { graph with taskIdGen := graph.taskIdGen + 1 } =
      match (bindPartition graph.jobId graph.sessionId false stage partitionId executorId).exec graph with
      | (.ok (task, _), next) => (.ok (some task), next)
      | (.error fault, _) => (.error fault, { graph with taskIdGen := graph.taskIdGen + 1 }) := by
  have atKey : stage.stageId = stageId := keyed.keyed _ (mem_of_firstAvailableStage found)
  subst atKey
  cases attempt : stage.taskFailureNumbers[partitionId]? with
  | none => simp [takeNextTask, bindPartition, exec_bind, found, partition, attempt]
  | some taskAttempt =>
    simp [takeNextTask, bindPartition, exec_bind, exec_map, found, partition, attempt,
      ExecutionGraph.setStage]

omit [StagePlan Plan] in
theorem popNextTaskFrom_of_found {graph : ExecutionGraph Plan}
    (keyed : graph.WellKeyed) (running : graph.isFailed = false) {stageId partitionId : Nat}
    {stage : RunningStage Plan} (found : firstAvailableStage graph.stages = some (stageId, stage))
    (partition : firstAvailablePartition stage.taskInfos = some partitionId) (executorId : String)
    (depth : Nat) :
    (popNextTaskFrom executorId (depth + 1)).exec graph =
      match (bindPartition graph.jobId graph.sessionId false stage partitionId executorId).exec graph with
      | (.ok (task, _), next) => (.ok (some task), next)
      | (.error fault, _) => (.error fault, { graph with taskIdGen := graph.taskIdGen + 1 }) := by
  simp only [popNextTaskFrom, exec_bind, exec_get, running, Bool.false_eq_true, if_false, found,
    Option.isSome_some, if_true, exec_modify]
  rw [takeNextTask_eq_bindPartition keyed found partition]
  rcases (bindPartition graph.jobId graph.sessionId false stage partitionId executorId).exec graph with
    ⟨_ | ⟨task, _⟩, next⟩ <;> rfl

omit [StagePlan Plan] in
theorem popNextTask_of_isFailed {graph : ExecutionGraph Plan} (failed : graph.isFailed = true)
    (executorId : String) : (popNextTask executorId).exec graph = (.ok none, graph) := by
  simp [popNextTask, popNextTaskFrom, exec_bind, failed]

omit [StagePlan Plan] in
/-- `pop_next_task` binds the partition a binder would, in the graph the search
for a stage leaves. -/
theorem popNextTask_of_found {graph : ExecutionGraph Plan} (keyed : graph.WellKeyed)
    (running : graph.isFailed = false) {stageId partitionId : Nat} {stage : RunningStage Plan}
    (found : firstAvailableStage graph.reviveIdle.stages = some (stageId, stage))
    (partition : firstAvailablePartition stage.taskInfos = some partitionId) (executorId : String) :
    (popNextTask executorId).exec graph =
      match (bindPartition graph.jobId graph.sessionId false stage partitionId executorId).exec
          graph.reviveIdle with
      | (.ok (task, _), next) => (.ok (some task), next)
      | (.error fault, _) =>
        (.error fault, { graph.reviveIdle with taskIdGen := graph.reviveIdle.taskIdGen + 1 }) := by
  cases first : firstAvailableStage graph.stages with
  | some entry =>
    rw [reviveIdle_of_found first] at found ⊢
    exact popNextTaskFrom_of_found keyed running found partition executorId 1
  | none =>
    rw [reviveIdle_of_none first] at found ⊢
    -- a search that finds a stage only after `revive` revived one
    have revived : graph.revive.1 = true := by
      cases idle : graph.revive.1 with
      | true => rfl
      | false =>
        rw [revive_of_fst_eq_false idle, first] at found
        cases found
    rw [popNextTask, popNextTaskFrom_of_none running first, if_pos revived]
    exact popNextTaskFrom_of_found keyed.revive running found partition executorId 0

omit [StagePlan Plan] in
theorem popNextTask_of_none {graph : ExecutionGraph Plan} (keyed : graph.WellKeyed)
    (running : graph.isFailed = false) (nothing : firstAvailableStage graph.reviveIdle.stages = none)
    (executorId : String) : (popNextTask executorId).exec graph = (.ok none, graph.reviveIdle) := by
  cases first : firstAvailableStage graph.stages with
  | some entry =>
    rw [reviveIdle_of_found first, first] at nothing
    cases nothing
  | none =>
    rw [reviveIdle_of_none first] at nothing ⊢
    rw [popNextTask, popNextTaskFrom_of_none running first]
    cases revived : graph.revive.1 with
    | false => rfl
    | true =>
      rw [if_pos rfl,
        popNextTaskFrom_of_none (show graph.revive.2.isFailed = false from running) nothing,
        keyed.revive_revive]
      rfl

omit [StagePlan Plan] in
theorem roundRobinPartitions_singleSlot (jobId sessionId : String) (stage : RunningStage Plan)
    (partitionId : Nat) (executorId : String) (graph : ExecutionGraph Plan) :
    (roundRobinPartitions jobId sessionId stage [partitionId] ⟨[⟨executorId, 1⟩], 0, 1, []⟩).exec graph =
      match (bindPartition jobId sessionId false stage partitionId executorId).exec graph with
      | (.ok (task, _), next) => (.ok (true, ⟨[⟨executorId, 0⟩], 1, 0, [(executorId, task)]⟩), next)
      | (.error fault, next) => (.error fault, next) := by
  simp [roundRobinPartitions, exec_map]
  rcases (bindPartition jobId sessionId false stage partitionId executorId).exec graph with
    ⟨_ | ⟨task, _⟩, next⟩ <;> rfl

omit [StagePlan Plan] in
theorem biasPartitions_singleSlot (jobId sessionId : String) (stage : RunningStage Plan)
    (partitionId : Nat) (executorId : String) (graph : ExecutionGraph Plan) :
    (biasPartitions jobId sessionId stage [partitionId] ⟨[⟨executorId, 1⟩], 0, 1, []⟩).exec graph =
      match (bindPartition jobId sessionId false stage partitionId executorId).exec graph with
      | (.ok (task, _), next) => (.ok (false, ⟨[⟨executorId, 0⟩], 0, 1, [(executorId, task)]⟩), next)
      | (.error fault, next) => (.error fault, next) := by
  have free : nextFreeSlot [⟨executorId, 1⟩] 0 = some (⟨executorId, 1⟩, 0) := rfl
  simp [biasPartitions, free, exec_map]
  rcases (bindPartition jobId sessionId false stage partitionId executorId).exec graph with
    ⟨_ | ⟨task, _⟩, next⟩ <;> rfl

omit [StagePlan Plan] in
/-- The bias binder returns at a partition once its cursor has no slot left to find. -/
theorem biasPartitions_of_nextFreeSlot_eq_none {binding : Binding Plan}
    (exhausted : nextFreeSlot binding.slots binding.idxSlot = none) (jobId sessionId : String)
    (stage : RunningStage Plan) (partitionId : Nat) (rest : List Nat) (graph : ExecutionGraph Plan) :
    (biasPartitions jobId sessionId stage (partitionId :: rest) binding).exec graph =
      (.ok (true, binding), graph) := by
  simp [biasPartitions, exhausted]

omit [StagePlan Plan] in
theorem bindWith_singleSlot
    (partitions : String → String → RunningStage Plan → List Nat → Binding Plan →
      GraphM Plan (Bool × Binding Plan))
    (executorId : String) (activeJobs : Table String (JobInfoCache Plan)) (ifSkip : Plan → Bool) :
    bindWith partitions [⟨executorId, 1⟩] activeJobs ifSkip =
      (bindJobs partitions ifSkip activeJobs ⟨[⟨executorId, 1⟩], 0, 1, []⟩).map
        fun (binding, activeJobs) => (binding.schedulableTasks, binding.slots, activeJobs) := rfl

omit [StagePlan Plan] in
/-- A job with a stage to fetch gives its binder at least two rounds. -/
theorem bindRounds_pos {graph : ExecutionGraph Plan} {entry : Nat × RunningStage Plan}
    (found : firstAvailableStage graph.reviveIdle.stages = some entry) : 0 < bindRounds graph := by
  have nonempty : graph.stages ≠ [] := by
    intro empty
    simp [reviveIdle, revive, resolvedStages, firstAvailableStage, empty] at found
  have := List.length_pos_iff.mpr nonempty
  unfold bindRounds
  omega

omit [StagePlan Plan] in
/-- With a single slot, `bind_task_round_robin` binds what `pop_next_task` pops
and leaves the graph as `pop_next_task` leaves it. -/
theorem bindTaskRoundRobin_singleSlot {graph : ExecutionGraph Plan} (keyed : graph.WellKeyed)
    (executorId scheduler : String) :
    bindTaskRoundRobin [⟨executorId, 1⟩] [(graph.jobId, ⟨graph, some (.running scheduler)⟩)]
        (fun _ => false) =
      ((popNextTask executorId).exec graph).1.map fun task =>
        (task.toList.map (executorId, ·), [⟨executorId, if task.isSome then 0 else 1⟩],
          [(graph.jobId, ⟨((popNextTask executorId).exec graph).2, some (.running scheduler)⟩)]) := by
  rw [bindTaskRoundRobin, bindWith_singleSlot, bindJobs, bindJobsWith_singleton rfl]
  dsimp only
  cases failed : graph.isFailed with
  | true =>
    rw [bindStagesFrom_of_fetch_none (fetchRunningStage_of_isFailed failed []),
      popNextTask_of_isFailed failed]
    rfl
  | false =>
    have fetched := keyed.fetchRunningStage_nil failed
    cases found : firstAvailableStage graph.reviveIdle.stages with
    | none =>
      rw [found] at fetched
      rw [bindStagesFrom_of_fetch_none fetched, popNextTask_of_none keyed failed found]
      rfl
    | some entry =>
      obtain ⟨stageId, stage⟩ := entry
      rw [found] at fetched
      obtain ⟨partitionId, partition⟩ :=
        exists_firstAvailablePartition (availableTasks_pos_of_firstAvailableStage found)
      rw [bindStagesFrom_of_fetch_some fetched rfl]
      simp only [runnableTasks_one, partition, Option.toList_some]
      rw [roundRobinPartitions_singleSlot, popNextTask_of_found keyed failed found partition]
      rcases (bindPartition graph.jobId graph.sessionId false stage partitionId executorId).exec
          graph.reviveIdle with ⟨_ | ⟨task, _⟩, next⟩ <;> rfl

omit [StagePlan Plan] in
/-- With a single slot, `bind_task_bias` binds what `pop_next_task` pops; having
bound it, it fetches a stage once more, which revives the resolved stages when
no running stage has a task left. -/
theorem bindTaskBias_singleSlot {graph : ExecutionGraph Plan} (keyed : graph.WellKeyed)
    (executorId scheduler : String) :
    bindTaskBias [⟨executorId, 1⟩] [(graph.jobId, ⟨graph, some (.running scheduler)⟩)]
        (fun _ => false) =
      ((popNextTask executorId).exec graph).1.map fun task =>
        (task.toList.map (executorId, ·), [⟨executorId, if task.isSome then 0 else 1⟩],
          [(graph.jobId, ⟨if task.isSome then ((popNextTask executorId).exec graph).2.reviveIdle
            else ((popNextTask executorId).exec graph).2, some (.running scheduler)⟩)]) := by
  rw [bindTaskBias, bindWith_singleSlot, bindJobs, bindJobsWith_singleton rfl]
  dsimp only
  cases failed : graph.isFailed with
  | true =>
    rw [bindStagesFrom_of_fetch_none (fetchRunningStage_of_isFailed failed []),
      popNextTask_of_isFailed failed]
    rfl
  | false =>
    have fetched := keyed.fetchRunningStage_nil failed
    cases found : firstAvailableStage graph.reviveIdle.stages with
    | none =>
      rw [found] at fetched
      rw [bindStagesFrom_of_fetch_none fetched, popNextTask_of_none keyed failed found]
      rfl
    | some entry =>
      obtain ⟨stageId, stage⟩ := entry
      rw [found] at fetched
      obtain ⟨partitionId, partition⟩ :=
        exists_firstAvailablePartition (availableTasks_pos_of_firstAvailableStage found)
      obtain ⟨rounds, more⟩ := Nat.exists_eq_add_one_of_ne_zero (bindRounds_pos found).ne'
      rw [more, bindStagesFrom_of_fetch_some fetched rfl]
      simp only [runnableTasks_one, partition, Option.toList_some]
      rw [biasPartitions_singleSlot, popNextTask_of_found keyed failed found partition]
      have nextKeyed := wellKeyed_bindPartition keyed.reviveIdle graph.jobId graph.sessionId false stage
        partitionId executorId
      have nextFailed := isFailed_bindPartition graph.jobId graph.sessionId false stage partitionId
        executorId graph.reviveIdle
      rcases bound : (bindPartition graph.jobId graph.sessionId false stage partitionId executorId).exec
          graph.reviveIdle with ⟨_ | ⟨task, _⟩, next⟩
      · rfl
      -- the second round fetches from the graph the bound task left
      rw [bound] at nextKeyed nextFailed
      rw [isFailed_reviveIdle, failed] at nextFailed
      have again := nextKeyed.fetchRunningStage_nil nextFailed
      dsimp only
      cases waiting : firstAvailableStage next.reviveIdle.stages with
      | none =>
        rw [waiting] at again
        rw [bindStagesFrom_of_fetch_none again]
        rfl
      | some entry =>
        obtain ⟨_, waitingStage⟩ := entry
        rw [waiting] at again
        obtain ⟨_, first⟩ :=
          exists_firstAvailablePartition (availableTasks_pos_of_firstAvailableStage waiting)
        rw [bindStagesFrom_of_fetch_some again rfl]
        simp only [runnableTasks_one, first, Option.toList_some]
        rw [biasPartitions_of_nextFreeSlot_eq_none rfl]
        rfl

/-- With a single slot `(e, 1)` and a running job whose graph a run of the job
reached, `bind_task_round_robin` binds the task `pop_next_task` pops, or none
when it pops none, and leaves the graph as `pop_next_task` leaves it. So does
`bind_task_bias`, except that when it bound a task it leaves the graph with the
resolved stages revived if no running stage has a task left. -/
theorem bindTask_singleSlot {limits : RetryLimits} {schedulerId jobId jobName sessionId : String}
    {outputPartitions : Nat} {shuffleStages : List Plan} {run : JobRun Plan}
    (reaches : Reaches limits
      (JobRun.start schedulerId jobId jobName sessionId outputPartitions shuffleStages) run)
    (executorId scheduler : String) :
    bindTaskRoundRobin [⟨executorId, 1⟩] [(run.graph.jobId, ⟨run.graph, some (.running scheduler)⟩)]
        (fun _ => false) =
      ((popNextTask executorId).exec run.graph).1.map (fun task =>
        (task.toList.map (executorId, ·), [⟨executorId, if task.isSome then 0 else 1⟩],
          [(run.graph.jobId, ⟨((popNextTask executorId).exec run.graph).2, some (.running scheduler)⟩)])) ∧
    bindTaskBias [⟨executorId, 1⟩] [(run.graph.jobId, ⟨run.graph, some (.running scheduler)⟩)]
        (fun _ => false) =
      ((popNextTask executorId).exec run.graph).1.map fun task =>
        (task.toList.map (executorId, ·), [⟨executorId, if task.isSome then 0 else 1⟩],
          [(run.graph.jobId, ⟨if task.isSome then ((popNextTask executorId).exec run.graph).2.reviveIdle
            else ((popNextTask executorId).exec run.graph).2, some (.running scheduler)⟩)]) :=
  ⟨bindTaskRoundRobin_singleSlot reaches.wellKeyed_of_start executorId scheduler,
    bindTaskBias_singleSlot reaches.wellKeyed_of_start executorId scheduler⟩

/-- A job whose final stage reads two branches: map stage 1 feeding stage 2,
and map stage 3 of two partitions. -/
def forkJob : JobRun ShapePlan :=
  JobRun.start "scheduler" "job" "" "session" 1
    [⟨1, 1, [], none⟩, ⟨2, 1, [(1, 1)], none⟩, ⟨3, 2, [], none⟩, ⟨4, 1, [(2, 1), (3, 1)], none⟩]

/-- Map stage 1 and the first partition of map stage 3 are handed out, and
stage 1 succeeds, which resolves stage 2. -/
def forkOps : List JobOp :=
  [.popNextTask "executor-1", .popNextTask "executor-2",
   .updateTaskStatus ⟨"executor-1"⟩
     [asTaskStatus (.ok [⟨0, "/0", 1, 1, 1⟩]) "executor-1" 0 0 ⟨"job", 1, 0⟩ none] [1]]

theorem bindTask_singleSlot_forkJob :
    Reaches RetryLimits.taskManager forkJob forkJob ∧
    bindTaskRoundRobin [⟨"executor-3", 1⟩]
        [(forkJob.graph.jobId, ⟨forkJob.graph, some (.running "scheduler")⟩)] (fun _ => false) =
      ((popNextTask "executor-3").exec forkJob.graph).1.map (fun task =>
        (task.toList.map ("executor-3", ·), [⟨"executor-3", if task.isSome then 0 else 1⟩],
          [(forkJob.graph.jobId,
            ⟨((popNextTask "executor-3").exec forkJob.graph).2, some (.running "scheduler")⟩)])) ∧
    bindTaskBias [⟨"executor-3", 1⟩]
        [(forkJob.graph.jobId, ⟨forkJob.graph, some (.running "scheduler")⟩)] (fun _ => false) =
      ((popNextTask "executor-3").exec forkJob.graph).1.map fun task =>
        (task.toList.map ("executor-3", ·), [⟨"executor-3", if task.isSome then 0 else 1⟩],
          [(forkJob.graph.jobId,
            ⟨if task.isSome then ((popNextTask "executor-3").exec forkJob.graph).2.reviveIdle
              else ((popNextTask "executor-3").exec forkJob.graph).2, some (.running "scheduler")⟩)]) :=
  ⟨.refl, bindTask_singleSlot (show Reaches RetryLimits.taskManager forkJob forkJob from .refl)
    "executor-3" "scheduler"⟩

/-- After `forkOps`, `pop_next_task` and the bias binder with the single slot of
`executor-3` both bind the last task of stage 3 to it. `pop_next_task` leaves
stage 2 resolved; the bias binder fetches once more and starts it. -/
theorem biasRevives_run :
    ∃ run : JobRun ShapePlan, Reaches RetryLimits.taskManager forkJob run ∧
      ((popNextTask "executor-3").exec run.graph).1.map (·.toList.map ("executor-3", ·)) =
        (bindTaskBias [⟨"executor-3", 1⟩] [("job", ⟨run.graph, some (.running "scheduler")⟩)]
          (fun _ => false)).map (·.1) ∧
      ((popNextTask "executor-3").exec run.graph).1.map Option.isSome = .ok true ∧
      ((popNextTask "executor-3").exec run.graph).2.runningStages = [3] ∧
      (bindTaskBias [⟨"executor-3", 1⟩] [("job", ⟨run.graph, some (.running "scheduler")⟩)]
          (fun _ => false)).map (fun result => result.2.2.map (·.2.executionGraph.runningStages)) =
        .ok [[2, 3]] :=
  Reaches.exists_of_performAll_any forkOps (by decide +kernel)

end Cluster

end Ballista
