import Mathlib.Algebra.GroupWithZero.Nat
import Ballista.Lib.StateExcept
import Ballista.Scheduler.Stage

/-! # The execution graph of a job

`ExecutionGraph` (`execution_graph.rs`) holds the stages of one job by stage id,
the job's status, the final output locations, the task id generator and the
stage attempts that failed on fetch errors. A method of the graph that mutates
it and may fail is a computation in `GraphM`: the state it leaves is the graph
as the method left it, also when it returns an error, as a Rust method on
`&mut self` does.

The stage transitions follow the source's pattern
`if let Some(Variant(stage)) = self.stages.remove(&id) { self.stages.insert(id, ...) }`:
the stage is taken out of the map and put back transformed when it is in the
expected state; in any other state it is dropped from the map. The removal and
reinsertion keep the stage's place in the iteration order of the map.
-/

namespace Ballista

variable (Plan : Type)

/-- `ExecutionGraph`, without its timestamps. -/
structure ExecutionGraph where
  schedulerId : Option String
  jobId : String
  jobName : String
  sessionId : String
  status : JobStatus
  stages : Table Nat (ExecutionStage Plan)
  outputPartitions : Nat
  outputLocations : List PartitionLocation
  taskIdGen : Nat
  failedStageAttempts : Table Nat (List Nat)
  deriving DecidableEq

/-- `RunningTaskInfo`: a running task to be cancelled. -/
structure RunningTaskInfo where
  taskId : Nat
  jobId : String
  stageId : Nat
  partitionId : Nat
  executorId : String
  deriving DecidableEq, Repr

/-- `QueryStageSchedulerEvent`, the events a graph update emits. -/
inductive QueryStageSchedulerEvent where
  | jobUpdated (jobId : String)
  | jobFinished (jobId : String)
  | jobRunningFailed (jobId : String) (failMessage : String)
  | cancelTasks (tasks : List RunningTaskInfo)
  deriving DecidableEq, Repr

/-- `TaskDescription`: a task handed out to an executor. -/
structure TaskDescription where
  sessionId : String
  partition : PartitionId
  stageAttemptNum : Nat
  taskId : Nat
  taskAttempt : Nat
  dataCache : Bool
  plan : Plan
  deriving DecidableEq

/-- A method of the graph: the value or the fault, and the graph it leaves. -/
abbrev GraphM (α : Type) := ExceptT Fault (StateM (ExecutionGraph Plan)) α

variable {Plan} [StagePlan Plan]

namespace ExecutionGraph

/-- `is_successful`: every stage is successful. -/
def isSuccessful (graph : ExecutionGraph Plan) : Bool :=
  graph.stages.all fun entry => entry.2.isSuccessful

/-- Whether the job status is `Failed`. -/
def isFailed (graph : ExecutionGraph Plan) : Bool := graph.status.isFailed

/-- The stages `revive` turns into running stages. -/
def resolvedStages (graph : ExecutionGraph Plan) : List (ResolvedStage Plan) :=
  graph.stages.filterMap fun entry =>
    match entry.2 with
    | .resolved stage => some stage
    | _ => none

/-- `revive`: every resolved stage becomes a running stage; whether there was one. -/
def revive (graph : ExecutionGraph Plan) : Bool × ExecutionGraph Plan :=
  let runningStages := graph.resolvedStages.map ResolvedStage.toRunning
  (!runningStages.isEmpty,
    { graph with
      stages := runningStages.foldl
        (fun stages stage => stages.insert stage.stageId (.running stage)) graph.stages })

/-- `running_stages`: the ids of the running stages. -/
def runningStages (graph : ExecutionGraph Plan) : List Nat :=
  graph.stages.filterMap fun entry =>
    match entry.2 with
    | .running _ => some entry.1
    | _ => none

/-- `running_tasks`: every running task of every running stage. -/
def runningTasks (graph : ExecutionGraph Plan) : List RunningTaskInfo :=
  graph.stages.flatMap fun entry =>
    match entry.2 with
    | .running stage =>
      stage.runningTasks.map fun (taskId, stageId, partitionId, executorId) =>
        { taskId := taskId, jobId := graph.jobId, stageId := stageId,
          partitionId := partitionId, executorId := executorId }
    | _ => []

/-- `available_tasks`: the tasks of running stages waiting to be scheduled. -/
def availableTasks (graph : ExecutionGraph Plan) : Nat :=
  (graph.stages.map fun entry =>
    match entry.2 with
    | .running stage => stage.availableTasks
    | _ => 0).sum

/-- Write a stage at its id. -/
def setStage (graph : ExecutionGraph Plan) (stageId : Nat) (stage : ExecutionStage Plan) :
    ExecutionGraph Plan :=
  { graph with stages := graph.stages.insert stageId stage }

/-- Drop the stage at an id. -/
def dropStage (graph : ExecutionGraph Plan) (stageId : Nat) : ExecutionGraph Plan :=
  { graph with stages := graph.stages.erase stageId }

/-- `fail_job`. -/
def failJob (graph : ExecutionGraph Plan) (error : String) : ExecutionGraph Plan :=
  { graph with
    status := { jobId := graph.jobId, jobName := graph.jobName, status := some (.failed error) } }

omit [StagePlan Plan] in
@[simp] theorem isFailed_failJob (graph : ExecutionGraph Plan) (error : String) :
    (graph.failJob error).isFailed = true := rfl

/-- `clear_stage_failure`. -/
def clearStageFailure (graph : ExecutionGraph Plan) (stageId : Nat) : ExecutionGraph Plan :=
  { graph with failedStageAttempts := graph.failedStageAttempts.erase stageId }

/-- The stages of a graph are keyed by their own ids, each id once, as
`ExecutionGraph::new` builds the map. -/
structure WellKeyed (graph : ExecutionGraph Plan) : Prop where
  distinct : graph.stages.keys.Nodup
  keyed : ∀ entry ∈ graph.stages, entry.2.stageId = entry.1

omit [StagePlan Plan] in
theorem mem_resolvedStages {graph : ExecutionGraph Plan} {stage : ResolvedStage Plan} :
    stage ∈ graph.resolvedStages ↔ ∃ stageId, (stageId, .resolved stage) ∈ graph.stages := by
  simp only [resolvedStages, List.mem_filterMap]
  constructor
  · rintro ⟨⟨stageId, other⟩, mem, found⟩
    cases other <;> simp only [reduceCtorEq, Option.some.injEq] at found
    subst found
    exact ⟨stageId, mem⟩
  · rintro ⟨stageId, mem⟩
    exact ⟨_, mem, rfl⟩

omit [StagePlan Plan] in
/-- `revive` writes only the stages it finds resolved. -/
theorem get?_revive_of_ne (graph : ExecutionGraph Plan) {stageId : Nat}
    (untouched : ∀ stage ∈ graph.resolvedStages, stage.stageId ≠ stageId) :
    graph.revive.2.stages.get? stageId = graph.stages.get? stageId := by
  simp only [revive, List.foldl_map]
  exact Table.get?_foldl_insert _ (fun stage : ResolvedStage Plan => stage.toRunning.stageId)
    (fun stage => ExecutionStage.running stage.toRunning) _ untouched

omit [StagePlan Plan] in
/-- In a well-keyed graph `revive` leaves a stage that is not resolved in place. -/
theorem WellKeyed.get?_revive {graph : ExecutionGraph Plan} (keyed : graph.WellKeyed)
    {stageId : Nat} {stage : ExecutionStage Plan} (found : graph.stages.get? stageId = some stage)
    (notResolved : ∀ resolved, stage ≠ .resolved resolved) :
    graph.revive.2.stages.get? stageId = some stage := by
  rw [get?_revive_of_ne graph ?_, found]
  intro resolved mem same
  obtain ⟨key, entry⟩ := mem_resolvedStages.mp mem
  have atKey : key = stageId := (keyed.keyed _ entry).symm.trans same
  subst atKey
  have atEntry := Table.get?_of_mem keyed.distinct entry
  rw [found] at atEntry
  exact notResolved resolved (Option.some.inj atEntry)

end ExecutionGraph

open ExecutionGraph

/-- Lift a pure error into a graph method. -/
def liftError {α : Type} : Except BallistaError α → GraphM Plan α
  | .ok value => pure value
  | .error e => throw (.error e)

/-- Lift a method that may panic into a graph method. -/
def liftFault {α : Type} : Except Fault α → GraphM Plan α
  | .ok value => pure value
  | .error fault => throw fault

omit [StagePlan Plan] in
@[simp] theorem liftError_ok {α : Type} (value : α) :
    (liftError (.ok value) : GraphM Plan α) = pure value := rfl

omit [StagePlan Plan] in
@[simp] theorem liftError_error {α : Type} (e : BallistaError) :
    (liftError (.error e) : GraphM Plan α) = throw (.error e) := rfl

omit [StagePlan Plan] in
@[simp] theorem liftFault_ok {α : Type} (value : α) :
    (liftFault (.ok value) : GraphM Plan α) = pure value := rfl

omit [StagePlan Plan] in
@[simp] theorem liftFault_error {α : Type} (fault : Fault) :
    (liftFault (.error fault) : GraphM Plan α) = throw fault := rfl

/-- `revive` as a graph method. -/
def reviveM : GraphM Plan Bool := modifyGet revive

/-- `resolve_stage`: an unresolved stage becomes resolved; its plan is
resolved and optimized, which may fail after the stage left the map. -/
def resolveStage (stageId : Nat) : GraphM Plan Bool := do
  match (← get).stages.get? stageId with
  | some (.unResolved stage) =>
    match stage.toResolved with
    | .ok resolved =>
      modify (·.setStage stageId (.resolved resolved))
      return true
    | .error e =>
      modify (·.dropStage stageId)
      throw (.error e)
  | some _ =>
    modify (·.dropStage stageId)
    return false
  | none => return false

/-- `succeed_stage`: a running stage becomes successful and its fetch failures
are forgotten. -/
def succeedStage (stageId : Nat) : GraphM Plan Bool := do
  match (← get).stages.get? stageId with
  | some (.running stage) =>
    let successful ← liftFault stage.toSuccessful
    modify fun graph => (graph.setStage stageId (.successful successful)).clearStageFailure stageId
    return true
  | some _ =>
    modify (·.dropStage stageId)
    return false
  | none => return false

/-- `fail_stage`. -/
def failStage (stageId : Nat) (errMsg : String) : GraphM Plan Bool := do
  match (← get).stages.get? stageId with
  | some (.running stage) =>
    modify (·.setStage stageId (.failed (stage.toFailed errMsg)))
    return true
  | some _ =>
    modify (·.dropStage stageId)
    return false
  | none => return false

/-- The running tasks of a stage, as `RunningTaskInfo`s of a job. -/
def RunningStage.runningTaskInfos (stage : RunningStage Plan) (jobId : String) :
    List RunningTaskInfo :=
  stage.runningTasks.map fun (taskId, stageId, partitionId, executorId) =>
    { taskId := taskId, jobId := jobId, stageId := stageId, partitionId := partitionId,
      executorId := executorId }

/-- `rollback_running_stage`: a running stage goes back to unresolved at the
next attempt; returns its running tasks, to be cancelled. -/
def rollbackRunningStage (stageId : Nat) (failureReasons : List String) :
    GraphM Plan (List RunningTaskInfo) := do
  let graph ← get
  match graph.stages.get? stageId with
  | some (.running stage) =>
    let runningTasks := stage.runningTaskInfos graph.jobId
    match stage.toUnresolved failureReasons with
    | .ok unresolved =>
      modify (·.setStage stageId (.unResolved unresolved))
      return runningTasks
    | .error e =>
      modify (·.dropStage stageId)
      throw (.error e)
  | some _ =>
    modify (·.dropStage stageId)
    return []
  | none => return []

/-- `rollback_resolved_stage`: a resolved stage goes back to unresolved. -/
def rollbackResolvedStage (stageId : Nat) : GraphM Plan Bool := do
  match (← get).stages.get? stageId with
  | some (.resolved stage) =>
    match stage.toUnresolved with
    | .ok unresolved =>
      modify (·.setStage stageId (.unResolved unresolved))
      return true
    | .error e =>
      modify (·.dropStage stageId)
      throw (.error e)
  | some _ =>
    modify (·.dropStage stageId)
    return false
  | none => return false

/-- `rerun_successful_stage`: a successful stage runs again at the next attempt. -/
def rerunSuccessfulStage (stageId : Nat) : GraphM Plan Bool := do
  match (← get).stages.get? stageId with
  | some (.successful stage) =>
    modify (·.setStage stageId (.running stage.toRunning))
    return true
  | some _ =>
    modify (·.dropStage stageId)
    return false
  | none => return false

/-- `succeed_job`: only a job whose stages all succeeded can be finalized. -/
def succeedJob : GraphM Plan Unit := do
  let graph ← get
  if !graph.isSuccessful then
    throw (.error (.internal ("Attempt to finalize an incomplete job " ++ graph.jobId)))
  set { graph with
    status := {
      jobId := graph.jobId, jobName := graph.jobName,
      status := some (.successful graph.outputLocations) } }

/-- `update_stage_output_links` on each output link: publish the locations to
the linked stage, which must be unresolved, mark the input complete when the
stage finished, and collect the linked stages that became resolvable. -/
def publishToLinks (stageId : Nat) (isCompleted : Bool) (locations : List PartitionLocation) :
    List Nat → GraphM Plan (List Nat)
  | [] => return []
  | link :: links => do
    let graph ← get
    match graph.stages.get? link with
    | some (.unResolved linked) =>
      let linked ← liftError (linked.addInputPartitions stageId locations)
      let linked := if isCompleted then linked.completeInput stageId else linked
      modify (·.setStage link (.unResolved linked))
      let resolved ← publishToLinks stageId isCompleted locations links
      return if linked.resolvable then linked.stageId :: resolved else resolved
    | some _ =>
      throw (.error (.internal ("Error updating job " ++ graph.jobId ++ ": The stage " ++
        toString link ++ " as the output link of stage " ++ toString stageId ++
        "  should be unresolved")))
    | none =>
      throw (.error (.internal ("Error updating job " ++ graph.jobId ++ ": Invalid output link " ++
        toString stageId ++ " for stage " ++ toString link)))

/-- `update_stage_output_links`: the final stage publishes to the job's output
locations, any other stage to the stages that read it; returns the stages
that became resolvable. -/
def updateStageOutputLinks (stageId : Nat) (isCompleted : Bool)
    (locations : List PartitionLocation) (outputLinks : List Nat) : GraphM Plan (List Nat) := do
  if outputLinks.isEmpty then
    modify fun graph => { graph with outputLocations := graph.outputLocations ++ locations }
    return []
  else
    publishToLinks stageId isCompleted locations outputLinks

/-- The first running stage with a task waiting, in iteration order. -/
def firstAvailableStage (stages : Table Nat (ExecutionStage Plan)) :
    Option (Nat × RunningStage Plan) :=
  stages.findSome? fun entry =>
    match entry.2 with
    | .running stage => if 0 < stage.availableTasks then some (entry.1, stage) else none
    | _ => none

/-- The first partition of a stage waiting to be scheduled. -/
def firstAvailablePartition (taskInfos : List (Option TaskInfo)) : Option Nat :=
  taskInfos.findIdx? Option.isNone

/-- `create_task_info`: a task running on an executor. -/
def createTaskInfo (executorId : String) (taskId : Nat) : TaskInfo :=
  { taskId := taskId, taskStatus := .running { executorId := executorId } }

/-- Hand out the next task of the first stage with one waiting, under a task id
already drawn: the task's slot records it running on the executor. -/
def takeNextTask (executorId : String) (taskId : Nat) : GraphM Plan (Option (TaskDescription Plan)) := do
  let graph ← get
  match firstAvailableStage graph.stages with
  | none => return none
  | some (stageId, stage) =>
    let some partitionId := firstAvailablePartition stage.taskInfos
      | throw (.error (.internal ("Error getting next task for job " ++ graph.jobId ++
          ": Stage " ++ toString stageId ++ " is ready but has no pending tasks")))
    let some taskAttempt := stage.taskFailureNumbers[partitionId]?
      | throw (.panic "index out of bounds")
    let stage := { stage with
      taskInfos := stage.taskInfos.set partitionId (some (createTaskInfo executorId taskId)) }
    modify (·.setStage stageId (.running stage))
    return some {
      sessionId := graph.sessionId,
      partition := { jobId := graph.jobId, stageId := stageId, partitionId := partitionId },
      stageAttemptNum := stage.stageAttemptNum, taskId := taskId, taskAttempt := taskAttempt,
      dataCache := false, plan := stage.plan }

/-- `pop_next_task`, with the depth of its recursion bounded: the recursive
call follows a `revive` that found a resolved stage, after which none is left,
so two levels are all the source can take. -/
def popNextTaskFrom (executorId : String) : Nat → GraphM Plan (Option (TaskDescription Plan))
  | 0 => return none
  | depth + 1 => do
    let graph ← get
    if graph.isFailed then return none
    let findCandidate := (firstAvailableStage graph.stages).isSome
    let nextTask ← if findCandidate then do
        modify fun graph => { graph with taskIdGen := graph.taskIdGen + 1 }
        takeNextTask executorId graph.taskIdGen
      else pure none
    match nextTask with
    | some task => return some task
    | none =>
      if ← reviveM then popNextTaskFrom executorId depth else return none

/-- `pop_next_task`: hand out the next task to an executor, reviving the
resolved stages when no running stage has one. -/
def popNextTask (executorId : String) : GraphM Plan (Option (TaskDescription Plan)) :=
  popNextTaskFrom executorId 2

/-- The first running stage not black-listed with a task waiting. -/
def firstRunnableStage (stages : Table Nat (ExecutionStage Plan)) (blackList : List Nat) :
    Option Nat :=
  stages.findSome? fun entry =>
    if entry.1 ∈ blackList then none
    else
      match entry.2 with
      | .running stage => if 0 < stage.availableTasks then some entry.1 else none
      | _ => none

/-- `get_running_stage_id`, with the depth of its recursion bounded as in
`popNextTaskFrom`. -/
def getRunningStageIdFrom (blackList : List Nat) : Nat → GraphM Plan (Option Nat)
  | 0 => return none
  | depth + 1 => do
    match firstRunnableStage (← get).stages blackList with
    | some stageId => return some stageId
    | none => if ← reviveM then getRunningStageIdFrom blackList depth else return none

/-- `fetch_running_stage`: the running stage a binder assigns tasks of, never
one of a failed job. -/
def fetchRunningStage (blackList : List Nat) : GraphM Plan (Option (RunningStage Plan)) := do
  if (← get).isFailed then return none
  match ← getRunningStageIdFrom blackList 2 with
  | some stageId =>
    match (← get).stages.get? stageId with
    | some (.running stage) => return some stage
    | _ => return none
  | none => return none

/-- The body of a binder's loop over the stage `fetch_running_stage` returned:
the first waiting partitions, in order, each get a task on the executor of the
slot it is bound to, under consecutive task ids. -/
def bindStageTasks (stageId : Nat) : List String → GraphM Plan (List (TaskDescription Plan))
  | [] => return []
  | executorId :: executors => do
    let graph ← get
    match graph.stages.get? stageId with
    | some (.running stage) =>
      match firstAvailablePartition stage.taskInfos with
      | none => return []
      | some partitionId =>
        let taskId := graph.taskIdGen
        let stage := { stage with
          taskInfos := stage.taskInfos.set partitionId (some (createTaskInfo executorId taskId)) }
        let some taskAttempt := stage.taskFailureNumbers[partitionId]?
          | throw (.panic "index out of bounds")
        modify fun graph => { graph.setStage stageId (.running stage) with taskIdGen := taskId + 1 }
        let task : TaskDescription Plan := {
          sessionId := graph.sessionId,
          partition := { jobId := graph.jobId, stageId := stage.stageId, partitionId := partitionId },
          stageAttemptNum := stage.stageAttemptNum, taskId := taskId, taskAttempt := taskAttempt,
          dataCache := false, plan := stage.plan }
        let tasks ← bindStageTasks stageId executors
        return task :: tasks
    | _ => return []

/-- One round of `bind_task_bias` or `bind_task_round_robin` on a graph: fetch
a running stage outside the black list and bind some of its waiting tasks. -/
def bindTasks (blackList : List Nat) (executors : List String) :
    GraphM Plan (List (TaskDescription Plan)) := do
  match ← fetchRunningStage blackList with
  | some stage => bindStageTasks stage.stageId executors
  | none => return []

/-- `partition_to_location`: the shuffle files a successful map task wrote, as
locations on the executor that reported them. -/
def partitionToLocation (jobId : String) (mapPartitionId stageId : Nat)
    (executor : ExecutorMetadata) (shuffles : List ShuffleWritePartition) :
    List PartitionLocation :=
  shuffles.map fun shuffle =>
    { mapPartitionId := mapPartitionId,
      partitionId := { jobId := jobId, stageId := stageId, partitionId := shuffle.partitionId },
      executorMeta := executor,
      partitionStats := {
        numRows := some shuffle.numRows, numBatches := some shuffle.numBatches,
        numBytes := some shuffle.numBytes },
      path := shuffle.path }

end Ballista
