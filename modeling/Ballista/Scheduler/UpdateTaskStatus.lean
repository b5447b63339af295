import Ballista.Scheduler.Graph

/-! # Applying task statuses to the graph

`update_task_status` (`execution_graph.rs`) groups an executor's task statuses
by stage, revives the graph, and reads each group: the statuses of a running
stage update its task slots, failure counters and inputs and collect the
shuffle locations of successful tasks; the late failures of an unresolved
stage's previous attempt may fail the job or reset the map stage it read. The
decisions are collected in sets that are then applied: failed stage attempts
are written back, lost map outputs are marked failed or reset, and
`processing_stages_update` resolves, completes, rolls back and reruns stages
and fails or completes the job.

The groups are read in the iteration order of a `HashMap`, which is a parameter
`visit` here: the list of the groups' stage ids in the order they are read.
The other sets of the method are read in the order they were filled.
-/

namespace Ballista

/-- The sets and maps that `update_task_status` fills while it reads the statuses. -/
structure StatusUpdates where
  failedStageAttempts : Table Nat (List Nat)
  resolvedStages : List Nat
  successfulStages : List Nat
  failedStages : Table Nat String
  rollbackRunningStages : Table Nat (List String)
  resubmitSuccessfulStages : Table Nat (List Nat)
  resetRunningStages : Table Nat (List Nat)
  deriving DecidableEq, Repr

/-- What every status of one call shares: the job, the reporting executor, the
two retry limits, and the stages that were running when the call began. -/
structure UpdateContext where
  jobId : String
  executor : ExecutorMetadata
  maxTaskFailures : Nat
  maxStageFailures : Nat
  currentRunningStages : List Nat

/-- `UpdatedStages` (`task_manager.rs`): what `processing_stages_update` applies. -/
structure UpdatedStages where
  resolvedStages : List Nat
  successfulStages : List Nat
  failedStages : Table Nat String
  rollbackRunningStages : Table Nat (List String)
  resubmitSuccessfulStages : List Nat

variable {Plan : Type} [StagePlan Plan]

/-- The state of one read of a running stage's statuses: the stage as updated
in place, the shuffle locations collected, and the collected decisions. -/
abbrev RunningRead (Plan : Type) := RunningStage Plan × List PartitionLocation × StatusUpdates

/-- A task failure that is not a fetch failure nor an execution error: retry
the task below the task failure limit, fail the stage at it, and only retry
uncounted retryable failures. -/
def handleRetryableFailure (ctx : UpdateContext) (stageId partitionId : Nat)
    (failedTask : FailedTask) (read : RunningRead Plan) :
    Except (Fault × RunningStage Plan) (RunningRead Plan) :=
  let (stage, locations, updates) := read
  if failedTask.retryable && failedTask.countToFailures then
    match stage.taskFailureNumber partitionId with
    | .error fault => .error (fault, stage)
    | .ok failures =>
      if failures < ctx.maxTaskFailures then
        match stage.resetTaskInfo partitionId with
        | .error fault => .error (fault, stage)
        | .ok stage => .ok (stage, locations, updates)
      else
        .ok (stage, locations, { updates with
          failedStages := updates.failedStages.insert stageId
            ("Task " ++ toString partitionId ++ " in Stage " ++ toString stageId ++ " failed " ++
              toString ctx.maxTaskFailures ++
              " times, fail the stage, most recent failure reason: " ++ failedTask.error) })
  else if failedTask.retryable then
    match stage.resetTaskInfo partitionId with
    | .error fault => .error (fault, stage)
    | .ok stage => .ok (stage, locations, updates)
  else .ok read

/-- A fetch failure of a running stage: record the failed attempt; below the
stage failure limit, and unless a stage already failed, drop the lost input
locations and schedule the rollback of this stage and the rerun of the map
stage; at the limit, fail the stage. -/
def handleFetchFailure (ctx : UpdateContext) (stageId taskStageAttemptNum : Nat)
    (failedTask : FailedTask) (fetchError : FetchPartitionError) (read : RunningRead Plan) :
    Except (Fault × RunningStage Plan) (RunningRead Plan) :=
  let (stage, locations, updates) := read
  let failedStageAttempts :=
    updates.failedStageAttempts.upsert stageId [] (List.insert taskStageAttemptNum)
  let updates := { updates with failedStageAttempts := failedStageAttempts }
  let failedAttempts := (failedStageAttempts.get? stageId).getD []
  if failedAttempts.length < ctx.maxStageFailures then
    if !updates.failedStages.isEmpty then .ok (stage, locations, updates)
    else
      match removeInputPartitions stage.inputs stageId fetchError.mapStageId
          fetchError.executorId with
      | .error e => .error (.error e, stage)
      | .ok (removedMapPartitions, inputs) =>
        .ok ({ stage with inputs := inputs }, locations, { updates with
          rollbackRunningStages :=
            updates.rollbackRunningStages.upsert stageId [] (List.insert fetchError.executorId),
          resubmitSuccessfulStages :=
            updates.resubmitSuccessfulStages.upsert fetchError.mapStageId []
              (insertAll · removedMapPartitions) })
  else
    .ok (stage, locations, { updates with
      failedStages := updates.failedStages.insert stageId
        ("Stage " ++ toString stageId ++ " has failed " ++ toString ctx.maxStageFailures ++
          " times, most recent failure reason: " ++ failedTask.error) })

/-- One status of a running stage, as the loop body of `update_task_status`
reads it. A stale attempt is skipped; a status the slot does not accept is
skipped; a failure is classified by its reason; a success collects the
locations of the shuffle files the task wrote. On an error the stage is
returned as the loop left it. -/
def updateRunningTaskStatus (ctx : UpdateContext) (stageId : Nat) (read : RunningRead Plan)
    (status : TaskStatus) : Except (Fault × RunningStage Plan) (RunningRead Plan) :=
  let (stage, locations, updates) := read
  let taskStageAttemptNum := status.stageAttemptNum
  if taskStageAttemptNum < stage.stageAttemptNum then .ok read
  else
    let partitionId := status.partitionId
    match stage.updateTaskInfo partitionId status with
    | .error fault => .error (fault, stage)
    | .ok (false, stage) => .ok (stage, locations, updates)
    | .ok (true, stage) =>
      match status.status with
      | some (.failed failedTask) =>
        match failedTask.failedReason with
        | some (.fetchPartitionError fetchError) =>
          handleFetchFailure ctx stageId taskStageAttemptNum failedTask fetchError
            (stage, locations, updates)
        | some .executionError =>
          .ok (stage, locations, { updates with
            failedStages := updates.failedStages.insert stageId failedTask.error })
        | some _ => handleRetryableFailure ctx stageId partitionId failedTask (stage, locations, updates)
        | none =>
          .ok (stage, locations, { updates with
            failedStages := updates.failedStages.insert stageId
              ("Task " ++ toString partitionId ++ " in Stage " ++ toString stageId ++
                " failed with unknown failure reasons, fail the stage") })
      | some (.successful successfulTask) =>
        match stage.updateTaskMetrics partitionId status.metrics with
        | .error e => .error (.error e, stage)
        | .ok stage =>
          .ok (stage, locations ++ partitionToLocation ctx.jobId partitionId stageId ctx.executor
            successfulTask.partitions, updates)
      | _ => .ok (stage, locations, updates)

/-- One status of an unresolved stage. Only a failure of the previous attempt
counts: an execution error fails the stage, and a fetch failure from an
executor not yet blamed, read from a map stage that was running, drops that
executor's locations and resets the map tasks that wrote them. The
subtraction of attempt numbers is the source's unsigned one. -/
def updateUnresolvedTaskStatus (ctx : UpdateContext) (stageId : Nat)
    (read : UnresolvedStage Plan × StatusUpdates) (status : TaskStatus) :
    Except (Fault × UnresolvedStage Plan) (UnresolvedStage Plan × StatusUpdates) :=
  let (stage, updates) := read
  match status.status with
  | some (.failed failedTask) =>
    if stage.stageAttemptNum - status.stageAttemptNum = 1 then
      match failedTask.failedReason with
      | some .executionError =>
        .ok (stage, { updates with
          failedStages := updates.failedStages.insert stageId failedTask.error })
      | some (.fetchPartitionError fetchError) =>
        if updates.failedStages.isEmpty && ctx.currentRunningStages.contains fetchError.mapStageId &&
            !stage.lastAttemptFailureReasons.contains fetchError.executorId then
          let stage := { stage with
            lastAttemptFailureReasons :=
              stage.lastAttemptFailureReasons.insert fetchError.executorId }
          match removeInputPartitions stage.inputs stageId fetchError.mapStageId
              fetchError.executorId with
          | .error e => .error (.error e, stage)
          | .ok (removedMapPartitions, inputs) =>
            .ok ({ stage with inputs := inputs }, { updates with
              resetRunningStages :=
                updates.resetRunningStages.upsert fetchError.mapStageId []
                  (insertAll · removedMapPartitions),
              successfulStages := updates.successfulStages.erase fetchError.mapStageId,
              resolvedStages := updates.resolvedStages.erase stageId })
        else .ok read
      | _ => .ok read
    else .ok read
  | _ => .ok read

/-- The state of `update_task_status` while it reads the groups. -/
structure UpdateState (Plan : Type) where
  graph : ExecutionGraph Plan
  updates : StatusUpdates

/-- The loop over the groups: a computation on the graph and the collected sets. -/
abbrev UpdateM (Plan : Type) (α : Type) := ExceptT Fault (StateM (UpdateState Plan)) α

/-- Run a graph method on the graph of the loop's state. -/
def onGraph {α : Type} (method : GraphM Plan α) : UpdateM Plan α := fun state =>
  let (result, graph) := method.run state.graph |>.run
  (result, { state with graph := graph })

/-- Read the statuses of one stage. A running stage is updated in place and
then publishes its locations to its output links, completing them when the
stage is now finished and no late fetch failure reset it; an unresolved stage
reads its late failures; any other stage ignores its statuses; an unknown stage
is an error. -/
def updateStageTaskStatuses (ctx : UpdateContext) (stageId : Nat)
    (statuses : List TaskStatus) : UpdateM Plan Unit := do
  let state ← get
  match state.graph.stages.get? stageId with
  | some (.running stage) =>
    match statuses.foldlM (updateRunningTaskStatus ctx stageId) (stage, [], state.updates) with
    | .error (fault, stage) =>
      set { state with graph := state.graph.setStage stageId (.running stage) }
      throw fault
    | .ok (stage, locations, updates) =>
      let isFinalSuccessful := stage.isSuccessful && !updates.resetRunningStages.contains stageId
      let updates := if isFinalSuccessful then
          { updates with successfulStages := updates.successfulStages.insert stageId }
        else updates
      set ({ graph := state.graph.setStage stageId (.running stage), updates := updates } : UpdateState Plan)
      let resolved ← onGraph
        (updateStageOutputLinks stageId isFinalSuccessful locations stage.outputLinks)
      modify fun state => { state with
        updates := { state.updates with
          resolvedStages := insertAll state.updates.resolvedStages resolved } }
  | some (.unResolved stage) =>
    match statuses.foldlM (updateUnresolvedTaskStatus ctx stageId) (stage, state.updates) with
    | .error (fault, stage) =>
      set { state with graph := state.graph.setStage stageId (.unResolved stage) }
      throw fault
    | .ok (stage, updates) =>
      set ({ graph := state.graph.setStage stageId (.unResolved stage), updates := updates } :
        UpdateState Plan)
  | some _ => return
  | none =>
    throw (.error (.internal ("Invalid stage ID " ++ toString stageId ++ " for job " ++ ctx.jobId)))

/-- The groups of statuses by stage, each in the order the statuses came. -/
def groupByStage (taskStatuses : List TaskStatus) : Table Nat (List TaskStatus) :=
  taskStatuses.foldl
    (fun groups status => groups.upsert status.stageId [] (· ++ [status])) []

/-- Read the groups in the order `visit` gives. -/
def visitGroups (ctx : UpdateContext) (groups : Table Nat (List TaskStatus)) :
    List Nat → UpdateM Plan Unit
  | [] => return
  | stageId :: rest => do
    updateStageTaskStatuses ctx stageId ((groups.get? stageId).getD [])
    visitGroups ctx groups rest

/-- Mark the lost outputs of a successful map stage as failed, so that its rerun
schedules them again. A partition beyond the stage is an error, and one at its
end indexes past the task slots. -/
def markLostOutputs (jobId : String) (stageId : Nat) : List Nat → GraphM Plan Unit
  | [] => return
  | partition :: rest => do
    match (← get).stages.get? stageId with
    | some (.successful stage) =>
      if stage.partitions < partition then
        throw (.error (.internal ("Invalid partition ID " ++ toString partition ++
          " in map stage " ++ toString stageId)))
      let some taskInfo := stage.taskInfos[partition]?
        | throw (.panic "index out of bounds")
      let lost : TaskInfo := {
        taskId := taskInfo.taskId,
        taskStatus := .failed {
          error := "FetchPartitionError in parent stage", retryable := true,
          countToFailures := false, failedReason := some .resultLost } }
      modify (·.setStage stageId (.successful { stage with
        taskInfos := stage.taskInfos.set partition lost }))
      markLostOutputs jobId stageId rest
    | _ => markLostOutputs jobId stageId rest

/-- The loop over `resubmit_successful_stages`. -/
def resubmitSuccessfulStages (jobId : String) : Table Nat (List Nat) → GraphM Plan Unit
  | [] => return
  | (stageId, missingParts) :: rest => do
    match (← get).stages.get? stageId with
    | some (.successful _) => markLostOutputs jobId stageId missingParts
    | some _ => pure ()
    | none =>
      throw (.error (.internal ("Invalid stage ID " ++ toString stageId ++ " for job " ++ jobId)))
    resubmitSuccessfulStages jobId rest

/-- Reset the map tasks of a running stage whose outputs a late fetch failure
reported lost. -/
def resetLostTasks (stageId : Nat) : List Nat → GraphM Plan Unit
  | [] => return
  | partition :: rest => do
    match (← get).stages.get? stageId with
    | some (.running stage) =>
      if stage.partitions < partition then
        throw (.error (.internal ("Invalid partition ID " ++ toString partition ++
          " in map stage " ++ toString stageId)))
      let stage ← liftFault (stage.resetTaskInfo partition)
      modify (·.setStage stageId (.running stage))
      resetLostTasks stageId rest
    | _ => resetLostTasks stageId rest

/-- The loop over `reset_running_stages`. -/
def resetRunningStages (jobId : String) : Table Nat (List Nat) → GraphM Plan Unit
  | [] => return
  | (stageId, missingParts) :: rest => do
    match (← get).stages.get? stageId with
    | some (.running _) => resetLostTasks stageId missingParts
    | some _ => pure ()
    | none =>
      throw (.error (.internal ("Invalid stage ID " ++ toString stageId ++ " for job " ++ jobId)))
    resetRunningStages jobId rest

/-- Resolve each stage in turn. -/
def resolveStages : List Nat → GraphM Plan Unit
  | [] => return
  | stageId :: rest => do
    let _ ← resolveStage stageId
    resolveStages rest

/-- Complete each stage in turn. -/
def succeedStages : List Nat → GraphM Plan Unit
  | [] => return
  | stageId :: rest => do
    let _ ← succeedStage stageId
    succeedStages rest

/-- Roll back each stage in turn, collecting the tasks to cancel. -/
def rollbackRunningStages : Table Nat (List String) → GraphM Plan (List RunningTaskInfo)
  | [] => return []
  | (stageId, failureReasons) :: rest => do
    let tasks ← rollbackRunningStage stageId failureReasons
    let others ← rollbackRunningStages rest
    return tasks ++ others

/-- Rerun each stage in turn. -/
def rerunSuccessfulStages : List Nat → GraphM Plan Unit
  | [] => return
  | stageId :: rest => do
    let _ ← rerunSuccessfulStage stageId
    rerunSuccessfulStages rest

/-- The job's failure message: the one of the last failed stage read. -/
def jobErrorMessage (failedStages : Table Nat String) : String :=
  failedStages.foldl (fun _ entry =>
    "Job failed due to stage " ++ toString entry.1 ++ " failed: " ++ entry.2 ++ "\n") ""

/-- The rollbacks and reruns of `processing_stages_update`, made only when no
stage failed; the event cancelling the running tasks of the stages rolled back. -/
def rollbackAndRerun (updated : UpdatedStages) : GraphM Plan (List QueryStageSchedulerEvent) := do
  if updated.failedStages.isEmpty then
    let runningTasksToCancel ← rollbackRunningStages updated.rollbackRunningStages
    rerunSuccessfulStages updated.resubmitSuccessfulStages
    if !runningTasksToCancel.isEmpty then
      return [.cancelTasks runningTasksToCancel]
  return []

/-- The end of `processing_stages_update`: fail the job when a stage failed,
finish it when every stage is successful, or report it updated when a stage
was resolved. -/
def finishStagesUpdate (jobId : String) (failedStages : Table Nat String) (hasResolved : Bool)
    (events : List QueryStageSchedulerEvent) : GraphM Plan (List QueryStageSchedulerEvent) := do
  let jobErrMsg := jobErrorMessage failedStages
  if !failedStages.isEmpty then
    modify (·.failJob jobErrMsg)
    return events ++ [.jobRunningFailed jobId jobErrMsg]
  else if (← get).isSuccessful then
    succeedJob
    return events ++ [.jobFinished jobId]
  else if hasResolved then
    return events ++ [.jobUpdated jobId]
  else
    return events

/-- `processing_stages_update`: resolve and complete the stages found ready;
without a failed stage, roll back and rerun the stages hit by fetch failures;
then fail the job, finish it, or report that it was updated. -/
def processingStagesUpdate (updated : UpdatedStages) :
    GraphM Plan (List QueryStageSchedulerEvent) := do
  let jobId := (← get).jobId
  resolveStages updated.resolvedStages
  let hasResolved := !updated.resolvedStages.isEmpty
  succeedStages updated.successfulStages
  let events ← rollbackAndRerun updated
  finishStagesUpdate jobId updated.failedStages hasResolved events

/-- The context of one call, read off the graph as revived. -/
def UpdateContext.ofGraph (graph : ExecutionGraph Plan) (executor : ExecutorMetadata)
    (maxTaskFailures maxStageFailures : Nat) : UpdateContext :=
  { jobId := graph.jobId, executor := executor, maxTaskFailures := maxTaskFailures,
    maxStageFailures := maxStageFailures, currentRunningStages := graph.runningStages }

/-- The sets as a call starts them: the fetch failures already recorded are the
starting point of the failed attempts, and every other set is empty. -/
def StatusUpdates.initial (graph : ExecutionGraph Plan) : StatusUpdates :=
  { failedStageAttempts := graph.failedStageAttempts, resolvedStages := [],
    successfulStages := [], failedStages := [], rollbackRunningStages := [],
    resubmitSuccessfulStages := [], resetRunningStages := [] }

/-- The first phase of `update_task_status`: read the groups in the order
`visit`, from the graph as revived, collecting the decisions. -/
def readTaskStatuses (executor : ExecutorMetadata) (maxTaskFailures maxStageFailures : Nat)
    (groups : Table Nat (List TaskStatus)) (visit : List Nat) : GraphM Plan StatusUpdates := do
  let graph ← get
  let ctx := UpdateContext.ofGraph graph executor maxTaskFailures maxStageFailures
  let (result, state) :=
    (visitGroups ctx groups visit).exec { graph := graph, updates := StatusUpdates.initial graph }
  set state.graph
  liftFault result
  return state.updates

/-- Write the failed attempts a call collected back to the graph. -/
def ExecutionGraph.writeFailedAttempts (graph : ExecutionGraph Plan)
    (failedStageAttempts : Table Nat (List Nat)) : ExecutionGraph Plan :=
  { graph with
    failedStageAttempts := failedStageAttempts.foldl
      (fun attempts entry => attempts.insert entry.1 entry.2) graph.failedStageAttempts }

/-- What `processing_stages_update` is given of the collected sets. -/
def StatusUpdates.toUpdatedStages (updates : StatusUpdates) : UpdatedStages :=
  { resolvedStages := updates.resolvedStages, successfulStages := updates.successfulStages,
    failedStages := updates.failedStages, rollbackRunningStages := updates.rollbackRunningStages,
    resubmitSuccessfulStages := updates.resubmitSuccessfulStages.keys }

/-- The second phase of `update_task_status`: write the failed attempts back,
mark lost and reset the map outputs reported lost, and process the stages. -/
def applyStatusUpdates (jobId : String) (updates : StatusUpdates) :
    GraphM Plan (List QueryStageSchedulerEvent) := do
  modify (·.writeFailedAttempts updates.failedStageAttempts)
  resubmitSuccessfulStages jobId updates.resubmitSuccessfulStages
  resetRunningStages jobId updates.resetRunningStages
  processingStagesUpdate updates.toUpdatedStages

/-- **`update_task_status`.** Apply an executor's task statuses to the graph,
reading the groups of statuses by stage in the order `visit`. -/
def updateTaskStatus (executor : ExecutorMetadata) (taskStatuses : List TaskStatus)
    (maxTaskFailures maxStageFailures : Nat) (visit : List Nat) :
    GraphM Plan (List QueryStageSchedulerEvent) := do
  let jobId := (← get).jobId
  let _ ← reviveM
  let updates ← readTaskStatuses executor maxTaskFailures maxStageFailures
    (groupByStage taskStatuses) visit
  applyStatusUpdates jobId updates

end Ballista
