import Ballista.Scheduler.UpdateTaskStatus

/-! # The phases of `update_task_status`, step by step

Each lemma here runs one piece of `update_task_status` from a state where the
outcome of the pieces it calls is known: the loop over the groups one stage at
a time, the read of an unresolved stage's late failures, the write-back and the
two loops over lost map outputs, and `processing_stages_update` when a stage
failed. A proof about a whole call chains them and never unfolds the method.
-/

namespace Ballista

variable {Plan : Type}

/-- A single status forms a single group. -/
theorem groupByStage_singleton (status : TaskStatus) :
    groupByStage [status] = [(status.stageId, [status])] := rfl

@[simp] theorem visitGroups_nil (ctx : UpdateContext) (groups : Table Nat (List TaskStatus))
    (state : UpdateState Plan) : (visitGroups ctx groups []).exec state = (.ok (), state) := rfl

theorem visitGroups_cons_of_ok {ctx : UpdateContext} {groups : Table Nat (List TaskStatus)}
    {stageId : Nat} {rest : List Nat} {state state' : UpdateState Plan}
    (ran : (updateStageTaskStatuses ctx stageId ((groups.get? stageId).getD [])).exec state =
      (.ok (), state')) :
    (visitGroups ctx groups (stageId :: rest)).exec state =
      (visitGroups ctx groups rest).exec state' := by
  rw [visitGroups, ExceptT.exec_bind_of_ok ran]

theorem visitGroups_cons_of_error {ctx : UpdateContext} {groups : Table Nat (List TaskStatus)}
    {stageId : Nat} {rest : List Nat} {state state' : UpdateState Plan} {fault : Fault}
    (ran : (updateStageTaskStatuses ctx stageId ((groups.get? stageId).getD [])).exec state =
      (.error fault, state')) :
    (visitGroups ctx groups (stageId :: rest)).exec state = (.error fault, state') := by
  rw [visitGroups, ExceptT.exec_bind_of_error ran]

/-- A running stage that faults on one of its statuses is written back as the
loop left it, and the fault ends the read. -/
theorem updateStageTaskStatuses_running_of_error {ctx : UpdateContext} {stageId : Nat}
    {statuses : List TaskStatus} {state : UpdateState Plan} {stage stage' : RunningStage Plan}
    {fault : Fault}
    (found : state.graph.stages.get? stageId = some (.running stage))
    (read : statuses.foldlM (updateRunningTaskStatus ctx stageId) (stage, [], state.updates) =
      .error (fault, stage')) :
    (updateStageTaskStatuses ctx stageId statuses).exec state =
      (.error fault, { state with graph := state.graph.setStage stageId (.running stage') }) := by
  simp [updateStageTaskStatuses, ExceptT.exec_bind, found, read]

/-- The statuses of an unresolved stage are read into the stage and the sets,
and the stage is written back in place. -/
theorem updateStageTaskStatuses_unResolved {ctx : UpdateContext} {stageId : Nat}
    {statuses : List TaskStatus} {state : UpdateState Plan} {stage stage' : UnresolvedStage Plan}
    {updates : StatusUpdates}
    (found : state.graph.stages.get? stageId = some (.unResolved stage))
    (read : statuses.foldlM (updateUnresolvedTaskStatus ctx stageId) (stage, state.updates) =
      .ok (stage', updates)) :
    (updateStageTaskStatuses ctx stageId statuses).exec state =
      (.ok (), { graph := state.graph.setStage stageId (.unResolved stage'), updates := updates }) := by
  simp [updateStageTaskStatuses, ExceptT.exec_bind, found, read]

/-- A status of the current attempt for a slot that holds no task panics in
`update_task_info`. -/
theorem updateRunningTaskStatus_of_freed {ctx : UpdateContext} {stageId : Nat}
    {stage : RunningStage Plan} {locations : List PartitionLocation} {updates : StatusUpdates}
    {status : TaskStatus} (current : stage.stageAttemptNum ≤ status.stageAttemptNum)
    (freed : stage.taskInfos[status.partitionId]? = some none) :
    updateRunningTaskStatus ctx stageId (stage, locations, updates) status =
      .error (.panic "called `Option::unwrap()` on a `None` value", stage) := by
  simp [updateRunningTaskStatus, RunningStage.updateTaskInfo, Nat.not_lt.mpr current, freed]

/-- An execution error of the previous attempt of an unresolved stage fails it. -/
theorem updateUnresolvedTaskStatus_executionError {ctx : UpdateContext} {stageId : Nat}
    {stage : UnresolvedStage Plan} {updates : StatusUpdates} {status : TaskStatus}
    {failedTask : FailedTask} (failed : status.status = some (.failed failedTask))
    (previous : stage.stageAttemptNum - status.stageAttemptNum = 1)
    (executionError : failedTask.failedReason = some .executionError) :
    updateUnresolvedTaskStatus ctx stageId (stage, updates) status =
      .ok (stage, { updates with
        failedStages := updates.failedStages.insert stageId failedTask.error }) := by
  simp [updateUnresolvedTaskStatus, failed, previous, executionError]

theorem readTaskStatuses_of_ok {executor : ExecutorMetadata}
    {maxTaskFailures maxStageFailures : Nat} {groups : Table Nat (List TaskStatus)}
    {visit : List Nat} {graph : ExecutionGraph Plan} {state : UpdateState Plan}
    (read : (visitGroups (UpdateContext.ofGraph graph executor maxTaskFailures maxStageFailures)
      groups visit).exec { graph := graph, updates := StatusUpdates.initial graph } =
        (.ok (), state)) :
    (readTaskStatuses executor maxTaskFailures maxStageFailures groups visit).exec graph =
      (.ok state.updates, state.graph) := by
  simp [readTaskStatuses, ExceptT.exec_bind, ExceptT.exec_map, read]

theorem readTaskStatuses_of_error {executor : ExecutorMetadata}
    {maxTaskFailures maxStageFailures : Nat} {groups : Table Nat (List TaskStatus)}
    {visit : List Nat} {graph : ExecutionGraph Plan} {state : UpdateState Plan} {fault : Fault}
    (read : (visitGroups (UpdateContext.ofGraph graph executor maxTaskFailures maxStageFailures)
      groups visit).exec { graph := graph, updates := StatusUpdates.initial graph } =
        (.error fault, state)) :
    (readTaskStatuses executor maxTaskFailures maxStageFailures groups visit).exec graph =
      (.error fault, state.graph) := by
  simp [readTaskStatuses, ExceptT.exec_bind, read]

/-- A fault while reading the groups is the outcome of the whole call. -/
theorem updateTaskStatus_of_read_error [StagePlan Plan] {executor : ExecutorMetadata}
    {taskStatuses : List TaskStatus} {maxTaskFailures maxStageFailures : Nat} {visit : List Nat}
    {graph after : ExecutionGraph Plan} {fault : Fault}
    (read : (readTaskStatuses executor maxTaskFailures maxStageFailures (groupByStage taskStatuses)
      visit).exec graph.revive.2 = (.error fault, after)) :
    (updateTaskStatus executor taskStatuses maxTaskFailures maxStageFailures visit).exec graph =
      (.error fault, after) := by
  simp [updateTaskStatus, ExceptT.exec_bind, reviveM, read]

@[simp] theorem resubmitSuccessfulStages_nil (jobId : String) (graph : ExecutionGraph Plan) :
    (resubmitSuccessfulStages jobId [] : GraphM Plan Unit).exec graph = (.ok (), graph) := rfl

@[simp] theorem resetRunningStages_nil (jobId : String) (graph : ExecutionGraph Plan) :
    (resetRunningStages jobId [] : GraphM Plan Unit).exec graph = (.ok (), graph) := rfl

/-- The second phase is `processing_stages_update` once the lost map outputs are
marked and reset. -/
theorem applyStatusUpdates_of_ok [StagePlan Plan] {jobId : String} {updates : StatusUpdates}
    {graph marked reset : ExecutionGraph Plan}
    (resubmitted : (resubmitSuccessfulStages jobId updates.resubmitSuccessfulStages).exec
      (graph.writeFailedAttempts updates.failedStageAttempts) = (.ok (), marked))
    (wasReset : (resetRunningStages jobId updates.resetRunningStages).exec marked = (.ok (), reset)) :
    (applyStatusUpdates jobId updates).exec graph =
      (processingStagesUpdate updates.toUpdatedStages).exec reset := by
  simp [applyStatusUpdates, ExceptT.exec_bind, resubmitted, wasReset]

@[simp] theorem resolveStages_nil [StagePlan Plan] (graph : ExecutionGraph Plan) :
    (resolveStages [] : GraphM Plan Unit).exec graph = (.ok (), graph) := rfl

@[simp] theorem succeedStages_nil (graph : ExecutionGraph Plan) :
    (succeedStages [] : GraphM Plan Unit).exec graph = (.ok (), graph) := rfl

/-- With a failed stage, `processing_stages_update` fails the job once the
stages found ready are resolved and completed. -/
theorem processingStagesUpdate_of_failed [StagePlan Plan] {updated : UpdatedStages}
    {graph resolved succeeded : ExecutionGraph Plan}
    (wereResolved : (resolveStages updated.resolvedStages).exec graph = (.ok (), resolved))
    (wereSucceeded : (succeedStages updated.successfulStages).exec resolved = (.ok (), succeeded))
    (failed : updated.failedStages ≠ []) :
    (processingStagesUpdate updated).exec graph =
      (.ok [.jobRunningFailed graph.jobId (jobErrorMessage updated.failedStages)],
        succeeded.failJob (jobErrorMessage updated.failedStages)) := by
  simp [processingStagesUpdate, rollbackAndRerun, finishStagesUpdate, ExceptT.exec_bind,
    ExceptT.exec_map, wereResolved, wereSucceeded, failed]

end Ballista
