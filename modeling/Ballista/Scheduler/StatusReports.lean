import Mathlib.Data.List.Nodup
import Ballista.Executor.Tasks
import Ballista.Scheduler.KeyedRuns
import Ballista.Scheduler.Run
import Ballista.Scheduler.StatusFrame
import Ballista.Scheduler.UpdatePhases

/-! # Reports that `update_task_status` mishandles

Runs of small jobs, from `ExecutionGraph::new`, in which `update_task_status`
reads a report of one of the tasks it handed out and leaves the job in a state
the design does not intend: failed by the report of a task it cancelled itself,
panicking on a report delivered twice, failing a stage on failures that do not
count toward the limit, running a stage with nothing to do, completing a stage
on a stale report, or reading one map output twice. Each section says what the
source does; where that holds of every graph a theorem says so, and the run
applies it.
-/

namespace Ballista

/-! ## Reports of cancelled tasks

When a fetch failure rolls a running stage back, `update_task_status` returns a
`CancelTasks` event with the stage's running tasks, and the executors abort
them through `cancel_task`. An aborted task still reports: `execute_query_stage`
returns `BallistaError::Cancelled`, which `From<BallistaError> for FailedTask`
classifies as an `ExecutionError`, not as the `TaskKilled` reason that
`update_task_status` ignores.

The report carries the attempt it was handed out at. If it arrives while the
stage, rolled back to the next attempt, is still unresolved, the
unresolved-stage branch of `update_task_status` reads it as a late execution
error of the previous attempt, puts the stage in `failed_stages`, and
`processing_stages_update` fails the job: `cancelledTask_failsJob` for any
graph, and `cancelledTask_failsJob_run` on a run of a two-stage job.
-/

section

variable {Plan : Type} [StagePlan Plan]

/-- The report of an aborted task of the previous attempt of an unresolved
stage fails the job, whatever the task's stage computed before the abort. -/
theorem cancelledTask_failsJob {graph : ExecutionGraph Plan} (keyed : graph.WellKeyed)
    {executor : Executor} {taskId : Nat} {partition : PartitionId}
    (aborted : (taskId, partition) ∈ executor.aborted) {attempt : Nat} {stage : UnresolvedStage Plan}
    (unresolved : graph.stages.get? partition.stageId = some (.unResolved stage))
    (nextAttempt : stage.stageAttemptNum = attempt + 1)
    (executorMeta : ExecutorMetadata)
    (stageResult : Except BallistaError (List ShuffleWritePartition))
    (operatorMetrics : Option (List OperatorMetricsSet)) (limits : RetryLimits) :
    ((updateTaskStatus executorMeta
      [(executor.runTask executorMeta.id taskId attempt partition
        stageResult operatorMetrics).1]
      limits.maxTaskFailures limits.maxStageFailures [partition.stageId]).exec
        graph).2.isFailed = true := by
  rw [Executor.runTask_of_aborted aborted]
  set status := asTaskStatus (.error .cancelled) executorMeta.id taskId attempt partition
    operatorMetrics
  set stageId := partition.stageId
  set revived := graph.revive.2
  set ctx := UpdateContext.ofGraph revived executorMeta limits.maxTaskFailures
    limits.maxStageFailures
  set failed : StatusUpdates := { StatusUpdates.initial revived with
    failedStages := [(stageId, (FailedTask.ofBallistaError .cancelled).error)] }
  have found : revived.stages.get? stageId = some (.unResolved stage) :=
    keyed.get?_revive unresolved (fun _ => by simp)
  -- `Cancelled` is an execution error, and the report is one attempt behind
  have late : updateUnresolvedTaskStatus ctx stageId (stage, StatusUpdates.initial revived)
      status = .ok (stage, failed) :=
    updateUnresolvedTaskStatus_executionError rfl (by simp [status, asTaskStatus, nextAttempt]) rfl
  have group : ((groupByStage [status]).get? stageId).getD [] = [status] := by
    simp [groupByStage_singleton, Table.get?, status, asTaskStatus, stageId]
  have readStage : (updateStageTaskStatuses ctx stageId [status]).exec
      { graph := revived, updates := StatusUpdates.initial revived } =
        (.ok (), { graph := revived.setStage stageId (.unResolved stage), updates := failed }) :=
    updateStageTaskStatuses_unResolved found (by simpa using late)
  have readAll : (visitGroups ctx (groupByStage [status]) [stageId]).exec
      { graph := revived, updates := StatusUpdates.initial revived } =
        (.ok (), { graph := revived.setStage stageId (.unResolved stage), updates := failed }) := by
    rw [visitGroups_cons_of_ok (group ▸ readStage), visitGroups_nil]
  have phase1 : (readTaskStatuses executorMeta limits.maxTaskFailures limits.maxStageFailures
      (groupByStage [status]) [stageId]).exec graph.revive.2 =
        (.ok failed, revived.setStage stageId (.unResolved stage)) :=
    readTaskStatuses_of_ok readAll
  -- nothing was reported lost, so the second phase is `processing_stages_update`
  set written := (revived.setStage stageId (.unResolved stage)).writeFailedAttempts
    failed.failedStageAttempts
  have phase2 : (applyStatusUpdates graph.jobId failed).exec
      (revived.setStage stageId (.unResolved stage)) =
        (processingStagesUpdate failed.toUpdatedStages).exec written :=
    applyStatusUpdates_of_ok (resubmitSuccessfulStages_nil _ _) (resetRunningStages_nil _ _)
  have phase3 := processingStagesUpdate_of_failed (resolveStages_nil written)
    (succeedStages_nil written)
    (by simp [failed, StatusUpdates.toUpdatedStages] : failed.toUpdatedStages.failedStages ≠ [])
  simp [updateTaskStatus, ExceptT.exec_bind, reviveM, phase1, phase2, phase3]

/-- `executor-3` after `cancel_task` of the second reduce task, task 2, which it runs. -/
def cancelledExecutor : Executor :=
  ((Executor.new.startQueryStage (2, ⟨"job", 2, 1⟩)).cancelTask 2 "job" 2 1).2

/-- What `executor-3` reports for task 2 once aborted, whatever it wrote before. -/
def cancelledReport : TaskStatus :=
  (cancelledExecutor.runTask "executor-3" 2 0 ⟨"job", 2, 1⟩ (.ok []) none).1

/-- The map task succeeds and both reduce tasks are handed out; the fetch
failure of the first rolls the reduce stage back and asks to cancel the second,
whose report then fails the job. -/
theorem cancelledTask_failsJob_run :
    ∃ before rolledBack after : JobRun ShapePlan,
      Reaches RetryLimits.taskManager twoStageJob before ∧
      JobStep RetryLimits.taskManager before rolledBack ∧
      (updateTaskStatus ⟨"executor-2"⟩ [reduceFetchFailed] 4 4 [2]).exec before.graph =
        (.ok [.cancelTasks [⟨2, "job", 2, 1, "executor-3"⟩]], rolledBack.graph) ∧
      rolledBack.graph.isFailed = false ∧
      JobStep RetryLimits.taskManager rolledBack after ∧
      ((updateTaskStatus ⟨"executor-3"⟩ [cancelledReport] 4 4 [2]).exec rolledBack.graph).2 =
        after.graph ∧
      after.graph.isFailed = true := by
  -- after the first reduce task's fetch failure the reduce stage is unresolved
  -- again, one attempt on, and the second reduce task's report is a step
  obtain ⟨before, reached, rollingBack⟩ : ∃ before : JobRun ShapePlan,
      Reaches RetryLimits.taskManager twoStageJob before ∧
        (before.perform RetryLimits.taskManager
          (.updateTaskStatus ⟨"executor-2"⟩ [reduceFetchFailed] [2])).any (fun rolledBack => decide (
            (updateTaskStatus ⟨"executor-2"⟩ [reduceFetchFailed] 4 4 [2]).exec before.graph =
              (.ok [.cancelTasks [⟨2, "job", 2, 1, "executor-3"⟩]], rolledBack.graph) ∧
            rolledBack.graph.isFailed = false ∧
            (rolledBack.perform RetryLimits.taskManager
              (.updateTaskStatus ⟨"executor-3"⟩ [cancelledReport] [2])).isSome = true ∧
            ((rolledBack.graph.stages.get? 2).bind ExecutionStage.unResolved?).any
              (fun stage => decide (stage.stageAttemptNum = 1)) = true)) = true :=
    Reaches.exists_of_performAll_any reducesRunningOps (by decide +kernel)
  obtain ⟨rolledBack, rollback, rolledBackAs, notFailed, reported, unresolvedAgain⟩ :=
    JobStep.exists_of_perform_any rollingBack
  obtain ⟨after, performed⟩ := Option.isSome_iff_exists.mp reported
  have afterAs := JobRun.graph_of_perform_updateTaskStatus performed
  -- the report is the `Cancelled` one of an aborted future, one attempt behind the unresolved stage
  obtain ⟨stage, unresolved, nextAttempt⟩ := ExecutionStage.exists_unResolved_of_any _ unresolvedAgain
  have aborted : (2, ⟨"job", 2, 1⟩) ∈ cancelledExecutor.aborted :=
    Executor.mem_aborted_cancelTask (by decide +kernel)
  have failed : after.graph.isFailed = true := by
    rw [afterAs]
    exact cancelledTask_failsJob (Reaches.wellKeyed_of_start (reached.tail rollback)) aborted
      unresolved nextAttempt ⟨"executor-3"⟩ (.ok []) none RetryLimits.taskManager
  exact ⟨before, rolledBack, after, reached, rollback, rolledBackAs, notFailed,
    JobStep.of_perform performed, afterAs.symm, failed⟩

end

/-! ## Statuses for a freed task slot

A task slot of a running stage is set back to `None` while the stage stays at
the same attempt: by `reset_task_info` after a retryable failure, by
`reset_tasks` when an executor is lost, and by the `reset_running_stages` loop
of a late fetch failure. A status of the current attempt that reaches such a
slot, a late one or one delivered twice, makes `update_task_info` unwrap the
`None`: `update_task_status` panics (`updateTaskStatus_panics_of_freed`). The
first path takes two deliveries of one retryable failure
(`duplicateFailure_panics_run`).
-/

section

variable {Plan : Type} [StagePlan Plan]

/-- A status of the current attempt of a running stage, for a partition whose
slot holds no task, makes `update_task_status` panic. -/
theorem updateTaskStatus_panics_of_freed {graph : ExecutionGraph Plan} (keyed : graph.WellKeyed)
    {status : TaskStatus} {stage : RunningStage Plan}
    (running : graph.stages.get? status.stageId = some (.running stage))
    (current : stage.stageAttemptNum ≤ status.stageAttemptNum)
    (freed : stage.taskInfos[status.partitionId]? = some none)
    (executor : ExecutorMetadata) (maxTaskFailures maxStageFailures : Nat) :
    ((updateTaskStatus executor [status] maxTaskFailures maxStageFailures [status.stageId]).exec
      graph).1 = .error (.panic "called `Option::unwrap()` on a `None` value") := by
  set revived := graph.revive.2
  set ctx := UpdateContext.ofGraph revived executor maxTaskFailures maxStageFailures
  have found : revived.stages.get? status.stageId = some (.running stage) :=
    keyed.get?_revive running (fun _ => by simp)
  have unwrap : [status].foldlM (updateRunningTaskStatus ctx status.stageId)
      (stage, [], StatusUpdates.initial revived) =
        .error (.panic "called `Option::unwrap()` on a `None` value", stage) := by
    simp [updateRunningTaskStatus_of_freed current freed]
  have group : ((groupByStage [status]).get? status.stageId).getD [] = [status] := by
    simp [groupByStage_singleton, Table.get?]
  have readStage : (updateStageTaskStatuses ctx status.stageId [status]).exec
      { graph := revived, updates := StatusUpdates.initial revived } =
        (.error (.panic "called `Option::unwrap()` on a `None` value"),
          { graph := revived.setStage status.stageId (.running stage),
            updates := StatusUpdates.initial revived }) :=
    updateStageTaskStatuses_running_of_error found unwrap
  have readAll : (visitGroups ctx (groupByStage [status]) [status.stageId]).exec
      { graph := revived, updates := StatusUpdates.initial revived } =
        (.error (.panic "called `Option::unwrap()` on a `None` value"),
          { graph := revived.setStage status.stageId (.running stage),
            updates := StatusUpdates.initial revived }) :=
    visitGroups_cons_of_error (by rw [group]; exact readStage)
  rw [updateTaskStatus_of_read_error (readTaskStatuses_of_error readAll)]

/-- The map task of `twoStageJob` fails on an IO error, which is retried. -/
def mapIoFailed : TaskStatus :=
  asTaskStatus (.error (.ioError "disk")) "executor-1" 0 0 ⟨"job", 1, 0⟩ none

/-- The first delivery of the failure frees the map task's slot for a retry;
the second delivery of the same status panics. -/
theorem duplicateFailure_panics_run :
    ∃ run : JobRun ShapePlan,
      Reaches RetryLimits.taskManager twoStageJob run ∧
      (∃ task ∈ run.issued, mapIoFailed.Reports task) ∧
      ((updateTaskStatus ⟨"executor-1"⟩ [mapIoFailed] 4 4 [1]).exec run.graph).1 =
        .error (.panic "called `Option::unwrap()` on a `None` value") := by
  -- the first delivery leaves the map stage running at the same attempt, with the slot
  -- freed for a retry below the task failure limit
  obtain ⟨run, reached, reports, freedAny⟩ : ∃ run : JobRun ShapePlan,
      Reaches RetryLimits.taskManager twoStageJob run ∧ (∃ task ∈ run.issued, mapIoFailed.Reports task) ∧
        ((run.graph.stages.get? 1).bind ExecutionStage.running?).any (fun stage =>
          decide (stage.stageAttemptNum ≤ 0 ∧ stage.taskInfos[0]? = some none)) = true :=
    Reaches.exists_of_performAll_any
      [.popNextTask "executor-1", .updateTaskStatus ⟨"executor-1"⟩ [mapIoFailed] [1]] (by decide +kernel)
  obtain ⟨stage, running, current, freedSlot⟩ : ∃ stage : RunningStage ShapePlan,
      run.graph.stages.get? mapIoFailed.stageId = some (.running stage) ∧
        stage.stageAttemptNum ≤ mapIoFailed.stageAttemptNum ∧
        stage.taskInfos[mapIoFailed.partitionId]? = some none :=
    ExecutionStage.exists_running_of_any _ freedAny
  exact ⟨run, reached, reports, updateTaskStatus_panics_of_freed reached.wellKeyed_of_start running
    current freedSlot ⟨"executor-1"⟩ 4 4⟩

end

/-! ## The task failure counter

A running stage keeps one failure counter per partition. `update_task_info`
adds one to it for every retryable failure it accepts and sets it back to zero
on any other status; the counter is also the `task_attempt` of the next task
handed out for the partition. The failure limit is checked only for failures
that are retryable and count toward the limit, but against this counter, which
has also counted the retryable failures that do not count toward it. Three such
failures and one counted failure of a map task fail its stage under a limit of
four (`uncountedFailures_failStage_run`).
-/

section

/-- Whether a status is a failure that counts toward the task failure limit. -/
def TaskStatus.countedFailure (status : TaskStatus) : Bool :=
  match status.status with
  | some (.failed failedTask) => failedTask.retryable && failedTask.countToFailures
  | _ => false

/-- The map task of `twoStageJob` with a task id, failed because its executor
was lost: retryable, and not counted toward the failure limit. -/
def mapExecutorLost (taskId : Nat) : TaskStatus :=
  { taskId := taskId, jobId := "job", stageId := 1, stageAttemptNum := 0, partitionId := 0,
    metrics := [],
    status := some (.failed {
      error := "Executor lost", retryable := true, countToFailures := false,
      failedReason := some .executorLost }) }

/-- The map task of `twoStageJob` with a task id, failed on an IO error:
retryable, and counted toward the failure limit. -/
def mapIoFailedAgain (taskId : Nat) : TaskStatus :=
  asTaskStatus (.error (.ioError "disk")) "executor-1" taskId 0 ⟨"job", 1, 0⟩ none

/-- What the map partition of `twoStageJob` reports, one task after another. -/
def retriedReports : List TaskStatus :=
  [mapExecutorLost 0, mapExecutorLost 1, mapExecutorLost 2, mapIoFailedAgain 3]

/-- Each report follows the handing out of the task it is about. -/
def retriedOps : List JobOp :=
  retriedReports.flatMap fun status =>
    [.popNextTask "executor-1", .updateTaskStatus ⟨"executor-1"⟩ [status] [1]]

/-- Of the four failures of the map partition only the last counts toward the
limit of four, yet the map stage fails on it and the job with it; the task
handed out before it carried the attempt number three. -/
theorem uncountedFailures_failStage_run :
    ∃ run : JobRun ShapePlan, Reaches RetryLimits.taskManager twoStageJob run ∧
      (retriedReports.filter TaskStatus.countedFailure).length = 1 ∧
      run.issued.map TaskDescription.taskAttempt = [0, 1, 2, 3] ∧
      run.graph.isFailed = true :=
  Reaches.exists_of_performAll_any retriedOps (by decide +kernel)

end

/-! ## Late fetch failures and map stages left running

When a consumer stage was rolled back, a fetch failure of its previous attempt
may still arrive while it is unresolved. If the map stage it names was running
when the call began and the executor it blames was not blamed before, the
executor's locations are dropped from the consumer's inputs and the map stage
gets an entry in `reset_running_stages`. The entry is made with `or_default`,
so it is there even when no location of that executor was left to drop.

The call does not record a running stage with such an entry successful. When
its slots all hold successful tasks anyway, nothing resets them, no task of it
is left to hand out, and the stage stays running with nothing to do
(`finishedRunningStage_run`). Whether a map stage's fresh locations reach the
consumer before the consumer drops the blamed executor's locations depends on
the order the groups are read, and so does what the call leaves
(`visitOrder_changesUpdate_run`).
-/

section

open ExceptT

variable {Plan : Type}

/-- The running stages every task slot of which holds a successful task: no
task of them is left to hand out, and only a status read for them completes
them. -/
def ExecutionGraph.finishedRunningStages (graph : ExecutionGraph Plan) : List Nat :=
  graph.stages.filterMap fun entry =>
    match entry.2 with
    | .running stage => if stage.isSuccessful then some entry.1 else none
    | _ => none

/-- A map stage of two partitions. -/
def pairMapShape : ShapePlan := { stageId := 1, partitions := 2, shuffleInputs := [], readers := none }

/-- A job of a map stage of two partitions and a final stage of two partitions
reading it, as `ExecutionGraph::new` builds it. -/
def pairJob : JobRun ShapePlan :=
  JobRun.start "scheduler" "job" "" "session" 2 [pairMapShape, reduceShape]

/-- A map task of `pairJob` succeeds, writing both shuffle partitions. -/
def pairMapDone (executorId : String) (taskId stageAttemptNum partition : Nat) : TaskStatus :=
  asTaskStatus
    (.ok [⟨0, "/" ++ toString taskId ++ "/0", 1, 1, 1⟩, ⟨1, "/" ++ toString taskId ++ "/1", 1, 1, 1⟩])
    executorId taskId stageAttemptNum ⟨"job", 1, partition⟩ none

/-- A reduce task of `pairJob` cannot fetch a map partition from an executor. -/
def pairReduceFetchFailed (executorId : String) (taskId stageAttemptNum partition : Nat)
    (mapExecutorId : String) (mapPartition : Nat) : TaskStatus :=
  asTaskStatus (.error (.fetchFailed mapExecutorId 1 mapPartition "fetch failed")) executorId taskId
    stageAttemptNum ⟨"job", 2, partition⟩ none

/-- Both map tasks succeed, on `executor-1` and `executor-2`, and both reduce
tasks are handed out. The first cannot fetch from `executor-2`: the final stage
is rolled back and the map stage rerun for partition 1. `executor-1` is lost,
which frees map partition 0 and drops its locations. `executor-4` runs both map
tasks again and reports them together with the second reduce task's late fetch
failure from `executor-1`, whose locations are already gone. -/
def leftRunningOps : List JobOp :=
  [.popNextTask "executor-1", .popNextTask "executor-2",
   .updateTaskStatus ⟨"executor-1"⟩ [pairMapDone "executor-1" 0 0 0] [1],
   .updateTaskStatus ⟨"executor-2"⟩ [pairMapDone "executor-2" 1 0 1] [1],
   .popNextTask "executor-3", .popNextTask "executor-4",
   .updateTaskStatus ⟨"executor-3"⟩ [pairReduceFetchFailed "executor-3" 2 0 0 "executor-2" 1] [2],
   .resetStagesOnLostExecutor "executor-1",
   .popNextTask "executor-4", .popNextTask "executor-4",
   .updateTaskStatus ⟨"executor-4"⟩
     [pairReduceFetchFailed "executor-4" 3 0 1 "executor-1" 0, pairMapDone "executor-4" 4 1 0,
       pairMapDone "executor-4" 5 1 1] [2, 1]]

/-- Map partition 0 succeeds on `executor-1` and map partition 1 on `executor-3`;
both reduce tasks are handed out, the second to `executor-3`. The first cannot
fetch map partition 0 from `executor-1`: the final stage is rolled back and the
map stage rerun for partition 0, which `executor-3` takes. -/
def reorderedOps : List JobOp :=
  [.popNextTask "executor-1", .popNextTask "executor-3",
   .updateTaskStatus ⟨"executor-1"⟩ [pairMapDone "executor-1" 0 0 0] [1],
   .updateTaskStatus ⟨"executor-3"⟩ [pairMapDone "executor-3" 1 0 1] [1],
   .popNextTask "executor-2", .popNextTask "executor-3",
   .updateTaskStatus ⟨"executor-2"⟩ [pairReduceFetchFailed "executor-2" 2 0 0 "executor-1" 0] [2],
   .popNextTask "executor-3"]

/-- What `executor-3` then reports at once: the second reduce task of the
previous attempt could not fetch map partition 1 from `executor-3`, and the
rerun of map partition 0 succeeded. -/
def reorderedReport : List TaskStatus :=
  [pairReduceFetchFailed "executor-3" 3 0 1 "executor-3" 1, pairMapDone "executor-3" 4 1 0]

/-- The runs of `pairJob` the late reports are read in. After `leftRunningOps`
the job is not failed, and the map stage runs its second attempt with both
slots successful; the first attempt's status of map partition 1 from
`executor-2` reports a task handed out, and reading it once more completes the
map stage and changes the final stage's inputs. After `reorderedOps`, the order
in which `executor-3`'s report is read changes what the call leaves. -/
theorem pairJob_reaches :
    (∃ run : JobRun ShapePlan, Reaches RetryLimits.taskManager pairJob run ∧
        run.graph.isFailed = false ∧ run.graph.finishedRunningStages = [1] ∧
        (run.graph.stages.get? 1).map (fun stage => (stage.variantName, stage.stageAttemptNum)) =
          some ("Running", 1) ∧
        (∃ task ∈ run.issued, (pairMapDone "executor-2" 1 0 1).Reports task) ∧
        let updated :=
          (updateTaskStatus ⟨"executor-2"⟩ [pairMapDone "executor-2" 1 0 1] 4 4 [1]).exec run.graph
        updated.1.isOk = true ∧ updated.2.isFailed = false ∧
          (updated.2.stages.get? 1).map ExecutionStage.variantName = some "Successful" ∧
          (updated.2.stages.get? 2).map ExecutionStage.inputs ≠
            (run.graph.stages.get? 2).map ExecutionStage.inputs) ∧
    (∃ run : JobRun ShapePlan, Reaches RetryLimits.taskManager pairJob run ∧
        (∀ status ∈ reorderedReport, ∃ task ∈ run.issued, status.Reports task) ∧
        [1, 2].Perm (groupByStage reorderedReport).keys ∧
        [2, 1].Perm (groupByStage reorderedReport).keys ∧
        let mapFirst := (updateTaskStatus ⟨"executor-3"⟩ reorderedReport 4 4 [1, 2]).exec run.graph
        let mapLast := (updateTaskStatus ⟨"executor-3"⟩ reorderedReport 4 4 [2, 1]).exec run.graph
        mapFirst.1.isOk = true ∧ mapLast.1.isOk = true ∧
          mapFirst.2.isFailed = false ∧ mapLast.2.isFailed = false ∧
          mapFirst.2.stages ≠ mapLast.2.stages) := by
  constructor
  · exact Reaches.exists_of_performAll_any leftRunningOps (by decide +kernel)
  · exact Reaches.exists_of_performAll_any reorderedOps (by decide +kernel)

/-- The map stage is left running with both slots successful, in a job that is
not failed. -/
theorem finishedRunningStage_run :
    ∃ run : JobRun ShapePlan, Reaches RetryLimits.taskManager pairJob run ∧
      run.graph.isFailed = false ∧ run.graph.finishedRunningStages = [1] := by
  obtain ⟨⟨run, reaches, notFailed, finished, -⟩, -⟩ := pairJob_reaches
  exact ⟨run, reaches, notFailed, finished⟩

/-- Reading the map stage's group first publishes its fresh locations, which
the late fetch failure then drops with the rest of `executor-3`'s and resets
both map partitions; reading it last keeps them and resets partition 1 only.
Both orders return, and neither fails the job. -/
theorem visitOrder_changesUpdate_run :
    ∃ run : JobRun ShapePlan, Reaches RetryLimits.taskManager pairJob run ∧
      (∀ status ∈ reorderedReport, ∃ task ∈ run.issued, status.Reports task) ∧
      [1, 2].Perm (groupByStage reorderedReport).keys ∧
      [2, 1].Perm (groupByStage reorderedReport).keys ∧
      let mapFirst := (updateTaskStatus ⟨"executor-3"⟩ reorderedReport 4 4 [1, 2]).exec run.graph
      let mapLast := (updateTaskStatus ⟨"executor-3"⟩ reorderedReport 4 4 [2, 1]).exec run.graph
      mapFirst.1.isOk = true ∧ mapLast.1.isOk = true ∧
        mapFirst.2.isFailed = false ∧ mapLast.2.isFailed = false ∧
        mapFirst.2.stages ≠ mapLast.2.stages :=
  pairJob_reaches.2

end

/-! ## Statuses of an earlier attempt

The loop over a running stage's statuses skips a status of an attempt below the
stage's, so a group of such statuses is read as an empty group. The completion
check after the loop does not look at the statuses: it records the stage
successful when its slots all hold successful tasks and no late fetch failure
reset it. A stale status of a stage left
running with nothing to do (`finishedRunningStage_run`) therefore completes it,
publishes its outputs and resolves the stage reading them
(`staleStatus_completesStage_run`).
-/

section

/-- The status of map task 1 of `pairJob`, from its first attempt, reported once more. -/
def staleMapReport : TaskStatus := pairMapDone "executor-2" 1 0 1

/-- After `leftRunningOps`, the map stage is running its second attempt with
both slots successful; the stale report completes it, which completes the
final stage's input and resolves it. -/
theorem staleStatus_completesStage_run :
    ∃ run : JobRun ShapePlan, Reaches RetryLimits.taskManager pairJob run ∧
      (∃ task ∈ run.issued, staleMapReport.Reports task) ∧
      (run.graph.stages.get? 1).map (fun stage => (stage.variantName, stage.stageAttemptNum)) =
        some ("Running", 1) ∧ staleMapReport.stageAttemptNum = 0 ∧
      let updated := (updateTaskStatus ⟨"executor-2"⟩ [staleMapReport] 4 4 [1]).exec run.graph
      updated.1.isOk = true ∧ updated.2.isFailed = false ∧
        (updated.2.stages.get? 1).map ExecutionStage.variantName = some "Successful" ∧
        (updated.2.stages.get? 2).map ExecutionStage.inputs ≠
          (run.graph.stages.get? 2).map ExecutionStage.inputs := by
  obtain ⟨⟨run, reaches, -, -, running, reports, updated⟩, -⟩ := pairJob_reaches
  exact ⟨run, reaches, reports, running, rfl, updated⟩

end

/-! ## A success delivered twice

`update_task_info` turns a status away only when its task id is below the one
the slot holds; a status of the slot's own task is taken again, and for a
success the loop then collects the task's shuffle locations again. A success
delivered twice is thus collected twice, and while the map
stage still runs, each collection is published to the stages reading it: the
final stage of a job ends up reading one map output twice
(`repeatedSuccess_duplicatesInput_run`).
-/

section

variable {Plan : Type}

/-- The map partitions a stage reads the locations of, for one output partition
of one of its input stages: one entry for each location. -/
def ExecutionStage.inputMapPartitions (stage : ExecutionStage Plan) (inputStageId partition : Nat) :
    List Nat :=
  (((stage.inputs.get? inputStageId).bind fun output => output.partitionLocations.get? partition).getD
    []).map PartitionLocation.mapPartitionId

/-- A final stage of one partition, reading the one shuffle partition of stage 1. -/
def gatherShape : ShapePlan := { stageId := 2, partitions := 1, shuffleInputs := [(1, 1)], readers := none }

/-- A job of a map stage of two partitions and a final stage of one partition. -/
def gatherJob : JobRun ShapePlan :=
  JobRun.start "scheduler" "job" "" "session" 1 [pairMapShape, gatherShape]

/-- A map task of `gatherJob` succeeds, writing its one shuffle partition. -/
def gatherMapDone (executorId : String) (taskId partition : Nat) : TaskStatus :=
  asTaskStatus (.ok [⟨0, "/" ++ toString taskId ++ "/0", 1, 1, 1⟩]) executorId taskId 0
    ⟨"job", 1, partition⟩ none

/-- Map task 0 succeeds on `executor-1`, whose report is delivered twice while
map partition 1 waits; map task 1 then succeeds on `executor-2`, and the final
stage is resolved and revived. -/
def repeatedSuccessOps : List JobOp :=
  [.popNextTask "executor-1",
   .updateTaskStatus ⟨"executor-1"⟩ [gatherMapDone "executor-1" 0 0] [1],
   .updateTaskStatus ⟨"executor-1"⟩ [gatherMapDone "executor-1" 0 0] [1],
   .popNextTask "executor-2",
   .updateTaskStatus ⟨"executor-2"⟩ [gatherMapDone "executor-2" 1 1] [1],
   .revive]

/-- The final stage runs reading map partition 0 twice. -/
theorem repeatedSuccess_duplicatesInput_run :
    ∃ run : JobRun ShapePlan, Reaches RetryLimits.taskManager gatherJob run ∧
      run.graph.isFailed = false ∧
      (run.graph.stages.get? 2).map (fun stage => (stage.variantName, stage.inputMapPartitions 1 0)) =
        some ("Running", [0, 0, 1]) :=
  Reaches.exists_of_performAll_any repeatedSuccessOps (by decide +kernel)

end

end Ballista
