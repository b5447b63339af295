import Ballista.Core.Serde

/-! # An executor's running tasks

`Executor` (`executor.rs`) runs the query stage of each task it is given under
an abortable future, and keeps the future's abort handle, by task id and
partition, in `abort_handles`:

* `execute_query_stage` inserts the handle and awaits the future. It comes back
  with the stage's shuffle files, with the stage's error, or with `Aborted`
  when the handle was used, which `?` turns into `BallistaError::Cancelled`.
  Only a stage that succeeds removes its handle: both `?`s return before the
  removal.
* `cancel_task` removes the handle of a task, aborts its future, and says
  whether there was a handle.

The executor reports whatever the task ended with through `as_task_status`
(`run_task` in `executor_server.rs`, `run_received_task` in
`execution_loop.rs`). Tasks start, are cancelled and finish in any
interleaving, so beside the handles the model keeps the keys of the futures
that were aborted.
-/

namespace Ballista

/-- The key of an abort handle: a task id and the partition the task computes. -/
abbrev TaskKey := Nat × PartitionId

/-- What an executor holds of its tasks: the keys of its abort handles, and the
keys of the futures aborted through their handle. -/
structure Executor where
  abortHandles : List TaskKey
  aborted : List TaskKey
  deriving DecidableEq, Repr

namespace Executor

/-- An executor with no task. -/
def new : Executor := { abortHandles := [], aborted := [] }

/-- The start of `execute_query_stage`: the handle of a fresh future is inserted. -/
def startQueryStage (executor : Executor) (key : TaskKey) : Executor :=
  { abortHandles := executor.abortHandles.insert key, aborted := executor.aborted.erase key }

/-- The end of `execute_query_stage`: an aborted future yields `Cancelled`
whatever its stage computed; a stage that fails returns its error with the
handle left in place; a stage that succeeds removes the handle. -/
def finishQueryStage (executor : Executor) (key : TaskKey)
    (stageResult : Except BallistaError (List ShuffleWritePartition)) :
    Except BallistaError (List ShuffleWritePartition) × Executor :=
  if key ∈ executor.aborted then (.error .cancelled, executor)
  else
    match stageResult with
    | .error e => (.error e, executor)
    | .ok partitions =>
      (.ok partitions, { executor with abortHandles := executor.abortHandles.erase key })

/-- `cancel_task`: abort the future of a task that holds a handle. -/
def cancelTask (executor : Executor) (taskId : Nat) (jobId : String) (stageId partitionId : Nat) :
    Bool × Executor :=
  let key : TaskKey := (taskId, { jobId := jobId, stageId := stageId, partitionId := partitionId })
  if key ∈ executor.abortHandles then
    (true, { abortHandles := executor.abortHandles.erase key,
             aborted := executor.aborted.insert key })
  else (false, executor)

/-- `active_task_count`. -/
def activeTaskCount (executor : Executor) : Nat := executor.abortHandles.length

/-- A task run to its end: the status the executor reports for what
`execute_query_stage` returned. -/
def runTask (executor : Executor) (executorId : String) (taskId stageAttemptNum : Nat)
    (partition : PartitionId) (stageResult : Except BallistaError (List ShuffleWritePartition))
    (operatorMetrics : Option (List OperatorMetricsSet)) : TaskStatus × Executor :=
  let (result, executor) := executor.finishQueryStage (taskId, partition) stageResult
  (asTaskStatus result executorId taskId stageAttemptNum partition operatorMetrics, executor)

theorem mem_aborted_cancelTask {executor : Executor} {taskId : Nat} {jobId : String}
    {stageId partitionId : Nat} (found : (executor.cancelTask taskId jobId stageId partitionId).1) :
    (taskId, { jobId := jobId, stageId := stageId, partitionId := partitionId }) ∈
      (executor.cancelTask taskId jobId stageId partitionId).2.aborted := by
  by_cases present :
      (taskId, { jobId := jobId, stageId := stageId, partitionId := partitionId }) ∈
        executor.abortHandles
  · simp [cancelTask, present]
  · simp [cancelTask, present] at found

/-- An aborted future ends in `Cancelled`, whatever its stage computed. -/
theorem finishQueryStage_of_aborted {executor : Executor} {key : TaskKey}
    (aborted : key ∈ executor.aborted) (stageResult : Except BallistaError (List ShuffleWritePartition)) :
    executor.finishQueryStage key stageResult = (.error .cancelled, executor) := by
  simp [finishQueryStage, aborted]

/-- The report of an aborted task is the one of a `Cancelled` error. -/
theorem runTask_of_aborted {executor : Executor} {taskId : Nat} {partition : PartitionId}
    (aborted : (taskId, partition) ∈ executor.aborted) (executorId : String) (stageAttemptNum : Nat)
    (stageResult : Except BallistaError (List ShuffleWritePartition))
    (operatorMetrics : Option (List OperatorMetricsSet)) :
    (executor.runTask executorId taskId stageAttemptNum partition stageResult operatorMetrics).1 =
      asTaskStatus (.error .cancelled) executorId taskId stageAttemptNum partition operatorMetrics := by
  simp [runTask, finishQueryStage_of_aborted aborted]

end Executor

end Ballista
