import Mathlib.Data.List.Basic

/-! # The messages exchanged by scheduler and executors

The protobuf messages and scheduler-side records of `ballista-core` that the
scheduler's job state reads: partition ids and locations, the statuses an
executor reports for a task, a job's status, and `BallistaError` with its
translation into the `FailedTask` an executor reports (`From<BallistaError> for
FailedTask`, `core/src/error.rs`) and the executor's `as_task_status`
(`executor/src/lib.rs`).

Protobuf `uint32`/`uint64` fields and Rust `usize` values are natural numbers.
Timestamps, the executor's host and ports and the metric values themselves are
left out: no decision of the scheduler reads them. A task's operator metrics
keep their number, which `update_task_metrics` checks.
-/

namespace Ballista

/-- `ExecutorMetadata`, reduced to the executor id that the scheduler compares. -/
structure ExecutorMetadata where
  id : String
  deriving DecidableEq, Repr

/-- `PartitionId`: one output partition of one stage of a job. -/
structure PartitionId where
  jobId : String
  stageId : Nat
  partitionId : Nat
  deriving DecidableEq, Repr

/-- `PartitionStats`. -/
structure PartitionStats where
  numRows : Option Nat
  numBatches : Option Nat
  numBytes : Option Nat
  deriving DecidableEq, Repr

/-- `PartitionLocation`: where the map task `mapPartitionId` wrote the shuffle
partition `partitionId`. -/
structure PartitionLocation where
  mapPartitionId : Nat
  partitionId : PartitionId
  executorMeta : ExecutorMetadata
  partitionStats : PartitionStats
  path : String
  deriving DecidableEq, Repr

/-- `ShuffleWritePartition`: one shuffle file written by a task. -/
structure ShuffleWritePartition where
  partitionId : Nat
  path : String
  numBatches : Nat
  numRows : Nat
  numBytes : Nat
  deriving DecidableEq, Repr

/-- `FetchPartitionError`: a shuffle partition could not be read. -/
structure FetchPartitionError where
  executorId : String
  mapStageId : Nat
  mapPartitionId : Nat
  deriving DecidableEq, Repr

/-- `failed_task::FailedReason`. -/
inductive FailedTask.FailedReason where
  | executionError
  | fetchPartitionError (error : FetchPartitionError)
  | ioError
  | executorLost
  | resultLost
  | taskKilled
  deriving DecidableEq, Repr

/-- `FailedTask`. -/
structure FailedTask where
  error : String
  retryable : Bool
  countToFailures : Bool
  failedReason : Option FailedTask.FailedReason
  deriving DecidableEq, Repr

/-- `SuccessfulTask`. -/
structure SuccessfulTask where
  executorId : String
  partitions : List ShuffleWritePartition
  deriving DecidableEq, Repr

/-- `RunningTask`. -/
structure RunningTask where
  executorId : String
  deriving DecidableEq, Repr

/-- `task_status::Status`. -/
inductive TaskStatus.Status where
  | running (task : RunningTask)
  | failed (task : FailedTask)
  | successful (task : SuccessfulTask)
  deriving DecidableEq, Repr

/-- `OperatorMetricsSet`, kept as the list of its metric values. -/
structure OperatorMetricsSet where
  metrics : List Nat
  deriving DecidableEq, Repr

/-- `TaskStatus`: what an executor reports for one task. -/
structure TaskStatus where
  taskId : Nat
  jobId : String
  stageId : Nat
  stageAttemptNum : Nat
  partitionId : Nat
  status : Option TaskStatus.Status
  metrics : List OperatorMetricsSet
  deriving DecidableEq, Repr

/-- `job_status::Status`. -/
inductive JobStatus.Status where
  | queued
  | running (scheduler : String)
  | failed (error : String)
  | successful (partitionLocation : List PartitionLocation)
  deriving DecidableEq, Repr

/-- `JobStatus`. -/
structure JobStatus where
  jobId : String
  jobName : String
  status : Option JobStatus.Status
  deriving DecidableEq, Repr

/-- Whether a job status is `Failed`, the test of `pop_next_task` and
`fetch_running_stage`. -/
def JobStatus.isFailed (status : JobStatus) : Bool :=
  match status.status with
  | some (.failed _) => true
  | _ => false

/-- `DataFusionError`, distinguishing the IO errors that a failed task reports
as retryable. -/
inductive DataFusionError where
  | ioError (message : String)
  | other (message : String)
  deriving DecidableEq, Repr

/-- `BallistaError`; the errors of other libraries are kept as their text. -/
inductive BallistaError where
  | notImplemented (message : String)
  | general (message : String)
  | internal (message : String)
  | arrowError (message : String)
  | dataFusionError (error : DataFusionError)
  | sqlError (message : String)
  | ioError (message : String)
  | tonicError (message : String)
  | grpcError (message : String)
  | grpcConnectionError (message : String)
  | tokioError (message : String)
  | grpcActionError (message : String)
  | fetchFailed (executorId : String) (mapStage mapPartition : Nat) (message : String)
  | cancelled
  deriving DecidableEq, Repr

/-- The derived `Debug` text of an error, as `FailedTask::from` prints it. -/
def BallistaError.debug : BallistaError → String
  | .notImplemented message => "NotImplemented(" ++ message ++ ")"
  | .general message => "General(" ++ message ++ ")"
  | .internal message => "Internal(" ++ message ++ ")"
  | .arrowError message => "ArrowError(" ++ message ++ ")"
  | .dataFusionError (.ioError message) => "DataFusionError(IoError(" ++ message ++ "))"
  | .dataFusionError (.other message) => "DataFusionError(" ++ message ++ ")"
  | .sqlError message => "SqlError(" ++ message ++ ")"
  | .ioError message => "IoError(" ++ message ++ ")"
  | .tonicError message => "TonicError(" ++ message ++ ")"
  | .grpcError message => "GrpcError(" ++ message ++ ")"
  | .grpcConnectionError message => "GrpcConnectionError(" ++ message ++ ")"
  | .tokioError message => "TokioError(" ++ message ++ ")"
  | .grpcActionError message => "GrpcActionError(" ++ message ++ ")"
  | .fetchFailed executorId mapStage mapPartition message =>
    "FetchFailed(" ++ executorId ++ ", " ++ toString mapStage ++ ", " ++
      toString mapPartition ++ ", " ++ message ++ ")"
  | .cancelled => "Cancelled"

/-- `From<BallistaError> for FailedTask`: a fetch failure is neither retried nor
counted, an IO error is retried and counted, and every other error, an aborted
task's `Cancelled` included, is an `ExecutionError`. -/
def FailedTask.ofBallistaError : BallistaError → FailedTask
  | .fetchFailed executorId mapStageId mapPartitionId desc =>
    { error := desc, retryable := false, countToFailures := false,
      failedReason := some (.fetchPartitionError ⟨executorId, mapStageId, mapPartitionId⟩) }
  | .ioError io =>
    { error := "Task failed due to Ballista IO error: " ++ io, retryable := true,
      countToFailures := true, failedReason := some .ioError }
  | .dataFusionError (.ioError io) =>
    { error := "Task failed due to DataFusion IO error: " ++ io, retryable := true,
      countToFailures := true, failedReason := some .ioError }
  | other =>
    { error := "Task failed due to runtime execution error: " ++ other.debug,
      retryable := false, countToFailures := false, failedReason := some .executionError }

/-- `as_task_status`: the status an executor reports for a finished task. -/
def asTaskStatus (executionResult : Except BallistaError (List ShuffleWritePartition))
    (executorId : String) (taskId stageAttemptNum : Nat) (partitionId : PartitionId)
    (operatorMetrics : Option (List OperatorMetricsSet)) : TaskStatus :=
  let metrics := operatorMetrics.getD []
  match executionResult with
  | .ok partitions =>
    { taskId, jobId := partitionId.jobId, stageId := partitionId.stageId, stageAttemptNum,
      partitionId := partitionId.partitionId, metrics,
      status := some (.successful { executorId, partitions }) }
  | .error e =>
    { taskId, jobId := partitionId.jobId, stageId := partitionId.stageId, stageAttemptNum,
      partitionId := partitionId.partitionId, metrics,
      status := some (.failed (FailedTask.ofBallistaError e)) }

end Ballista
