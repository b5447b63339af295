import Ballista.Lib.Table
import Ballista.Core.Serde

/-! # Execution stages

The five states of a stage of a job (`execution_stage.rs`) and the transitions
between them:

```
UnResolvedStage           FailedStage
      ↓            ↙           ↑
 ResolvedStage     →     RunningStage
                               ↓
                        SuccessfulStage
```

with the back edges of the retry paths: a running or resolved stage rolls back
to unresolved, and a successful stage reruns as a running stage. A running stage
keeps one `TaskInfo` slot per partition, `none` while the partition waits to be
scheduled.

The stage plan is DataFusion's `Arc<dyn ExecutionPlan>`. The scheduler reads it
only through the functions of `StagePlan`: its partition count, the planner's
`remove_unresolved_shuffles` and `rollback_resolved_shuffles`, and the two
physical optimizer rules run when a stage is resolved. A method that can panic
or return an error yields `Except Fault`.
-/

namespace Ballista

/-- How a method ends without a value: the `BallistaError` it returns, a panic,
or a loop that runs past the bound its termination argument gives, which the
source would not leave. -/
inductive Fault where
  | error (error : BallistaError)
  | panic (message : String)
  | diverges
  deriving DecidableEq, Repr

/-- Whether a fault is a panic. -/
def Fault.isPanic : Fault → Bool
  | .panic _ => true
  | _ => false

/-- The locations of each input stage's shuffle partitions, as `to_resolved`
passes them to the planner. -/
abbrev InputLocations := Table Nat (Table Nat (List PartitionLocation))

/-- What the scheduler reads of a stage plan. -/
class StagePlan (Plan : Type) where
  /-- `ShuffleWriterExec::stage_id` of the plan's root. -/
  stageId : Plan → Nat
  /-- The `stage_id`s of the plan's `UnresolvedShuffleExec`s, in the order
  `accept` visits them. -/
  unresolvedShuffleStageIds : Plan → List Nat
  /-- `get_stage_partitions`: the input partition count of the `ShuffleWriterExec`. -/
  stagePartitions : Plan → Nat
  /-- `crate::planner::remove_unresolved_shuffles`. -/
  removeUnresolvedShuffles : Plan → InputLocations → Except BallistaError Plan
  /-- DataFusion's `JoinSelection` rule. -/
  joinSelection : Plan → Except BallistaError Plan
  /-- DataFusion's `AggregateStatistics` rule. -/
  aggregateStatistics : Plan → Except BallistaError Plan
  /-- `crate::planner::rollback_resolved_shuffles`. -/
  rollbackResolvedShuffles : Plan → Except BallistaError Plan

/-- `StageOutput`: the shuffle partitions an input stage has published, by
output partition, and whether all of its tasks have completed. -/
structure StageOutput where
  partitionLocations : Table Nat (List PartitionLocation)
  complete : Bool
  deriving DecidableEq, Repr

namespace StageOutput

/-- `StageOutput::new`. -/
def new : StageOutput := { partitionLocations := [], complete := false }

/-- `add_partition`: append a location to the list of its output partition. -/
def addPartition (output : StageOutput) (location : PartitionLocation) : StageOutput :=
  { output with
    partitionLocations :=
      output.partitionLocations.upsert location.partitionId.partitionId [] (· ++ [location]) }

end StageOutput

/-- `TaskInfo`, without its timestamps. -/
structure TaskInfo where
  taskId : Nat
  taskStatus : TaskStatus.Status
  deriving DecidableEq, Repr

/-- Whether a task slot holds a successful task. -/
def TaskInfo.isSuccessful (info : Option TaskInfo) : Bool :=
  match info with
  | some { taskStatus := .successful _, .. } => true
  | _ => false

variable (Plan : Type)

/-- `UnresolvedStage`: a stage some of whose input stages are not complete. -/
structure UnresolvedStage where
  stageId : Nat
  stageAttemptNum : Nat
  outputLinks : List Nat
  inputs : Table Nat StageOutput
  plan : Plan
  lastAttemptFailureReasons : List String
  deriving DecidableEq

/-- `ResolvedStage`: a stage whose inputs are all complete. -/
structure ResolvedStage where
  stageId : Nat
  stageAttemptNum : Nat
  partitions : Nat
  outputLinks : List Nat
  inputs : Table Nat StageOutput
  plan : Plan
  lastAttemptFailureReasons : List String
  deriving DecidableEq

/-- `RunningStage`: a stage whose tasks are being scheduled and run. -/
structure RunningStage where
  stageId : Nat
  stageAttemptNum : Nat
  partitions : Nat
  outputLinks : List Nat
  inputs : Table Nat StageOutput
  plan : Plan
  taskInfos : List (Option TaskInfo)
  taskFailureNumbers : List Nat
  stageMetrics : Option (List OperatorMetricsSet)
  deriving DecidableEq

/-- `SuccessfulStage`: a stage all of whose tasks have succeeded. -/
structure SuccessfulStage where
  stageId : Nat
  stageAttemptNum : Nat
  partitions : Nat
  outputLinks : List Nat
  inputs : Table Nat StageOutput
  plan : Plan
  taskInfos : List TaskInfo
  stageMetrics : List OperatorMetricsSet
  deriving DecidableEq

/-- `FailedStage`. -/
structure FailedStage where
  stageId : Nat
  stageAttemptNum : Nat
  partitions : Nat
  outputLinks : List Nat
  plan : Plan
  taskInfos : List (Option TaskInfo)
  stageMetrics : Option (List OperatorMetricsSet)
  errorMessage : String
  deriving DecidableEq

/-- `ExecutionStage`. -/
inductive ExecutionStage where
  | unResolved (stage : UnresolvedStage Plan)
  | resolved (stage : ResolvedStage Plan)
  | running (stage : RunningStage Plan)
  | successful (stage : SuccessfulStage Plan)
  | failed (stage : FailedStage Plan)
  deriving DecidableEq

variable {Plan} [StagePlan Plan]

namespace UnresolvedStage

/-- `UnresolvedStage::new`: attempt 0 and an empty output for each child stage. -/
def new (stageId : Nat) (plan : Plan) (outputLinks : List Nat) (childStageIds : List Nat) :
    UnresolvedStage Plan :=
  { stageId := stageId, stageAttemptNum := 0, outputLinks := outputLinks, plan := plan,
    lastAttemptFailureReasons := [],
    inputs := childStageIds.foldl (fun inputs child => inputs.insert child StageOutput.new) [] }

/-- `add_input_partitions`: publish locations of an input stage. -/
def addInputPartitions (stage : UnresolvedStage Plan) (stageId : Nat)
    (locations : List PartitionLocation) : Except BallistaError (UnresolvedStage Plan) :=
  if stage.inputs.contains stageId then
    .ok { stage with
      inputs := stage.inputs.modify stageId fun output => locations.foldl StageOutput.addPartition output }
  else
    .error (.internal ("Error adding input partitions to stage " ++ toString stage.stageId ++
      ", " ++ toString stageId ++ " is not a valid child stage ID"))

/-- `complete_input`. -/
def completeInput (stage : UnresolvedStage Plan) (stageId : Nat) : UnresolvedStage Plan :=
  { stage with inputs := stage.inputs.modify stageId fun output => { output with complete := true } }

/-- `resolvable`: every input is complete. -/
def resolvable (stage : UnresolvedStage Plan) : Bool :=
  stage.inputs.all fun input => input.2.complete

end UnresolvedStage

/-- Insert every element of a list into a set, as `HashSet::extend` does. -/
def insertAll {α : Type} [DecidableEq α] (set items : List α) : List α :=
  items.foldl (fun set item => set.insert item) set

/-- The map partitions with a location on an executor, as the set that
`remove_input_partitions` collects. -/
def badMapPartitions (locations : Table Nat (List PartitionLocation)) (executorId : String) :
    List Nat :=
  locations.foldl (fun bad entry => entry.2.foldl (fun bad location =>
    if location.executorMeta.id = executorId then List.insert location.mapPartitionId bad
    else bad) bad) []

/-- The locations kept by `locs.retain(|loc| loc.executor_meta.id != executor_id)`. -/
def retainOtherExecutors (locations : Table Nat (List PartitionLocation)) (executorId : String) :
    Table Nat (List PartitionLocation) :=
  locations.mapValues fun _ locs => locs.filter fun location => location.executorMeta.id ≠ executorId

/-- `remove_input_partitions` of an unresolved or running stage: drop the
locations of an input stage on an executor, mark that input incomplete and
return the map partitions that were lost. -/
def removeInputPartitions (inputs : Table Nat StageOutput) (stageId inputStageId : Nat)
    (executorId : String) : Except BallistaError (List Nat × Table Nat StageOutput) :=
  match inputs.get? inputStageId with
  | some output =>
    .ok (badMapPartitions output.partitionLocations executorId,
      inputs.modify inputStageId fun output =>
        { partitionLocations := retainOtherExecutors output.partitionLocations executorId,
          complete := false })
  | none =>
    .error (.internal ("Error remove input partition for Stage " ++ toString stageId ++ ", " ++
      toString inputStageId ++ " is not a valid child stage ID"))

namespace ResolvedStage

/-- `ResolvedStage::new`: the partition count is read off the plan. -/
def new (stageId stageAttemptNum : Nat) (plan : Plan) (outputLinks : List Nat)
    (inputs : Table Nat StageOutput) (lastAttemptFailureReasons : List String) :
    ResolvedStage Plan :=
  { stageId := stageId, stageAttemptNum := stageAttemptNum,
    partitions := StagePlan.stagePartitions plan, outputLinks := outputLinks, inputs := inputs,
    plan := plan, lastAttemptFailureReasons := lastAttemptFailureReasons }

end ResolvedStage

namespace RunningStage

/-- `RunningStage::new`: every partition waits to be scheduled. -/
def new (stageId stageAttemptNum : Nat) (plan : Plan) (partitions : Nat) (outputLinks : List Nat)
    (inputs : Table Nat StageOutput) : RunningStage Plan :=
  { stageId := stageId, stageAttemptNum := stageAttemptNum, partitions := partitions,
    outputLinks := outputLinks, inputs := inputs, plan := plan,
    taskInfos := List.replicate partitions none, taskFailureNumbers := List.replicate partitions 0,
    stageMetrics := none }

end RunningStage

/-- `UnresolvedStage::to_resolved`: resolve the shuffle reads against the input
locations, then run the two optimizer rules. -/
def UnresolvedStage.toResolved (stage : UnresolvedStage Plan) :
    Except BallistaError (ResolvedStage Plan) := do
  let inputLocations := stage.inputs.mapValues fun _ input => input.partitionLocations
  let plan ← StagePlan.removeUnresolvedShuffles stage.plan inputLocations
  let plan ← StagePlan.joinSelection plan
  let plan ← StagePlan.aggregateStatistics plan
  return ResolvedStage.new stage.stageId stage.stageAttemptNum plan stage.outputLinks stage.inputs
    stage.lastAttemptFailureReasons

namespace ResolvedStage

/-- `ResolvedStage::to_running`. -/
def toRunning (stage : ResolvedStage Plan) : RunningStage Plan :=
  RunningStage.new stage.stageId stage.stageAttemptNum stage.plan stage.partitions
    stage.outputLinks stage.inputs

/-- `ResolvedStage::to_unresolved`: the attempt number is kept. -/
def toUnresolved (stage : ResolvedStage Plan) : Except BallistaError (UnresolvedStage Plan) := do
  let plan ← StagePlan.rollbackResolvedShuffles stage.plan
  return {
      stageId := stage.stageId, stageAttemptNum := stage.stageAttemptNum,
      outputLinks := stage.outputLinks, inputs := stage.inputs, plan := plan,
      lastAttemptFailureReasons := stage.lastAttemptFailureReasons }

end ResolvedStage

namespace RunningStage

/-- `to_successful`: every task slot must hold a task, or the scheduler panics. -/
def toSuccessful (stage : RunningStage Plan) : Except Fault (SuccessfulStage Plan) :=
  match stage.taskInfos.mapM id with
  | some taskInfos =>
    .ok {
      stageId := stage.stageId, stageAttemptNum := stage.stageAttemptNum,
      partitions := stage.partitions, outputLinks := stage.outputLinks, inputs := stage.inputs,
      plan := stage.plan, taskInfos := taskInfos, stageMetrics := stage.stageMetrics.getD [] }
  | none => .error (.panic "TaskInfo for task should not be none")

/-- `to_failed`. -/
def toFailed (stage : RunningStage Plan) (errorMessage : String) : FailedStage Plan :=
  { stageId := stage.stageId, stageAttemptNum := stage.stageAttemptNum,
    partitions := stage.partitions, outputLinks := stage.outputLinks, plan := stage.plan,
    taskInfos := stage.taskInfos, stageMetrics := stage.stageMetrics,
    errorMessage := errorMessage }

/-- `RunningStage::to_resolved`: the next attempt. -/
def toResolved (stage : RunningStage Plan) : ResolvedStage Plan :=
  ResolvedStage.new stage.stageId (stage.stageAttemptNum + 1) stage.plan stage.outputLinks
    stage.inputs []

/-- `RunningStage::to_unresolved`: the next attempt, remembering why this one failed. -/
def toUnresolved (stage : RunningStage Plan) (failureReasons : List String) :
    Except BallistaError (UnresolvedStage Plan) := do
  let plan ← StagePlan.rollbackResolvedShuffles stage.plan
  return {
      stageId := stage.stageId, stageAttemptNum := stage.stageAttemptNum + 1,
      outputLinks := stage.outputLinks, inputs := stage.inputs, plan := plan,
      lastAttemptFailureReasons := failureReasons }

/-- `is_successful`: every task slot holds a successful task. -/
def isSuccessful (stage : RunningStage Plan) : Bool :=
  stage.taskInfos.all TaskInfo.isSuccessful

/-- `available_tasks`: the partitions waiting to be scheduled. -/
def availableTasks (stage : RunningStage Plan) : Nat :=
  stage.taskInfos.countP Option.isNone

/-- `running_tasks`: `(task_id, stage_id, partition, executor_id)` of every running task. -/
def runningTasks (stage : RunningStage Plan) : List (Nat × Nat × Nat × String) :=
  (stage.taskInfos.zipIdx).filterMap fun (info, partition) =>
    match info with
    | some { taskId := taskId, taskStatus := .running { executorId := executorId } } =>
      some (taskId, stage.stageId, partition, executorId)
    | _ => none

/-- `update_task_info`: record a task's status in its partition's slot, unless a
later task of that partition already holds the slot. The slot must hold a
task and the status must carry one, or the scheduler panics. -/
def updateTaskInfo (stage : RunningStage Plan) (partitionId : Nat) (status : TaskStatus) :
    Except Fault (Bool × RunningStage Plan) :=
  match stage.taskInfos[partitionId]? with
  | none => .error (.panic "index out of bounds")
  | some none => .error (.panic "called `Option::unwrap()` on a `None` value")
  | some (some taskInfo) =>
    if status.taskId < taskInfo.taskId then .ok (false, stage)
    else
      match status.status with
      | none => .error (.panic "called `Option::unwrap()` on a `None` value")
      | some taskStatus =>
        let taskInfos :=
          stage.taskInfos.set partitionId (some { taskId := taskInfo.taskId, taskStatus := taskStatus })
        match stage.taskFailureNumbers[partitionId]? with
        | none => .error (.panic "index out of bounds")
        | some failures =>
          let failures :=
            match taskStatus with
            | .failed failedTask => if failedTask.retryable then failures + 1 else failures
            | _ => 0
          .ok (true, { stage with
            taskInfos := taskInfos,
            taskFailureNumbers := stage.taskFailureNumbers.set partitionId failures })

/-- `update_task_metrics`: combine a task's operator metrics into the stage's;
the number of operator metric sets must agree. -/
def updateTaskMetrics (stage : RunningStage Plan) (partition : Nat)
    (metrics : List OperatorMetricsSet) : Except BallistaError (RunningStage Plan) :=
  if metrics.isEmpty then .ok stage
  else
    match stage.stageMetrics with
    | some combined =>
      if metrics.length ≠ combined.length then
        .error (.internal ("Error updating task metrics to stage " ++ toString stage.stageId ++
          ", task metrics array size " ++ toString metrics.length ++
          " does not equal with the stage metrics array size " ++ toString combined.length ++
          " for task " ++ toString partition))
      else
        .ok { stage with
          stageMetrics := some (List.zipWith (fun first second => ⟨first.metrics ++ second.metrics⟩)
            combined metrics) }
    | none => .ok { stage with stageMetrics := some metrics }

/-- `task_failure_number`. -/
def taskFailureNumber (stage : RunningStage Plan) (partitionId : Nat) : Except Fault Nat :=
  match stage.taskFailureNumbers[partitionId]? with
  | some failures => .ok failures
  | none => .error (.panic "index out of bounds")

/-- `reset_task_info`: the partition waits to be scheduled again. -/
def resetTaskInfo (stage : RunningStage Plan) (partitionId : Nat) :
    Except Fault (RunningStage Plan) :=
  if partitionId < stage.taskInfos.length then
    .ok { stage with taskInfos := stage.taskInfos.set partitionId none }
  else .error (.panic "index out of bounds")

/-- Whether a task slot holds a task running or succeeded on an executor. -/
def onExecutor (executor : String) : Option TaskInfo → Bool
  | some { taskStatus := .running { executorId := executorId }, .. } => executor = executorId
  | some { taskStatus := .successful { executorId := executorId, .. }, .. } =>
    executor = executorId
  | _ => false

/-- `RunningStage::reset_tasks`: free the slots of the tasks running or
succeeded on a lost executor; returns how many were freed. -/
def resetTasks (stage : RunningStage Plan) (executor : String) : Nat × RunningStage Plan :=
  (stage.taskInfos.countP (onExecutor executor),
    { stage with taskInfos := stage.taskInfos.map fun info =>
        if onExecutor executor info then none else info })

end RunningStage

namespace SuccessfulStage

/-- `SuccessfulStage::to_running`: the next attempt, keeping the successful
tasks and rescheduling the others. -/
def toRunning (stage : SuccessfulStage Plan) : RunningStage Plan :=
  { stageId := stage.stageId, stageAttemptNum := stage.stageAttemptNum + 1,
    partitions := stage.partitions, outputLinks := stage.outputLinks, inputs := stage.inputs,
    plan := stage.plan,
    taskInfos := stage.taskInfos.map fun task =>
      if TaskInfo.isSuccessful (some task) then some task else none,
    taskFailureNumbers := List.replicate stage.partitions 0,
    stageMetrics := if stage.stageMetrics.isEmpty then none else some stage.stageMetrics }

/-- Whether a task succeeded on an executor. -/
def succeededOn (executor : String) : TaskInfo → Bool
  | { taskStatus := .successful { executorId := executorId, .. }, .. } => executor = executorId
  | _ => false

/-- The failure a successful task records when its executor is lost. -/
def resultLost (executor : String) : FailedTask :=
  { error := "Task failure due to Executor " ++ executor ++ " lost", retryable := true,
    countToFailures := false, failedReason := some .resultLost }

/-- `SuccessfulStage::reset_tasks`: mark the results on a lost executor as lost;
returns how many were. -/
def resetTasks (stage : SuccessfulStage Plan) (executor : String) : Nat × SuccessfulStage Plan :=
  (stage.taskInfos.countP (succeededOn executor),
    { stage with taskInfos := stage.taskInfos.map fun task =>
        if succeededOn executor task then
          { taskId := task.taskId, taskStatus := .failed (resultLost executor) }
        else task })

end SuccessfulStage

namespace ExecutionStage

/-- The stage's id, in every state. -/
def stageId : ExecutionStage Plan → Nat
  | .unResolved stage => stage.stageId
  | .resolved stage => stage.stageId
  | .running stage => stage.stageId
  | .successful stage => stage.stageId
  | .failed stage => stage.stageId

/-- The stage's attempt number, in every state. -/
def stageAttemptNum : ExecutionStage Plan → Nat
  | .unResolved stage => stage.stageAttemptNum
  | .resolved stage => stage.stageAttemptNum
  | .running stage => stage.stageAttemptNum
  | .successful stage => stage.stageAttemptNum
  | .failed stage => stage.stageAttemptNum

/-- The stage's input outputs; a failed stage keeps none. -/
def inputs : ExecutionStage Plan → Table Nat StageOutput
  | .unResolved stage => stage.inputs
  | .resolved stage => stage.inputs
  | .running stage => stage.inputs
  | .successful stage => stage.inputs
  | .failed _ => []

/-- The stages that read this stage's output. -/
def outputLinks : ExecutionStage Plan → List Nat
  | .unResolved stage => stage.outputLinks
  | .resolved stage => stage.outputLinks
  | .running stage => stage.outputLinks
  | .successful stage => stage.outputLinks
  | .failed stage => stage.outputLinks

/-- Whether the stage is `Successful`. -/
def isSuccessful : ExecutionStage Plan → Bool
  | .successful _ => true
  | _ => false

/-- Whether the stage is `UnResolved`. -/
def isUnresolved : ExecutionStage Plan → Bool
  | .unResolved _ => true
  | _ => false

/-- The stage, when it is unresolved. -/
def unResolved? : ExecutionStage Plan → Option (UnresolvedStage Plan)
  | .unResolved stage => some stage
  | _ => none

/-- The stage, when it is running. -/
def running? : ExecutionStage Plan → Option (RunningStage Plan)
  | .running stage => some stage
  | _ => none

omit [StagePlan Plan] in
/-- An unresolved stage found by a check that can be computed. -/
theorem exists_unResolved_of_any {stage? : Option (ExecutionStage Plan)}
    (P : UnresolvedStage Plan → Prop) [DecidablePred P]
    (holds : (stage?.bind unResolved?).any (fun stage => decide (P stage)) = true) :
    ∃ stage, stage? = some (.unResolved stage) ∧ P stage := by
  cases stage? with
  | none => cases holds
  | some stage =>
    cases stage with
    | unResolved stage => exact ⟨stage, rfl, of_decide_eq_true holds⟩
    | _ => cases holds

omit [StagePlan Plan] in
/-- A running stage found by a check that can be computed. -/
theorem exists_running_of_any {stage? : Option (ExecutionStage Plan)}
    (P : RunningStage Plan → Prop) [DecidablePred P]
    (holds : (stage?.bind running?).any (fun stage => decide (P stage)) = true) :
    ∃ stage, stage? = some (.running stage) ∧ P stage := by
  cases stage? with
  | none => cases holds
  | some stage =>
    cases stage with
    | running stage => exact ⟨stage, rfl, of_decide_eq_true holds⟩
    | _ => cases holds

/-- `variant_name`. -/
def variantName : ExecutionStage Plan → String
  | .unResolved _ => "Unresolved"
  | .resolved _ => "Resolved"
  | .running _ => "Running"
  | .successful _ => "Successful"
  | .failed _ => "Failed"

end ExecutionStage

end Ballista
