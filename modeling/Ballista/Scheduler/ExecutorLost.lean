import Ballista.Scheduler.Graph

/-! # Resetting the stages that used a lost executor

`reset_stages_on_lost_executor` (`execution_graph.rs`) repeats
`reset_stages_internal` until a round resets nothing. A round frees the task
slots of running stages held by the lost executor, drops the input locations on
it from unresolved, resolved and running stages, rolls back the resolved and
running stages that lost inputs, and reruns the successful input stages whose
results were on the executor. A successful stage's own inputs are not looked at
until a rerun makes it running again, so a chain of successful stages is undone
one round per stage.

The loop runs here on fuel: one round more than the number of locations and
task slots on the executor, which each round that resets something lowers.
-/

namespace Ballista

variable {Plan : Type} [StagePlan Plan]

/-- Drop an input's locations on an executor; whether one was dropped, in
which case the input is no longer complete. -/
def dropLostLocations (executorId : String) (output : StageOutput) : Bool × StageOutput :=
  let matchFound := output.partitionLocations.any fun entry =>
    entry.2.any fun location => location.executorMeta.id = executorId
  (matchFound,
    { partitionLocations := retainOtherExecutors output.partitionLocations executorId,
      complete := if matchFound then false else output.complete })

/-- Drop the locations on an executor from every input; the input stages that
lost one. -/
def dropLostInputs (executorId : String) :
    Table Nat StageOutput → List Nat × Table Nat StageOutput
  | [] => ([], [])
  | (inputStageId, output) :: rest =>
    let (matchFound, output) := dropLostLocations executorId output
    let (lost, rest) := dropLostInputs executorId rest
    (if matchFound then inputStageId :: lost else lost, (inputStageId, output) :: rest)

/-- What the first pass of `reset_stages_internal` collects. -/
structure LostExecutorScan where
  resubmitInputs : List Nat
  resetRunningStage : List Nat
  rollbackResolvedStages : List Nat
  rollbackRunningStages : List Nat
  deriving DecidableEq, Repr

/-- The first pass over one stage: free the running slots on the executor, drop
the input locations on it and note what must be rolled back and resubmitted. -/
def scanStage (executorId : String) (scan : LostExecutorScan) (stageId : Nat) :
    ExecutionStage Plan → ExecutionStage Plan × LostExecutorScan
  | .unResolved stage =>
    let (lost, inputs) := dropLostInputs executorId stage.inputs
    (.unResolved { stage with inputs := inputs },
      { scan with resubmitInputs := insertAll scan.resubmitInputs lost })
  | .resolved stage =>
    let (lost, inputs) := dropLostInputs executorId stage.inputs
    (.resolved { stage with inputs := inputs },
      { scan with
        resubmitInputs := insertAll scan.resubmitInputs lost,
        rollbackResolvedStages :=
          if lost.isEmpty then scan.rollbackResolvedStages
          else scan.rollbackResolvedStages.insert stageId })
  | .running stage =>
    let (reset, stage) := stage.resetTasks executorId
    let (lost, inputs) := dropLostInputs executorId stage.inputs
    (.running { stage with inputs := inputs },
      { scan with
        resubmitInputs := insertAll scan.resubmitInputs lost,
        resetRunningStage :=
          if 0 < reset then scan.resetRunningStage.insert stageId else scan.resetRunningStage,
        rollbackRunningStages :=
          if lost.isEmpty then scan.rollbackRunningStages
          else scan.rollbackRunningStages.insert stageId })
  | stage => (stage, scan)

/-- The first pass over every stage, in iteration order. -/
def scanStages (executorId : String) (scan : LostExecutorScan) :
    Table Nat (ExecutionStage Plan) → Table Nat (ExecutionStage Plan) × LostExecutorScan
  | [] => ([], scan)
  | (stageId, stage) :: rest =>
    let (stage, scan) := scanStage executorId scan stageId stage
    let (rest, scan) := scanStages executorId scan rest
    ((stageId, stage) :: rest, scan)

/-- The second pass: mark lost the results on the executor of the successful
input stages that lost locations; the stages with a lost result are rerun. -/
def resetSuccessfulInputs (executorId : String) (resubmitInputs : List Nat)
    (resubmit : List Nat) : Table Nat (ExecutionStage Plan) →
      Table Nat (ExecutionStage Plan) × List Nat
  | [] => ([], resubmit)
  | (stageId, stage) :: rest =>
    let (stage, resubmit) :=
      match stage with
      | .successful success =>
        if resubmitInputs.contains stageId then
          let (reset, success) := success.resetTasks executorId
          (ExecutionStage.successful success,
            if 0 < reset then resubmit.insert success.stageId else resubmit)
        else (stage, resubmit)
      | _ => (stage, resubmit)
    let (rest, resubmit) := resetSuccessfulInputs executorId resubmitInputs resubmit rest
    ((stageId, stage) :: rest, resubmit)

/-- Roll back each resolved stage in turn. -/
def rollbackResolvedStages : List Nat → GraphM Plan Unit
  | [] => return
  | stageId :: rest => do
    let _ ← rollbackResolvedStage stageId
    rollbackResolvedStages rest

/-- Roll back each running stage in turn, blaming the executor, and collect the
tasks to cancel. -/
def rollbackLostRunningStages (executorId : String) :
    List Nat → GraphM Plan (List RunningTaskInfo)
  | [] => return []
  | stageId :: rest => do
    let tasks ← rollbackRunningStage stageId [executorId]
    let others ← rollbackLostRunningStages executorId rest
    return tasks ++ others

/-- Rerun each successful stage in turn. -/
def rerunStages : List Nat → GraphM Plan Unit
  | [] => return
  | stageId :: rest => do
    let _ ← rerunSuccessfulStage stageId
    rerunStages rest

/-- `reset_stages_internal`: one round of resetting; the stages it reset and
the running tasks to cancel. -/
def resetStagesInternal (executorId : String) :
    GraphM Plan (List Nat × List RunningTaskInfo) := do
  let graph ← get
  let (stages, scan) := scanStages executorId
    { resubmitInputs := [], resetRunningStage := [], rollbackResolvedStages := [],
      rollbackRunningStages := [] } graph.stages
  let (stages, resubmitSuccessful) :=
    if scan.resubmitInputs.isEmpty then (stages, [])
    else resetSuccessfulInputs executorId scan.resubmitInputs [] stages
  set { graph with stages := stages }
  rollbackResolvedStages scan.rollbackResolvedStages
  let allRunningTasks ← rollbackLostRunningStages executorId scan.rollbackRunningStages
  rerunStages resubmitSuccessful
  let resetStage := insertAll (insertAll (insertAll scan.resetRunningStage
    scan.rollbackResolvedStages) scan.rollbackRunningStages) resubmitSuccessful
  return (resetStage, allRunningTasks)

/-- The rounds of `reset_stages_on_lost_executor`, on fuel. -/
def resetStagesOnLostExecutorFrom (executorId : String) (reset : List Nat)
    (tasksToCancel : List RunningTaskInfo) :
    Nat → GraphM Plan (List Nat × List RunningTaskInfo)
  | 0 => throw .diverges
  | fuel + 1 => do
    let (resetStage, tasks) ← resetStagesInternal executorId
    if !resetStage.isEmpty then
      resetStagesOnLostExecutorFrom executorId (insertAll reset resetStage)
        (tasksToCancel ++ tasks) fuel
    else return (reset, tasksToCancel)

/-- The locations on an executor in the inputs of every stage, and the task
slots it holds in running stages: what each resetting round lowers. -/
def lostExecutorMeasure (graph : ExecutionGraph Plan) (executorId : String) : Nat :=
  (graph.stages.map fun entry =>
    (entry.2.inputs.map fun input =>
      (input.2.partitionLocations.map fun locations =>
        locations.2.countP fun location => location.executorMeta.id = executorId).sum).sum +
    match entry.2 with
    | .running stage => stage.taskInfos.countP (RunningStage.onExecutor executorId)
    | _ => 0).sum

/-- **`reset_stages_on_lost_executor`.** Reset until a round resets nothing;
the stages reset and the running tasks to cancel. -/
def resetStagesOnLostExecutor (executorId : String) :
    GraphM Plan (List Nat × List RunningTaskInfo) := do
  let fuel := lostExecutorMeasure (← get) executorId + 1
  resetStagesOnLostExecutorFrom executorId [] [] fuel

end Ballista
