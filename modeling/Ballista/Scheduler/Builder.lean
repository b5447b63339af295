import Ballista.Scheduler.Graph

/-! # Building the graph of a job

`ExecutionGraph::new` takes the stages that `DistributedPlanner::plan_query_stages`
cut out of the physical plan, each a `ShuffleWriterExec`, and builds their
dependency structure with `ExecutionStageBuilder`: while visiting a stage, each
`UnresolvedShuffleExec` names an input stage, which gets the visited stage as an
output link. A stage with no input is resolved at once; the others start
unresolved, with an empty output for each input.

The planner's output is a parameter here. `ShapePlan` is a stage plan reduced
to what the scheduler reads of it, with the planner functions as the source
computes them on such a plan.
-/

namespace Ballista

variable {Plan : Type} [StagePlan Plan]

/-- `ExecutionStageBuilder`. -/
structure ExecutionStageBuilder where
  currentStageId : Nat
  stageDependencies : Table Nat (List Nat)
  outputLinks : Table Nat (List Nat)
  deriving DecidableEq, Repr

namespace ExecutionStageBuilder

/-- `ExecutionStageBuilder::new`. -/
def new : ExecutionStageBuilder :=
  { currentStageId := 0, stageDependencies := [], outputLinks := [] }

/-- `pre_visit` of an `UnresolvedShuffleExec` reading a stage: that stage gets
the visited stage as output link, and the visited stage depends on it. -/
def visitUnresolvedShuffle (builder : ExecutionStageBuilder) (stageId : Nat) :
    ExecutionStageBuilder :=
  { builder with
    outputLinks := builder.outputLinks.upsert stageId [] fun links =>
      if links.contains builder.currentStageId then links else links ++ [builder.currentStageId],
    stageDependencies := builder.stageDependencies.upsert builder.currentStageId [] fun deps =>
      if deps.contains stageId then deps else deps ++ [stageId] }

/-- `accept(stage, self)`: the stage's root `ShuffleWriterExec` sets the visited
stage, then its `UnresolvedShuffleExec`s are visited in order. -/
def visitStage (builder : ExecutionStageBuilder) (plan : Plan) : ExecutionStageBuilder :=
  (StagePlan.unresolvedShuffleStageIds plan).foldl visitUnresolvedShuffle
    { builder with currentStageId := StagePlan.stageId plan }

/-- Create one stage after the visit, taking its links and dependencies out of
the builder. -/
def createStage (acc : ExecutionStageBuilder × Table Nat (ExecutionStage Plan)) (plan : Plan) :
    ExecutionStageBuilder × Table Nat (ExecutionStage Plan) :=
  let (builder, stages) := acc
  let stageId := StagePlan.stageId plan
  let outputLinks := (builder.outputLinks.get? stageId).getD []
  let childStages := (builder.stageDependencies.get? stageId).getD []
  let builder := { builder with
    outputLinks := builder.outputLinks.erase stageId,
    stageDependencies := builder.stageDependencies.erase stageId }
  let stage : ExecutionStage Plan :=
    if childStages.isEmpty then .resolved (ResolvedStage.new stageId 0 plan outputLinks [] [])
    else .unResolved (UnresolvedStage.new stageId plan outputLinks childStages)
  (builder, stages.insert stageId stage)

/-- `build`: visit every stage, then create them. -/
def build (builder : ExecutionStageBuilder) (stages : List Plan) :
    Table Nat (ExecutionStage Plan) :=
  (stages.foldl createStage (stages.foldl visitStage builder, [])).2

end ExecutionStageBuilder

/-- **`ExecutionGraph::new`**, from the stages the planner produced and the
output partition count of the physical plan. -/
def ExecutionGraph.new (schedulerId jobId jobName sessionId : String) (outputPartitions : Nat)
    (shuffleStages : List Plan) : ExecutionGraph Plan :=
  { schedulerId := some schedulerId, jobId := jobId, jobName := jobName, sessionId := sessionId,
    status := { jobId := jobId, jobName := jobName, status := some (.running schedulerId) },
    stages := ExecutionStageBuilder.new.build shuffleStages,
    outputPartitions := outputPartitions, outputLocations := [], taskIdGen := 0,
    failedStageAttempts := [] }

/-- A stage plan reduced to what the scheduler reads: the stage's id and input
partition count, the stages its `UnresolvedShuffleExec`s read with their output
partition counts, and, once resolved, the locations its `ShuffleReaderExec`s
read, by output partition. -/
structure ShapePlan where
  stageId : Nat
  partitions : Nat
  shuffleInputs : List (Nat × Nat)
  readers : Option (List (Nat × List (List PartitionLocation)))
  deriving DecidableEq, Repr

namespace ShapePlan

/-- `remove_unresolved_shuffles` on a shape: each shuffle input becomes a reader
of the input's locations for each of its output partitions, or the plan
cannot be resolved when an input has no locations at all. -/
def removeUnresolvedShuffles (plan : ShapePlan) (locations : InputLocations) :
    Except BallistaError ShapePlan := do
  let readers ← plan.shuffleInputs.mapM fun (stageId, outputPartitionCount) =>
    match locations.get? stageId with
    | some partitionLocations =>
      .ok (stageId, (List.range outputPartitionCount).map fun i =>
        (partitionLocations.get? i).getD [])
    | none => .error (.general "Missing partition location. Could not remove unresolved shuffles")
  return { plan with readers := some readers }

end ShapePlan

/-- The planner functions on shapes; the optimizer rules leave a shape as it
is, as they do a plan with no join to reorder and no aggregate to precompute. -/
instance : StagePlan ShapePlan where
  stageId plan := plan.stageId
  unresolvedShuffleStageIds plan := plan.shuffleInputs.map Prod.fst
  stagePartitions plan := plan.partitions
  removeUnresolvedShuffles := ShapePlan.removeUnresolvedShuffles
  joinSelection plan := .ok plan
  aggregateStatistics plan := .ok plan
  rollbackResolvedShuffles plan := .ok { plan with readers := none }

end Ballista
