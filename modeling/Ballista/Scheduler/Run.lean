import Mathlib.Logic.Relation
import Ballista.Scheduler.UpdateTaskStatus
import Ballista.Scheduler.ExecutorLost
import Ballista.Scheduler.Builder

/-! # Runs of a job

A job's graph is driven by the scheduler's event loop, the binders and the
executors' reports: `revive`, `pop_next_task`, a binder's round through
`fetch_running_stage`, `update_task_status` with the statuses an executor
reports, `reset_stages_on_lost_executor`, and `abort_job`, which fails the job.
`JobStep` is one of these on a `JobRun`, the graph together with the tasks it
has handed out so far; a status reported to `update_task_status` must report on
one of those tasks (its job, stage, partition, task id and stage attempt as
handed out), with any content, and the groups of statuses are read in any
order of their stage ids. A step is taken when the method returns, with a value
or an error; a panic ends the run.
-/

namespace Ballista

/-- The retry limits `update_task_status` is called with. -/
structure RetryLimits where
  maxTaskFailures : Nat
  maxStageFailures : Nat
  deriving DecidableEq, Repr

/-- `TASK_MAX_FAILURES` and `STAGE_MAX_FAILURES` of the task manager. -/
def RetryLimits.taskManager : RetryLimits := { maxTaskFailures := 4, maxStageFailures := 4 }

variable (Plan : Type)

/-- A job as the scheduler drives it: its graph and the tasks handed out so far. -/
structure JobRun where
  graph : ExecutionGraph Plan
  issued : List (TaskDescription Plan)

variable {Plan} [StagePlan Plan]

/-- Whether a method returned, with a value or with an error. -/
def returned {α : Type} : Except Fault α → Bool
  | .ok _ => true
  | .error (.error _) => true
  | .error _ => false

/-- Whether a status reports on a task: the job, stage, partition, task id and
stage attempt it was handed out with. -/
def TaskStatus.Reports (status : TaskStatus) (task : TaskDescription Plan) : Prop :=
  status.jobId = task.partition.jobId ∧ status.stageId = task.partition.stageId ∧
    status.partitionId = task.partition.partitionId ∧ status.taskId = task.taskId ∧
    status.stageAttemptNum = task.stageAttemptNum

instance (status : TaskStatus) (task : TaskDescription Plan) : Decidable (status.Reports task) :=
  inferInstanceAs (Decidable (_ ∧ _))

/-- The tasks a method that hands out at most one task handed out. -/
def handedOutTask : Except Fault (Option (TaskDescription Plan)) → List (TaskDescription Plan)
  | .ok (some task) => [task]
  | _ => []

/-- The tasks a binder's round handed out. -/
def handedOutTasks : Except Fault (List (TaskDescription Plan)) → List (TaskDescription Plan)
  | .ok tasks => tasks
  | .error _ => []

/-- **One step of a job.** -/
inductive JobStep (limits : RetryLimits) : JobRun Plan → JobRun Plan → Prop
  | revive (run : JobRun Plan) : JobStep limits run { run with graph := run.graph.revive.2 }
  | popNextTask (run : JobRun Plan) (executorId : String)
      (result : Except Fault (Option (TaskDescription Plan))) (graph : ExecutionGraph Plan)
      (ran : (popNextTask executorId).exec run.graph = (result, graph))
      (returns : returned result = true) :
      JobStep limits run { graph := graph, issued := run.issued ++ handedOutTask result }
  | bindTasks (run : JobRun Plan) (blackList : List Nat) (executors : List String)
      (result : Except Fault (List (TaskDescription Plan))) (graph : ExecutionGraph Plan)
      (ran : (bindTasks blackList executors).exec run.graph = (result, graph))
      (returns : returned result = true) :
      JobStep limits run { graph := graph, issued := run.issued ++ handedOutTasks result }
  | updateTaskStatus (run : JobRun Plan) (executor : ExecutorMetadata)
      (statuses : List TaskStatus) (visit : List Nat)
      (result : Except Fault (List QueryStageSchedulerEvent)) (graph : ExecutionGraph Plan)
      (reports : ∀ status ∈ statuses, ∃ task ∈ run.issued, status.Reports task)
      (order : visit.Perm (groupByStage statuses).keys)
      (ran : (updateTaskStatus executor statuses limits.maxTaskFailures limits.maxStageFailures
        visit).exec run.graph = (result, graph))
      (returns : returned result = true) :
      JobStep limits run { run with graph := graph }
  | resetStagesOnLostExecutor (run : JobRun Plan) (executorId : String)
      (result : Except Fault (List Nat × List RunningTaskInfo)) (graph : ExecutionGraph Plan)
      (ran : (resetStagesOnLostExecutor executorId).exec run.graph = (result, graph))
      (returns : returned result = true) :
      JobStep limits run { run with graph := graph }
  | abort (run : JobRun Plan) (failureReason : String) :
      JobStep limits run { run with graph := run.graph.failJob failureReason }

/-- The start of a job's run: the graph `ExecutionGraph::new` builds from the
planner's stages, with no task handed out. -/
def JobRun.start (schedulerId jobId jobName sessionId : String) (outputPartitions : Nat)
    (shuffleStages : List Plan) : JobRun Plan :=
  { graph := ExecutionGraph.new schedulerId jobId jobName sessionId outputPartitions shuffleStages,
    issued := [] }

/-- The runs a step relation reaches from a start. -/
abbrev Reaches (limits : RetryLimits) : JobRun Plan → JobRun Plan → Prop :=
  Relation.ReflTransGen (JobStep limits)

/-- The operations of `JobStep`, with their arguments: what a driver of the
scheduler performs on a job. -/
inductive JobOp where
  | revive
  | popNextTask (executorId : String)
  | bindTasks (blackList : List Nat) (executors : List String)
  | updateTaskStatus (executor : ExecutorMetadata) (statuses : List TaskStatus) (visit : List Nat)
  | resetStagesOnLostExecutor (executorId : String)
  | abort (failureReason : String)

/-- Perform an operation when it is a step of the job: the run it leaves, or
nothing when the method does not return or the statuses do not report on
tasks handed out in the order of their groups. -/
def JobRun.perform (limits : RetryLimits) (run : JobRun Plan) : JobOp → Option (JobRun Plan)
  | .revive => some { run with graph := run.graph.revive.2 }
  | .popNextTask executorId =>
    let ran := (popNextTask executorId).exec run.graph
    if returned ran.1 then some { graph := ran.2, issued := run.issued ++ handedOutTask ran.1 }
    else none
  | .bindTasks blackList executors =>
    let ran := (bindTasks blackList executors).exec run.graph
    if returned ran.1 then some { graph := ran.2, issued := run.issued ++ handedOutTasks ran.1 }
    else none
  | .updateTaskStatus executor statuses visit =>
    let ran := (updateTaskStatus executor statuses limits.maxTaskFailures limits.maxStageFailures
      visit).exec run.graph
    if (∀ status ∈ statuses, ∃ task ∈ run.issued, status.Reports task) ∧
        visit.Perm (groupByStage statuses).keys ∧ returned ran.1 = true then
      some { run with graph := ran.2 }
    else none
  | .resetStagesOnLostExecutor executorId =>
    let ran := (resetStagesOnLostExecutor executorId).exec run.graph
    if returned ran.1 then some { run with graph := ran.2 } else none
  | .abort failureReason => some { run with graph := run.graph.failJob failureReason }

/-- Perform operations in turn while each is a step. -/
def JobRun.performAll (limits : RetryLimits) (run : JobRun Plan) : List JobOp → Option (JobRun Plan)
  | [] => some run
  | op :: ops => (run.perform limits op).bind fun next => next.performAll limits ops

theorem JobStep.of_perform {limits : RetryLimits} {run next : JobRun Plan} {op : JobOp}
    (performed : run.perform limits op = some next) : JobStep limits run next := by
  cases op with
  | revive =>
    cases performed
    exact .revive run
  | popNextTask executorId =>
    simp only [JobRun.perform] at performed
    split at performed
    · cases performed
      exact .popNextTask run executorId _ _ (Prod.eta _).symm ‹_›
    · cases performed
  | bindTasks blackList executors =>
    simp only [JobRun.perform] at performed
    split at performed
    · cases performed
      exact .bindTasks run blackList executors _ _ (Prod.eta _).symm ‹_›
    · cases performed
  | updateTaskStatus executor statuses visit =>
    simp only [JobRun.perform] at performed
    split at performed
    · rename_i valid
      cases performed
      exact .updateTaskStatus run executor statuses visit _ _ valid.1 valid.2.1 (Prod.eta _).symm
        valid.2.2
    · cases performed
  | resetStagesOnLostExecutor executorId =>
    simp only [JobRun.perform] at performed
    split at performed
    · cases performed
      exact .resetStagesOnLostExecutor run executorId _ _ (Prod.eta _).symm ‹_›
    · cases performed
  | abort failureReason =>
    cases performed
    exact .abort run failureReason

/-- A property that holds of the run an operation leaves, checked by evaluating
both, holds after a step. -/
theorem JobStep.exists_of_perform_any {limits : RetryLimits} {run : JobRun Plan} {op : JobOp}
    {P : JobRun Plan → Prop} [DecidablePred P]
    (holds : (run.perform limits op).any (fun next => decide (P next)) = true) :
    ∃ next, JobStep limits run next ∧ P next := by
  obtain ⟨next, performed, satisfied⟩ := (Option.any_eq_true _ _).mp holds
  exact ⟨next, JobStep.of_perform performed, of_decide_eq_true satisfied⟩

/-- The graph a performed `update_task_status` leaves is the one the method leaves. -/
theorem JobRun.graph_of_perform_updateTaskStatus {limits : RetryLimits} {run next : JobRun Plan}
    {executor : ExecutorMetadata} {statuses : List TaskStatus} {visit : List Nat}
    (performed : run.perform limits (.updateTaskStatus executor statuses visit) = some next) :
    next.graph = ((updateTaskStatus executor statuses limits.maxTaskFailures limits.maxStageFailures
      visit).exec run.graph).2 := by
  simp only [JobRun.perform] at performed
  split at performed
  · cases performed
    rfl
  · cases performed

theorem Reaches.of_performAll {limits : RetryLimits} :
    ∀ {run next : JobRun Plan} {ops : List JobOp}, run.performAll limits ops = some next →
      Reaches limits run next
  | run, next, [], performed => by
    cases performed
    exact .refl
  | run, next, op :: ops, performed => by
    obtain ⟨middle, stepped, rest⟩ := Option.bind_eq_some_iff.mp performed
    exact .head (JobStep.of_perform stepped) (Reaches.of_performAll rest)

/-- A property that holds of the run a list of operations leaves, checked by
evaluating both, holds of a reached run. -/
theorem Reaches.exists_of_performAll_any {limits : RetryLimits} {run : JobRun Plan}
    (ops : List JobOp) {P : JobRun Plan → Prop} [DecidablePred P]
    (holds : (run.performAll limits ops).any (fun next => decide (P next)) = true) :
    ∃ next, Reaches limits run next ∧ P next := by
  obtain ⟨next, performed, satisfied⟩ := (Option.any_eq_true _ _).mp holds
  exact ⟨next, Reaches.of_performAll performed, of_decide_eq_true satisfied⟩

/-! ## A job of two stages

The job the runs of the scheduler's methods start from: a map stage of one
partition, writing two shuffle partitions, and a final stage of two partitions
reading them.
-/

/-- A map stage of one partition, writing two shuffle partitions. -/
def mapShape : ShapePlan := { stageId := 1, partitions := 1, shuffleInputs := [], readers := none }

/-- The final stage, of two partitions, reading the map stage's two shuffle partitions. -/
def reduceShape : ShapePlan :=
  { stageId := 2, partitions := 2, shuffleInputs := [(1, 2)], readers := none }

/-- A job of two stages, as `ExecutionGraph::new` builds it. -/
def twoStageJob : JobRun ShapePlan :=
  JobRun.start "scheduler" "job" "" "session" 2 [mapShape, reduceShape]

/-- The map task, task 0, succeeds on `executor-1`. -/
def mapDone : TaskStatus :=
  asTaskStatus (.ok [⟨0, "/0", 1, 1, 1⟩, ⟨1, "/1", 1, 1, 1⟩]) "executor-1" 0 0 ⟨"job", 1, 0⟩ none

/-- The first reduce task, task 1, cannot fetch the map output from `executor-1`. -/
def reduceFetchFailed : TaskStatus :=
  asTaskStatus (.error (.fetchFailed "executor-1" 1 0 "fetch")) "executor-2" 1 0 ⟨"job", 2, 0⟩ none

/-- The map task succeeds on `executor-1`, and the two reduce tasks are handed
out to `executor-2` and `executor-3`. -/
def reducesRunningOps : List JobOp :=
  [.popNextTask "executor-1", .updateTaskStatus ⟨"executor-1"⟩ [mapDone] [1],
   .popNextTask "executor-2", .popNextTask "executor-3"]

end Ballista
