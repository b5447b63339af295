import Ballista.Scheduler.ActiveJobs
import Ballista.Scheduler.ReviveOffers

/-! # The query stage scheduler's event loop

`QueryStageScheduler` (`query_stage_scheduler.rs`) handles the scheduler's
events one at a time, with push-staged scheduling: a job planned enters the
active jobs, task statuses hand their slots back and update the jobs' graphs,
`ReviveOffers` binds and launches waiting tasks, a job finished, failed or
cancelled leaves the active jobs, and a lost executor, or one a launch failed
to reach, is reset out of every graph. Beside the loop, the gRPC service registers executors and saves their
heartbeats, and the expiry check removes executors from the cluster state
(`ServerStep`).

Whatever events arrive, in whatever order, with whatever the job state and
the executors answer, every state the scheduler reaches keeps one entry per
active job, each with a graph keyed by stage id and sized
(`ServerReaches.formedJobs`). So in every reachable state `update_job` never
underflows: it returns the partitions of the stages its revive started
(`SchedulerServer.updateJob_of_reaches`); and `executor_lost` never panics nor
loops, and leaves no stage that is not successful holding the lost executor
(`SchedulerServer.executorLost_of_reaches`). The binder is taken with the bias
or the round-robin policy.

The events a handler posts are not followed: any event may arrive at any
time, which covers them. The launches `revive_offers` spawns run within its
handler. A job whose planning fails changes nothing the model holds, and is
not queued here.
-/

namespace Ballista

open ExceptT
open Cluster (InMemoryClusterState TaskDistributionPolicy PartitionedFile ExecutorAddress ExecutorHeartbeat)

variable {Plan Encoded : Type}

/-- `QueryStageSchedulerEvent` as the loop receives it. `jobQueued` carries the
job as the planner left it: the number of its output partitions and the plans
of its stages. -/
inductive SchedulerEvent (Plan : Type) where
  | jobQueued (jobId jobName sessionId : String) (outputPartitions : Nat) (shuffleStages : List Plan)
  | jobSubmitted (jobId : String)
  | jobPlanningFailed (jobId failMessage : String)
  | jobFinished (jobId : String)
  | jobRunningFailed (jobId failMessage : String)
  | jobUpdated (jobId : String)
  | jobCancel (jobId : String)
  | jobDataClean (jobId : String)
  | taskUpdating (executorId : String) (taskStatuses : List TaskStatus)
  | reviveOffers
  | executorLost (executorId : String)
  | cancelTasks (tasks : List RunningTaskInfo)

/-- The scheduler as its event loop sees it: the cluster state and the encoded
stage plans (`SchedulerState`), and the task manager's active jobs. -/
structure SchedulerServer (Plan Encoded : Type) where
  state : SchedulerState Encoded
  activeJobs : ActiveJobs Plan

/-- What the world answers while an event is handled: the job state's answers,
the launches to the executors, the heartbeat threshold the clock gives, the
order in which each job's groups of statuses are read, and the orders in which
the `HashMap` of a batch's job updates and the `DashMap` of active jobs hand out
their jobs. -/
structure Outcomes (Plan Encoded : Type) where
  acceptJob : String → Except BallistaError Unit
  submitJobState : String → ExecutionGraph Plan → Except BallistaError Unit
  saveJob : String → ExecutionGraph Plan → Except BallistaError Unit
  launcher : String → List (MultiTaskDefinition Encoded) → Except BallistaError Unit
  lastSeenTsThreshold : Nat
  visit : String → List Nat
  jobUpdatesOrder : Table.Iteration String
  activeJobsOrder : Table.Iteration String

/-- A scheduler starting: the cluster state it was given, no active job and no
plan encoded. -/
def SchedulerServer.init (clusterState : InMemoryClusterState) : SchedulerServer Plan Encoded :=
  ⟨⟨clusterState, []⟩, []⟩

/-- The graphs the binder left, written back: the binder works on the graphs
the active jobs share with it. -/
def writeBackGraphs (jobsLeft : Table String (Cluster.JobInfoCache Plan)) (activeJobs : ActiveJobs Plan) :
    ActiveJobs Plan :=
  jobsLeft.foldl (fun activeJobs entry => TaskManager.setGraph entry.1 entry.2.executionGraph activeJobs) activeJobs

/-- The executors `revive_offers` removed, each after a failed launch: those
whose heartbeat it dropped, since only `remove_executor` drops one. -/
def removedExecutors (before after : InMemoryClusterState) : List String :=
  before.heartbeats.keys.filter fun executorId => !after.heartbeats.keys.contains executorId

/-- What `SchedulerState::remove_executor` does to the active jobs: each
executor removed goes through `executor_lost`. -/
def loseExecutors [StagePlan Plan] (executorIds : List String) (activeJobsOrder : Table.Iteration String)
    (activeJobs : ActiveJobs Plan) : ActiveJobs Plan :=
  executorIds.foldl
    (fun activeJobs executorId => ((TaskManager.executorLost executorId activeJobsOrder).exec activeJobs).2)
    activeJobs

section Loop

variable {Key : Type} [LinearOrder Key] [StagePlan Plan] (schedulerId : String)
  (getScanFiles : Plan → Except BallistaError (List (List (List PartitionedFile))))
  (hashFunc : String → Key) (encode : Plan → Except BallistaError Encoded) (distribution : TaskDistributionPolicy)

namespace SchedulerServer

/-- `ReviveOffers`: `revive_offers` over the task manager's running jobs, their
graphs as the bind left them, then each executor a failed launch removed lost
in them. -/
def reviveOffers (outcomes : Outcomes Plan Encoded) (server : SchedulerServer Plan Encoded) :
    SchedulerServer Plan Encoded :=
  let runningJobs := TaskManager.getRunningJobCache server.activeJobs
  let state := (server.state.reviveOffers getScanFiles hashFunc encode outcomes.launcher distribution runningJobs
    outcomes.lastSeenTsThreshold).2
  let activeJobs :=
    match (ExecutorManager.bindSchedulableTasks getScanFiles hashFunc distribution runningJobs
        outcomes.lastSeenTsThreshold server.state.clusterState).1 with
    | .ok (_, jobsLeft) => writeBackGraphs jobsLeft server.activeJobs
    | .error _ => server.activeJobs
  { state := state,
    activeJobs := loseExecutors (removedExecutors server.state.clusterState state.clusterState)
      outcomes.activeJobsOrder activeJobs }

/-- `TaskUpdating`: the executor's slots handed back, one for each status, then
the statuses applied to the jobs when the executor's metadata is found. -/
def taskUpdating (outcomes : Outcomes Plan Encoded) (executorId : String) (taskStatuses : List TaskStatus)
    (server : SchedulerServer Plan Encoded) : SchedulerServer Plan Encoded :=
  let clusterState := server.state.clusterState.unbindTasks [(executorId, taskStatuses.length)]
  { state := { server.state with clusterState := clusterState },
    activeJobs :=
      match clusterState.executors.get? executorId with
      | some _ =>
        ((TaskManager.updateTaskStatuses ⟨executorId⟩ outcomes.visit outcomes.jobUpdatesOrder taskStatuses).exec
          server.activeJobs).2
      | none => server.activeJobs }

/-- A job leaving the active jobs takes its encoded plans along. -/
def dropJob (jobId : String) (activeJobs : ActiveJobs Plan) (server : SchedulerServer Plan Encoded) :
    SchedulerServer Plan Encoded :=
  { state := { server.state with activeJobCache := server.state.activeJobCache.erase jobId },
    activeJobs := activeJobs }

/-- **The event loop's handler** (`on_receive`), with push-staged scheduling. -/
def handle (outcomes : Outcomes Plan Encoded) (server : SchedulerServer Plan Encoded) :
    SchedulerEvent Plan → SchedulerServer Plan Encoded
  | .jobQueued jobId jobName sessionId outputPartitions shuffleStages =>
    -- `queue_job` first; the job is submitted once the job state accepted it
    match outcomes.acceptJob jobId with
    | .error _ => server
    | .ok () =>
      let submitted := (TaskManager.submitJob outcomes.submitJobState schedulerId jobId jobName sessionId
        outputPartitions shuffleStages).exec server.activeJobs
      { state := { server.state with
          activeJobCache :=
            match submitted.1 with
            | .ok _ => server.state.activeJobCache.insert jobId { encodedStagePlans := [] }
            | .error _ => server.state.activeJobCache },
        activeJobs := submitted.2 }
  | .jobFinished jobId =>
    server.dropJob jobId ((TaskManager.succeedJob outcomes.saveJob jobId).exec server.activeJobs).2
  | .jobRunningFailed jobId failMessage =>
    server.dropJob jobId ((TaskManager.abortJob outcomes.saveJob jobId failMessage).exec server.activeJobs).2
  | .jobCancel jobId =>
    server.dropJob jobId ((TaskManager.cancelJob outcomes.saveJob jobId).exec server.activeJobs).2
  | .jobUpdated jobId =>
    { server with activeJobs := ((TaskManager.updateJob outcomes.saveJob jobId).exec server.activeJobs).2 }
  | .taskUpdating executorId taskStatuses => server.taskUpdating outcomes executorId taskStatuses
  | .reviveOffers => server.reviveOffers getScanFiles hashFunc encode distribution outcomes
  | .executorLost executorId =>
    { server with
      activeJobs := ((TaskManager.executorLost executorId outcomes.activeJobsOrder).exec server.activeJobs).2 }
  | .jobSubmitted _ | .jobPlanningFailed _ _ | .jobDataClean _ | .cancelTasks _ => server

/-- The cluster state changed by a call from outside the loop. -/
def onClusterState (server : SchedulerServer Plan Encoded) (clusterState : InMemoryClusterState) :
    SchedulerServer Plan Encoded :=
  { server with state := { server.state with clusterState := clusterState } }

end SchedulerServer

/-- **A step of the scheduler**: the loop handles an event, or the gRPC service
or the expiry check calls the executor manager. -/
inductive ServerStep : SchedulerServer Plan Encoded → SchedulerServer Plan Encoded → Prop
  | handle (server : SchedulerServer Plan Encoded) (outcomes : Outcomes Plan Encoded) (event : SchedulerEvent Plan) :
      ServerStep server (server.handle schedulerId getScanFiles hashFunc encode distribution outcomes event)
  | registerExecutor (server : SchedulerServer Plan Encoded) (executorId : String) (address : ExecutorAddress)
      (availableTaskSlots timestamp : Nat) :
      ServerStep server (server.onClusterState
        (server.state.clusterState.registerExecutor executorId address availableTaskSlots timestamp))
  | saveExecutorHeartbeat (server : SchedulerServer Plan Encoded) (executorId : String) (heartbeat : ExecutorHeartbeat) :
      ServerStep server (server.onClusterState (server.state.clusterState.saveExecutorHeartbeat executorId heartbeat))
  | removeExecutor (server : SchedulerServer Plan Encoded) (executorId : String) :
      ServerStep server (server.onClusterState (server.state.clusterState.removeExecutor executorId))

/-- The states a scheduler reaches. -/
abbrev ServerReaches : SchedulerServer Plan Encoded → SchedulerServer Plan Encoded → Prop :=
  Relation.ReflTransGen (ServerStep schedulerId getScanFiles hashFunc encode distribution)

end Loop

/-! ## Every reachable state keeps its jobs formed -/

open TaskManager (FormedJobs)

/-- Graphs written back from formed ones keep the active jobs formed. -/
theorem TaskManager.FormedJobs.writeBackGraphs :
    ∀ (jobsLeft : Table String (Cluster.JobInfoCache Plan)) {activeJobs : ActiveJobs Plan},
      FormedJobs activeJobs → (∀ entry ∈ jobsLeft, entry.2.executionGraph.Formed) →
        FormedJobs (writeBackGraphs jobsLeft activeJobs)
  | [], _, jobs, _ => jobs
  | entry :: rest, _, jobs, formed =>
    TaskManager.FormedJobs.writeBackGraphs rest (jobs.setGraph entry.1 (formed entry List.mem_cons_self))
      fun other mem => formed other (List.mem_cons_of_mem _ mem)

/-- Executors lost one after the other keep the active jobs formed. -/
theorem TaskManager.FormedJobs.loseExecutors [StagePlan Plan] (activeJobsOrder : Table.Iteration String) :
    ∀ (executorIds : List String) {activeJobs : ActiveJobs Plan},
      FormedJobs activeJobs → FormedJobs (loseExecutors executorIds activeJobsOrder activeJobs)
  | [], _, jobs => jobs
  | executorId :: rest, _, jobs =>
    TaskManager.FormedJobs.loseExecutors activeJobsOrder rest (jobs.executorLost executorId activeJobsOrder)

namespace ExecutorManager

variable {Key : Type} [LinearOrder Key]
  (getScanFiles : Plan → Except BallistaError (List (List (List PartitionedFile)))) (hashFunc : String → Key)

/-- The executor manager's bind with the bias or the round-robin policy, over
formed graphs, returns the jobs with their graphs formed. -/
theorem bindSchedulableTasks_formed {distribution : TaskDistributionPolicy}
    (simple : distribution = .bias ∨ distribution = .roundRobin) (activeJobs : Table String (Cluster.JobInfoCache Plan))
    (distinct : activeJobs.keys.Nodup) (formed : ∀ entry ∈ activeJobs, entry.2.executionGraph.Formed)
    (lastSeenTsThreshold : Nat) (clusterState : InMemoryClusterState) :
    ∃ tasks jobsLeft,
      (bindSchedulableTasks getScanFiles hashFunc distribution activeJobs lastSeenTsThreshold clusterState).1 =
        .ok (tasks, jobsLeft) ∧ ∀ entry ∈ jobsLeft, entry.2.executionGraph.Formed := by
  unfold bindSchedulableTasks
  split
  · exact ⟨[], activeJobs, rfl, formed⟩
  · dsimp only
    split
    · exact ⟨[], activeJobs, rfl, formed⟩
    · obtain ⟨tasks, jobsLeft, ran, -, formedLeft⟩ :=
        clusterState.bindSchedulableTasks_formed getScanFiles hashFunc simple activeJobs distinct formed _
      exact ⟨tasks, jobsLeft, ran, formedLeft⟩

end ExecutorManager

section Invariant

variable {Key : Type} [LinearOrder Key] [StagePlan Plan] {schedulerId : String}
  {getScanFiles : Plan → Except BallistaError (List (List (List PartitionedFile)))}
  {hashFunc : String → Key} {encode : Plan → Except BallistaError Encoded} {distribution : TaskDistributionPolicy}

/-- `ReviveOffers` writes back the formed graphs the bind leaves, and the
executors it removed are lost from formed graphs. -/
theorem TaskManager.FormedJobs.reviveOffers (simple : distribution = .bias ∨ distribution = .roundRobin)
    {server : SchedulerServer Plan Encoded} (jobs : FormedJobs server.activeJobs) (outcomes : Outcomes Plan Encoded) :
    FormedJobs (server.reviveOffers getScanFiles hashFunc encode distribution outcomes).activeJobs := by
  have running := jobs.getRunningJobCache
  obtain ⟨tasks, jobsLeft, ran, formedLeft⟩ := ExecutorManager.bindSchedulableTasks_formed getScanFiles hashFunc simple
    (TaskManager.getRunningJobCache server.activeJobs) running.distinct running.formed outcomes.lastSeenTsThreshold
    server.state.clusterState
  simp only [SchedulerServer.reviveOffers, ran]
  exact (jobs.writeBackGraphs jobsLeft formedLeft).loseExecutors outcomes.activeJobsOrder _

/-- **Every event keeps the active jobs formed**, whatever the world answers. -/
theorem TaskManager.FormedJobs.handle (simple : distribution = .bias ∨ distribution = .roundRobin)
    {server : SchedulerServer Plan Encoded} (jobs : FormedJobs server.activeJobs) (outcomes : Outcomes Plan Encoded) :
    ∀ event : SchedulerEvent Plan,
      FormedJobs (server.handle schedulerId getScanFiles hashFunc encode distribution outcomes event).activeJobs
  | .jobQueued jobId jobName sessionId outputPartitions shuffleStages => by
    simp only [SchedulerServer.handle]
    split
    · exact jobs
    · exact jobs.submitJob outcomes.submitJobState schedulerId jobId jobName sessionId outputPartitions shuffleStages
  | .jobFinished jobId => by
    simp only [SchedulerServer.handle, SchedulerServer.dropJob, TaskManager.exec_succeedJob_snd]
    exact jobs.erase jobId
  | .jobRunningFailed jobId failMessage => by
    simp only [SchedulerServer.handle, SchedulerServer.dropJob, TaskManager.exec_abortJob_snd]
    exact jobs.erase jobId
  | .jobCancel jobId => by
    simp only [SchedulerServer.handle, SchedulerServer.dropJob, TaskManager.cancelJob, TaskManager.exec_abortJob_snd]
    exact jobs.erase jobId
  | .jobUpdated jobId => jobs.updateJob outcomes.saveJob jobId
  | .taskUpdating executorId taskStatuses => by
    simp only [SchedulerServer.handle, SchedulerServer.taskUpdating]
    split
    · exact jobs.updateJobGroups _
    · exact jobs
  | .reviveOffers => jobs.reviveOffers simple outcomes
  | .executorLost executorId => jobs.executorLost executorId outcomes.activeJobsOrder
  | .jobSubmitted _ | .jobPlanningFailed _ _ | .jobDataClean _ | .cancelTasks _ => jobs

theorem ServerStep.formedJobs (simple : distribution = .bias ∨ distribution = .roundRobin)
    {server next : SchedulerServer Plan Encoded}
    (step : ServerStep schedulerId getScanFiles hashFunc encode distribution server next)
    (jobs : FormedJobs server.activeJobs) : FormedJobs next.activeJobs := by
  cases step with
  | handle outcomes event => exact jobs.handle simple outcomes event
  | registerExecutor | saveExecutorHeartbeat | removeExecutor => exact jobs

/-- **In every state the scheduler reaches**, the active jobs have one entry
each, and every graph is keyed by stage id and sized. -/
theorem ServerReaches.formedJobs (simple : distribution = .bias ∨ distribution = .roundRobin)
    {clusterState : InMemoryClusterState} {server : SchedulerServer Plan Encoded}
    (reach : ServerReaches schedulerId getScanFiles hashFunc encode distribution (.init clusterState) server) :
    FormedJobs server.activeJobs := by
  induction reach with
  | refl => exact TaskManager.formedJobs_nil
  | tail _ step jobs => exact step.formedJobs simple jobs

end Invariant

/-! ## What every reachable state gives -/

section Reachable

variable {Key : Type} [LinearOrder Key] [StagePlan Plan] {schedulerId : String}
  {getScanFiles : Plan → Except BallistaError (List (List (List PartitionedFile)))}
  {hashFunc : String → Key} {encode : Plan → Except BallistaError Encoded} {distribution : TaskDistributionPolicy}

/-- **`update_job` in every state the scheduler reaches.** For every active
job, `update_job` leaves the job's graph revived and returns the number of
partitions of the stages that were resolved, or the job state's error: its
subtraction of `usize` never underflows. -/
theorem SchedulerServer.updateJob_of_reaches (simple : distribution = .bias ∨ distribution = .roundRobin)
    {clusterState : InMemoryClusterState} {server : SchedulerServer Plan Encoded}
    (reach : ServerReaches schedulerId getScanFiles hashFunc encode distribution (.init clusterState) server)
    (saveJob : String → ExecutionGraph Plan → Except BallistaError Unit) {jobId : String}
    {jobInfo : Cluster.JobInfoCache Plan} (found : server.activeJobs.get? jobId = some jobInfo) :
    (TaskManager.updateJob saveJob jobId).exec server.activeJobs =
      (Except.map (fun _ => (jobInfo.executionGraph.resolvedStages.map ResolvedStage.partitions).sum)
          ((saveJob jobId jobInfo.executionGraph.revive.2).mapError Fault.error),
        TaskManager.setGraph jobId jobInfo.executionGraph.revive.2 server.activeJobs) :=
  TaskManager.updateJob_eq saveJob found ((reach.formedJobs simple).formed_of_get? found).keyed

/-- **`executor_lost` in every state the scheduler reaches.** It ends,
returning or handing an error back, and never panics; when it returns, no
active job's graph keeps a stage that is not successful holding the lost
executor: no location on it in the stage's inputs and, running, no task slot
held by a task there. -/
theorem SchedulerServer.executorLost_of_reaches (simple : distribution = .bias ∨ distribution = .roundRobin)
    {clusterState : InMemoryClusterState} {server : SchedulerServer Plan Encoded}
    (reach : ServerReaches schedulerId getScanFiles hashFunc encode distribution (.init clusterState) server)
    (executorId : String) (activeJobsOrder : Table.Iteration String) :
    returned ((TaskManager.executorLost executorId activeJobsOrder).exec server.activeJobs).1 = true ∧
      ∀ tasks, ((TaskManager.executorLost executorId activeJobsOrder).exec server.activeJobs).1 = .ok tasks →
        ∀ entry ∈ ((TaskManager.executorLost executorId activeJobsOrder).exec server.activeJobs).2,
          Cleared executorId entry.2.executionGraph :=
  TaskManager.executorLost_spec executorId activeJobsOrder fun entry mem =>
    ((reach.formedJobs simple).formed entry mem).keyed

end Reachable

/-- The world accepting every call, at time 0. -/
def acceptingOutcomes : Outcomes ShapePlan ShapePlan :=
  { acceptJob := fun _ => .ok (), submitJobState := fun _ _ => .ok (), saveJob := fun _ _ => .ok (),
    launcher := fun _ _ => .ok (), lastSeenTsThreshold := 0, visit := fun _ => [],
    jobUpdatesOrder := .listed, activeJobsOrder := .listed }

/-- A scheduler with no executor, once the job of four stages, two of them
forking from the first, is queued. -/
def forkServer : SchedulerServer ShapePlan ShapePlan :=
  (SchedulerServer.init InMemoryClusterState.empty).handle "scheduler" (fun _ => .ok []) String.length encodeShape
    .bias acceptingOutcomes
    (.jobQueued "job" "" "session" 1
      [⟨1, 1, [], none⟩, ⟨2, 1, [(1, 1)], none⟩, ⟨3, 2, [], none⟩, ⟨4, 1, [(2, 1), (3, 1)], none⟩])

theorem reaches_forkServer :
    ServerReaches "scheduler" (fun _ : ShapePlan => .ok []) String.length encodeShape .bias (.init .empty) forkServer :=
  .single (.handle _ acceptingOutcomes _)

theorem updateJob_of_reaches_forkServer :
    ∃ jobInfo, forkServer.activeJobs.get? "job" = some jobInfo ∧
      (TaskManager.updateJob (fun _ _ => .ok ()) "job").exec forkServer.activeJobs =
        (Except.map (fun _ => (jobInfo.executionGraph.resolvedStages.map ResolvedStage.partitions).sum)
            (((fun _ _ => .ok ()) "job" jobInfo.executionGraph.revive.2 : Except BallistaError Unit).mapError
              Fault.error),
          TaskManager.setGraph "job" jobInfo.executionGraph.revive.2 forkServer.activeJobs) :=
  ⟨_, rfl, SchedulerServer.updateJob_of_reaches (.inl rfl) reaches_forkServer _ rfl⟩

/-- The scheduler once `executor-1` registered with two slots at time 10, a
job of a map stage and a stage reading it queued, and the offers revived: the
map task runs on `executor-1`. -/
def runningServer : SchedulerServer ShapePlan ShapePlan :=
  let registered := (SchedulerServer.init InMemoryClusterState.empty).onClusterState
    (InMemoryClusterState.empty.registerExecutor "executor-1" ⟨"localhost", 50051⟩ 2 10)
  let queued := registered.handle "scheduler" (fun _ => .ok []) String.length encodeShape .bias acceptingOutcomes
    (.jobQueued "job" "" "session" 1 [⟨1, 1, [], none⟩, ⟨2, 1, [(1, 1)], none⟩])
  queued.handle "scheduler" (fun _ => .ok []) String.length encodeShape .bias acceptingOutcomes .reviveOffers

theorem reaches_runningServer :
    ServerReaches "scheduler" (fun _ : ShapePlan => .ok []) String.length encodeShape .bias (.init .empty)
      runningServer :=
  .tail (.tail (.single (.registerExecutor _ "executor-1" ⟨"localhost", 50051⟩ 2 10))
      (.handle _ acceptingOutcomes (.jobQueued "job" "" "session" 1 [⟨1, 1, [], none⟩, ⟨2, 1, [(1, 1)], none⟩])))
    (.handle _ acceptingOutcomes .reviveOffers)

theorem executorLost_of_reaches_runningServer :
    0 < (runningServer.activeJobs.map fun entry => lostExecutorMeasure entry.2.executionGraph "executor-1").sum ∧
      returned ((TaskManager.executorLost "executor-1" .listed).exec runningServer.activeJobs).1 = true ∧
      ∀ tasks, ((TaskManager.executorLost "executor-1" .listed).exec runningServer.activeJobs).1 = .ok tasks →
        ∀ entry ∈ ((TaskManager.executorLost "executor-1" .listed).exec runningServer.activeJobs).2,
          Cleared "executor-1" entry.2.executionGraph := by
  refine ⟨?_, SchedulerServer.executorLost_of_reaches (.inl rfl) reaches_runningServer "executor-1" .listed⟩
  -- the map task is bound to `executor-1` and launched there
  decide +kernel

end Ballista
