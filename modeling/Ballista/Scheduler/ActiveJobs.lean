import Ballista.Cluster.BindRuns
import Ballista.Core.ConsistentHash
import Ballista.Scheduler.LostExecutorReset
import Ballista.Lib.Grouping

/-! # The task manager's active jobs

The task manager (`task_manager.rs`) keeps each active job's graph behind a
lock in `active_job_cache`. Its methods read a job's entry and run a method of
the graph under the write lock; when that method fails, `?` hands the failure
on and the graph keeps what the method had done by then (`TaskManager.onGraph`).

`update_task_statuses` groups a batch of statuses by job and updates the jobs
one after the other, in the order its `HashMap` hands them out, which is a
parameter. Each job's graph is changed by its own statuses only, as if they had
come alone; when the call returns, every job with statuses was updated and the
events are the jobs' events in that order; when it fails, the failure is one
job's, and the jobs updated before it keep their updates
(`TaskManager.updateTaskStatuses_spec`).

`update_job` revives the job's graph and returns how many tasks the revive made
available, a subtraction of `usize`. On a graph keyed by stage id it never
underflows: it returns the partitions of the stages that were resolved
(`TaskManager.updateJob_eq`). `executor_lost` resets every job's graph on the
lost executor, in the order the `DashMap` of active jobs hands them out, again a
parameter; over keyed graphs it ends, and when it returns no graph keeps a
stage that is not successful holding the executor (`TaskManager.executorLost_spec`).
Each method keeps the active jobs one entry per job with formed graphs
(`FormedJobs`).

The job state behind `save_job` and `submit_job` is not modelled: its answers
are parameters.
-/

namespace Ballista

open ExceptT ExecutionGraph

variable {Plan : Type}

/-- `active_job_cache`: each active job's graph and the status cached beside it. -/
abbrev ActiveJobs (Plan : Type) := Table String (Cluster.JobInfoCache Plan)

/-- A method of the task manager on its active jobs. -/
abbrev ActiveJobsM (Plan α : Type) := ExceptT Fault (StateM (ActiveJobs Plan)) α

/-- The tasks of a stage waiting to be scheduled, as `available_tasks` counts
them: the free task slots of a running stage. -/
def ExecutionStage.availableTasks : ExecutionStage Plan → Nat
  | .running stage => stage.availableTasks
  | _ => 0

/-- The tasks `revive` makes available in a stage: all its partitions when it
is resolved. -/
def ExecutionStage.resolvedPartitions : ExecutionStage Plan → Nat
  | .resolved stage => stage.partitions
  | _ => 0

namespace ExecutionStage

@[simp] theorem availableTasks_revived (stage : ExecutionStage Plan) :
    stage.revived.availableTasks = stage.availableTasks + stage.resolvedPartitions := by
  cases stage with
  | resolved stage =>
    simp [revived, availableTasks, resolvedPartitions, ResolvedStage.toRunning, RunningStage.new,
      RunningStage.availableTasks, List.countP_replicate]
  | _ => rfl

end ExecutionStage

namespace ExecutionGraph

theorem availableTasks_eq (graph : ExecutionGraph Plan) :
    graph.availableTasks = (graph.stages.map fun entry => entry.2.availableTasks).sum := rfl

theorem sum_partitions_resolvedStages (graph : ExecutionGraph Plan) :
    (graph.resolvedStages.map ResolvedStage.partitions).sum =
      (graph.stages.map fun entry => entry.2.resolvedPartitions).sum := by
  unfold resolvedStages
  induction graph.stages with
  | nil => rfl
  | cons entry rest ih =>
    obtain ⟨stageId, stage⟩ := entry
    cases stage <;> simp [ExecutionStage.resolvedPartitions, ih]

/-- **What `revive` adds to the tasks waiting**, in a graph keyed by stage id:
every partition of every stage that was resolved. -/
theorem WellKeyed.availableTasks_revive {graph : ExecutionGraph Plan} (keyed : graph.WellKeyed) :
    graph.revive.2.availableTasks =
      graph.availableTasks + (graph.resolvedStages.map ResolvedStage.partitions).sum := by
  rw [availableTasks_eq, availableTasks_eq, keyed.stages_revive, sum_partitions_resolvedStages,
    ← List.sum_map_add]
  simp only [Table.mapValues, List.map_map, Function.comp_def, ExecutionStage.availableTasks_revived]

/-- A method of the graph that moves its stages leaves a formed graph formed. -/
theorem Formed.of_moves [StagePlan Plan] {α : Type} {graph : ExecutionGraph Plan} (formed : graph.Formed)
    {method : GraphM Plan α} (moves : MovesStages method) : (method.exec graph).2.Formed :=
  ⟨(moves graph).wellKeyed formed.keyed, (moves graph).sized formed.keyed formed.sized⟩

theorem Formed.revive {graph : ExecutionGraph Plan} (formed : graph.Formed) : graph.revive.2.Formed :=
  ⟨(StagesMove.revive graph).wellKeyed formed.keyed, (StagesMove.revive graph).sized formed.keyed formed.sized⟩

theorem formed_new [StagePlan Plan] (schedulerId jobId jobName sessionId : String) (outputPartitions : Nat)
    (shuffleStages : List Plan) :
    (ExecutionGraph.new schedulerId jobId jobName sessionId outputPartitions shuffleStages).Formed :=
  ⟨wellKeyed_new _ _ _ _ _ _, ExecutionGraph.sized_new _ _ _ _ _ _⟩

end ExecutionGraph

namespace TaskManager

/-- Write a job's graph back into its entry. -/
def setGraph (jobId : String) (graph : ExecutionGraph Plan) (activeJobs : ActiveJobs Plan) : ActiveJobs Plan :=
  activeJobs.modify jobId fun jobInfo => { jobInfo with executionGraph := graph }

/-- Run a method of a job's graph under the job's write lock: the graph the
method leaves stays in the job's entry, also when the method fails, and the
outcome is the caller's, as `?` hands it on. -/
def onGraph {α : Type} (jobId : String) (graph : ExecutionGraph Plan) (method : GraphM Plan α) :
    ActiveJobsM Plan α :=
  match method.exec graph with
  | (result, graph) => do
    modify (setGraph jobId graph)
    match result with
    | .ok value => pure value
    | .error fault => throw fault

/-- `?` on a call to the job state. -/
def liftJobState {α : Type} : Except BallistaError α → ActiveJobsM Plan α
  | .ok value => pure value
  | .error e => throw (.error e)

/-- `get_running_job_cache`: the active jobs whose cached status is running. -/
def getRunningJobCache (activeJobs : ActiveJobs Plan) : ActiveJobs Plan :=
  activeJobs.filter fun entry =>
    match entry.2.status with
    | some (.running _) => true
    | _ => false

/-- `get_available_task_count`: the tasks waiting in a job's graph, none for a
job not in the active jobs. -/
def getAvailableTaskCount (jobId : String) (activeJobs : ActiveJobs Plan) : Nat :=
  ((activeJobs.get? jobId).map fun jobInfo => jobInfo.executionGraph.availableTasks).getD 0

section Methods

variable [StagePlan Plan]

/-- `update_task_status` as the task manager calls it: with its retry limits
`TASK_MAX_FAILURES` and `STAGE_MAX_FAILURES`, and the stages in the order
`visit` gives for the job. -/
def jobUpdate (executor : ExecutorMetadata) (visit : String → List Nat) (jobId : String)
    (statuses : List TaskStatus) : GraphM Plan (List QueryStageSchedulerEvent) :=
  updateTaskStatus executor statuses RetryLimits.taskManager.maxTaskFailures
    RetryLimits.taskManager.maxStageFailures (visit jobId)

/-- The loop of `update_task_statuses` over the statuses grouped by job: the
group of a job in the active jobs is applied to its graph and its events
collected; a job not there is passed over. -/
def updateJobGroups (executor : ExecutorMetadata) (visit : String → List Nat) :
    Table String (List TaskStatus) → ActiveJobsM Plan (List QueryStageSchedulerEvent)
  | [] => return []
  | (jobId, statuses) :: rest => do
    let activeJobs ← get
    let jobEvents ← match activeJobs.get? jobId with
      | some jobInfo => onGraph jobId jobInfo.executionGraph (jobUpdate executor visit jobId statuses)
      | none => pure []
    let events ← updateJobGroups executor visit rest
    return jobEvents ++ events

/-- **`update_task_statuses`**: the statuses grouped by job (`job_updates`),
each job's group applied to its graph in turn, in the order `jobUpdatesOrder`
gives the jobs of the `HashMap`. -/
def updateTaskStatuses (executor : ExecutorMetadata) (visit : String → List Nat)
    (jobUpdatesOrder : Table.Iteration String) (taskStatuses : List TaskStatus) :
    ActiveJobsM Plan (List QueryStageSchedulerEvent) :=
  updateJobGroups executor visit ((Table.groupBy TaskStatus.jobId taskStatuses).arrange jobUpdatesOrder)

/-- The loop of `executor_lost` over the active jobs: each job's stages reset
on the lost executor, and the tasks to cancel collected from the jobs where
something was reset. -/
def resetJobs (executorId : String) : ActiveJobs Plan → ActiveJobsM Plan (List RunningTaskInfo)
  | [] => return []
  | (jobId, jobInfo) :: rest => do
    let reset ← onGraph jobId jobInfo.executionGraph (resetStagesOnLostExecutor executorId)
    let tasks ← resetJobs executorId rest
    return (if reset.1.isEmpty then [] else reset.2) ++ tasks

/-- **`executor_lost`**: the running tasks to cancel in the active jobs, visited
in the order `activeJobsOrder` gives the jobs of `active_job_cache`. -/
def executorLost (executorId : String) (activeJobsOrder : Table.Iteration String) :
    ActiveJobsM Plan (List RunningTaskInfo) := do
  resetJobs executorId ((← get).arrange activeJobsOrder)

variable (submitJobState saveJob : String → ExecutionGraph Plan → Except BallistaError Unit)

/-- `submit_job`, once the job is planned: its graph is built, saved to the job
state, revived, and enters the active jobs with the status it was built with. -/
def submitJob (schedulerId jobId jobName sessionId : String) (outputPartitions : Nat)
    (shuffleStages : List Plan) : ActiveJobsM Plan Unit := do
  let graph := ExecutionGraph.new schedulerId jobId jobName sessionId outputPartitions shuffleStages
  liftJobState (submitJobState jobId graph)
  let graph := graph.revive.2
  modify fun activeJobs => activeJobs.insert jobId { executionGraph := graph, status := graph.status.status }

/-- `succeed_job`: the job leaves the active jobs; its graph is saved when it is
successful, and dropped otherwise. -/
def succeedJob (jobId : String) : ActiveJobsM Plan Unit := do
  let activeJobs ← get
  match activeJobs.get? jobId with
  | some jobInfo =>
    modify fun activeJobs => activeJobs.erase jobId
    if jobInfo.executionGraph.isSuccessful then
      liftJobState (saveJob jobId jobInfo.executionGraph)
  | none => return

/-- `abort_job`: the job leaves the active jobs and its graph is failed and
saved; the running tasks to cancel, and the number of tasks that were waiting. -/
def abortJob (jobId failureReason : String) : ActiveJobsM Plan (List RunningTaskInfo × Nat) := do
  let activeJobs ← get
  match activeJobs.get? jobId with
  | some jobInfo =>
    modify fun activeJobs => activeJobs.erase jobId
    let graph := jobInfo.executionGraph
    let pendingTasks := graph.availableTasks
    let runningTasks := graph.runningTasks
    liftJobState (saveJob jobId (graph.failJob failureReason))
    return (runningTasks, pendingTasks)
  | none => return ([], 0)

/-- `cancel_job`. -/
def cancelJob (jobId : String) : ActiveJobsM Plan (List RunningTaskInfo × Nat) :=
  abortJob saveJob jobId "Cancelled"

/-- The body of `update_job` under the graph's write lock: the tasks waiting,
the graph revived and saved, and the tasks waiting then less those before, a
subtraction of `usize`. -/
def reviveAndSave (jobId : String) : GraphM Plan Nat := do
  let currAvailableTasks := (← get).availableTasks
  let _ ← reviveM
  let graph ← get
  liftError (saveJob jobId graph)
  match ConsistentHash.checkedSub graph.availableTasks currAvailableTasks with
  | .ok newTasks => return newTasks
  | .error message => throw (.panic message)

/-- **`update_job`**: the job's graph revived and saved; how many tasks the
revive made available. A job not in the active jobs gives none. -/
def updateJob (jobId : String) : ActiveJobsM Plan Nat := do
  let activeJobs ← get
  match activeJobs.get? jobId with
  | some jobInfo => onGraph jobId jobInfo.executionGraph (reviveAndSave saveJob jobId)
  | none => return 0

end Methods

/-! ## Writing a graph back -/

@[simp] theorem keys_setGraph (jobId : String) (graph : ExecutionGraph Plan) (activeJobs : ActiveJobs Plan) :
    (setGraph jobId graph activeJobs).keys = activeJobs.keys :=
  Table.keys_modify _ _ _

theorem get?_setGraph (jobId other : String) (graph : ExecutionGraph Plan) (activeJobs : ActiveJobs Plan) :
    (setGraph jobId graph activeJobs).get? other =
      if other = jobId then (activeJobs.get? other).map fun jobInfo => { jobInfo with executionGraph := graph }
      else activeJobs.get? other := by
  by_cases same : other = jobId
  · subst same
    rw [if_pos rfl, setGraph, Table.get?_modify_self]
  · rw [if_neg same, setGraph, Table.get?_modify_of_ne _ _ same]

@[simp] theorem get?_setGraph_self (jobId : String) (graph : ExecutionGraph Plan) (activeJobs : ActiveJobs Plan) :
    (setGraph jobId graph activeJobs).get? jobId =
      (activeJobs.get? jobId).map fun jobInfo => { jobInfo with executionGraph := graph } := by
  rw [get?_setGraph, if_pos rfl]

theorem get?_setGraph_of_ne {jobId other : String} (graph : ExecutionGraph Plan) (activeJobs : ActiveJobs Plan)
    (apart : other ≠ jobId) : (setGraph jobId graph activeJobs).get? other = activeJobs.get? other := by
  rw [get?_setGraph, if_neg apart]

theorem exec_onGraph {α : Type} (jobId : String) (graph : ExecutionGraph Plan) (method : GraphM Plan α)
    (activeJobs : ActiveJobs Plan) :
    (onGraph jobId graph method).exec activeJobs =
      ((method.exec graph).1, setGraph jobId (method.exec graph).2 activeJobs) := by
  unfold onGraph
  generalize method.exec graph = run
  obtain ⟨result | value, graph'⟩ := run <;> rfl

/-- An entry written back with a graph, read among the entries. -/
theorem mem_setGraph {jobId : String} {graph : ExecutionGraph Plan} {activeJobs : ActiveJobs Plan}
    {entry : String × Cluster.JobInfoCache Plan} (mem : entry ∈ setGraph jobId graph activeJobs) :
    (entry.1 = jobId ∧ entry.2.executionGraph = graph) ∨ (entry ∈ activeJobs ∧ entry.1 ≠ jobId) := by
  obtain ⟨old, present, rfl⟩ := List.mem_map.mp mem
  split
  · rename_i same
    exact .inl ⟨same, rfl⟩
  · rename_i apart
    exact .inr ⟨present, apart⟩

theorem returned_error {α β : Type} (fault : Fault) :
    returned (.error fault : Except Fault α) = returned (.error fault : Except Fault β) := by
  cases fault <;> rfl

theorem returned_map {α β : Type} (f : α → β) (result : Except Fault α) : returned (result.map f) = returned result := by
  cases result with
  | ok _ => rfl
  | error fault => cases fault <;> rfl

/-! ## One entry per job, each graph formed -/

/-- The active jobs the scheduler keeps: one entry per job, each with a formed
graph. -/
structure FormedJobs (activeJobs : ActiveJobs Plan) : Prop where
  distinct : activeJobs.keys.Nodup
  formed : ∀ entry ∈ activeJobs, entry.2.executionGraph.Formed

theorem formedJobs_nil : FormedJobs ([] : ActiveJobs Plan) :=
  ⟨List.nodup_nil, fun _ mem => absurd mem List.not_mem_nil⟩

theorem FormedJobs.formed_of_get? {activeJobs : ActiveJobs Plan} (jobs : FormedJobs activeJobs)
    {jobId : String} {jobInfo : Cluster.JobInfoCache Plan} (found : activeJobs.get? jobId = some jobInfo) :
    jobInfo.executionGraph.Formed :=
  jobs.formed _ (Table.get?_eq_some_mem found)

theorem FormedJobs.setGraph {activeJobs : ActiveJobs Plan} (jobs : FormedJobs activeJobs)
    (jobId : String) {graph : ExecutionGraph Plan} (formed : graph.Formed) :
    FormedJobs (setGraph jobId graph activeJobs) := by
  refine ⟨by rw [keys_setGraph]; exact jobs.distinct, fun entry mem => ?_⟩
  obtain ⟨old, present, rfl⟩ := List.mem_map.mp mem
  split
  · exact formed
  · exact jobs.formed old present

theorem FormedJobs.erase {activeJobs : ActiveJobs Plan} (jobs : FormedJobs activeJobs) (jobId : String) :
    FormedJobs (activeJobs.erase jobId) :=
  ⟨(Table.keys_erase_sublist _ _).nodup jobs.distinct,
    fun entry mem => jobs.formed entry (Table.mem_of_mem_erase mem)⟩

theorem FormedJobs.insert {activeJobs : ActiveJobs Plan} (jobs : FormedJobs activeJobs) (jobId : String)
    {jobInfo : Cluster.JobInfoCache Plan} (formed : jobInfo.executionGraph.Formed) :
    FormedJobs (activeJobs.insert jobId jobInfo) := by
  refine ⟨Table.keys_insert_nodup _ _ jobs.distinct, fun entry mem => ?_⟩
  rcases Table.mem_insert_cases mem with rfl | earlier
  · exact formed
  · exact jobs.formed entry earlier

theorem FormedJobs.filter {activeJobs : ActiveJobs Plan} (jobs : FormedJobs activeJobs)
    (keep : String × Cluster.JobInfoCache Plan → Bool) : FormedJobs (activeJobs.filter keep) := by
  refine ⟨?_, fun entry mem => jobs.formed entry (List.mem_filter.mp mem).1⟩
  exact ((List.filter_sublist).map Prod.fst).nodup jobs.distinct

theorem FormedJobs.getRunningJobCache {activeJobs : ActiveJobs Plan} (jobs : FormedJobs activeJobs) :
    FormedJobs (getRunningJobCache activeJobs) :=
  jobs.filter _

section Methods

variable [StagePlan Plan] {executor : ExecutorMetadata} {visit : String → List Nat}

/-! ## `update_task_statuses` -/

theorem movesStages_jobUpdate (executor : ExecutorMetadata) (visit : String → List Nat) (jobId : String)
    (statuses : List TaskStatus) : MovesStages (jobUpdate executor visit jobId statuses : GraphM Plan _) :=
  movesStages_updateTaskStatus executor statuses _ _ (visit jobId)

theorem exec_updateJobGroups_cons_of_none {jobId : String} (statuses : List TaskStatus)
    (rest : Table String (List TaskStatus)) {activeJobs : ActiveJobs Plan} (found : activeJobs.get? jobId = none) :
    (updateJobGroups executor visit ((jobId, statuses) :: rest)).exec activeJobs =
      (updateJobGroups executor visit rest).exec activeJobs := by
  rw [updateJobGroups, exec_bind, exec_get]
  simp only [found, exec_bind, exec_pure]
  generalize (updateJobGroups executor visit rest).exec activeJobs = run
  obtain ⟨_ | _, _⟩ := run <;> rfl

theorem exec_updateJobGroups_cons_of_ok {jobId : String} {statuses : List TaskStatus}
    (rest : Table String (List TaskStatus)) {activeJobs : ActiveJobs Plan} {jobInfo : Cluster.JobInfoCache Plan}
    (found : activeJobs.get? jobId = some jobInfo) {jobEvents : List QueryStageSchedulerEvent}
    {graph : ExecutionGraph Plan}
    (ran : (jobUpdate executor visit jobId statuses).exec jobInfo.executionGraph = (.ok jobEvents, graph)) :
    (updateJobGroups executor visit ((jobId, statuses) :: rest)).exec activeJobs =
      (((updateJobGroups executor visit rest).exec (setGraph jobId graph activeJobs)).1.map (jobEvents ++ ·),
        ((updateJobGroups executor visit rest).exec (setGraph jobId graph activeJobs)).2) := by
  rw [updateJobGroups, exec_bind, exec_get]
  simp only [found, exec_bind, exec_onGraph, ran]
  generalize (updateJobGroups executor visit rest).exec (setGraph jobId graph activeJobs) = run
  obtain ⟨_ | _, _⟩ := run <;> rfl

theorem exec_updateJobGroups_cons_of_error {jobId : String} {statuses : List TaskStatus}
    (rest : Table String (List TaskStatus)) {activeJobs : ActiveJobs Plan} {jobInfo : Cluster.JobInfoCache Plan}
    (found : activeJobs.get? jobId = some jobInfo) {fault : Fault} {graph : ExecutionGraph Plan}
    (ran : (jobUpdate executor visit jobId statuses).exec jobInfo.executionGraph = (.error fault, graph)) :
    (updateJobGroups executor visit ((jobId, statuses) :: rest)).exec activeJobs =
      (.error fault, setGraph jobId graph activeJobs) := by
  rw [updateJobGroups, exec_bind, exec_get]
  simp only [found, exec_bind, exec_onGraph, ran]

/-- What the loop over some groups of statuses, one per job, does: each job's
entry is left, or updated by the job's own group from the entry it had; when
the loop returns, every job with a group in the active jobs was updated and the
events are the jobs' in turn; when it fails, some job's update failed. -/
structure GroupsRun (executor : ExecutorMetadata) (visit : String → List Nat)
    (groups : Table String (List TaskStatus)) (activeJobs : ActiveJobs Plan)
    (result : Except Fault (List QueryStageSchedulerEvent)) (activeJobs' : ActiveJobs Plan) : Prop where
  entries : ∀ jobId, activeJobs'.get? jobId = activeJobs.get? jobId ∨
    ∃ statuses jobInfo, (jobId, statuses) ∈ groups ∧ activeJobs.get? jobId = some jobInfo ∧
      activeJobs'.get? jobId = some { jobInfo with
        executionGraph := ((jobUpdate executor visit jobId statuses).exec jobInfo.executionGraph).2 }
  returned : ∀ events, result = .ok events → ∃ eventsOf : String → List QueryStageSchedulerEvent,
    (∀ jobId statuses jobInfo, (jobId, statuses) ∈ groups → activeJobs.get? jobId = some jobInfo →
      ((jobUpdate executor visit jobId statuses).exec jobInfo.executionGraph).1 = .ok (eventsOf jobId) ∧
      activeJobs'.get? jobId = some { jobInfo with
        executionGraph := ((jobUpdate executor visit jobId statuses).exec jobInfo.executionGraph).2 }) ∧
    events = ((groups.keys.filter fun jobId => jobId ∈ activeJobs.keys).flatMap eventsOf)
  failed : ∀ fault, result = .error fault → ∃ jobId statuses jobInfo, (jobId, statuses) ∈ groups ∧
    activeJobs.get? jobId = some jobInfo ∧
    ((jobUpdate executor visit jobId statuses).exec jobInfo.executionGraph).1 = .error fault

/-- A job not in the active jobs is passed over. -/
theorem GroupsRun.cons_none {jobId : String} {statuses : List TaskStatus} {rest : Table String (List TaskStatus)}
    {activeJobs activeJobs' : ActiveJobs Plan} {result : Except Fault (List QueryStageSchedulerEvent)}
    (later : GroupsRun executor visit rest activeJobs result activeJobs')
    (found : activeJobs.get? jobId = none) :
    GroupsRun executor visit ((jobId, statuses) :: rest) activeJobs result activeJobs' where
  entries other := by
    rcases later.entries other with kept | ⟨groupStatuses, jobInfo, mem, present, updated⟩
    · exact .inl kept
    · exact .inr ⟨groupStatuses, jobInfo, List.mem_cons_of_mem _ mem, present, updated⟩
  returned events ran := by
    obtain ⟨eventsOf, updated, order⟩ := later.returned events ran
    refine ⟨eventsOf, fun other groupStatuses jobInfo mem present => ?_, ?_⟩
    · rcases List.mem_cons.mp mem with same | later
      · cases same
        rw [found] at present
        cases present
      · exact updated other groupStatuses jobInfo later present
    · have absent : jobId ∉ activeJobs.keys := fun mem => by
        rw [Table.get?_eq_none_iff] at found
        exact found mem
      rw [Table.keys_cons, List.filter_cons_of_neg (by simpa using absent), order]
  failed fault ran := by
    obtain ⟨other, groupStatuses, jobInfo, mem, present, broke⟩ := later.failed fault ran
    exact ⟨other, groupStatuses, jobInfo, List.mem_cons_of_mem _ mem, present, broke⟩

/-- A job whose update returned is updated before the later jobs, which do not
see it again. -/
theorem GroupsRun.cons_ok {jobId : String} {statuses : List TaskStatus} {rest : Table String (List TaskStatus)}
    (fresh : jobId ∉ rest.keys) {activeJobs activeJobs' : ActiveJobs Plan} {jobInfo : Cluster.JobInfoCache Plan}
    (found : activeJobs.get? jobId = some jobInfo) {jobEvents : List QueryStageSchedulerEvent}
    {graph : ExecutionGraph Plan}
    (ran : (jobUpdate executor visit jobId statuses).exec jobInfo.executionGraph = (.ok jobEvents, graph))
    {result : Except Fault (List QueryStageSchedulerEvent)}
    (later : GroupsRun executor visit rest (setGraph jobId graph activeJobs) result activeJobs') :
    GroupsRun executor visit ((jobId, statuses) :: rest) activeJobs
      (result.map (jobEvents ++ ·)) activeJobs' := by
  -- the later groups are of other jobs, whose entries the update left alone
  have other_of_mem : ∀ {other groupStatuses}, (other, groupStatuses) ∈ rest → other ≠ jobId :=
    fun mem same => fresh (same ▸ List.mem_map_of_mem mem)
  have updatedHere : activeJobs'.get? jobId = some { jobInfo with executionGraph := graph } := by
    rcases later.entries jobId with kept | ⟨_, _, mem, _, _⟩
    · rw [kept, get?_setGraph_self, found, Option.map_some]
    · exact absurd rfl (other_of_mem mem)
  constructor
  · intro other
    by_cases same : other = jobId
    · subst same
      exact .inr ⟨statuses, jobInfo, List.mem_cons_self, found, by rw [updatedHere, ran]⟩
    · rcases later.entries other with kept | ⟨groupStatuses, otherInfo, mem, present, updated⟩
      · exact .inl (by rw [kept, get?_setGraph_of_ne _ _ same])
      · rw [get?_setGraph_of_ne _ _ same] at present
        exact .inr ⟨groupStatuses, otherInfo, List.mem_cons_of_mem _ mem, present, updated⟩
  · intro events returned
    obtain ⟨restEvents, rfl, rfl⟩ : ∃ restEvents, result = .ok restEvents ∧ events = jobEvents ++ restEvents := by
      cases result with
      | ok restEvents => exact ⟨restEvents, rfl, (Except.ok.inj returned).symm⟩
      | error _ => cases returned
    obtain ⟨eventsOf, updated, order⟩ := later.returned restEvents rfl
    refine ⟨fun other => if other = jobId then jobEvents else eventsOf other, ?_, ?_⟩
    · intro other groupStatuses otherInfo mem present
      rcases List.mem_cons.mp mem with same | earlier
      · cases same
        rw [found] at present
        cases present
        refine ⟨by simp [ran], by rw [ran]; exact updatedHere⟩
      · have apart := other_of_mem earlier
        simp only [apart, if_false]
        exact updated other groupStatuses otherInfo earlier (by rw [get?_setGraph_of_ne _ _ apart]; exact present)
    · have present : jobId ∈ activeJobs.keys := Table.mem_keys_of_get? found
      rw [Table.keys_cons, List.filter_cons_of_pos (by simpa using present), List.flatMap_cons, if_pos rfl, order,
        keys_setGraph]
      congr 1
      refine List.flatMap_congr fun other mem => ?_
      have apart : other ≠ jobId := fun same => fresh (same ▸ (List.mem_filter.mp mem).1)
      rw [if_neg apart]
  · intro fault failed
    cases result with
    | ok _ => cases failed
    | error restFault =>
      cases failed
      obtain ⟨other, groupStatuses, otherInfo, mem, present, broke⟩ := later.failed _ rfl
      have apart := other_of_mem mem
      rw [get?_setGraph_of_ne _ _ apart] at present
      exact ⟨other, groupStatuses, otherInfo, List.mem_cons_of_mem _ mem, present, broke⟩

/-- A job whose update failed ends the loop, with its graph as the update left it. -/
theorem GroupsRun.cons_error {jobId : String} (statuses : List TaskStatus) (rest : Table String (List TaskStatus))
    {activeJobs : ActiveJobs Plan} {jobInfo : Cluster.JobInfoCache Plan}
    (found : activeJobs.get? jobId = some jobInfo) {fault : Fault} {graph : ExecutionGraph Plan}
    (ran : (jobUpdate executor visit jobId statuses).exec jobInfo.executionGraph = (.error fault, graph)) :
    GroupsRun executor visit ((jobId, statuses) :: rest) activeJobs (.error fault)
      (setGraph jobId graph activeJobs) where
  entries other := by
    by_cases same : other = jobId
    · subst same
      exact .inr ⟨statuses, jobInfo, List.mem_cons_self, found, by rw [get?_setGraph_self, found, ran]; rfl⟩
    · exact .inl (get?_setGraph_of_ne _ _ same)
  returned _ failed := nomatch failed
  failed _ same := ⟨jobId, statuses, jobInfo, List.mem_cons_self, found, by rw [ran, ← same]⟩

/-- **The loop over the groups**, one group per job, from any active jobs. -/
theorem groupsRun_updateJobGroups (executor : ExecutorMetadata) (visit : String → List Nat) :
    ∀ (groups : Table String (List TaskStatus)), groups.keys.Nodup → ∀ activeJobs : ActiveJobs Plan,
      GroupsRun executor visit groups activeJobs
        ((updateJobGroups executor visit groups).exec activeJobs).1
        ((updateJobGroups executor visit groups).exec activeJobs).2
  | [], _, activeJobs =>
    ⟨fun _ => .inl rfl, fun events ran => ⟨fun _ => [], fun _ _ _ mem => absurd mem List.not_mem_nil,
      (Except.ok.inj ran).symm⟩, fun _ ran => nomatch ran⟩
  | (jobId, statuses) :: rest, distinct, activeJobs => by
    rw [Table.keys_cons, List.nodup_cons] at distinct
    cases found : activeJobs.get? jobId with
    | none =>
      rw [exec_updateJobGroups_cons_of_none statuses rest found]
      exact (groupsRun_updateJobGroups executor visit rest distinct.2 activeJobs).cons_none found
    | some jobInfo =>
      cases ran : (jobUpdate executor visit jobId statuses).exec jobInfo.executionGraph with
      | mk result graph =>
        cases result with
        | ok jobEvents =>
          rw [exec_updateJobGroups_cons_of_ok rest found ran]
          exact GroupsRun.cons_ok distinct.1 found ran
            (groupsRun_updateJobGroups executor visit rest distinct.2 (setGraph jobId graph activeJobs))
        | error fault =>
          rw [exec_updateJobGroups_cons_of_error rest found ran]
          exact GroupsRun.cons_error statuses rest found ran

theorem mem_groupBy_jobId {taskStatuses : List TaskStatus} {jobId : String} {statuses : List TaskStatus}
    (mem : (jobId, statuses) ∈ Table.groupBy TaskStatus.jobId taskStatuses) :
    jobId ∈ taskStatuses.map TaskStatus.jobId ∧ statuses = taskStatuses.filter fun status => status.jobId = jobId := by
  obtain ⟨group, nonEmpty⟩ := Table.mem_groupBy mem
  have met : jobId ∈ (Table.groupBy TaskStatus.jobId taskStatuses).keys := List.mem_map_of_mem mem
  obtain ⟨status, present, keyed⟩ := Table.mem_keys_groupBy.mp met
  exact ⟨List.mem_map.mpr ⟨status, present, keyed⟩, group⟩

theorem groupBy_jobId_mem {taskStatuses : List TaskStatus} {jobId : String}
    (met : jobId ∈ taskStatuses.map TaskStatus.jobId) :
    (jobId, taskStatuses.filter fun status => status.jobId = jobId) ∈ Table.groupBy TaskStatus.jobId taskStatuses := by
  obtain ⟨status, present, keyed⟩ := List.mem_map.mp met
  have found := Table.get?_groupBy TaskStatus.jobId taskStatuses jobId
  rw [if_pos ⟨status, present, keyed⟩] at found
  exact Table.get?_eq_some_mem found

/-- **`update_task_statuses` updates each job by its own statuses.** Whatever
the outcome, a job's entry is as it was, or, when the job has statuses in the
batch and is active, its graph is what the job's statuses alone make of it.
When the call returns, every active job with statuses was so updated, and the
events are each job's events in turn, jobs in the order the map hands them out;
when it fails, the failure is one active job's update failing on that job's
statuses. -/
theorem updateTaskStatuses_spec (executor : ExecutorMetadata) (visit : String → List Nat)
    (jobUpdatesOrder : Table.Iteration String) (taskStatuses : List TaskStatus)
    (activeJobs : ActiveJobs Plan) :
    (∀ jobId, ((updateTaskStatuses executor visit jobUpdatesOrder taskStatuses).exec activeJobs).2.get? jobId =
        activeJobs.get? jobId ∨
      ∃ jobInfo, jobId ∈ taskStatuses.map TaskStatus.jobId ∧ activeJobs.get? jobId = some jobInfo ∧
        ((updateTaskStatuses executor visit jobUpdatesOrder taskStatuses).exec activeJobs).2.get? jobId =
          some { jobInfo with executionGraph := ((jobUpdate executor visit jobId
            (taskStatuses.filter fun status => status.jobId = jobId)).exec jobInfo.executionGraph).2 }) ∧
    (∀ events, ((updateTaskStatuses executor visit jobUpdatesOrder taskStatuses).exec activeJobs).1 =
        .ok events →
      ∃ eventsOf : String → List QueryStageSchedulerEvent,
        (∀ jobId ∈ taskStatuses.map TaskStatus.jobId, ∀ jobInfo, activeJobs.get? jobId = some jobInfo →
          ((jobUpdate executor visit jobId (taskStatuses.filter fun status => status.jobId = jobId)).exec
            jobInfo.executionGraph).1 = .ok (eventsOf jobId) ∧
          ((updateTaskStatuses executor visit jobUpdatesOrder taskStatuses).exec activeJobs).2.get? jobId =
            some { jobInfo with executionGraph := ((jobUpdate executor visit jobId
              (taskStatuses.filter fun status => status.jobId = jobId)).exec jobInfo.executionGraph).2 }) ∧
        events = ((jobUpdatesOrder.permute (Table.groupBy TaskStatus.jobId taskStatuses).keys).filter fun jobId =>
          jobId ∈ activeJobs.keys).flatMap eventsOf) ∧
    (∀ fault, ((updateTaskStatuses executor visit jobUpdatesOrder taskStatuses).exec activeJobs).1 =
        .error fault →
      ∃ jobId ∈ taskStatuses.map TaskStatus.jobId, ∃ jobInfo, activeJobs.get? jobId = some jobInfo ∧
        ((jobUpdate executor visit jobId (taskStatuses.filter fun status => status.jobId = jobId)).exec
          jobInfo.executionGraph).1 = .error fault) := by
  have distinct := Table.keys_groupBy_nodup TaskStatus.jobId taskStatuses
  -- the map hands out every group of the batch once
  have arranged := Table.mem_arrange jobUpdatesOrder distinct
  have run := groupsRun_updateJobGroups executor visit _
    (by rw [Table.keys_arrange]; exact (jobUpdatesOrder.permute_perm _).nodup_iff.mpr distinct) activeJobs
  refine ⟨fun jobId => ?_, fun events returned => ?_, fun fault failed => ?_⟩
  · rcases run.entries jobId with kept | ⟨statuses, jobInfo, mem, present, updated⟩
    · exact .inl kept
    · obtain ⟨met, rfl⟩ := mem_groupBy_jobId ((arranged _).mp mem)
      exact .inr ⟨jobInfo, met, present, updated⟩
  · obtain ⟨eventsOf, updated, order⟩ := run.returned events returned
    rw [Table.keys_arrange] at order
    exact ⟨eventsOf, fun jobId met jobInfo present =>
      updated jobId _ jobInfo ((arranged _).mpr (groupBy_jobId_mem met)) present, order⟩
  · obtain ⟨jobId, statuses, jobInfo, mem, present, broke⟩ := run.failed fault failed
    obtain ⟨met, rfl⟩ := mem_groupBy_jobId ((arranged _).mp mem)
    exact ⟨jobId, met, jobInfo, present, broke⟩

/-- The loop over the groups keeps the active jobs formed: each job's graph is
written back as its update left it. -/
theorem FormedJobs.updateJobGroups :
    ∀ (groups : Table String (List TaskStatus)) {activeJobs : ActiveJobs Plan}, FormedJobs activeJobs →
      FormedJobs ((updateJobGroups executor visit groups).exec activeJobs).2
  | [], _, jobs => jobs
  | (jobId, statuses) :: rest, activeJobs, jobs => by
    cases found : activeJobs.get? jobId with
    | none =>
      rw [exec_updateJobGroups_cons_of_none statuses rest found]
      exact FormedJobs.updateJobGroups rest jobs
    | some jobInfo =>
      have formed := (jobs.formed_of_get? found).of_moves (movesStages_jobUpdate executor visit jobId statuses)
      cases ran : (jobUpdate executor visit jobId statuses).exec jobInfo.executionGraph with
      | mk result graph =>
        have graphFormed : graph.Formed := by
          rw [ran] at formed
          exact formed
        cases result with
        | ok jobEvents =>
          rw [exec_updateJobGroups_cons_of_ok rest found ran]
          exact FormedJobs.updateJobGroups rest (jobs.setGraph jobId graphFormed)
        | error fault =>
          rw [exec_updateJobGroups_cons_of_error rest found ran]
          exact jobs.setGraph jobId graphFormed

end Methods

/-! ## `update_job` -/

section UpdateJob

variable (saveJob : String → ExecutionGraph Plan → Except BallistaError Unit)

/-- `update_job` leaves the graph revived, whatever the outcome. -/
theorem exec_reviveAndSave_snd (jobId : String) (graph : ExecutionGraph Plan) :
    ((reviveAndSave saveJob jobId).exec graph).2 = graph.revive.2 := by
  simp only [reviveAndSave, exec_bind, exec_get, reviveM, exec_modifyGet]
  cases saveJob jobId graph.revive.2 with
  | error e => rfl
  | ok _ =>
    simp only [liftError, exec_pure]
    split <;> rfl

/-- On a keyed graph the subtraction of `update_job` never underflows: it gives
the partitions of the stages the revive started. -/
theorem exec_reviveAndSave_of_wellKeyed {graph : ExecutionGraph Plan} (keyed : graph.WellKeyed) (jobId : String) :
    (reviveAndSave saveJob jobId).exec graph =
      (Except.map (fun _ => (graph.resolvedStages.map ResolvedStage.partitions).sum)
        ((saveJob jobId graph.revive.2).mapError Fault.error), graph.revive.2) := by
  simp only [reviveAndSave, exec_bind, exec_get, reviveM, exec_modifyGet]
  cases saveJob jobId graph.revive.2 with
  | error e => rfl
  | ok _ =>
    simp only [liftError, exec_pure, ConsistentHash.checkedSub, keyed.availableTasks_revive,
      if_pos (Nat.le_add_right _ _), Nat.add_sub_cancel_left]
    rfl

/-- **`update_job` on a keyed graph.** The job's graph is left revived, and the
call returns the number of partitions of the stages that were resolved, or the
job state's error; it never panics. -/
theorem updateJob_eq {activeJobs : ActiveJobs Plan} {jobId : String} {jobInfo : Cluster.JobInfoCache Plan}
    (found : activeJobs.get? jobId = some jobInfo) (keyed : jobInfo.executionGraph.WellKeyed) :
    (updateJob saveJob jobId).exec activeJobs =
      (Except.map (fun _ => (jobInfo.executionGraph.resolvedStages.map ResolvedStage.partitions).sum)
          ((saveJob jobId jobInfo.executionGraph.revive.2).mapError Fault.error),
        setGraph jobId jobInfo.executionGraph.revive.2 activeJobs) := by
  simp only [updateJob, exec_bind, exec_get, found, exec_onGraph, exec_reviveAndSave_of_wellKeyed saveJob keyed]

theorem updateJob_of_none {activeJobs : ActiveJobs Plan} {jobId : String} (found : activeJobs.get? jobId = none) :
    (updateJob saveJob jobId).exec activeJobs = (.ok 0, activeJobs) := by
  simp only [updateJob, exec_bind, exec_get, found, exec_pure]

theorem FormedJobs.updateJob {activeJobs : ActiveJobs Plan} (jobs : FormedJobs activeJobs) (jobId : String) :
    FormedJobs ((updateJob saveJob jobId).exec activeJobs).2 := by
  cases found : activeJobs.get? jobId with
  | none => rw [updateJob_of_none saveJob found]; exact jobs
  | some jobInfo =>
    simp only [TaskManager.updateJob, exec_bind, exec_get, found, exec_onGraph, exec_reviveAndSave_snd]
    exact jobs.setGraph jobId (jobs.formed_of_get? found).revive

end UpdateJob

/-! ## `executor_lost` -/

section ExecutorLost

variable [StagePlan Plan]

theorem exec_resetJobs_cons_of_ok (executorId : String) {jobId : String} {jobInfo : Cluster.JobInfoCache Plan}
    (rest activeJobs : ActiveJobs Plan) {reset : List Nat × List RunningTaskInfo} {graph : ExecutionGraph Plan}
    (ran : (resetStagesOnLostExecutor executorId).exec jobInfo.executionGraph = (.ok reset, graph)) :
    (resetJobs executorId ((jobId, jobInfo) :: rest)).exec activeJobs =
      (((resetJobs executorId rest).exec (setGraph jobId graph activeJobs)).1.map
          ((if reset.1.isEmpty then [] else reset.2) ++ ·),
        ((resetJobs executorId rest).exec (setGraph jobId graph activeJobs)).2) := by
  simp only [resetJobs, exec_bind, exec_onGraph, ran]
  generalize (resetJobs executorId rest).exec (setGraph jobId graph activeJobs) = run
  obtain ⟨_ | _, _⟩ := run <;> rfl

theorem exec_resetJobs_cons_of_error (executorId : String) {jobId : String} {jobInfo : Cluster.JobInfoCache Plan}
    (rest activeJobs : ActiveJobs Plan) {fault : Fault} {graph : ExecutionGraph Plan}
    (ran : (resetStagesOnLostExecutor executorId).exec jobInfo.executionGraph = (.error fault, graph)) :
    (resetJobs executorId ((jobId, jobInfo) :: rest)).exec activeJobs = (.error fault, setGraph jobId graph activeJobs) := by
  simp only [resetJobs, exec_bind, exec_onGraph, ran]

/-- **The loop of `executor_lost`.** Over keyed graphs it ends, returning or
handing an error back; when it returns, every entry whose job was still to be
reset has been, and is cleared. -/
theorem resetJobs_spec (executorId : String) :
    ∀ (entries activeJobs : ActiveJobs Plan), (∀ entry ∈ entries, entry.2.executionGraph.WellKeyed) →
      (∀ entry ∈ activeJobs, entry.1 ∈ entries.keys ∨ Cleared executorId entry.2.executionGraph) →
        returned ((resetJobs executorId entries).exec activeJobs).1 = true ∧
        ∀ tasks, ((resetJobs executorId entries).exec activeJobs).1 = .ok tasks →
          ∀ entry ∈ ((resetJobs executorId entries).exec activeJobs).2, Cleared executorId entry.2.executionGraph
  | [], activeJobs, _, pending =>
    ⟨rfl, fun _ _ entry mem => (pending entry mem).resolve_left List.not_mem_nil⟩
  | (jobId, jobInfo) :: rest, activeJobs, keyed, pending => by
    have headKeyed := keyed _ List.mem_cons_self
    cases ran : (resetStagesOnLostExecutor executorId).exec jobInfo.executionGraph with
    | mk result graph =>
      obtain ⟨ended, cleared⟩ := resetStagesOnLostExecutor_returns headKeyed ran
      cases result with
      | error fault =>
        rw [exec_resetJobs_cons_of_error executorId rest activeJobs ran]
        exact ⟨(returned_error fault).trans ended, fun _ stopped => nomatch stopped⟩
      | ok reset =>
        rw [exec_resetJobs_cons_of_ok executorId rest activeJobs ran, returned_map]
        -- the job's entries now hold its cleared graph; the others are still to come or cleared
        have pendingLater : ∀ entry ∈ setGraph jobId graph activeJobs,
            entry.1 ∈ Table.keys rest ∨ Cleared executorId entry.2.executionGraph := by
          intro entry mem
          rcases mem_setGraph mem with ⟨-, written⟩ | ⟨old, apart⟩
          · exact .inr (written ▸ cleared reset rfl)
          · rcases pending entry old with listed | done
            · exact .inl ((List.mem_cons.mp listed).resolve_left apart)
            · exact .inr done
        obtain ⟨restEnded, restCleared⟩ := resetJobs_spec executorId rest _
          (fun entry mem => keyed entry (List.mem_cons_of_mem _ mem)) pendingLater
        refine ⟨restEnded, fun tasks returned => ?_⟩
        cases restResult : ((resetJobs executorId rest).exec (setGraph jobId graph activeJobs)).1 with
        | ok restTasks => exact restCleared restTasks restResult
        | error _ => rw [restResult] at returned; cases returned

/-- **`executor_lost` over keyed graphs.** It ends, returning or handing an
error back, and never panics; when it returns, no active job's graph keeps a
stage that is not successful holding the lost executor: no location on it in
the stage's inputs and, running, no task slot held by a task there. -/
theorem executorLost_spec (executorId : String) (activeJobsOrder : Table.Iteration String)
    {activeJobs : ActiveJobs Plan} (keyed : ∀ entry ∈ activeJobs, entry.2.executionGraph.WellKeyed) :
    returned ((executorLost executorId activeJobsOrder).exec activeJobs).1 = true ∧
      ∀ tasks, ((executorLost executorId activeJobsOrder).exec activeJobs).1 = .ok tasks →
        ∀ entry ∈ ((executorLost executorId activeJobsOrder).exec activeJobs).2,
          Cleared executorId entry.2.executionGraph := by
  rw [executorLost, exec_bind, exec_get]
  -- the map hands out every job, so each is still to be reset
  refine resetJobs_spec executorId _ activeJobs (fun entry mem => keyed entry (Table.mem_of_mem_arrange mem))
    fun entry mem => .inl ?_
  rw [Table.keys_arrange]
  exact (activeJobsOrder.permute_perm _).symm.subset (List.mem_map_of_mem mem)

/-- The loop of `executor_lost` keeps the active jobs formed, each graph reset
from a formed one. -/
theorem FormedJobs.resetJobs (executorId : String) :
    ∀ (entries : ActiveJobs Plan) {activeJobs : ActiveJobs Plan}, (∀ entry ∈ entries, entry.2.executionGraph.Formed) →
      FormedJobs activeJobs → FormedJobs ((TaskManager.resetJobs executorId entries).exec activeJobs).2
  | [], _, _, jobs => jobs
  | (jobId, jobInfo) :: rest, activeJobs, formed, jobs => by
    have graphFormed := (formed _ List.mem_cons_self).of_moves (movesStages_resetStagesOnLostExecutor executorId)
    cases ran : (resetStagesOnLostExecutor executorId).exec jobInfo.executionGraph with
    | mk result graph =>
      rw [ran] at graphFormed
      cases result with
      | ok reset =>
        rw [exec_resetJobs_cons_of_ok executorId rest activeJobs ran]
        exact FormedJobs.resetJobs executorId rest (fun entry mem => formed entry (List.mem_cons_of_mem _ mem))
          (jobs.setGraph jobId graphFormed)
      | error fault =>
        rw [exec_resetJobs_cons_of_error executorId rest activeJobs ran]
        exact jobs.setGraph jobId graphFormed

theorem FormedJobs.executorLost {activeJobs : ActiveJobs Plan} (jobs : FormedJobs activeJobs) (executorId : String)
    (activeJobsOrder : Table.Iteration String) :
    FormedJobs ((TaskManager.executorLost executorId activeJobsOrder).exec activeJobs).2 := by
  rw [TaskManager.executorLost, exec_bind, exec_get]
  exact FormedJobs.resetJobs executorId _ (fun entry mem => jobs.formed entry (Table.mem_of_mem_arrange mem)) jobs

end ExecutorLost

/-! ## Jobs entering and leaving -/

section Lifecycle

variable (submitJobState saveJob : String → ExecutionGraph Plan → Except BallistaError Unit)

/-- A job submitted enters with its graph built and revived, so formed. -/
theorem FormedJobs.submitJob [StagePlan Plan] {activeJobs : ActiveJobs Plan} (jobs : FormedJobs activeJobs)
    (schedulerId jobId jobName sessionId : String) (outputPartitions : Nat) (shuffleStages : List Plan) :
    FormedJobs ((TaskManager.submitJob submitJobState schedulerId jobId jobName sessionId outputPartitions
      shuffleStages).exec activeJobs).2 := by
  simp only [TaskManager.submitJob, exec_bind]
  cases submitJobState jobId (ExecutionGraph.new schedulerId jobId jobName sessionId outputPartitions shuffleStages) with
  | error e => exact jobs
  | ok _ =>
    exact jobs.insert jobId (ExecutionGraph.formed_new schedulerId jobId jobName sessionId outputPartitions
      shuffleStages).revive

/-- `succeed_job` drops the job, whether it saves it or not. -/
theorem exec_succeedJob_snd (jobId : String) (activeJobs : ActiveJobs Plan) :
    ((succeedJob saveJob jobId).exec activeJobs).2 = activeJobs.erase jobId := by
  cases found : activeJobs.get? jobId with
  | none =>
    simp only [succeedJob, exec_bind, exec_get, found, exec_pure]
    exact (Table.erase_of_not_mem_keys (Table.get?_eq_none_iff.mp found)).symm
  | some jobInfo =>
    simp only [succeedJob, exec_bind, exec_get, found, exec_modify]
    split
    · cases saveJob jobId jobInfo.executionGraph <;> rfl
    · rfl

/-- `abort_job` drops the job, whether it saves it or not. -/
theorem exec_abortJob_snd (jobId failureReason : String) (activeJobs : ActiveJobs Plan) :
    ((abortJob saveJob jobId failureReason).exec activeJobs).2 = activeJobs.erase jobId := by
  cases found : activeJobs.get? jobId with
  | none =>
    simp only [abortJob, exec_bind, exec_get, found, exec_pure]
    exact (Table.erase_of_not_mem_keys (Table.get?_eq_none_iff.mp found)).symm
  | some jobInfo =>
    simp only [abortJob, exec_bind, exec_get, found, exec_modify]
    cases saveJob jobId (jobInfo.executionGraph.failJob failureReason) <;> rfl

end Lifecycle

end TaskManager

end Ballista
