import Ballista.Scheduler.Run

/-! # Launching tasks through the task manager

The task manager (`task_manager.rs`) keeps for each active job a
`JobInfoCache`, which holds the bytes of the stage plans it encoded, keyed by
stage id, so that the tasks of a stage share one encoding.
`prepare_task_definition` and `prepare_multi_task_definition` take a stage's
bytes from there, or encode the plan of the task at hand and cache the result.
No method removes or replaces an entry while the job is active.

So every definition launched for a stage carries the bytes cached for it
(`ManagedJob.shippedCached_of_reaches`), and all tasks of a stage are launched
with one and the same plan bytes, whichever attempt of the stage they belong to
(`launched_samePlan`). A stage rolled back and resolved again with other
shuffle locations has a new plan; its new tasks are launched with the old one
(`staleStagePlan_launched_run`).

The encoding, protobuf's encoding of the physical plan through the codec, is a
parameter. `launch_time` is the clock at the call and is left out.
-/

namespace Ballista

open ExceptT

/-- `TaskId` of a `MultiTaskDefinition`. -/
structure TaskId where
  taskId : Nat
  taskAttemptNum : Nat
  partitionId : Nat
  deriving DecidableEq, Repr

variable (Encoded : Type)

/-- `MultiTaskDefinition`, without its launch time. -/
structure MultiTaskDefinition where
  taskIds : List TaskId
  jobId : String
  stageId : Nat
  stageAttemptNum : Nat
  plan : Encoded
  sessionId : String
  props : List (String × String)
  deriving DecidableEq

/-- `TaskDefinition`, without its launch time. -/
structure TaskDefinition where
  taskId : Nat
  taskAttemptNum : Nat
  jobId : String
  stageId : Nat
  stageAttemptNum : Nat
  partitionId : Nat
  plan : Encoded
  sessionId : String
  props : List (String × String)
  deriving DecidableEq

/-- `JobInfoCache`, with its cache of encoded stage plans: the job's graph is
the one its run carries, and the cached job status is read by nothing here. -/
structure JobInfoCache where
  encodedStagePlans : Table Nat Encoded
  deriving DecidableEq

/-- `active_job_cache`: the jobs this scheduler curates, by job id. -/
abbrev ActiveJobCache := Table String (JobInfoCache Encoded)

/-- A method of the task manager on its active jobs. -/
abbrev TaskManagerM (α : Type) := ExceptT BallistaError (StateM (ActiveJobCache Encoded)) α

variable {Encoded} {Plan : Type} (encode : Plan → Except BallistaError Encoded)

/-- `BALLISTA_DATA_CACHE_ENABLED`. -/
def ballistaDataCacheEnabled : String := "ballista.data_cache.enabled"

/-- The bytes cached for a stage of an active job. -/
def cachedStagePlan (cache : ActiveJobCache Encoded) (jobId : String) (stageId : Nat) :
    Option Encoded :=
  (cache.get? jobId).bind fun jobInfo => jobInfo.encodedStagePlans.get? stageId

/-- The plan bytes of a stage for a task: those cached for the stage id, or the
task's plan encoded and cached under the stage id. -/
def encodedStagePlan (jobId : String) (jobInfo : JobInfoCache Encoded) (stageId : Nat)
    (plan : Plan) : TaskManagerM Encoded Encoded :=
  match jobInfo.encodedStagePlans.get? stageId with
  | some bytes => pure bytes
  | none =>
    match encode plan with
    | .error e => throw e
    | .ok bytes => do
      modify (·.modify jobId fun jobInfo =>
        { jobInfo with encodedStagePlans := jobInfo.encodedStagePlans.insert stageId bytes })
      pure bytes

/-- `TaskId` of a task. -/
def TaskDescription.toTaskId (task : TaskDescription Plan) : TaskId :=
  { taskId := task.taskId, taskAttemptNum := task.taskAttempt,
    partitionId := task.partition.partitionId }

/-- One `MultiTaskDefinition` for a group of tasks of the stage of `task`. -/
def MultiTaskDefinition.ofGroup (task : TaskDescription Plan) (plan : Encoded)
    (group : List (TaskDescription Plan)) (props : List (String × String)) :
    MultiTaskDefinition Encoded :=
  { taskIds := group.map TaskDescription.toTaskId, jobId := task.partition.jobId,
    stageId := task.partition.stageId, stageAttemptNum := task.stageAttemptNum, plan := plan,
    sessionId := task.sessionId, props := props }

/-- **`prepare_multi_task_definition`.** The definitions of tasks of one stage,
the first of which names the job and the stage: the tasks that cache data and
the others, each group under the stage's plan bytes. -/
def prepareMultiTaskDefinition (tasks : List (TaskDescription Plan)) :
    TaskManagerM Encoded (List (MultiTaskDefinition Encoded)) := do
  match tasks with
  | [] => throw (.general "Cannot prepare multi task definition for an empty vec")
  | task :: _ =>
    let jobId := task.partition.jobId
    match (← get).get? jobId with
    | none =>
      throw (.general ("Cannot prepare multi task definition for job " ++ jobId ++
        " which is not in active cache"))
    | some jobInfo =>
      let plan ← encodedStagePlan encode jobId jobInfo task.partition.stageId task.plan
      let (withDataCache, withoutDataCache) := tasks.partition (·.dataCache)
      return (if withDataCache.isEmpty then []
          else [.ofGroup task plan withDataCache [(ballistaDataCacheEnabled, "true")]]) ++
        (if withoutDataCache.isEmpty then [] else [.ofGroup task plan withoutDataCache []])

/-- **`prepare_task_definition`.** The definition of one task, under its
stage's plan bytes. -/
def prepareTaskDefinition (task : TaskDescription Plan) :
    TaskManagerM Encoded (TaskDefinition Encoded) := do
  let jobId := task.partition.jobId
  match (← get).get? jobId with
  | none =>
    throw (.general ("Cannot prepare task definition for job " ++ jobId ++
      " which is not in active cache"))
  | some jobInfo =>
    let plan ← encodedStagePlan encode jobId jobInfo task.partition.stageId task.plan
    return {
      taskId := task.taskId, taskAttemptNum := task.taskAttempt, jobId := jobId,
      stageId := task.partition.stageId, stageAttemptNum := task.stageAttemptNum,
      partitionId := task.partition.partitionId, plan := plan, sessionId := task.sessionId,
      props := if task.dataCache then [(ballistaDataCacheEnabled, "true")] else [] }

/-- `launch_multi_task`: prepare the definitions of each stage's tasks for one
executor; a group that cannot be prepared is logged and left out. -/
def launchMultiTask : List (List (TaskDescription Plan)) →
    TaskManagerM Encoded (List (MultiTaskDefinition Encoded))
  | [] => return []
  | stageTasks :: rest => do
    let definitions ← tryCatch (prepareMultiTaskDefinition encode stageTasks) fun _ => pure []
    let others ← launchMultiTask rest
    return definitions ++ others

section Cache

/-- Every stage plan cached stays cached, with the same bytes. -/
def CacheKept (cache next : ActiveJobCache Encoded) : Prop :=
  ∀ jobId stageId bytes, cachedStagePlan cache jobId stageId = some bytes →
    cachedStagePlan next jobId stageId = some bytes

instance : IsPreorder (ActiveJobCache Encoded) CacheKept where
  refl _ _ _ _ cached := cached
  trans _ _ _ first second jobId stageId bytes cached :=
    second jobId stageId bytes (first jobId stageId bytes cached)

variable {cache : ActiveJobCache Encoded} {jobId : String} {jobInfo : JobInfoCache Encoded}

/-- Writing bytes for a stage of an active job caches them there and nowhere else. -/
theorem cachedStagePlan_modify_insert (found : cache.get? jobId = some jobInfo) (stageId : Nat)
    (bytes : Encoded) (other : String) (otherStage : Nat) :
    cachedStagePlan (cache.modify jobId fun jobInfo =>
        { jobInfo with encodedStagePlans := jobInfo.encodedStagePlans.insert stageId bytes })
        other otherStage =
      if other = jobId ∧ otherStage = stageId then some bytes
      else cachedStagePlan cache other otherStage := by
  by_cases sameJob : other = jobId
  · subst sameJob
    by_cases sameStage : otherStage = stageId
    · simp [cachedStagePlan, found, sameStage]
    · simp [cachedStagePlan, found, sameStage, Table.get?_insert]
  · simp [cachedStagePlan, Table.get?_modify_of_ne _ _ sameJob, sameJob]

/-- Looking up a stage's bytes keeps every entry: it writes only a stage that
had none. -/
theorem cacheKept_encodedStagePlan (found : cache.get? jobId = some jobInfo) (stageId : Nat)
    (plan : Plan) :
    CacheKept cache ((encodedStagePlan encode jobId jobInfo stageId plan).exec cache).2 := by
  unfold encodedStagePlan
  split
  · exact fun _ _ _ cached => cached
  · rename_i absent
    split
    · exact fun _ _ _ cached => cached
    · intro other otherStage bytes cached
      simp only [exec_bind, exec_modify, exec_pure]
      rw [cachedStagePlan_modify_insert found]
      split
      · -- the stage written had no entry
        rename_i same
        obtain ⟨rfl, rfl⟩ := same
        simp [cachedStagePlan, found, absent] at cached
      · exact cached

/-- The bytes a lookup returns are those cached for the stage afterwards. -/
theorem encodedStagePlan_cached (found : cache.get? jobId = some jobInfo) {stageId : Nat}
    {plan : Plan} {bytes : Encoded} {next : ActiveJobCache Encoded}
    (ran : (encodedStagePlan encode jobId jobInfo stageId plan).exec cache = (.ok bytes, next)) :
    cachedStagePlan next jobId stageId = some bytes := by
  unfold encodedStagePlan at ran
  split at ran
  · rename_i hit
    simp only [exec_pure, Prod.mk.injEq, Except.ok.injEq] at ran
    obtain ⟨rfl, rfl⟩ := ran
    simp [cachedStagePlan, found, hit]
  · split at ran
    · simp at ran
    · simp only [exec_bind, exec_modify, exec_pure, Prod.mk.injEq, Except.ok.injEq] at ran
      obtain ⟨rfl, rfl⟩ := ran
      simp [cachedStagePlan_modify_insert found]

theorem cacheKept_prepareMultiTaskDefinition (tasks : List (TaskDescription Plan)) :
    Steps CacheKept (prepareMultiTaskDefinition encode tasks) := by
  cases tasks with
  | nil => exact Steps.throw _
  | cons task rest =>
    refine Steps.bind_get fun cache => ?_
    split
    · exact Std.Refl.refl cache
    · rename_i jobInfo found
      have kept := cacheKept_encodedStagePlan encode found task.partition.stageId task.plan
      rw [exec_bind]
      generalize (encodedStagePlan encode task.partition.jobId jobInfo task.partition.stageId
        task.plan).exec cache = run at kept ⊢
      obtain ⟨result, next⟩ := run
      cases result <;> exact kept

/-- Each definition prepared for a list of tasks is one of a group of them,
under the first task's job, stage and attempt. -/
theorem exists_ofGroup_of_mem {task : TaskDescription Plan} {plan : Encoded}
    {first second : List (TaskDescription Plan)} {definition : MultiTaskDefinition Encoded}
    (member : definition ∈
      (if first.isEmpty then []
        else [MultiTaskDefinition.ofGroup task plan first [(ballistaDataCacheEnabled, "true")]]) ++
      (if second.isEmpty then [] else [MultiTaskDefinition.ofGroup task plan second []])) :
    ∃ group props, definition = MultiTaskDefinition.ofGroup task plan group props := by
  rcases List.mem_append.mp member with member | member <;> split at member
  · cases member
  · exact ⟨first, _, List.mem_singleton.mp member⟩
  · cases member
  · exact ⟨second, [], List.mem_singleton.mp member⟩

/-- Every definition prepared carries the bytes cached for its stage. -/
theorem prepareMultiTaskDefinition_cached {tasks : List (TaskDescription Plan)}
    {definitions : List (MultiTaskDefinition Encoded)} {next : ActiveJobCache Encoded}
    (ran : (prepareMultiTaskDefinition encode tasks).exec cache = (.ok definitions, next)) :
    ∀ definition ∈ definitions,
      cachedStagePlan next definition.jobId definition.stageId = some definition.plan := by
  cases tasks with
  | nil => cases ran
  | cons task rest =>
    simp only [prepareMultiTaskDefinition, exec_bind, exec_get] at ran
    split at ran
    · cases ran
    · rename_i jobInfo found
      rw [exec_bind] at ran
      generalize looked : (encodedStagePlan encode task.partition.jobId jobInfo
        task.partition.stageId task.plan).exec cache = run at ran
      obtain ⟨result, middle⟩ := run
      cases result with
      | error => cases ran
      | ok plan =>
        simp only [exec_pure, Prod.mk.injEq, Except.ok.injEq] at ran
        obtain ⟨rfl, rfl⟩ := ran
        -- both groups are defined for the first task's job and stage, under `plan`
        intro definition member
        obtain ⟨group, props, rfl⟩ := exists_ofGroup_of_mem member
        exact encodedStagePlan_cached encode found looked

theorem cacheKept_launchMultiTask :
    ∀ tasks : List (List (TaskDescription Plan)), Steps CacheKept (launchMultiTask encode tasks)
  | [] => Steps.pure _
  | stageTasks :: rest =>
    Steps.bind (Steps.tryCatch (cacheKept_prepareMultiTaskDefinition encode stageTasks)
      fun _ => Steps.pure _) fun _ =>
      Steps.bind (cacheKept_launchMultiTask rest) fun _ => Steps.pure _

/-- Every definition launched carries the bytes cached for its stage when the
launch is over. -/
theorem launchMultiTask_cached :
    ∀ {tasks : List (List (TaskDescription Plan))} {cache next : ActiveJobCache Encoded}
      {definitions : List (MultiTaskDefinition Encoded)},
      (launchMultiTask encode tasks).exec cache = (.ok definitions, next) →
      ∀ definition ∈ definitions,
        cachedStagePlan next definition.jobId definition.stageId = some definition.plan
  | [], cache, next, definitions, ran => by
    simp only [launchMultiTask, exec_pure, Prod.mk.injEq, Except.ok.injEq] at ran
    obtain ⟨rfl, rfl⟩ := ran
    simp
  | stageTasks :: rest, cache, next, definitions, ran => by
    simp only [launchMultiTask, exec_bind] at ran
    -- the definitions of the first group, read from the cache after it
    have firstCached : ∀ {firstDefinitions middle},
        (tryCatch (prepareMultiTaskDefinition encode stageTasks) fun _ => pure []).exec cache =
          (.ok firstDefinitions, middle) →
        ∀ definition ∈ firstDefinitions,
          cachedStagePlan middle definition.jobId definition.stageId = some definition.plan := by
      intro firstDefinitions middle caught
      rw [exec_tryCatch] at caught
      generalize prepared : (prepareMultiTaskDefinition encode stageTasks).exec cache = first at caught
      obtain ⟨result, state⟩ := first
      cases result with
      | ok =>
        simp only [Prod.mk.injEq, Except.ok.injEq] at caught
        obtain ⟨rfl, rfl⟩ := caught
        exact prepareMultiTaskDefinition_cached encode prepared
      | error =>
        -- a group that failed is left out
        simp only [exec_pure, Prod.mk.injEq, Except.ok.injEq] at caught
        obtain ⟨rfl, rfl⟩ := caught
        simp
    generalize caught : (tryCatch (prepareMultiTaskDefinition encode stageTasks)
      fun _ => pure []).exec cache = firstRun at ran
    obtain ⟨result, middle⟩ := firstRun
    cases result with
    | error => cases ran
    | ok firstDefinitions =>
      simp only at ran
      have kept := cacheKept_launchMultiTask encode rest middle
      generalize launched : (launchMultiTask encode rest).exec middle = later at ran kept
      obtain ⟨result, last⟩ := later
      cases result with
      | error => cases ran
      | ok others =>
        simp only [exec_pure, Prod.mk.injEq, Except.ok.injEq] at ran
        obtain ⟨rfl, rfl⟩ := ran
        intro definition member
        rcases List.mem_append.mp member with early | late
        · exact kept _ _ _ (firstCached caught definition early)
        · exact launchMultiTask_cached launched definition late

end Cache

/-- An active job under the task manager: its run, the task manager's active
jobs, and the definitions launched so far. -/
structure ManagedJob (Plan Encoded : Type) where
  run : JobRun Plan
  activeJobCache : ActiveJobCache Encoded
  launched : List (MultiTaskDefinition Encoded)

/-- `submit_job`: the graph is revived and enters the active jobs with no plan
encoded yet. -/
def ManagedJob.submit [StagePlan Plan] (run : JobRun Plan) : ManagedJob Plan Encoded :=
  { run := { run with graph := run.graph.revive.2 },
    activeJobCache := [(run.graph.jobId, { encodedStagePlans := [] })], launched := [] }

/-- **One step of a job under the task manager**: a step of its graph, or the
launch of tasks it handed out, as `launch_multi_task` receives them for one
executor, grouped by stage. -/
inductive ManagedStep [StagePlan Plan] (limits : RetryLimits) :
    ManagedJob Plan Encoded → ManagedJob Plan Encoded → Prop
  | graph (job : ManagedJob Plan Encoded) (next : JobRun Plan) (step : JobStep limits job.run next) :
      ManagedStep limits job { job with run := next }
  | launch (job : ManagedJob Plan Encoded) (tasks : List (List (TaskDescription Plan)))
      (handedOut : ∀ group ∈ tasks, ∀ task ∈ group, task ∈ job.run.issued)
      (definitions : List (MultiTaskDefinition Encoded)) (cache : ActiveJobCache Encoded)
      (ran : (launchMultiTask encode tasks).exec job.activeJobCache = (.ok definitions, cache)) :
      ManagedStep limits job
        { job with activeJobCache := cache, launched := job.launched ++ definitions }

/-- The jobs a job under the task manager reaches. -/
abbrev ManagedReaches [StagePlan Plan] (limits : RetryLimits) :
    ManagedJob Plan Encoded → ManagedJob Plan Encoded → Prop :=
  Relation.ReflTransGen (ManagedStep encode limits)

namespace ManagedJob

/-- Every definition launched carries the bytes cached for its stage. -/
def ShippedCached (job : ManagedJob Plan Encoded) : Prop :=
  ∀ definition ∈ job.launched,
    cachedStagePlan job.activeJobCache definition.jobId definition.stageId = some definition.plan

variable [StagePlan Plan] {limits : RetryLimits}

theorem shippedCached_submit (run : JobRun Plan) : (submit run : ManagedJob Plan Encoded).ShippedCached :=
  fun _ member => by cases member

theorem ManagedStep.shippedCached {job next : ManagedJob Plan Encoded}
    (step : ManagedStep encode limits job next) (holds : job.ShippedCached) : next.ShippedCached := by
  cases step with
  | graph => exact holds
  | launch tasks _ definitions cache ran =>
    -- the cache keeps what the earlier definitions carry, and holds what the new ones carry
    have kept := cacheKept_launchMultiTask encode tasks job.activeJobCache
    rw [ran] at kept
    intro definition member
    rcases List.mem_append.mp member with earlier | new
    · exact kept _ _ _ (holds definition earlier)
    · exact launchMultiTask_cached encode ran definition new

/-- **Every launched definition carries its stage's cached bytes**, in every
run of a job under the task manager. -/
theorem shippedCached_of_reaches {run : JobRun Plan} {job : ManagedJob Plan Encoded}
    (reach : ManagedReaches encode limits (submit run) job) : job.ShippedCached := by
  induction reach with
  | refl => exact shippedCached_submit run
  | tail _ step holds => exact ManagedStep.shippedCached encode step holds

end ManagedJob

/-- All definitions launched for one stage of a job carry the same plan bytes,
whatever attempt of the stage they are for. -/
theorem launched_samePlan [StagePlan Plan] {limits : RetryLimits} {run : JobRun Plan}
    {job : ManagedJob Plan Encoded} (reach : ManagedReaches encode limits (.submit run) job)
    {first second : MultiTaskDefinition Encoded} (firstLaunched : first ∈ job.launched)
    (secondLaunched : second ∈ job.launched) (sameJob : first.jobId = second.jobId)
    (sameStage : first.stageId = second.stageId) : first.plan = second.plan := by
  have shipped := ManagedJob.shippedCached_of_reaches encode reach
  have cachedFirst := shipped first firstLaunched
  rw [sameJob, sameStage, shipped second secondLaunched] at cachedFirst
  exact (Option.some.inj cachedFirst).symm

/-- The operations of `ManagedStep`: an operation of the graph, or the launch of
the tasks handed out under some task ids, a group of ids for each stage. -/
inductive ManagedOp where
  | graph (op : JobOp)
  | launch (taskIds : List (List Nat))

/-- The tasks handed out under some task ids. -/
def JobRun.issuedTasks (run : JobRun Plan) (taskIds : List Nat) : List (TaskDescription Plan) :=
  taskIds.filterMap fun taskId => run.issued.find? (·.taskId == taskId)

theorem JobRun.mem_issued_of_issuedTasks {run : JobRun Plan} {taskIds : List Nat}
    {task : TaskDescription Plan} (member : task ∈ run.issuedTasks taskIds) : task ∈ run.issued := by
  obtain ⟨_, _, found⟩ := List.mem_filterMap.mp member
  exact List.mem_of_find?_eq_some found

variable [StagePlan Plan]

/-- Perform an operation on a job under the task manager when it is a step. -/
def ManagedJob.perform (limits : RetryLimits) (job : ManagedJob Plan Encoded) :
    ManagedOp → Option (ManagedJob Plan Encoded)
  | .graph op => (job.run.perform limits op).map fun next => { job with run := next }
  | .launch taskIds =>
    match (launchMultiTask encode (taskIds.map job.run.issuedTasks)).exec job.activeJobCache with
    | (.ok definitions, cache) =>
      some { job with activeJobCache := cache, launched := job.launched ++ definitions }
    | (.error _, _) => none

/-- Perform operations in turn while each is a step. -/
def ManagedJob.performAll (limits : RetryLimits) (job : ManagedJob Plan Encoded) :
    List ManagedOp → Option (ManagedJob Plan Encoded)
  | [] => some job
  | op :: ops => (job.perform encode limits op).bind fun next => next.performAll limits ops

theorem ManagedStep.of_perform {limits : RetryLimits} {job next : ManagedJob Plan Encoded}
    {op : ManagedOp} (performed : job.perform encode limits op = some next) :
    ManagedStep encode limits job next := by
  cases op with
  | graph op =>
    obtain ⟨run, stepped, rfl⟩ := Option.map_eq_some_iff.mp performed
    exact .graph job run (JobStep.of_perform stepped)
  | launch taskIds =>
    simp only [ManagedJob.perform] at performed
    split at performed
    · rename_i definitions cache ran
      cases performed
      refine .launch job _ ?_ definitions cache ran
      intro group member task inGroup
      obtain ⟨taskIdGroup, _, rfl⟩ := List.mem_map.mp member
      exact JobRun.mem_issued_of_issuedTasks inGroup
    · cases performed

theorem ManagedReaches.of_performAll {limits : RetryLimits} :
    ∀ {job next : ManagedJob Plan Encoded} {ops : List ManagedOp},
      job.performAll encode limits ops = some next → ManagedReaches encode limits job next
  | job, next, [], performed => by
    cases performed
    exact .refl
  | job, next, op :: ops, performed => by
    obtain ⟨middle, stepped, rest⟩ := Option.bind_eq_some_iff.mp performed
    exact .head (ManagedStep.of_perform encode stepped) (ManagedReaches.of_performAll rest)

/-- A property that holds of the job a list of operations leaves, checked by
evaluating both, holds of a reached job. -/
theorem ManagedReaches.exists_of_performAll_any {limits : RetryLimits}
    {job : ManagedJob Plan Encoded} (ops : List ManagedOp) {P : ManagedJob Plan Encoded → Prop}
    [DecidablePred P]
    (holds : (job.performAll encode limits ops).any (fun next => decide (P next)) = true) :
    ∃ next, ManagedReaches encode limits job next ∧ P next := by
  obtain ⟨next, performed, satisfied⟩ := (Option.any_eq_true _ _).mp holds
  exact ⟨next, ManagedReaches.of_performAll encode performed, of_decide_eq_true satisfied⟩

/-- Shapes shipped as they are: an encoding that tells every two plans apart. -/
def encodeShape (plan : ShapePlan) : Except BallistaError ShapePlan := .ok plan

/-- The rerun of the map task of `twoStageJob`, task 3 of attempt 1, succeeds on
`executor-4`. -/
def mapRerunDone : TaskStatus :=
  asTaskStatus (.ok [⟨0, "/0", 1, 1, 1⟩, ⟨1, "/1", 1, 1, 1⟩]) "executor-4" 3 1 ⟨"job", 1, 0⟩ none

/-- The map task is bound to `executor-1` and launched, and succeeds; the two
reduce tasks are bound to `executor-2` and `executor-3` and launched, which
caches the final stage's plan reading `executor-1`. The first reduce task
cannot fetch from `executor-1`: the final stage is rolled back and the map
stage rerun, on `executor-4`. Its success resolves the final stage again, now
reading `executor-4`, and its first task is bound to `executor-5` and launched. -/
def relaunchOps : List ManagedOp :=
  [.graph (.bindTasks [] ["executor-1"]), .launch [[0]],
   .graph (.updateTaskStatus ⟨"executor-1"⟩ [mapDone] [1]),
   .graph (.bindTasks [] ["executor-2", "executor-3"]), .launch [[1]], .launch [[2]],
   .graph (.updateTaskStatus ⟨"executor-2"⟩ [reduceFetchFailed] [2]),
   .graph (.bindTasks [] ["executor-4"]), .launch [[3]],
   .graph (.updateTaskStatus ⟨"executor-4"⟩ [mapRerunDone] [1]),
   .graph (.bindTasks [] ["executor-5"]), .launch [[4]]]

/-- In the run of `relaunchOps`, the final stage is launched for two attempts,
and a task of the second is launched with a definition that does not carry its
plan. -/
theorem relaunch_reaches :
    ∃ job : ManagedJob ShapePlan ShapePlan,
      ManagedReaches encodeShape RetryLimits.taskManager (.submit twoStageJob) job ∧
      (∃ first ∈ job.launched, ∃ second ∈ job.launched, first.jobId = second.jobId ∧
        first.stageId = second.stageId ∧ first.stageAttemptNum ≠ second.stageAttemptNum) ∧
      ∃ definition ∈ job.launched, ∃ task ∈ job.run.issued,
        task.toTaskId ∈ definition.taskIds ∧ encodeShape task.plan ≠ .ok definition.plan :=
  ManagedReaches.exists_of_performAll_any encodeShape relaunchOps (by decide +kernel)

/-- In the run of `relaunchOps`, a definition of the final stage's first
attempt and one of its second attempt carry the same plan bytes. -/
theorem relaunch_samePlan :
    ∃ job : ManagedJob ShapePlan ShapePlan,
      ManagedReaches encodeShape RetryLimits.taskManager (.submit twoStageJob) job ∧
      ∃ first ∈ job.launched, ∃ second ∈ job.launched, first.jobId = second.jobId ∧
        first.stageId = second.stageId ∧ first.stageAttemptNum ≠ second.stageAttemptNum ∧
        first.plan = second.plan := by
  obtain ⟨job, reach, ⟨first, firstLaunched, second, secondLaunched, sameJob, sameStage, attempts⟩, -⟩ :=
    relaunch_reaches
  exact ⟨job, reach, first, firstLaunched, second, secondLaunched, sameJob, sameStage, attempts,
    launched_samePlan encodeShape reach firstLaunched secondLaunched sameJob sameStage⟩

/-- A task of the final stage's second attempt is launched with the plan bytes
of its first attempt. -/
theorem staleStagePlan_launched_run :
    ∃ job : ManagedJob ShapePlan ShapePlan,
      ManagedReaches encodeShape RetryLimits.taskManager (.submit twoStageJob) job ∧
      ∃ definition ∈ job.launched, ∃ task ∈ job.run.issued,
        task.toTaskId ∈ definition.taskIds ∧ encodeShape task.plan ≠ .ok definition.plan := by
  obtain ⟨job, reach, -, stale⟩ := relaunch_reaches
  exact ⟨job, reach, stale⟩

end Ballista
