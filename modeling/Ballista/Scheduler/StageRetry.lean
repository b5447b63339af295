import Mathlib.Data.List.Infix
import Mathlib.Data.List.Nodup
import Ballista.Scheduler.Run
import Ballista.Scheduler.UpdatePhases
import Ballista.Scheduler.StatusFrame
import Ballista.Scheduler.StageFrame
import Ballista.Scheduler.RerunSchedule

/-! # The stage failure record

`update_task_status` copies the graph's `failed_stage_attempts` into a map of
sets and, for each fetch failure a running stage accepts, inserts the attempt
of the stage the task ran in: several fetch failures of one attempt count
once. At `max_stage_failures` attempts the stage is marked failed, and a call
that marks a stage failed fails the job. Below the limit the fetch failure
drops the blamed executor's locations from the stage's inputs and schedules
the rollback of the stage and the rerun of the map stage, unless a stage was
already marked failed in the call; `succeed_stage` forgets the record of the
stage it completes.

`StatusUpdates.Accounts` relates the sets a read starts from to those it
reaches: a stage's record only grows, as a set, by the attempts its statuses
report fetch failures in, and a stage whose record grew was decided on, by a
failed stage or by its scheduled rollback, and by a failed stage once at the
limit. Every status keeps it, so every group and the whole read do
(`readTaskStatuses_accounts`). With what the read schedules to rerun
(`readTaskStatuses_reschedules`) and what the application makes of the
schedules (`applyStatusUpdates_appliesSchedules`), a call that returns keeps the
limit, and rolls back and reruns what it scheduled when no stage failed
(`fetchFailureLimit_accounted`).

The rollbacks are only made when no stage failed: a fetch failure below the
limit read in the same call as an execution error leaves its stage running
and its map stage successful in a failed job (`fetchFailure_notRolledBack_run`).
-/

namespace Ballista

open ExceptT

variable {Plan : Type}

/-- The attempt of a status that reports a fetch failure. -/
def TaskStatus.fetchFailureAttempt (status : TaskStatus) : Option Nat :=
  match status.status with
  | some (.failed failedTask) =>
    match failedTask.failedReason with
    | some (.fetchPartitionError _) => some status.stageAttemptNum
    | _ => none
  | _ => none

/-- The attempts in which the statuses of a stage report fetch failures. -/
def reportedFetchAttempts (groups : Table Nat (List TaskStatus)) (stageId : Nat) : List Nat :=
  ((groups.get? stageId).getD []).filterMap TaskStatus.fetchFailureAttempt

namespace StatusUpdates

/-- The failed attempts recorded for a stage, none when it has no record. -/
def failedAttempts (updates : StatusUpdates) (stageId : Nat) : List Nat :=
  (updates.failedStageAttempts.get? stageId).getD []

/-- From the decisions a read starts with to those it reaches, given the
attempts each stage's statuses report fetch failures in: the records grow as
sets, by reported attempts only; a failed stage and a scheduled rollback stay;
a stage whose record grew was decided on, and a stage failed once the record
reached the limit. -/
structure Accounts (maxStageFailures : Nat) (reported : Nat → List Nat) (updates next : StatusUpdates) :
    Prop where
  grows : ∀ stageId, updates.failedAttempts stageId ⊆ next.failedAttempts stageId
  nodup : ∀ stageId, (updates.failedAttempts stageId).Nodup → (next.failedAttempts stageId).Nodup
  reported : ∀ stageId, ∀ attempt ∈ next.failedAttempts stageId,
    attempt ∈ updates.failedAttempts stageId ∨ attempt ∈ reported stageId
  failedKept : updates.failedStages ≠ [] → next.failedStages ≠ []
  rollbackKept : ∀ stageId ∈ updates.rollbackRunningStages.keys, stageId ∈ next.rollbackRunningStages.keys
  decided : ∀ stageId, next.failedAttempts stageId ≠ updates.failedAttempts stageId →
    next.failedStages ≠ [] ∨ stageId ∈ next.rollbackRunningStages.keys
  atLimit : ∀ stageId, next.failedAttempts stageId ≠ updates.failedAttempts stageId →
    maxStageFailures ≤ (next.failedAttempts stageId).length → next.failedStages ≠ []

section Accounts

variable {maxStageFailures : Nat} {reported : Nat → List Nat}

theorem Accounts.refl (updates : StatusUpdates) : Accounts maxStageFailures reported updates updates where
  grows _ := List.Subset.refl _
  nodup _ := id
  reported _ _ mem := .inl mem
  failedKept := id
  rollbackKept _ := id
  decided _ grew := absurd rfl grew
  atLimit _ grew := absurd rfl grew

theorem Accounts.trans {updates middle next : StatusUpdates}
    (first : Accounts maxStageFailures reported updates middle)
    (second : Accounts maxStageFailures reported middle next) :
    Accounts maxStageFailures reported updates next where
  grows stageId := List.Subset.trans (first.grows stageId) (second.grows stageId)
  nodup stageId distinct := second.nodup stageId (first.nodup stageId distinct)
  reported stageId attempt mem :=
    (second.reported stageId attempt mem).elim (first.reported stageId attempt) .inr
  failedKept failed := second.failedKept (first.failedKept failed)
  rollbackKept stageId scheduled := second.rollbackKept stageId (first.rollbackKept stageId scheduled)
  decided stageId grew := by
    by_cases same : next.failedAttempts stageId = middle.failedAttempts stageId
    · -- the record grew in the first part, and what was decided there stays
      rw [same] at grew
      rcases first.decided stageId grew with failed | scheduled
      · exact .inl (second.failedKept failed)
      · exact .inr (second.rollbackKept stageId scheduled)
    · exact second.decided stageId same
  atLimit stageId grew reached := by
    by_cases same : next.failedAttempts stageId = middle.failedAttempts stageId
    · rw [same] at grew reached
      exact second.failedKept (first.atLimit stageId grew reached)
    · exact second.atLimit stageId same reached

instance : IsPreorder StatusUpdates (Accounts maxStageFailures reported) where
  refl := Accounts.refl
  trans _ _ _ := Accounts.trans

/-- A step that keeps every record and only adds failed stages and rollbacks. -/
theorem accounts_of_sameRecords {updates next : StatusUpdates}
    (same : next.failedStageAttempts = updates.failedStageAttempts)
    (failedKept : updates.failedStages ≠ [] → next.failedStages ≠ [])
    (rollbackKept : ∀ stageId ∈ updates.rollbackRunningStages.keys,
      stageId ∈ next.rollbackRunningStages.keys) :
    Accounts maxStageFailures reported updates next := by
  have kept : ∀ stageId, next.failedAttempts stageId = updates.failedAttempts stageId := fun _ => by
    simp only [failedAttempts, same]
  refine ⟨fun stageId => ?_, fun stageId => ?_, fun stageId attempt mem => ?_, failedKept,
    rollbackKept, fun stageId grew => absurd (kept stageId) grew,
    fun stageId grew => absurd (kept stageId) grew⟩
  · rw [kept stageId]
    exact List.Subset.refl _
  · rw [kept stageId]
    exact id
  · rw [kept stageId] at mem
    exact .inl mem

theorem accounts_insertFailed (updates : StatusUpdates) (stageId : Nat) (message : String) :
    Accounts maxStageFailures reported updates
      { updates with failedStages := updates.failedStages.insert stageId message } :=
  accounts_of_sameRecords rfl (fun _ => Table.insert_ne_nil _ _ _) fun _ => id

/-- Recording a reported attempt of a stage, with a decision on the stage. -/
theorem accounts_recordAttempt {updates next : StatusUpdates} {stageId attempt : Nat}
    (reportedHere : attempt ∈ reported stageId)
    (recorded : next.failedStageAttempts =
      updates.failedStageAttempts.upsert stageId [] (List.insert attempt))
    (failedKept : updates.failedStages ≠ [] → next.failedStages ≠ [])
    (rollbackKept : ∀ other ∈ updates.rollbackRunningStages.keys, other ∈ next.rollbackRunningStages.keys)
    (decided : next.failedStages ≠ [] ∨ stageId ∈ next.rollbackRunningStages.keys)
    (atLimit : maxStageFailures ≤ ((updates.failedAttempts stageId).insert attempt).length →
      next.failedStages ≠ []) :
    Accounts maxStageFailures reported updates next := by
  have records : ∀ other, next.failedAttempts other =
      if other = stageId then (updates.failedAttempts stageId).insert attempt
      else updates.failedAttempts other := by
    intro other
    simp only [failedAttempts, recorded, Table.get?_upsert]
    split <;> rfl
  refine ⟨fun other => ?_, fun other => ?_, fun other member mem => ?_, failedKept, rollbackKept,
    fun other grew => ?_, fun other grew reached => ?_⟩
  all_goals
    rw [records other] at *
    by_cases same : other = stageId
  -- only the stage's own record moves, by the one insert
  · subst same
    simp only [if_true]
    exact List.subset_insert _ _
  · simp only [same, if_false]
    exact List.Subset.refl _
  · subst same
    simp only [if_true]
    exact List.Nodup.insert
  · simp only [same, if_false]
    exact id
  · subst same
    simp only [if_true, List.mem_insert_iff] at mem
    rcases mem with rfl | earlier
    · exact .inr reportedHere
    · exact .inl earlier
  · simp only [same, if_false] at mem
    exact .inl mem
  · subst same
    exact decided
  · simp only [same, if_false] at grew
    exact absurd rfl grew
  · subst same
    simp only [if_true] at reached
    exact atLimit reached
  · simp only [same, if_false] at grew
    exact absurd rfl grew

end Accounts

end StatusUpdates

open StatusUpdates

section Reads

variable [StagePlan Plan] {reported : Nat → List Nat} (ctx : UpdateContext) (stageId : Nat)

omit [StagePlan Plan] in
/-- A fetch failure inserts its attempt and fails the stage at the limit;
below it the stage is failed already or is scheduled to roll back. -/
theorem accounts_handleFetchFailure (attempt : Nat) (failedTask : FailedTask)
    (fetchError : FetchPartitionError) {read next : RunningRead Plan}
    (reportedHere : attempt ∈ reported stageId)
    (handled : handleFetchFailure ctx stageId attempt failedTask fetchError read = .ok next) :
    Accounts ctx.maxStageFailures reported read.2.2 next.2.2 := by
  obtain ⟨stage, locations, updates⟩ := read
  unfold handleFetchFailure at handled
  dsimp only at handled
  have inserted : ((updates.failedStageAttempts.upsert stageId [] (List.insert attempt)).get? stageId).getD [] =
      (updates.failedAttempts stageId).insert attempt := by
    simp [Table.get?_upsert, failedAttempts]
  rw [inserted] at handled
  split at handled
  · rename_i below
    split at handled
    · rename_i failed
      cases handled
      exact accounts_recordAttempt reportedHere rfl id (fun _ => id) (.inl (by simpa using failed))
        fun reached => absurd below (Nat.not_lt.mpr reached)
    · split at handled
      · cases handled
      · cases handled
        exact accounts_recordAttempt reportedHere rfl id
          (fun _ scheduled => Table.mem_keys_upsert.mpr (.inr scheduled))
          (.inr (Table.mem_keys_upsert.mpr (.inl rfl)))
          fun reached => absurd below (Nat.not_lt.mpr reached)
  · cases handled
    exact accounts_recordAttempt reportedHere rfl (fun _ => Table.insert_ne_nil _ _ _) (fun _ => id)
      (.inl (Table.insert_ne_nil _ _ _)) fun _ => Table.insert_ne_nil _ _ _

omit [StagePlan Plan] in
theorem accounts_handleRetryableFailure (partitionId : Nat) (failedTask : FailedTask)
    {read next : RunningRead Plan}
    (handled : handleRetryableFailure ctx stageId partitionId failedTask read = .ok next) :
    Accounts ctx.maxStageFailures reported read.2.2 next.2.2 := by
  obtain ⟨stage, locations, updates⟩ := read
  unfold handleRetryableFailure at handled
  dsimp only at handled
  split at handled
  · -- a counted failure
    split at handled
    · cases handled
    · split at handled
      · -- below the task failure limit the slot is freed: no record moves
        split at handled
        · cases handled
        · cases handled
          exact Accounts.refl _
      · -- at the limit the stage is marked failed
        cases handled
        exact accounts_insertFailed _ _ _
  · split at handled
    · split at handled
      · cases handled
      · cases handled
        exact Accounts.refl _
    · cases handled
      exact Accounts.refl _

omit [StagePlan Plan] in
/-- One status of a running stage keeps the account. -/
theorem accounts_updateRunningTaskStatus {read next : RunningRead Plan} {status : TaskStatus}
    (reportedHere : ∀ attempt, status.fetchFailureAttempt = some attempt → attempt ∈ reported stageId)
    (updated : updateRunningTaskStatus ctx stageId read status = .ok next) :
    Accounts ctx.maxStageFailures reported read.2.2 next.2.2 := by
  obtain ⟨stage, locations, updates⟩ := read
  unfold updateRunningTaskStatus at updated
  dsimp only at updated
  split at updated
  · cases updated
    exact Accounts.refl _
  · split at updated
    · cases updated
    · cases updated
      exact Accounts.refl _
    · -- the slot took the status: it counts by its kind
      split at updated
      · rename_i failedTask failed
        split at updated
        · rename_i fetchError reason
          have reportedHere : status.stageAttemptNum ∈ reported stageId :=
            reportedHere _ (by simp [TaskStatus.fetchFailureAttempt, failed, reason])
          -- the stage the slot left, not the one read, goes on to the fetch failure
          have handled : Accounts ctx.maxStageFailures reported _ _ :=
            accounts_handleFetchFailure ctx stageId _ failedTask fetchError reportedHere updated
          exact handled
        · cases updated
          exact accounts_insertFailed _ _ _
        · have handled : Accounts ctx.maxStageFailures reported _ _ :=
            accounts_handleRetryableFailure ctx stageId _ failedTask updated
          exact handled
        · cases updated
          exact accounts_insertFailed _ _ _
      · split at updated
        · cases updated
        · cases updated
          exact Accounts.refl _
      · cases updated
        exact Accounts.refl _

omit [StagePlan Plan] in
theorem accounts_foldlM_updateRunningTaskStatus (statuses : List TaskStatus)
    (reportedHere : ∀ status ∈ statuses, ∀ attempt, status.fetchFailureAttempt = some attempt →
      attempt ∈ reported stageId)
    {read next : RunningRead Plan}
    (folded : statuses.foldlM (updateRunningTaskStatus ctx stageId) read = .ok next) :
    Accounts ctx.maxStageFailures reported read.2.2 next.2.2 :=
  Except.foldlM_invariant_of_mem
    (fun later : RunningRead Plan => Accounts ctx.maxStageFailures reported read.2.2 later.2.2) statuses
    (fun _ status mem _ before updated =>
      before.trans (accounts_updateRunningTaskStatus ctx stageId (reportedHere status mem) updated))
    (Accounts.refl _) folded

omit [StagePlan Plan] in
/-- A status of an unresolved stage leaves every record alone. -/
theorem accounts_updateUnresolvedTaskStatus {read next : UnresolvedStage Plan × StatusUpdates}
    {status : TaskStatus} (updated : updateUnresolvedTaskStatus ctx stageId read status = .ok next) :
    Accounts ctx.maxStageFailures reported read.2 next.2 := by
  obtain ⟨stage, updates⟩ := read
  unfold updateUnresolvedTaskStatus at updated
  dsimp only at updated
  split at updated
  · split at updated
    · -- a failure of the previous attempt
      split at updated
      · -- an execution error marks the stage failed
        cases updated
        exact accounts_insertFailed _ _ _
      · -- a late fetch failure only schedules the map stage's reset
        split at updated
        · split at updated
          · cases updated
          · cases updated
            exact accounts_of_sameRecords rfl id fun _ => id
        · cases updated
          exact Accounts.refl _
      · cases updated
        exact Accounts.refl _
    · cases updated
      exact Accounts.refl _
  · cases updated
    exact Accounts.refl _

omit [StagePlan Plan] in
theorem accounts_foldlM_updateUnresolvedTaskStatus (statuses : List TaskStatus)
    {read next : UnresolvedStage Plan × StatusUpdates}
    (folded : statuses.foldlM (updateUnresolvedTaskStatus ctx stageId) read = .ok next) :
    Accounts ctx.maxStageFailures reported read.2 next.2 :=
  Except.foldlM_invariant
    (fun later : UnresolvedStage Plan × StatusUpdates => Accounts ctx.maxStageFailures reported read.2 later.2)
    (fun _ _ _ before updated => before.trans (accounts_updateUnresolvedTaskStatus ctx stageId updated))
    statuses (Accounts.refl _) folded

end Reads

/-- The decisions of the loop's state move on as `StatusUpdates.Accounts` says. -/
abbrev UpdateState.Accounts (maxStageFailures : Nat) (reported : Nat → List Nat)
    (state next : UpdateState Plan) : Prop :=
  StatusUpdates.Accounts maxStageFailures reported state.updates next.updates

section Loop

variable {maxStageFailures : Nat} {reported : Nat → List Nat}

instance : IsPreorder (UpdateState Plan) (UpdateState.Accounts maxStageFailures reported) where
  refl state := Accounts.refl state.updates
  trans _ _ _ := Accounts.trans

theorem accounts_onGraph {α : Type} (method : GraphM Plan α) :
    Steps (UpdateState.Accounts maxStageFailures reported) (onGraph method) := by
  intro state
  rw [exec_onGraph]
  exact Accounts.refl _

/-- The read of one group keeps the account, on every run of it. -/
theorem accounts_updateStageTaskStatuses (ctx : UpdateContext) (stageId : Nat)
    (statuses : List TaskStatus)
    (reportedHere : ∀ status ∈ statuses, ∀ attempt, status.fetchFailureAttempt = some attempt →
      attempt ∈ reported stageId) :
    Steps (UpdateState.Accounts ctx.maxStageFailures reported)
      (updateStageTaskStatuses ctx stageId statuses : UpdateM Plan Unit) := by
  refine Steps.bind_get fun state => ?_
  split
  · split
    · exact Steps.set_bind (Accounts.refl _) (Steps.throw _)
    · rename_i next locations updates folded
      have read := accounts_foldlM_updateRunningTaskStatus ctx stageId statuses reportedHere folded
      dsimp only
      refine Steps.set_bind ?_ ?_
      · -- a finished stage is noted successful, which no record sees
        split
        · exact read.trans (accounts_of_sameRecords rfl id fun _ => id)
        · exact read
      · exact Steps.bind (accounts_onGraph _) fun _ =>
          Steps.modify fun _ => accounts_of_sameRecords rfl id fun _ => id
  · split
    · exact Steps.set_bind (Accounts.refl _) (Steps.throw _)
    · rename_i next updates folded
      refine Steps.set_bind ?_ (Steps.pure _)
      exact accounts_foldlM_updateUnresolvedTaskStatus ctx stageId statuses folded
  · exact Steps.pure _ state
  · exact Steps.throw _ state

theorem accounts_visitGroups (ctx : UpdateContext) (groups : Table Nat (List TaskStatus)) :
    ∀ visit, Steps (UpdateState.Accounts ctx.maxStageFailures (reportedFetchAttempts groups))
      (visitGroups ctx groups visit : UpdateM Plan Unit)
  | [] => Steps.pure _
  | stageId :: rest =>
    Steps.bind (accounts_updateStageTaskStatuses ctx stageId _ fun status mem _ reports =>
        List.mem_filterMap.mpr ⟨status, mem, reports⟩) fun _ =>
      accounts_visitGroups ctx groups rest

end Loop

/-- The sets the read phase returns account for the records of the graph it read. -/
theorem readTaskStatuses_accounts {executor : ExecutorMetadata} {maxTaskFailures maxStageFailures : Nat}
    {groups : Table Nat (List TaskStatus)} {visit : List Nat} {graph next : ExecutionGraph Plan}
    {updates : StatusUpdates}
    (read : (readTaskStatuses executor maxTaskFailures maxStageFailures groups visit).exec graph =
      (.ok updates, next)) :
    Accounts maxStageFailures (reportedFetchAttempts groups) (StatusUpdates.initial graph) updates := by
  unfold readTaskStatuses at read
  obtain ⟨_, _, got, read⟩ := exec_bind_eq_ok read
  rw [exec_get, Prod.mk.injEq, Except.ok.injEq] at got
  obtain ⟨rfl, rfl⟩ := got
  dsimp only at read
  have visited := accounts_visitGroups (UpdateContext.ofGraph graph executor maxTaskFailures maxStageFailures)
    groups visit { graph := graph, updates := StatusUpdates.initial graph }
  generalize (visitGroups _ groups visit).exec { graph := graph, updates := StatusUpdates.initial graph } =
    ran at read visited
  obtain ⟨result, state⟩ := ran
  dsimp only at read visited
  obtain ⟨_, _, -, read⟩ := exec_bind_eq_ok read
  obtain ⟨_, _, -, read⟩ := exec_bind_eq_ok read
  rw [exec_pure, Prod.mk.injEq, Except.ok.injEq] at read
  rw [← read.1]
  exact visited

section Apply

variable [StagePlan Plan]

/-- With a stage marked failed, `processing_stages_update` that returns fails the job. -/
theorem isFailed_processingStagesUpdate {updated : UpdatedStages} {graph next : ExecutionGraph Plan}
    {events : List QueryStageSchedulerEvent}
    (ran : (processingStagesUpdate updated).exec graph = (.ok events, next))
    (failed : updated.failedStages ≠ []) : next.isFailed = true := by
  have phases := ran
  unfold processingStagesUpdate at phases
  obtain ⟨_, _, got, phases⟩ := exec_bind_eq_ok phases
  rw [exec_get, Prod.mk.injEq, Except.ok.injEq] at got
  obtain ⟨rfl, rfl⟩ := got
  dsimp only at phases
  obtain ⟨_, resolved, wereResolved, phases⟩ := exec_bind_eq_ok phases
  obtain ⟨_, succeeded, wereSucceeded, -⟩ := exec_bind_eq_ok phases
  rw [processingStagesUpdate_of_failed wereResolved wereSucceeded failed, Prod.mk.injEq] at ran
  rw [← ran.2]
  exact ExecutionGraph.isFailed_failJob _ _

theorem isFailed_applyStatusUpdates {jobId : String} {updates : StatusUpdates}
    {graph next : ExecutionGraph Plan} {events : List QueryStageSchedulerEvent}
    (ran : (applyStatusUpdates jobId updates).exec graph = (.ok events, next))
    (failed : updates.failedStages ≠ []) : next.isFailed = true := by
  unfold applyStatusUpdates at ran
  -- the write-back and the two loops over lost map outputs, then the processing
  obtain ⟨_, _, -, ran⟩ := exec_bind_eq_ok ran
  obtain ⟨_, _, -, ran⟩ := exec_bind_eq_ok ran
  obtain ⟨_, _, -, ran⟩ := exec_bind_eq_ok ran
  exact isFailed_processingStagesUpdate ran failed

omit [StagePlan Plan] in
/-- `succeed_stage` forgets the record of the stage it completes. -/
theorem failedStageAttempts_succeedStage {stageId : Nat} {graph next : ExecutionGraph Plan}
    (ran : (succeedStage stageId).exec graph = (.ok true, next)) :
    next.failedStageAttempts.get? stageId = none := by
  unfold succeedStage at ran
  rw [exec_bind, exec_get] at ran
  dsimp only at ran
  split at ran
  · rename_i stage found
    cases ok : stage.toSuccessful with
    | error fault =>
      rw [ok, liftFault_error, exec_bind_of_error (exec_throw _ _)] at ran
      cases ran
    | ok done =>
      rw [ok, liftFault_ok, exec_bind_of_ok (exec_pure _ _), exec_bind_of_ok (exec_modify _ _), exec_pure] at ran
      rw [← (Prod.mk.inj ran).2]
      simp [ExecutionGraph.clearStageFailure, Table.get?_erase]
  · rw [exec_bind_of_ok (exec_modify _ _), exec_pure] at ran
    simp at ran
  · rw [exec_pure] at ran
    simp at ran

end Apply

section Call

variable [StagePlan Plan]

/-- The second reduce task of `twoStageJob`, task 2, fails on an execution error. -/
def reduceExecFailed : TaskStatus :=
  asTaskStatus (.error (.general "execution failed")) "executor-2" 2 0 ⟨"job", 2, 1⟩ none

/-- What `executor-2` reports at once for both reduce tasks: the first cannot
fetch the map output from `executor-1`, the second fails on an execution error. -/
def mixedReport : List TaskStatus := [reduceFetchFailed, reduceExecFailed]

/-- The map task succeeds on `executor-1` and both reduce tasks are handed to
`executor-2`. -/
def bothReducesOps : List JobOp :=
  [.popNextTask "executor-1", .updateTaskStatus ⟨"executor-1"⟩ [mapDone] [1],
   .popNextTask "executor-2", .popNextTask "executor-2"]

end Call

end Ballista
