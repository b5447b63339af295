import Ballista.Scheduler.UpdateTaskStatus
import Ballista.Scheduler.StageKeys

/-! # Which stages the application phase writes

Once the statuses are read, `update_task_status` writes the failed attempts
back, marks the lost map outputs, resets the lost map tasks and runs
`processing_stages_update`. Each method of that phase writes the stages it is
given and no other (`OnlyStages`). So when the call marks no stage failed:

* a stage scheduled to roll back, running after the read and named by no other
  set of the call, ends unresolved at its next attempt, with the inputs the
  read left it (`applyStatusUpdates_rollsBack`);
* a map stage scheduled to rerun, successful after the read and named by no
  other set, ends running at its next attempt, with exactly the partitions
  scheduled, and those whose task had not succeeded, to run again
  (`applyStatusUpdates_reruns`).
-/

namespace Ballista

open ExceptT

variable {Plan : Type}

namespace ExecutionGraph

/-- Only the stages at the given ids change. -/
def OnlyStages (stageIds : List Nat) (graph next : ExecutionGraph Plan) : Prop :=
  ∀ stageId ∉ stageIds, next.stages.get? stageId = graph.stages.get? stageId

instance (stageIds : List Nat) : IsPreorder (ExecutionGraph Plan) (OnlyStages stageIds) where
  refl _ _ _ := rfl
  trans _ _ _ first second stageId outside := (second stageId outside).trans (first stageId outside)

theorem OnlyStages.mono {stageIds wider : List Nat} (within : stageIds ⊆ wider) {graph next : ExecutionGraph Plan}
    (only : OnlyStages stageIds graph next) : OnlyStages wider graph next :=
  fun stageId outside => only stageId fun listed => outside (within listed)

theorem OnlyStages.head {stageId : Nat} {rest : List Nat} {graph next : ExecutionGraph Plan}
    (only : OnlyStages [stageId] graph next) : OnlyStages (stageId :: rest) graph next :=
  only.mono (List.cons_subset.mpr ⟨List.mem_cons_self, List.nil_subset _⟩)

theorem OnlyStages.tail {stageId : Nat} {rest : List Nat} {graph next : ExecutionGraph Plan}
    (only : OnlyStages rest graph next) : OnlyStages (stageId :: rest) graph next :=
  only.mono (List.subset_cons_self _ _)

/-- A stage other than the one written reads as before. -/
theorem OnlyStages.get?_of_ne {stageId other : Nat} {graph next : ExecutionGraph Plan}
    (only : OnlyStages [other] graph next) (different : stageId ≠ other) :
    next.stages.get? stageId = graph.stages.get? stageId :=
  only stageId fun listed => different (List.mem_singleton.mp listed)

theorem onlyStages_of_stages {stageIds : List Nat} {graph next : ExecutionGraph Plan}
    (same : next.stages = graph.stages) : OnlyStages stageIds graph next := fun _ _ => by
  rw [same]

theorem get?_setStage_self (graph : ExecutionGraph Plan) (stageId : Nat) (stage : ExecutionStage Plan) :
    (graph.setStage stageId stage).stages.get? stageId = some stage := by
  simp [setStage]

/-- Writing the failed attempts back leaves the stages. -/
theorem stages_writeFailedAttempts (graph : ExecutionGraph Plan) (failedStageAttempts : Table Nat (List Nat)) :
    (graph.writeFailedAttempts failedStageAttempts).stages = graph.stages := rfl

theorem onlyStages_setStage (graph : ExecutionGraph Plan) (stageId : Nat) (stage : ExecutionStage Plan) :
    OnlyStages [stageId] graph (graph.setStage stageId stage) := fun other outside => by
  rw [List.mem_singleton] at outside
  simp only [setStage, Table.get?_insert, if_neg outside]

theorem onlyStages_dropStage (graph : ExecutionGraph Plan) (stageId : Nat) :
    OnlyStages [stageId] graph (graph.dropStage stageId) := fun other outside => by
  rw [List.mem_singleton] at outside
  simp only [dropStage, Table.get?_erase, if_neg outside]

end ExecutionGraph

open ExecutionGraph

/-! ## Each method writes its own stages -/

section Methods

variable [StagePlan Plan]

omit [StagePlan Plan] in
theorem onlyStages_liftFault {α : Type} (stageIds : List Nat) (result : Except Fault α) :
    Steps (OnlyStages stageIds) (liftFault result : GraphM Plan α) := by
  cases result with
  | ok value => exact Steps.pure value
  | error fault => exact Steps.throw fault

theorem onlyStages_resolveStage (stageId : Nat) :
    Steps (OnlyStages [stageId]) (resolveStage stageId : GraphM Plan Bool) := by
  refine Steps.bind Steps.get fun graph => ?_
  split
  · split
    · exact Steps.bind (Steps.modify fun graph => onlyStages_setStage graph _ _) fun _ => Steps.pure _
    · exact Steps.bind (Steps.modify fun graph => onlyStages_dropStage graph _) fun _ => Steps.throw _
  · exact Steps.bind (Steps.modify fun graph => onlyStages_dropStage graph _) fun _ => Steps.pure _
  · exact Steps.pure _

omit [StagePlan Plan] in
theorem onlyStages_succeedStage (stageId : Nat) :
    Steps (OnlyStages [stageId]) (succeedStage stageId : GraphM Plan Bool) := by
  refine Steps.bind Steps.get fun graph => ?_
  split
  · refine Steps.bind (onlyStages_liftFault _ _) fun successful => ?_
    -- clearing the stage's failures leaves the stages as they are
    exact Steps.bind (Steps.modify fun graph => onlyStages_setStage graph _ _) fun _ => Steps.pure _
  · exact Steps.bind (Steps.modify fun graph => onlyStages_dropStage graph _) fun _ => Steps.pure _
  · exact Steps.pure _

theorem onlyStages_rollbackRunningStage (stageId : Nat) (failureReasons : List String) :
    Steps (OnlyStages [stageId]) (rollbackRunningStage stageId failureReasons : GraphM Plan (List RunningTaskInfo)) := by
  refine Steps.bind Steps.get fun graph => ?_
  split
  · split
    · exact Steps.bind (Steps.modify fun graph => onlyStages_setStage graph _ _) fun _ => Steps.pure _
    · exact Steps.bind (Steps.modify fun graph => onlyStages_dropStage graph _) fun _ => Steps.throw _
  · exact Steps.bind (Steps.modify fun graph => onlyStages_dropStage graph _) fun _ => Steps.pure _
  · exact Steps.pure _

omit [StagePlan Plan] in
theorem onlyStages_rerunSuccessfulStage (stageId : Nat) :
    Steps (OnlyStages [stageId]) (rerunSuccessfulStage stageId : GraphM Plan Bool) := by
  refine Steps.bind Steps.get fun graph => ?_
  split
  · exact Steps.bind (Steps.modify fun graph => onlyStages_setStage graph _ _) fun _ => Steps.pure _
  · exact Steps.bind (Steps.modify fun graph => onlyStages_dropStage graph _) fun _ => Steps.pure _
  · exact Steps.pure _

omit [StagePlan Plan] in
theorem onlyStages_markLostOutputs (jobId : String) (stageId : Nat) :
    ∀ partitions, Steps (OnlyStages [stageId]) (markLostOutputs jobId stageId partitions : GraphM Plan Unit)
  | [] => Steps.pure _
  | partition :: rest => by
    refine Steps.bind Steps.get fun graph => ?_
    dsimp only
    split
    · -- the `if` without `else` repeats the rest of the loop body in both branches
      split
      · refine Steps.bind (Steps.throw _) fun _ => ?_
        split
        · exact Steps.bind (Steps.modify fun graph => onlyStages_setStage graph _ _) fun _ =>
            onlyStages_markLostOutputs jobId stageId rest
        · exact Steps.throw _
      · split
        · exact Steps.bind (Steps.modify fun graph => onlyStages_setStage graph _ _) fun _ =>
            onlyStages_markLostOutputs jobId stageId rest
        · exact Steps.throw _
    · exact onlyStages_markLostOutputs jobId stageId rest

omit [StagePlan Plan] in
theorem onlyStages_resetLostTasks (stageId : Nat) :
    ∀ partitions, Steps (OnlyStages [stageId]) (resetLostTasks stageId partitions : GraphM Plan Unit)
  | [] => Steps.pure _
  | partition :: rest => by
    refine Steps.bind Steps.get fun graph => ?_
    dsimp only
    split
    · have reset : ∀ result : Except Fault (RunningStage Plan),
          Steps (OnlyStages [stageId]) (do
            let stage ← liftFault result
            modify (·.setStage stageId (.running stage))
            resetLostTasks stageId rest : GraphM Plan Unit) := fun result =>
        Steps.bind (onlyStages_liftFault _ result) fun _ =>
          Steps.bind (Steps.modify fun graph => onlyStages_setStage graph _ _) fun _ =>
            onlyStages_resetLostTasks stageId rest
      split
      · exact Steps.bind (Steps.throw _) fun _ => reset _
      · exact reset _
    · exact onlyStages_resetLostTasks stageId rest

omit [StagePlan Plan] in
theorem onlyStages_resubmitSuccessfulStages (jobId : String) :
    ∀ resubmit : Table Nat (List Nat),
      Steps (OnlyStages resubmit.keys) (resubmitSuccessfulStages jobId resubmit : GraphM Plan Unit)
  | [] => Steps.pure _
  | (stageId, missingParts) :: rest => by
    have later : Steps (OnlyStages (stageId :: Table.keys rest)) (resubmitSuccessfulStages jobId rest : GraphM Plan Unit) :=
      (onlyStages_resubmitSuccessfulStages jobId rest).mono fun _ _ => OnlyStages.tail
    refine Steps.bind Steps.get fun graph => ?_
    dsimp only
    split
    · exact Steps.bind ((onlyStages_markLostOutputs jobId stageId missingParts).mono fun _ _ => OnlyStages.head)
        fun _ => later
    · exact later
    · exact Steps.bind (Steps.throw _) fun _ => later

omit [StagePlan Plan] in
theorem onlyStages_resetRunningStages (jobId : String) :
    ∀ reset : Table Nat (List Nat),
      Steps (OnlyStages reset.keys) (resetRunningStages jobId reset : GraphM Plan Unit)
  | [] => Steps.pure _
  | (stageId, missingParts) :: rest => by
    have later : Steps (OnlyStages (stageId :: Table.keys rest)) (resetRunningStages jobId rest : GraphM Plan Unit) :=
      (onlyStages_resetRunningStages jobId rest).mono fun _ _ => OnlyStages.tail
    refine Steps.bind Steps.get fun graph => ?_
    dsimp only
    split
    · exact Steps.bind ((onlyStages_resetLostTasks stageId missingParts).mono fun _ _ => OnlyStages.head)
        fun _ => later
    · exact later
    · exact Steps.bind (Steps.throw _) fun _ => later

theorem onlyStages_resolveStages :
    ∀ stageIds, Steps (OnlyStages stageIds) (resolveStages stageIds : GraphM Plan Unit)
  | [] => Steps.pure _
  | stageId :: rest =>
    Steps.bind ((onlyStages_resolveStage stageId).mono fun _ _ => OnlyStages.head) fun _ =>
      (onlyStages_resolveStages rest).mono fun _ _ => OnlyStages.tail

omit [StagePlan Plan] in
theorem onlyStages_succeedStages :
    ∀ stageIds, Steps (OnlyStages stageIds) (succeedStages stageIds : GraphM Plan Unit)
  | [] => Steps.pure _
  | stageId :: rest =>
    Steps.bind ((onlyStages_succeedStage stageId).mono fun _ _ => OnlyStages.head) fun _ =>
      (onlyStages_succeedStages rest).mono fun _ _ => OnlyStages.tail

theorem onlyStages_rollbackRunningStages :
    ∀ rollback : Table Nat (List String),
      Steps (OnlyStages rollback.keys) (rollbackRunningStages rollback : GraphM Plan (List RunningTaskInfo))
  | [] => Steps.pure _
  | (stageId, failureReasons) :: rest =>
    Steps.bind ((onlyStages_rollbackRunningStage stageId failureReasons).mono fun _ _ => OnlyStages.head)
      fun _ => Steps.bind ((onlyStages_rollbackRunningStages rest).mono fun _ _ => OnlyStages.tail)
        fun _ => Steps.pure _

omit [StagePlan Plan] in
theorem onlyStages_rerunSuccessfulStages :
    ∀ stageIds, Steps (OnlyStages stageIds) (rerunSuccessfulStages stageIds : GraphM Plan Unit)
  | [] => Steps.pure _
  | stageId :: rest =>
    Steps.bind ((onlyStages_rerunSuccessfulStage stageId).mono fun _ _ => OnlyStages.head) fun _ =>
      (onlyStages_rerunSuccessfulStages rest).mono fun _ _ => OnlyStages.tail

omit [StagePlan Plan] in
theorem onlyStages_succeedJob : Steps (OnlyStages []) (succeedJob : GraphM Plan Unit) := by
  refine Steps.bind_get fun graph => ?_
  split
  · rw [exec_bind_of_error (exec_throw _ _)]
    exact refl_of _ _
  · dsimp only
    rw [exec_set]
    exact onlyStages_of_stages rfl

omit [StagePlan Plan] in
/-- Failing, finishing or reporting the job writes no stage. -/
theorem onlyStages_finishStagesUpdate (jobId : String) (failedStages : Table Nat String) (hasResolved : Bool)
    (events : List QueryStageSchedulerEvent) :
    Steps (OnlyStages []) (finishStagesUpdate jobId failedStages hasResolved events : GraphM Plan _) := by
  unfold finishStagesUpdate
  dsimp only
  split
  · exact Steps.bind (Steps.modify fun _ => onlyStages_of_stages rfl) fun _ => Steps.pure _
  · refine Steps.bind Steps.get fun _ => ?_
    split
    · exact Steps.bind onlyStages_succeedJob fun _ => Steps.pure _
    · split <;> exact Steps.pure _

end Methods

/-! ## A rollback and a rerun that are scheduled -/

section Scheduled

variable [StagePlan Plan]

/-- A running stage that rolls back without error is unresolved at its next attempt. -/
theorem rollbackRunningStage_of_running {stageId : Nat} {failureReasons : List String}
    {graph next : ExecutionGraph Plan} {stage : RunningStage Plan} {tasks : List RunningTaskInfo}
    (running : graph.stages.get? stageId = some (.running stage))
    (ran : (rollbackRunningStage stageId failureReasons).exec graph = (.ok tasks, next)) :
    ∃ unresolved, stage.toUnresolved failureReasons = .ok unresolved ∧
      next = graph.setStage stageId (.unResolved unresolved) := by
  unfold rollbackRunningStage at ran
  rw [exec_bind, exec_get] at ran
  simp only [running] at ran
  cases rolledBack : stage.toUnresolved failureReasons with
  | error e =>
    rw [rolledBack, exec_bind_of_ok (exec_modify _ _), exec_throw] at ran
    cases ran
  | ok unresolved =>
    rw [rolledBack, exec_bind_of_ok (exec_modify _ _), exec_pure, Prod.mk.injEq] at ran
    exact ⟨unresolved, rfl, ran.2.symm⟩

omit [StagePlan Plan] in
/-- A successful stage reruns as `to_running` makes it. -/
theorem rerunSuccessfulStage_of_successful {stageId : Nat} {graph : ExecutionGraph Plan}
    {stage : SuccessfulStage Plan} (successful : graph.stages.get? stageId = some (.successful stage)) :
    (rerunSuccessfulStage stageId).exec graph =
      (.ok true, graph.setStage stageId (.running stage.toRunning)) := by
  unfold rerunSuccessfulStage
  rw [exec_bind, exec_get]
  simp only [successful]
  rw [exec_bind_of_ok (exec_modify _ _), exec_pure]

/-- The loop over the rollbacks, whose stage ids are distinct, rolls back each
running stage it names: once its rollback is done, no later one touches it. -/
theorem rollbackRunningStages_of_running {stageId : Nat} {stage : RunningStage Plan}
    {failureReasons : List String} :
    ∀ {rollback : Table Nat (List String)} {graph next : ExecutionGraph Plan} {tasks : List RunningTaskInfo},
      rollback.keys.Nodup → rollback.get? stageId = some failureReasons →
      graph.stages.get? stageId = some (.running stage) →
      (rollbackRunningStages rollback).exec graph = (.ok tasks, next) →
      ∃ unresolved, stage.toUnresolved failureReasons = .ok unresolved ∧
        next.stages.get? stageId = some (.unResolved unresolved)
  | [], _, _, _, _, scheduled, _, _ => by cases scheduled
  | (other, reasons) :: rest, graph, next, tasks, distinct, scheduled, running, ran => by
    rw [Table.keys_cons, List.nodup_cons] at distinct
    obtain ⟨_, middle, first, ran⟩ := exec_bind_eq_ok ran
    obtain ⟨_, last, later, done⟩ := exec_bind_eq_ok ran
    rw [exec_pure, Prod.mk.injEq] at done
    obtain ⟨-, rfl⟩ := done
    rw [Table.get?_cons] at scheduled
    by_cases same : stageId = other
    · -- the head entry is the stage's own, and the rest of the loop never names it
      subst same
      rw [if_pos rfl, Option.some.injEq] at scheduled
      subst scheduled
      obtain ⟨unresolved, rolledBack, rfl⟩ := rollbackRunningStage_of_running running first
      refine ⟨unresolved, rolledBack, ?_⟩
      rw [(onlyStages_rollbackRunningStages rest).of_exec later stageId distinct.1]
      exact get?_setStage_self _ _ _
    · rw [if_neg same] at scheduled
      have kept := ((onlyStages_rollbackRunningStage other reasons).of_exec first).get?_of_ne same
      exact rollbackRunningStages_of_running distinct.2 scheduled (kept.trans running) later

omit [StagePlan Plan] in
/-- `rerun_successful_stage` always returns. -/
theorem rerunSuccessfulStage_returns (stageId : Nat) (graph : ExecutionGraph Plan) :
    ∃ rerun, (rerunSuccessfulStage stageId).exec graph =
      (.ok rerun, ((rerunSuccessfulStage stageId).exec graph).2) := by
  unfold rerunSuccessfulStage
  rw [exec_bind, exec_get]
  dsimp only
  split <;> simp [exec_map]

omit [StagePlan Plan] in
/-- The loop over the reruns, with distinct stage ids, reruns each successful stage it names. -/
theorem rerunSuccessfulStages_of_successful {stageId : Nat} {stage : SuccessfulStage Plan} :
    ∀ {stageIds : List Nat} {graph : ExecutionGraph Plan}, stageIds.Nodup → stageId ∈ stageIds →
      graph.stages.get? stageId = some (.successful stage) →
      ((rerunSuccessfulStages stageIds).exec graph).2.stages.get? stageId = some (.running stage.toRunning)
  | [], _, _, listed, _ => by cases listed
  | other :: rest, graph, distinct, listed, successful => by
    rw [List.nodup_cons] at distinct
    unfold rerunSuccessfulStages
    by_cases same : stageId = other
    · subst same
      rw [exec_bind_of_ok (rerunSuccessfulStage_of_successful successful),
        (onlyStages_rerunSuccessfulStages rest).of_exec (Prod.eta _).symm stageId distinct.1]
      exact get?_setStage_self _ _ _
    · obtain ⟨rerun, first⟩ := rerunSuccessfulStage_returns other graph
      have kept := ((onlyStages_rerunSuccessfulStage other).of_exec first).get?_of_ne same
      rw [exec_bind_of_ok first]
      exact rerunSuccessfulStages_of_successful distinct.2 ((List.mem_cons.mp listed).resolve_left same)
        (kept.trans successful)

/-- The successful stage `marked` is `stage` with the task of each partition of
`parts` marked lost, and every other task as it was. -/
structure MarksLost (parts : List Nat) (stage marked : SuccessfulStage Plan) : Prop where
  attempt : marked.stageAttemptNum = stage.stageAttemptNum
  length : marked.taskInfos.length = stage.taskInfos.length
  lost : ∀ partition ∈ parts, ∃ task, marked.taskInfos[partition]? = some task ∧
    TaskInfo.isSuccessful (some task) = false
  kept : ∀ partition ∉ parts, marked.taskInfos[partition]? = stage.taskInfos[partition]?

omit [StagePlan Plan] in
theorem MarksLost.nil (stage : SuccessfulStage Plan) : MarksLost [] stage stage where
  attempt := rfl
  length := rfl
  lost _ listed := absurd listed List.not_mem_nil
  kept _ _ := rfl

omit [StagePlan Plan] in
/-- Marking one partition lost, then the rest. -/
theorem MarksLost.set {partition : Nat} {rest : List Nat} {stage marked : SuccessfulStage Plan}
    {lostTask : TaskInfo} (inRange : partition < stage.taskInfos.length)
    (later : MarksLost rest { stage with taskInfos := stage.taskInfos.set partition lostTask } marked)
    (notSuccessful : TaskInfo.isSuccessful (some lostTask) = false) :
    MarksLost (partition :: rest) stage marked where
  attempt := later.attempt
  length := later.length.trans (List.length_set ..)
  lost other listed := by
    by_cases again : other ∈ rest
    · exact later.lost other again
    · -- a partition marked here and not again keeps the mark
      obtain rfl : other = partition := (List.mem_cons.mp listed).resolve_right again
      rw [later.kept other again]
      exact ⟨lostTask, List.getElem?_set_self inRange, notSuccessful⟩
  kept other outside := by
    rw [List.mem_cons, not_or] at outside
    rw [later.kept other outside.2]
    exact List.getElem?_set_ne (Ne.symm outside.1)

omit [StagePlan Plan] in
/-- The lost outputs of a successful stage that were marked without error. -/
theorem markLostOutputs_of_successful (jobId : String) (stageId : Nat) :
    ∀ (parts : List Nat) {stage : SuccessfulStage Plan} {graph next : ExecutionGraph Plan},
      graph.stages.get? stageId = some (.successful stage) →
      (markLostOutputs jobId stageId parts).exec graph = (.ok (), next) →
      ∃ marked, next.stages.get? stageId = some (.successful marked) ∧ MarksLost parts stage marked
  | [], stage, graph, next, successful, ran => by
    rw [markLostOutputs, exec_pure, Prod.mk.injEq] at ran
    obtain ⟨-, rfl⟩ := ran
    exact ⟨stage, successful, .nil stage⟩
  | partition :: rest, stage, graph, next, successful, ran => by
    rw [markLostOutputs, exec_bind, exec_get] at ran
    simp only [successful] at ran
    by_cases beyond : stage.partitions < partition
    · rw [if_pos beyond, exec_bind_of_error (exec_throw _ _)] at ran
      cases ran
    rw [if_neg beyond] at ran
    cases found : stage.taskInfos[partition]? with
    | none =>
      -- the partition at the end of the stage indexes past its task slots
      simp only [found, exec_throw] at ran
      cases ran
    | some task =>
      simp only [found] at ran
      rw [exec_bind_of_ok (exec_modify _ _)] at ran
      obtain ⟨marked, markedAt, marks⟩ :=
        markLostOutputs_of_successful jobId stageId rest (get?_setStage_self _ _ _) ran
      have inRange : partition < stage.taskInfos.length := (List.getElem?_eq_some_iff.mp found).1
      exact ⟨marked, markedAt, MarksLost.set inRange marks rfl⟩
omit [StagePlan Plan] in
/-- The rerun of a stage whose lost partitions were marked: its next attempt,
with the marked partitions, and those whose task had not succeeded, to run again. -/
theorem MarksLost.toRunning {parts : List Nat} {stage marked : SuccessfulStage Plan}
    (marks : MarksLost parts stage marked) :
    marked.toRunning.stageAttemptNum = stage.stageAttemptNum + 1 ∧
      marked.toRunning.taskInfos.length = stage.taskInfos.length ∧
      (∀ partition ∈ parts, marked.toRunning.taskInfos[partition]? = some none) ∧
      ∀ partition ∉ parts, marked.toRunning.taskInfos[partition]? =
        stage.taskInfos[partition]?.map fun task =>
          if TaskInfo.isSuccessful (some task) then some task else none := by
  refine ⟨by simp [SuccessfulStage.toRunning, marks.attempt], ?_, fun partition listed => ?_,
    fun partition outside => ?_⟩
  · simp [SuccessfulStage.toRunning, marks.length]
  · obtain ⟨task, markedTask, notSuccessful⟩ := marks.lost partition listed
    simp [SuccessfulStage.toRunning, markedTask, notSuccessful]
  · simp [SuccessfulStage.toRunning, marks.kept partition outside]

omit [StagePlan Plan] in
/-- The loop over the map stages to resubmit, whose ids are distinct, marks the
scheduled partitions of each successful stage it names. -/
theorem resubmitSuccessfulStages_of_successful (jobId : String) {stageId : Nat} {parts : List Nat}
    {stage : SuccessfulStage Plan} :
    ∀ {resubmit : Table Nat (List Nat)} {graph next : ExecutionGraph Plan},
      resubmit.keys.Nodup → resubmit.get? stageId = some parts →
      graph.stages.get? stageId = some (.successful stage) →
      (resubmitSuccessfulStages jobId resubmit).exec graph = (.ok (), next) →
      ∃ marked, next.stages.get? stageId = some (.successful marked) ∧ MarksLost parts stage marked
  | [], _, _, _, scheduled, _, _ => by cases scheduled
  | (other, missingParts) :: rest, graph, next, distinct, scheduled, successful, ran => by
    rw [Table.keys_cons, List.nodup_cons] at distinct
    rw [Table.get?_cons] at scheduled
    rw [resubmitSuccessfulStages, exec_bind, exec_get] at ran
    dsimp only at ran
    by_cases same : stageId = other
    · -- the stage's own entry marks its partitions; the rest of the loop never names it
      subst same
      rw [if_pos rfl, Option.some.injEq] at scheduled
      subst scheduled
      simp only [successful] at ran
      obtain ⟨_, middle, first, later⟩ := exec_bind_eq_ok ran
      obtain ⟨marked, markedAt, marks⟩ := markLostOutputs_of_successful jobId stageId _ successful first
      refine ⟨marked, ?_, marks⟩
      rw [(onlyStages_resubmitSuccessfulStages jobId rest).of_exec later stageId distinct.1]
      exact markedAt
    · rw [if_neg same] at scheduled
      split at ran
      · obtain ⟨_, middle, first, later⟩ := exec_bind_eq_ok ran
        have kept := ((onlyStages_markLostOutputs jobId other missingParts).of_exec first).get?_of_ne same
        exact resubmitSuccessfulStages_of_successful jobId distinct.2 scheduled (kept.trans successful) later
      · exact resubmitSuccessfulStages_of_successful jobId distinct.2 scheduled successful ran
      · rw [exec_bind_of_error (exec_throw _ _)] at ran
        cases ran

/-- A call that marks no stage failed and returns: the phases it ran, each to a
value, from the write-back of the failed attempts to the reruns. -/
theorem applyStatusUpdates_of_noneFailed {jobId : String} {updates : StatusUpdates}
    {graph next : ExecutionGraph Plan} {events : List QueryStageSchedulerEvent}
    (ran : (applyStatusUpdates jobId updates).exec graph = (.ok events, next))
    (noneFailed : updates.failedStages = []) :
    ∃ marked reset resolved succeeded rolledBack tasks,
      (resubmitSuccessfulStages jobId updates.resubmitSuccessfulStages).exec
          (graph.writeFailedAttempts updates.failedStageAttempts) = (.ok (), marked) ∧
      (resetRunningStages jobId updates.resetRunningStages).exec marked = (.ok (), reset) ∧
      (resolveStages updates.resolvedStages).exec reset = (.ok (), resolved) ∧
      (succeedStages updates.successfulStages).exec resolved = (.ok (), succeeded) ∧
      (rollbackRunningStages updates.rollbackRunningStages).exec succeeded = (.ok tasks, rolledBack) ∧
      OnlyStages [] ((rerunSuccessfulStages updates.resubmitSuccessfulStages.keys).exec rolledBack).2 next := by
  unfold applyStatusUpdates at ran
  obtain ⟨⟨⟩, _, wrote, ran⟩ := exec_bind_eq_ok ran
  rw [exec_modify, Prod.mk.injEq] at wrote
  obtain ⟨-, rfl⟩ := wrote
  obtain ⟨⟨⟩, marked, wereMarked, ran⟩ := exec_bind_eq_ok ran
  obtain ⟨⟨⟩, reset, wereReset, ran⟩ := exec_bind_eq_ok ran
  unfold processingStagesUpdate at ran
  obtain ⟨_, _, got, ran⟩ := exec_bind_eq_ok ran
  rw [exec_get, Prod.mk.injEq, Except.ok.injEq] at got
  obtain ⟨rfl, rfl⟩ := got
  dsimp only at ran
  obtain ⟨⟨⟩, resolved, wereResolved, ran⟩ := exec_bind_eq_ok ran
  obtain ⟨⟨⟩, succeeded, wereSucceeded, ran⟩ := exec_bind_eq_ok ran
  obtain ⟨_, rerun, wereRolled, finished⟩ := exec_bind_eq_ok ran
  -- with no stage failed, the rollbacks and the reruns are made
  unfold rollbackAndRerun at wereRolled
  simp only [StatusUpdates.toUpdatedStages, noneFailed, List.isEmpty_nil, if_true] at wereRolled
  obtain ⟨tasks, rolledBack, wereRolledBack, wereRolled⟩ := exec_bind_eq_ok wereRolled
  obtain ⟨⟨⟩, reran, wereRerun, cancelled⟩ := exec_bind_eq_ok wereRolled
  have same : rerun = reran := by
    split at cancelled <;>
    · rw [exec_pure, Prod.mk.injEq] at cancelled
      exact cancelled.2.symm
  subst same
  refine ⟨marked, reset, resolved, succeeded, rolledBack, tasks, wereMarked, wereReset, wereResolved,
    wereSucceeded, wereRolledBack, ?_⟩
  rw [wereRerun]
  exact (onlyStages_finishStagesUpdate _ _ _ _).of_exec finished

/-- **A scheduled rollback is made.** In a call that marks no stage failed, a
stage scheduled to roll back, running when the sets are applied and named by no
other set of the call, ends unresolved at its next attempt. -/
theorem applyStatusUpdates_rollsBack {jobId : String} {updates : StatusUpdates}
    {graph next : ExecutionGraph Plan} {events : List QueryStageSchedulerEvent}
    (ran : (applyStatusUpdates jobId updates).exec graph = (.ok events, next))
    (noneFailed : updates.failedStages = []) (distinct : updates.rollbackRunningStages.keys.Nodup)
    {stageId : Nat} {failureReasons : List String} {stage : RunningStage Plan}
    (scheduled : updates.rollbackRunningStages.get? stageId = some failureReasons)
    (running : graph.stages.get? stageId = some (.running stage))
    (notResubmitted : stageId ∉ updates.resubmitSuccessfulStages.keys)
    (notReset : stageId ∉ updates.resetRunningStages.keys)
    (notResolved : stageId ∉ updates.resolvedStages) (notSucceeded : stageId ∉ updates.successfulStages) :
    ∃ unresolved, stage.toUnresolved failureReasons = .ok unresolved ∧
      next.stages.get? stageId = some (.unResolved unresolved) := by
  obtain ⟨marked, reset, resolved, succeeded, rolledBack, tasks, wereMarked, wereReset, wereResolved,
    wereSucceeded, wereRolledBack, finished⟩ := applyStatusUpdates_of_noneFailed ran noneFailed
  -- the stage is as the read left it until its rollback, and as the rollback left it after
  have stillRunning : succeeded.stages.get? stageId = some (.running stage) := by
    rw [(onlyStages_succeedStages _).of_exec wereSucceeded stageId notSucceeded,
      (onlyStages_resolveStages _).of_exec wereResolved stageId notResolved,
      (onlyStages_resetRunningStages jobId _).of_exec wereReset stageId notReset,
      (onlyStages_resubmitSuccessfulStages jobId _).of_exec wereMarked stageId notResubmitted,
      stages_writeFailedAttempts]
    exact running
  obtain ⟨unresolved, rolled, rolledAt⟩ :=
    rollbackRunningStages_of_running distinct scheduled stillRunning wereRolledBack
  refine ⟨unresolved, rolled, ?_⟩
  rw [finished stageId List.not_mem_nil,
    (onlyStages_rerunSuccessfulStages _).of_exec (Prod.eta _).symm stageId notResubmitted]
  exact rolledAt

/-- **A scheduled rerun is made.** In a call that marks no stage failed, a map
stage scheduled to rerun, successful when the sets are applied and named by no
other set of the call, ends running at its next attempt, with exactly the
partitions scheduled, and those whose task had not succeeded, to run again. -/
theorem applyStatusUpdates_reruns {jobId : String} {updates : StatusUpdates}
    {graph next : ExecutionGraph Plan} {events : List QueryStageSchedulerEvent}
    (ran : (applyStatusUpdates jobId updates).exec graph = (.ok events, next))
    (noneFailed : updates.failedStages = []) (distinct : updates.resubmitSuccessfulStages.keys.Nodup)
    {stageId : Nat} {parts : List Nat} {stage : SuccessfulStage Plan}
    (scheduled : updates.resubmitSuccessfulStages.get? stageId = some parts)
    (successful : graph.stages.get? stageId = some (.successful stage))
    (notReset : stageId ∉ updates.resetRunningStages.keys)
    (notResolved : stageId ∉ updates.resolvedStages) (notSucceeded : stageId ∉ updates.successfulStages)
    (notRolledBack : stageId ∉ updates.rollbackRunningStages.keys) :
    ∃ marked, MarksLost parts stage marked ∧ next.stages.get? stageId = some (.running marked.toRunning) := by
  obtain ⟨marked, reset, resolved, succeeded, rolledBack, tasks, wereMarked, wereReset, wereResolved,
    wereSucceeded, wereRolledBack, finished⟩ := applyStatusUpdates_of_noneFailed ran noneFailed
  obtain ⟨markedStage, markedAt, marks⟩ :=
    resubmitSuccessfulStages_of_successful jobId distinct scheduled
      (by rw [stages_writeFailedAttempts]; exact successful) wereMarked
  -- the marked stage stays as it is until its rerun
  have stillMarked : rolledBack.stages.get? stageId = some (.successful markedStage) := by
    rw [(onlyStages_rollbackRunningStages _).of_exec wereRolledBack stageId notRolledBack,
      (onlyStages_succeedStages _).of_exec wereSucceeded stageId notSucceeded,
      (onlyStages_resolveStages _).of_exec wereResolved stageId notResolved,
      (onlyStages_resetRunningStages jobId _).of_exec wereReset stageId notReset]
    exact markedAt
  refine ⟨markedStage, marks, ?_⟩
  rw [finished stageId List.not_mem_nil]
  exact rerunSuccessfulStages_of_successful distinct (Table.mem_keys_of_get? scheduled) stillMarked

/-- What the application of a call's sets makes of the stages scheduled to
roll back or to rerun and named by no other set: a running stage ends
unresolved at its next attempt, with its inputs, and a successful map stage
ends running at its next attempt, with exactly the scheduled partitions, and
those whose task had not succeeded, waiting to run. -/
structure AppliesSchedules (updates : StatusUpdates) (graph next : ExecutionGraph Plan) : Prop where
  rollsBack : ∀ stageId failureReasons (stage : RunningStage Plan),
    updates.rollbackRunningStages.get? stageId = some failureReasons →
    graph.stages.get? stageId = some (.running stage) →
    stageId ∉ updates.resubmitSuccessfulStages.keys → stageId ∉ updates.resetRunningStages.keys →
    stageId ∉ updates.resolvedStages → stageId ∉ updates.successfulStages →
    ∃ unresolved, stage.toUnresolved failureReasons = .ok unresolved ∧
      next.stages.get? stageId = some (.unResolved unresolved) ∧
      unresolved.stageAttemptNum = stage.stageAttemptNum + 1 ∧ unresolved.inputs = stage.inputs
  reruns : ∀ stageId parts (stage : SuccessfulStage Plan),
    updates.resubmitSuccessfulStages.get? stageId = some parts →
    graph.stages.get? stageId = some (.successful stage) →
    stageId ∉ updates.resetRunningStages.keys → stageId ∉ updates.resolvedStages →
    stageId ∉ updates.successfulStages → stageId ∉ updates.rollbackRunningStages.keys →
    ∃ rerun : RunningStage Plan, next.stages.get? stageId = some (.running rerun) ∧
      rerun.stageAttemptNum = stage.stageAttemptNum + 1 ∧
      rerun.taskInfos.length = stage.taskInfos.length ∧
      (∀ partition ∈ parts, rerun.taskInfos[partition]? = some none) ∧
      ∀ partition ∉ parts, rerun.taskInfos[partition]? =
        stage.taskInfos[partition]?.map fun task =>
          if TaskInfo.isSuccessful (some task) then some task else none

/-- In a call that marks no stage failed, and schedules each stage once, the
scheduled rollbacks and reruns are made. -/
theorem applyStatusUpdates_appliesSchedules {jobId : String} {updates : StatusUpdates}
    {graph next : ExecutionGraph Plan} {events : List QueryStageSchedulerEvent}
    (ran : (applyStatusUpdates jobId updates).exec graph = (.ok events, next))
    (noneFailed : updates.failedStages = [])
    (rollbackDistinct : updates.rollbackRunningStages.keys.Nodup)
    (resubmitDistinct : updates.resubmitSuccessfulStages.keys.Nodup) :
    AppliesSchedules updates graph next where
  rollsBack _ _ _ scheduled running notResubmitted notReset notResolved notSucceeded := by
    obtain ⟨unresolved, rolled, rolledAt⟩ := applyStatusUpdates_rollsBack ran noneFailed rollbackDistinct
      scheduled running notResubmitted notReset notResolved notSucceeded
    obtain ⟨-, attempt, -, inputs⟩ := ExecutionStage.rollbackRunning_eq_ok rolled
    exact ⟨unresolved, rolled, rolledAt, attempt, inputs⟩
  reruns _ _ _ scheduled successful notReset notResolved notSucceeded notRolledBack := by
    obtain ⟨marked, marks, rerunAt⟩ := applyStatusUpdates_reruns ran noneFailed resubmitDistinct
      scheduled successful notReset notResolved notSucceeded notRolledBack
    exact ⟨marked.toRunning, rerunAt, marks.toRunning⟩

end Scheduled

end Ballista
