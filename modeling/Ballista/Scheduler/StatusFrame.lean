import Ballista.Scheduler.UpdateTaskStatus
import Ballista.Scheduler.ExecutorLost

/-! # Which methods write the job's status

Only `fail_job` and `succeed_job` write a graph's `status`. Every other method
of the graph, through every branch, error and panic included, leaves the
status as it found it (`SameStatus`), and a call of `update_task_status`
keeps it, fails the job, or finalizes a job whose stages all succeeded
(`StatusOutcome`). The proofs build these frame conditions method by method
from the rules of `ExceptT.Steps`, in the order the methods call each other.
-/

namespace Ballista

open ExceptT

variable {Plan : Type}

namespace ExecutionGraph

/-- The job's status is the same. -/
def SameStatus (graph next : ExecutionGraph Plan) : Prop := next.status = graph.status

instance : IsPreorder (ExecutionGraph Plan) SameStatus where
  refl _ := rfl
  trans _ _ _ first second := second.trans first

end ExecutionGraph

open ExecutionGraph

theorem sameStatus_liftError {α : Type} (result : Except BallistaError α) :
    Steps SameStatus (liftError result : GraphM Plan α) := by
  cases result with
  | ok value => exact Steps.pure value
  | error e => exact Steps.throw _

theorem sameStatus_liftFault {α : Type} (result : Except Fault α) :
    Steps SameStatus (liftFault result : GraphM Plan α) := by
  cases result with
  | ok value => exact Steps.pure value
  | error fault => exact Steps.throw fault

theorem sameStatus_reviveM : Steps SameStatus (reviveM : GraphM Plan Bool) :=
  Steps.modifyGet fun _ => rfl

theorem sameStatus_resolveStage [StagePlan Plan] (stageId : Nat) :
    Steps SameStatus (resolveStage stageId : GraphM Plan Bool) := by
  refine Steps.bind Steps.get fun graph => ?_
  split
  · split
    · exact Steps.bind (Steps.modify fun _ => rfl) fun _ => Steps.pure _
    · exact Steps.bind (Steps.modify fun _ => rfl) fun _ => Steps.throw _
  · exact Steps.bind (Steps.modify fun _ => rfl) fun _ => Steps.pure _
  · exact Steps.pure _

theorem sameStatus_succeedStage (stageId : Nat) :
    Steps SameStatus (succeedStage stageId : GraphM Plan Bool) := by
  refine Steps.bind Steps.get fun graph => ?_
  split
  · refine Steps.bind (sameStatus_liftFault _) fun successful => ?_
    exact Steps.bind (Steps.modify fun _ => rfl) fun _ => Steps.pure _
  · exact Steps.bind (Steps.modify fun _ => rfl) fun _ => Steps.pure _
  · exact Steps.pure _

theorem sameStatus_rollbackRunningStage [StagePlan Plan] (stageId : Nat) (failureReasons : List String) :
    Steps SameStatus (rollbackRunningStage stageId failureReasons : GraphM Plan (List RunningTaskInfo)) := by
  refine Steps.bind Steps.get fun graph => ?_
  split
  · split
    · exact Steps.bind (Steps.modify fun _ => rfl) fun _ => Steps.pure _
    · exact Steps.bind (Steps.modify fun _ => rfl) fun _ => Steps.throw _
  · exact Steps.bind (Steps.modify fun _ => rfl) fun _ => Steps.pure _
  · exact Steps.pure _

theorem sameStatus_rollbackResolvedStage [StagePlan Plan] (stageId : Nat) :
    Steps SameStatus (rollbackResolvedStage stageId : GraphM Plan Bool) := by
  refine Steps.bind Steps.get fun graph => ?_
  split
  · split
    · exact Steps.bind (Steps.modify fun _ => rfl) fun _ => Steps.pure _
    · exact Steps.bind (Steps.modify fun _ => rfl) fun _ => Steps.throw _
  · exact Steps.bind (Steps.modify fun _ => rfl) fun _ => Steps.pure _
  · exact Steps.pure _

theorem sameStatus_rerunSuccessfulStage (stageId : Nat) :
    Steps SameStatus (rerunSuccessfulStage stageId : GraphM Plan Bool) := by
  refine Steps.bind Steps.get fun graph => ?_
  split
  · exact Steps.bind (Steps.modify fun _ => rfl) fun _ => Steps.pure _
  · exact Steps.bind (Steps.modify fun _ => rfl) fun _ => Steps.pure _
  · exact Steps.pure _

theorem sameStatus_publishToLinks (stageId : Nat) (isCompleted : Bool)
    (locations : List PartitionLocation) :
    ∀ links, Steps SameStatus (publishToLinks stageId isCompleted locations links : GraphM Plan (List Nat))
  | [] => Steps.pure _
  | link :: links => by
    refine Steps.bind Steps.get fun graph => ?_
    split
    · refine Steps.bind (sameStatus_liftError _) fun linked => ?_
      refine Steps.bind (Steps.modify fun _ => rfl) fun _ => ?_
      exact Steps.bind (sameStatus_publishToLinks stageId isCompleted locations links) fun _ => Steps.pure _
    · exact Steps.throw _
    · exact Steps.throw _

theorem sameStatus_updateStageOutputLinks (stageId : Nat) (isCompleted : Bool)
    (locations : List PartitionLocation) (outputLinks : List Nat) :
    Steps SameStatus (updateStageOutputLinks stageId isCompleted locations outputLinks : GraphM Plan (List Nat)) := by
  unfold updateStageOutputLinks
  split
  · exact Steps.bind (Steps.modify fun _ => rfl) fun _ => Steps.pure _
  · exact sameStatus_publishToLinks stageId isCompleted locations outputLinks

theorem sameStatus_markLostOutputs (jobId : String) (stageId : Nat) :
    ∀ partitions, Steps SameStatus (markLostOutputs jobId stageId partitions : GraphM Plan Unit)
  | [] => Steps.pure _
  | partition :: rest => by
    refine Steps.bind Steps.get fun graph => ?_
    dsimp only
    split
    · -- the `if` without `else` repeats the rest of the loop body in both branches
      split
      · refine Steps.bind (Steps.throw _) fun _ => ?_
        split
        · exact Steps.bind (Steps.modify fun _ => rfl) fun _ =>
            sameStatus_markLostOutputs jobId stageId rest
        · exact Steps.throw _
      · split
        · exact Steps.bind (Steps.modify fun _ => rfl) fun _ =>
            sameStatus_markLostOutputs jobId stageId rest
        · exact Steps.throw _
    · exact sameStatus_markLostOutputs jobId stageId rest

theorem sameStatus_resubmitSuccessfulStages (jobId : String) :
    ∀ resubmit, Steps SameStatus (resubmitSuccessfulStages jobId resubmit : GraphM Plan Unit)
  | [] => Steps.pure _
  | (stageId, missingParts) :: rest => by
    refine Steps.bind Steps.get fun graph => ?_
    dsimp only
    split
    · exact Steps.bind (sameStatus_markLostOutputs jobId stageId missingParts) fun _ =>
        sameStatus_resubmitSuccessfulStages jobId rest
    · exact sameStatus_resubmitSuccessfulStages jobId rest
    · exact Steps.bind (Steps.throw _) fun _ => sameStatus_resubmitSuccessfulStages jobId rest

theorem sameStatus_resetLostTasks (stageId : Nat) :
    ∀ partitions, Steps SameStatus (resetLostTasks stageId partitions : GraphM Plan Unit)
  | [] => Steps.pure _
  | partition :: rest => by
    refine Steps.bind Steps.get fun graph => ?_
    dsimp only
    split
    · have reset : ∀ result : Except Fault (RunningStage Plan),
          Steps SameStatus (do
            let stage ← liftFault result
            modify (·.setStage stageId (.running stage))
            resetLostTasks stageId rest : GraphM Plan Unit) := fun result =>
        Steps.bind (sameStatus_liftFault result) fun _ =>
          Steps.bind (Steps.modify fun _ => rfl) fun _ => sameStatus_resetLostTasks stageId rest
      split
      · exact Steps.bind (Steps.throw _) fun _ => reset _
      · exact reset _
    · exact sameStatus_resetLostTasks stageId rest

theorem sameStatus_resetRunningStages (jobId : String) :
    ∀ reset, Steps SameStatus (resetRunningStages jobId reset : GraphM Plan Unit)
  | [] => Steps.pure _
  | (stageId, missingParts) :: rest => by
    refine Steps.bind Steps.get fun graph => ?_
    dsimp only
    split
    · exact Steps.bind (sameStatus_resetLostTasks stageId missingParts) fun _ =>
        sameStatus_resetRunningStages jobId rest
    · exact sameStatus_resetRunningStages jobId rest
    · exact Steps.bind (Steps.throw _) fun _ => sameStatus_resetRunningStages jobId rest

theorem sameStatus_resolveStages [StagePlan Plan] :
    ∀ stageIds, Steps SameStatus (resolveStages stageIds : GraphM Plan Unit)
  | [] => Steps.pure _
  | stageId :: rest =>
    Steps.bind (sameStatus_resolveStage stageId) fun _ => sameStatus_resolveStages rest

theorem sameStatus_succeedStages :
    ∀ stageIds, Steps SameStatus (succeedStages stageIds : GraphM Plan Unit)
  | [] => Steps.pure _
  | stageId :: rest =>
    Steps.bind (sameStatus_succeedStage stageId) fun _ => sameStatus_succeedStages rest

theorem sameStatus_rollbackRunningStages [StagePlan Plan] :
    ∀ rollbacks, Steps SameStatus (rollbackRunningStages rollbacks : GraphM Plan (List RunningTaskInfo))
  | [] => Steps.pure _
  | (stageId, failureReasons) :: rest =>
    Steps.bind (sameStatus_rollbackRunningStage stageId failureReasons) fun _ =>
      Steps.bind (sameStatus_rollbackRunningStages rest) fun _ => Steps.pure _

theorem sameStatus_rerunSuccessfulStages :
    ∀ stageIds, Steps SameStatus (rerunSuccessfulStages stageIds : GraphM Plan Unit)
  | [] => Steps.pure _
  | stageId :: rest =>
    Steps.bind (sameStatus_rerunSuccessfulStage stageId) fun _ => sameStatus_rerunSuccessfulStages rest

namespace ExecutionGraph

/-- The job was finalized by `succeed_job`: every stage is successful and the
status holds the job's output locations. -/
def Finalized (graph : ExecutionGraph Plan) : Prop :=
  graph.isSuccessful = true ∧ graph.status.status = some (.successful graph.outputLocations)

/-- What a call of `update_task_status` can do to the job's status: keep it,
fail the job, or finalize it. -/
def StatusOutcome (graph next : ExecutionGraph Plan) : Prop :=
  next.status = graph.status ∨ next.isFailed = true ∨ next.Finalized

theorem SameStatus.isFailed_eq {graph next : ExecutionGraph Plan} (same : SameStatus graph next) :
    next.isFailed = graph.isFailed := by
  simp only [isFailed, same.symm]

theorem StatusOutcome.of_sameStatus {graph next : ExecutionGraph Plan}
    (same : SameStatus graph next) : StatusOutcome graph next :=
  .inl same

theorem StatusOutcome.absorb {graph middle next : ExecutionGraph Plan}
    (same : SameStatus graph middle) : StatusOutcome middle next → StatusOutcome graph next
  | .inl kept => .inl (kept.trans same)
  | .inr changed => .inr changed

end ExecutionGraph

theorem sameStatus_rollbackAndRerun [StagePlan Plan] (updated : UpdatedStages) :
    Steps SameStatus (rollbackAndRerun updated : GraphM Plan (List QueryStageSchedulerEvent)) := by
  unfold rollbackAndRerun
  split
  · refine Steps.bind (sameStatus_rollbackRunningStages _) fun tasks => ?_
    refine Steps.bind (sameStatus_rerunSuccessfulStages _) fun _ => ?_
    split
    · exact Steps.pure _
    · exact Steps.pure _
  · exact Steps.pure _

theorem statusOutcome_finishStagesUpdate (jobId : String) (failedStages : Table Nat String)
    (hasResolved : Bool) (events : List QueryStageSchedulerEvent) :
    Steps StatusOutcome
      (finishStagesUpdate jobId failedStages hasResolved events : GraphM Plan (List QueryStageSchedulerEvent)) := by
  unfold finishStagesUpdate
  dsimp only
  split
  · intro graph
    simp
    exact .inr (.inl rfl)
  · refine Steps.bind_get fun graph => ?_
    split
    · rename_i successful
      simp [succeedJob, exec_bind, exec_map, successful]
      exact .inr (.inr ⟨successful, rfl⟩)
    · split
      · exact .inl rfl
      · exact .inl rfl

theorem statusOutcome_processingStagesUpdate [StagePlan Plan] (updated : UpdatedStages) :
    Steps StatusOutcome (processingStagesUpdate updated : GraphM Plan (List QueryStageSchedulerEvent)) := by
  have le : ∀ graph next : ExecutionGraph Plan, SameStatus graph next → StatusOutcome graph next :=
    fun _ _ => StatusOutcome.of_sameStatus
  have absorb : ∀ graph middle next : ExecutionGraph Plan,
      SameStatus graph middle → StatusOutcome middle next → StatusOutcome graph next :=
    fun _ _ _ => StatusOutcome.absorb
  unfold processingStagesUpdate
  refine Steps.bind_mono le absorb Steps.get fun graph => ?_
  refine Steps.bind_mono le absorb (sameStatus_resolveStages _) fun _ => ?_
  refine Steps.bind_mono le absorb (sameStatus_succeedStages _) fun _ => ?_
  refine Steps.bind_mono le absorb (sameStatus_rollbackAndRerun _) fun events => ?_
  exact statusOutcome_finishStagesUpdate _ _ _ _

namespace UpdateState

/-- The status of the job of the graph in the loop's state is the same. -/
def SameStatus (state next : UpdateState Plan) : Prop := next.graph.status = state.graph.status

instance : IsPreorder (UpdateState Plan) SameStatus where
  refl _ := rfl
  trans _ _ _ first second := second.trans first

end UpdateState

theorem exec_onGraph {α : Type} (method : GraphM Plan α) (state : UpdateState Plan) :
    (onGraph method).exec state =
      ((method.exec state.graph).1, { state with graph := (method.exec state.graph).2 }) := by
  rfl

theorem sameStatus_onGraph {α : Type} {method : GraphM Plan α}
    (steps : Steps SameStatus method) : Steps UpdateState.SameStatus (onGraph method) := by
  intro state
  rw [exec_onGraph]
  exact steps state.graph

theorem sameStatus_updateStageTaskStatuses (ctx : UpdateContext) (stageId : Nat)
    (statuses : List TaskStatus) :
    Steps UpdateState.SameStatus (updateStageTaskStatuses ctx stageId statuses : UpdateM Plan Unit) := by
  refine Steps.bind_get fun state => ?_
  split
  · split
    · exact Steps.set_bind rfl (Steps.throw _)
    · refine Steps.set_bind rfl ?_
      exact Steps.bind (sameStatus_onGraph (sameStatus_updateStageOutputLinks _ _ _ _)) fun _ =>
        Steps.modify fun _ => rfl
  · split
    · exact Steps.set_bind rfl (Steps.throw _)
    · exact rfl
  · exact rfl
  · exact rfl

theorem sameStatus_visitGroups (ctx : UpdateContext) (groups : Table Nat (List TaskStatus)) :
    ∀ visit, Steps UpdateState.SameStatus (visitGroups ctx groups visit : UpdateM Plan Unit)
  | [] => Steps.pure _
  | stageId :: rest =>
    Steps.bind (sameStatus_updateStageTaskStatuses ctx stageId _) fun _ =>
      sameStatus_visitGroups ctx groups rest

theorem sameStatus_readTaskStatuses (executor : ExecutorMetadata)
    (maxTaskFailures maxStageFailures : Nat) (groups : Table Nat (List TaskStatus))
    (visit : List Nat) :
    Steps SameStatus
      (readTaskStatuses executor maxTaskFailures maxStageFailures groups visit : GraphM Plan StatusUpdates) := by
  refine Steps.bind_get fun graph => ?_
  dsimp only
  refine Steps.set_bind
    (sameStatus_visitGroups _ groups visit { graph := graph, updates := StatusUpdates.initial graph }) ?_
  exact Steps.bind (sameStatus_liftFault _) fun _ => Steps.pure _

theorem statusOutcome_bind {α β : Type} {m : GraphM Plan α} {f : α → GraphM Plan β}
    (first : Steps SameStatus m) (rest : ∀ a, Steps StatusOutcome (f a)) :
    Steps StatusOutcome (m >>= f) :=
  Steps.bind_mono (fun _ _ => StatusOutcome.of_sameStatus) (fun _ _ _ => StatusOutcome.absorb)
    first rest

theorem statusOutcome_applyStatusUpdates [StagePlan Plan] (jobId : String) (updates : StatusUpdates) :
    Steps StatusOutcome (applyStatusUpdates jobId updates : GraphM Plan (List QueryStageSchedulerEvent)) := by
  unfold applyStatusUpdates
  refine statusOutcome_bind (Steps.modify fun _ => rfl) fun _ => ?_
  refine statusOutcome_bind (sameStatus_resubmitSuccessfulStages _ _) fun _ => ?_
  refine statusOutcome_bind (sameStatus_resetRunningStages _ _) fun _ => ?_
  exact statusOutcome_processingStagesUpdate _

/-- `update_task_status` keeps the job's status, fails the job, or finalizes it
with every stage successful. -/
theorem statusOutcome_updateTaskStatus [StagePlan Plan] (executor : ExecutorMetadata) (taskStatuses : List TaskStatus)
    (maxTaskFailures maxStageFailures : Nat) (visit : List Nat) :
    Steps StatusOutcome (updateTaskStatus executor taskStatuses maxTaskFailures maxStageFailures
      visit : GraphM Plan (List QueryStageSchedulerEvent)) := by
  unfold updateTaskStatus
  refine statusOutcome_bind Steps.get fun graph => ?_
  refine statusOutcome_bind sameStatus_reviveM fun _ => ?_
  refine statusOutcome_bind (sameStatus_readTaskStatuses _ _ _ _ _) fun updates => ?_
  exact statusOutcome_applyStatusUpdates _ _

theorem sameStatus_rollbackResolvedStages [StagePlan Plan] :
    ∀ stageIds, Steps SameStatus (rollbackResolvedStages stageIds : GraphM Plan Unit)
  | [] => Steps.pure _
  | stageId :: rest =>
    Steps.bind (sameStatus_rollbackResolvedStage stageId) fun _ => sameStatus_rollbackResolvedStages rest

theorem sameStatus_rollbackLostRunningStages [StagePlan Plan] (executorId : String) :
    ∀ stageIds, Steps SameStatus
      (rollbackLostRunningStages executorId stageIds : GraphM Plan (List RunningTaskInfo))
  | [] => Steps.pure _
  | stageId :: rest =>
    Steps.bind (sameStatus_rollbackRunningStage stageId _) fun _ =>
      Steps.bind (sameStatus_rollbackLostRunningStages executorId rest) fun _ => Steps.pure _

theorem sameStatus_rerunStages :
    ∀ stageIds, Steps SameStatus (rerunStages stageIds : GraphM Plan Unit)
  | [] => Steps.pure _
  | stageId :: rest =>
    Steps.bind (sameStatus_rerunSuccessfulStage stageId) fun _ => sameStatus_rerunStages rest

theorem sameStatus_resetStagesInternal [StagePlan Plan] (executorId : String) :
    Steps SameStatus (resetStagesInternal executorId : GraphM Plan (List Nat × List RunningTaskInfo)) := by
  refine Steps.bind_get fun graph => ?_
  dsimp only
  refine Steps.set_bind rfl ?_
  refine Steps.bind (sameStatus_rollbackResolvedStages _) fun _ => ?_
  refine Steps.bind (sameStatus_rollbackLostRunningStages _ _) fun _ => ?_
  exact Steps.bind (sameStatus_rerunStages _) fun _ => Steps.pure _

theorem sameStatus_resetStagesOnLostExecutorFrom [StagePlan Plan] (executorId : String) :
    ∀ (reset : List Nat) (tasksToCancel : List RunningTaskInfo) (fuel : Nat),
      Steps SameStatus (resetStagesOnLostExecutorFrom executorId reset tasksToCancel fuel :
        GraphM Plan (List Nat × List RunningTaskInfo))
  | _, _, 0 => Steps.throw _
  | reset, tasksToCancel, fuel + 1 => by
    refine Steps.bind (sameStatus_resetStagesInternal executorId) fun round => ?_
    obtain ⟨resetStage, tasks⟩ := round
    dsimp only
    split
    · exact sameStatus_resetStagesOnLostExecutorFrom executorId _ _ fuel
    · exact Steps.pure _

theorem sameStatus_resetStagesOnLostExecutor [StagePlan Plan] (executorId : String) :
    Steps SameStatus (resetStagesOnLostExecutor executorId : GraphM Plan (List Nat × List RunningTaskInfo)) :=
  Steps.bind Steps.get fun _ => sameStatus_resetStagesOnLostExecutorFrom executorId [] [] _

end Ballista
