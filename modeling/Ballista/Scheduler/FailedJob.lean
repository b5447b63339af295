import Ballista.Scheduler.StatusFrame
import Ballista.Scheduler.Run

/-! # After a job fails

`pop_next_task` and `fetch_running_stage` check `is_failed` first, so a failed
job hands out no task, and no method but `fail_job` and `succeed_job` writes
the job's status. `processing_stages_update` calls `succeed_job` whenever every
stage is successful, without looking at the status: the statuses of the tasks
still running when the job was aborted can complete its stages and move it
from `Failed` to `Successful` (`abortedJob_succeeds_run`). Up to that point the
job stays failed and its run hands out nothing
(`failedJob_staysFailed_untilFinalized`).
-/

namespace Ballista

open ExceptT ExecutionGraph

variable {Plan : Type}

theorem popNextTask_of_failed {graph : ExecutionGraph Plan} (failed : graph.isFailed = true)
    (executorId : String) : (popNextTask executorId).exec graph = (.ok none, graph) := by
  simp [popNextTask, popNextTaskFrom, exec_bind, failed]

theorem fetchRunningStage_of_failed {graph : ExecutionGraph Plan} (failed : graph.isFailed = true)
    (blackList : List Nat) : (fetchRunningStage blackList).exec graph = (.ok none, graph) := by
  simp [fetchRunningStage, exec_bind, failed]

theorem bindTasks_of_failed {graph : ExecutionGraph Plan} (failed : graph.isFailed = true)
    (blackList : List Nat) (executors : List String) :
    (bindTasks blackList executors).exec graph = (.ok [], graph) := by
  simp [bindTasks, exec_bind, fetchRunningStage_of_failed failed]

/-- One step from a failed job hands out nothing and leaves the job failed, or
finalizes it. -/
theorem JobStep.of_failed [StagePlan Plan] {limits : RetryLimits} {run next : JobRun Plan}
    (step : JobStep limits run next) (failed : run.graph.isFailed = true) :
    next.issued = run.issued ∧ (next.graph.isFailed = true ∨ next.graph.Finalized) := by
  cases step with
  | revive => exact ⟨rfl, .inl failed⟩
  | popNextTask executorId result graph ran =>
    rw [popNextTask_of_failed failed] at ran
    obtain ⟨rfl, rfl⟩ := Prod.mk.inj ran
    exact ⟨by simp [handedOutTask], .inl failed⟩
  | bindTasks blackList executors result graph ran =>
    rw [bindTasks_of_failed failed] at ran
    obtain ⟨rfl, rfl⟩ := Prod.mk.inj ran
    exact ⟨by simp [handedOutTasks], .inl failed⟩
  | updateTaskStatus executor statuses visit result graph _ _ ran =>
    rcases (statusOutcome_updateTaskStatus executor statuses _ _ visit).of_exec ran with
      same | nowFailed | finalized
    · exact ⟨rfl, .inl ((SameStatus.isFailed_eq same).trans failed)⟩
    · exact ⟨rfl, .inl nowFailed⟩
    · exact ⟨rfl, .inr finalized⟩
  | resetStagesOnLostExecutor executorId result graph ran =>
    have same := (sameStatus_resetStagesOnLostExecutor executorId).of_exec ran
    exact ⟨rfl, .inl ((SameStatus.isFailed_eq same).trans failed)⟩
  | abort => exact ⟨rfl, .inl rfl⟩

/-- In every run from a failed job, the job stays failed, hands out no task and
gets none from `pop_next_task` or `fetch_running_stage`, until a step finalizes
it. -/
theorem failedJob_staysFailed_untilFinalized [StagePlan Plan] {limits : RetryLimits} {run next : JobRun Plan}
    (failed : run.graph.isFailed = true) (reach : Reaches limits run next) :
    (next.graph.isFailed = true ∧ next.issued = run.issued ∧
        (∀ executorId, (popNextTask executorId).exec next.graph = (.ok none, next.graph)) ∧
        (∀ blackList, (fetchRunningStage blackList).exec next.graph = (.ok none, next.graph))) ∨
      ∃ before after, Reaches limits run before ∧ before.graph.isFailed = true ∧
        JobStep limits before after ∧ after.graph.Finalized ∧ Reaches limits after next := by
  induction reach with
  | refl =>
    exact .inl ⟨failed, rfl, popNextTask_of_failed failed, fetchRunningStage_of_failed failed⟩
  | tail reached step ih =>
    rcases ih with ⟨stillFailed, sameIssued, -, -⟩ | ⟨before, after, toBefore, wasFailed, finalizing,
      finalized, toMiddle⟩
    · obtain ⟨issued, nowFailed | finalized⟩ := step.of_failed stillFailed
      · exact .inl ⟨nowFailed, issued.trans sameIssued, popNextTask_of_failed nowFailed,
          fetchRunningStage_of_failed nowFailed⟩
      · exact .inr ⟨_, _, reached, stillFailed, step, finalized, .refl⟩
    · exact .inr ⟨before, after, toBefore, wasFailed, finalizing, finalized, toMiddle.tail step⟩

/-- The reduce task 1 of `twoStageJob` succeeds on `executor-2`. -/
def reduceDone : TaskStatus :=
  asTaskStatus (.ok [⟨0, "/out/0", 1, 1, 1⟩]) "executor-2" 1 0 ⟨"job", 2, 0⟩ none

/-- The reduce task 2 of `twoStageJob` succeeds on `executor-3`. -/
def reduceDoneOther : TaskStatus :=
  asTaskStatus (.ok [⟨0, "/out/1", 1, 1, 1⟩]) "executor-3" 2 0 ⟨"job", 2, 1⟩ none

/-- The map stage of `twoStageJob` succeeds, both reduce tasks are handed out,
and the job is aborted while they run. -/
def abortedWhileReducingOps : List JobOp :=
  reducesRunningOps ++ [.abort "cancelled"]

/-- The two running reduce tasks report their success. -/
def reducesDoneOps : List JobOp :=
  [.updateTaskStatus ⟨"executor-2"⟩ [reduceDone] [2],
   .updateTaskStatus ⟨"executor-3"⟩ [reduceDoneOther] [2]]

/-- `twoStageJob` aborted while both reduce tasks run, and the run on which
their reports then finalize it as successful. -/
theorem abortedWhileReducing_reaches :
    ∃ aborted : JobRun ShapePlan, Reaches RetryLimits.taskManager twoStageJob aborted ∧
      aborted.graph.isFailed = true ∧
      ∃ finished, Reaches RetryLimits.taskManager aborted finished ∧
        finished.graph.status.status = some (.successful finished.graph.outputLocations) := by
  obtain ⟨aborted, toAborted, failed, completes⟩ : ∃ aborted,
      Reaches RetryLimits.taskManager twoStageJob aborted ∧ aborted.graph.isFailed = true ∧
        (aborted.performAll RetryLimits.taskManager reducesDoneOps).any (fun finished =>
          decide (finished.graph.status.status = some (.successful finished.graph.outputLocations))) =
            true :=
    Reaches.exists_of_performAll_any abortedWhileReducingOps (by decide +kernel)
  exact ⟨aborted, toAborted, failed, Reaches.exists_of_performAll_any reducesDoneOps completes⟩

/-- The job aborted while its reduce tasks run stays failed as they report,
until a report finalizes it. -/
theorem abortedWhileReducing_staysFailed :
    ∃ aborted finished : JobRun ShapePlan,
      Reaches RetryLimits.taskManager twoStageJob aborted ∧ aborted.graph.isFailed = true ∧
      Reaches RetryLimits.taskManager aborted finished ∧
      ((finished.graph.isFailed = true ∧ finished.issued = aborted.issued ∧
          (∀ executorId, (popNextTask executorId).exec finished.graph = (.ok none, finished.graph)) ∧
          (∀ blackList, (fetchRunningStage blackList).exec finished.graph =
            (.ok none, finished.graph))) ∨
        ∃ before after, Reaches RetryLimits.taskManager aborted before ∧
          before.graph.isFailed = true ∧ JobStep RetryLimits.taskManager before after ∧
          after.graph.Finalized ∧ Reaches RetryLimits.taskManager after finished) := by
  obtain ⟨aborted, toAborted, failed, finished, toFinished, -⟩ := abortedWhileReducing_reaches
  exact ⟨aborted, finished, toAborted, failed, toFinished,
    failedJob_staysFailed_untilFinalized failed toFinished⟩

/-- The job is aborted while both reduce tasks run; their statuses then
complete the last stage and `succeed_job` overwrites the failure. -/
theorem abortedJob_succeeds_run :
    ∃ aborted finished : JobRun ShapePlan,
      Reaches RetryLimits.taskManager twoStageJob aborted ∧ aborted.graph.isFailed = true ∧
      Reaches RetryLimits.taskManager aborted finished ∧
      finished.graph.status.status = some (.successful finished.graph.outputLocations) := by
  obtain ⟨aborted, toAborted, failed, finished, toFinished, succeeded⟩ := abortedWhileReducing_reaches
  exact ⟨aborted, finished, toAborted, failed, toFinished, succeeded⟩

end Ballista
