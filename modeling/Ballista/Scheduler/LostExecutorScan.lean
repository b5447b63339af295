import Mathlib.Data.List.Nodup
import Ballista.Scheduler.ExecutorLost

/-! # The two passes of a lost-executor round

A round of `reset_stages_internal` first scans the stages: it drops the lost
executor's locations from the inputs of the unresolved, resolved and running
stages and frees the running tasks on it (`ExecutionStage.dropLost`), noting the
input stages that lost a location and the resolved and running stages that lost
an input. A second pass marks lost the results on the executor of the successful
input stages so noted (`ExecutionStage.resetLost`), noting those with a result
lost to be rerun. This module says what the two passes compute, stage by stage.
-/

namespace Ballista

open ExceptT ExecutionGraph

variable {Plan : Type}

theorem mem_insertAll {α : Type} [DecidableEq α] {set items : List α} {item : α} :
    item ∈ insertAll set items ↔ item ∈ set ∨ item ∈ items := by
  induction items generalizing set with
  | nil => simp [insertAll]
  | cons head rest ih =>
    simp only [insertAll, List.foldl_cons] at ih ⊢
    rw [ih, List.mem_insert_iff, List.mem_cons]
    tauto

/-- Dropping the locations on an executor from the inputs keeps each input in
place. -/
theorem dropLostInputs_snd (executorId : String) : ∀ inputs : Table Nat StageOutput,
    (dropLostInputs executorId inputs).2 =
      inputs.mapValues fun _ output => (dropLostLocations executorId output).2
  | [] => rfl
  | (inputStageId, output) :: rest => by
    simp only [dropLostInputs, dropLostInputs_snd executorId rest]
    rfl

/-- The input stages that lost a location are those with a location on the executor. -/
theorem mem_dropLostInputs_fst (executorId : String) (inputStageId : Nat) :
    ∀ inputs : Table Nat StageOutput, inputStageId ∈ (dropLostInputs executorId inputs).1 ↔
      ∃ output, (inputStageId, output) ∈ inputs ∧ (dropLostLocations executorId output).1 = true
  | [] => by simp [dropLostInputs]
  | (other, output) :: rest => by
    have later := mem_dropLostInputs_fst executorId inputStageId rest
    simp only [dropLostInputs]
    split
    · rename_i matched
      simp only [List.mem_cons, later, Prod.mk.injEq]
      constructor
      · rintro (rfl | ⟨earlier, mem, lost⟩)
        · exact ⟨output, .inl ⟨rfl, rfl⟩, matched⟩
        · exact ⟨earlier, .inr mem, lost⟩
      · rintro ⟨earlier, (⟨rfl, rfl⟩ | mem), lost⟩
        · exact .inl rfl
        · exact .inr ⟨earlier, mem, lost⟩
    · rename_i kept
      simp only [later, List.mem_cons, Prod.mk.injEq]
      constructor
      · rintro ⟨earlier, mem, lost⟩
        exact ⟨earlier, .inr mem, lost⟩
      · rintro ⟨earlier, (⟨rfl, rfl⟩ | mem), lost⟩
        · exact absurd lost kept
        · exact ⟨earlier, mem, lost⟩

/-- What the first pass of a round makes of a stage: the locations on the
executor dropped from the inputs of an unresolved, resolved or running stage,
and the slots of a running stage held on it freed. -/
def ExecutionStage.dropLost (executorId : String) : ExecutionStage Plan → ExecutionStage Plan
  | .unResolved stage => .unResolved { stage with inputs := (dropLostInputs executorId stage.inputs).2 }
  | .resolved stage => .resolved { stage with inputs := (dropLostInputs executorId stage.inputs).2 }
  | .running stage =>
    .running { (stage.resetTasks executorId).2 with
      inputs := (dropLostInputs executorId (stage.resetTasks executorId).2.inputs).2 }
  | stage => stage

/-- What the second pass makes of a stage: the results on the executor of a
successful input stage that lost locations marked lost. -/
def ExecutionStage.resetLost (executorId : String) (resubmitInputs : List Nat) (stageId : Nat) :
    ExecutionStage Plan → ExecutionStage Plan
  | .successful success =>
    if resubmitInputs.contains stageId then .successful (success.resetTasks executorId).2
    else .successful success
  | stage => stage

theorem scanStage_fst (executorId : String) (scan : LostExecutorScan) (stageId : Nat)
    (stage : ExecutionStage Plan) : (scanStage executorId scan stageId stage).1 = stage.dropLost executorId := by
  cases stage <;> rfl

theorem scanStages_fst (executorId : String) :
    ∀ (scan : LostExecutorScan) (stages : Table Nat (ExecutionStage Plan)),
      (scanStages executorId scan stages).1 = stages.mapValues fun _ stage => stage.dropLost executorId
  | _, [] => rfl
  | scan, (stageId, stage) :: rest => by
    simp only [scanStages, scanStages_fst executorId _ rest, scanStage_fst]
    rfl

theorem resetSuccessfulInputs_fst (executorId : String) (resubmitInputs : List Nat) :
    ∀ (resubmit : List Nat) (stages : Table Nat (ExecutionStage Plan)),
      (resetSuccessfulInputs executorId resubmitInputs resubmit stages).1 =
        stages.mapValues (ExecutionStage.resetLost executorId resubmitInputs)
  | _, [] => rfl
  | resubmit, (stageId, stage) :: rest => by
    cases stage with
    | successful success =>
      simp only [resetSuccessfulInputs, resetSuccessfulInputs_fst executorId resubmitInputs _ rest]
      split
      · rename_i listed
        have mem : stageId ∈ resubmitInputs := by simpa using listed
        simp [Table.mapValues, ExecutionStage.resetLost, mem]
      · rename_i unlisted
        have absent : stageId ∉ resubmitInputs := by simpa using unlisted
        simp [Table.mapValues, ExecutionStage.resetLost, absent]
    | _ =>
      simp only [resetSuccessfulInputs, resetSuccessfulInputs_fst executorId resubmitInputs _ rest]
      rfl

section Keys

variable {executorId : String}

theorem stageId_dropLost (stage : ExecutionStage Plan) :
    (stage.dropLost executorId).stageId = stage.stageId := by
  cases stage <;> rfl

theorem isSuccessful_dropLost (stage : ExecutionStage Plan) :
    (stage.dropLost executorId).isSuccessful = stage.isSuccessful := by
  cases stage <;> rfl

theorem stageId_resetLost (resubmitInputs : List Nat) (stageId : Nat) (stage : ExecutionStage Plan) :
    (stage.resetLost executorId resubmitInputs stageId).stageId = stage.stageId := by
  cases stage with
  | successful success =>
    simp only [ExecutionStage.resetLost]
    split <;> rfl
  | _ => rfl

theorem isSuccessful_resetLost (resubmitInputs : List Nat) (stageId : Nat) (stage : ExecutionStage Plan) :
    (stage.resetLost executorId resubmitInputs stageId).isSuccessful = stage.isSuccessful := by
  cases stage with
  | successful success =>
    simp only [ExecutionStage.resetLost]
    split <;> rfl
  | _ => rfl

/-- Rewriting every stage in place keeps the stages keyed by their ids. -/
theorem ExecutionGraph.WellKeyed.mapValues {graph : ExecutionGraph Plan} (keyed : graph.WellKeyed)
    {update : Nat → ExecutionStage Plan → ExecutionStage Plan}
    (sameId : ∀ stageId stage, (update stageId stage).stageId = stage.stageId) :
    ({ graph with stages := graph.stages.mapValues update } : ExecutionGraph Plan).WellKeyed := by
  refine ⟨by simpa using keyed.distinct, fun entry mem => ?_⟩
  obtain ⟨⟨stageId, stage⟩, old, rfl⟩ := List.mem_map.mp mem
  rw [sameId]
  exact keyed.keyed _ old

end Keys

end Ballista
