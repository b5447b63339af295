import Mathlib.Algebra.Order.BigOperators.Group.List
import Mathlib.Algebra.Order.Group.Nat
import Ballista.Scheduler.KeyedRuns

/-! # Resetting a lost executor terminates

Each round of `reset_stages_on_lost_executor` that resets something lowers the
number of locations on the lost executor in the inputs of every stage, the
successful ones included, plus the number of task slots of running stages held
by tasks running or succeeded on it (`lostExecutorMeasure`): the first pass
drops all of these outside the successful stages, and neither the rollbacks nor
the reruns add any, since a stage is rerun only once its results on the
executor are marked lost. So the loop stops within as many rounds as the
measure (`resetStagesOnLostExecutor_clears`), on every keyed graph and so on
every graph a job reaches, and the round that stops it leaves no location on
the executor in the inputs of a stage that is not successful, and no slot of a
running stage held there.

Leaving the successful stages out of the count, as the inputs of a stage that
is not successful, does not give a measure: a rerun brings the inputs of a
successful stage into it (`lostChain_raisesMeasure_run`).
-/

namespace Ballista

open ExceptT ExecutionGraph

variable {Plan : Type}

section Measure

variable (executorId : String)

/-- The locations on an executor in some inputs. -/
def locationsOn (inputs : Table Nat StageOutput) : Nat :=
  (inputs.map fun input =>
    (input.2.partitionLocations.map fun locations =>
      locations.2.countP fun location => location.executorMeta.id = executorId).sum).sum

/-- The task slots of a running stage held by tasks running or succeeded on an
executor. -/
def runningSlotsOn : ExecutionStage Plan → Nat
  | .running stage => stage.taskInfos.countP (RunningStage.onExecutor executorId)
  | _ => 0

/-- What a round of resetting lowers in one stage. -/
def stageLostOn (stage : ExecutionStage Plan) : Nat :=
  locationsOn executorId stage.inputs + runningSlotsOn executorId stage

/-- What a round of resetting lowers in a stage map. -/
def tableLostOn (stages : Table Nat (ExecutionStage Plan)) : Nat :=
  (stages.map fun entry => stageLostOn executorId entry.2).sum

theorem lostExecutorMeasure_eq (graph : ExecutionGraph Plan) :
    lostExecutorMeasure graph executorId = tableLostOn executorId graph.stages := rfl

variable {executorId}

theorem tableLostOn_mapValues_le {stages : Table Nat (ExecutionStage Plan)}
    {update : Nat → ExecutionStage Plan → ExecutionStage Plan}
    (lowered : ∀ entry ∈ stages, stageLostOn executorId (update entry.1 entry.2) ≤ stageLostOn executorId entry.2) :
    tableLostOn executorId (stages.mapValues update) ≤ tableLostOn executorId stages := by
  simp only [tableLostOn, Table.mapValues, List.map_map]
  exact List.sum_le_sum lowered

theorem tableLostOn_mapValues_eq {stages : Table Nat (ExecutionStage Plan)}
    {update : Nat → ExecutionStage Plan → ExecutionStage Plan}
    (kept : ∀ entry ∈ stages, stageLostOn executorId (update entry.1 entry.2) = stageLostOn executorId entry.2) :
    tableLostOn executorId (stages.mapValues update) = tableLostOn executorId stages := by
  simp only [tableLostOn, Table.mapValues, List.map_map]
  exact congrArg List.sum (List.map_congr_left kept)

theorem tableLostOn_erase_le (stages : Table Nat (ExecutionStage Plan)) (stageId : Nat) :
    tableLostOn executorId (stages.erase stageId) ≤ tableLostOn executorId stages := by
  induction stages with
  | nil => exact Nat.le_refl _
  | cons entry rest ih =>
    obtain ⟨other, stage⟩ := entry
    simp only [tableLostOn, List.map_cons, List.sum_cons] at ih ⊢
    unfold Table.erase
    split
    · omega
    · simp only [List.map_cons, List.sum_cons]
      omega

/-- Writing over a stage in place lowers the measure when the new stage has no
more than the old. -/
theorem tableLostOn_insert_le {stages : Table Nat (ExecutionStage Plan)} (distinct : stages.keys.Nodup)
    {stageId : Nat} {old new : ExecutionStage Plan} (found : stages.get? stageId = some old)
    (lowered : stageLostOn executorId new ≤ stageLostOn executorId old) :
    tableLostOn executorId (stages.insert stageId new) ≤ tableLostOn executorId stages := by
  have present : stages.contains stageId = true := by simp [Table.contains, found]
  simp only [Table.insert, present, if_true, tableLostOn, Table.modify, List.map_map]
  refine List.sum_le_sum fun entry mem => ?_
  by_cases same : entry.1 = stageId
  · have atEntry : entry.2 = old := by
      have foundEntry := Table.get?_of_mem distinct mem
      rw [same, found] at foundEntry
      exact (Option.some.inj foundEntry).symm
    simp [same, atEntry, lowered]
  · simp [same]

end Measure

section FirstPass

variable {executorId : String}

theorem locationsOn_dropLostInputs (inputs : Table Nat StageOutput) :
    locationsOn executorId (dropLostInputs executorId inputs).2 = 0 := by
  rw [dropLostInputs_snd]
  simp only [locationsOn, Table.mapValues, List.map_map, List.sum_eq_zero_iff, List.mem_map]
  rintro _ ⟨input, _, rfl⟩
  simp only [Function.comp_apply, dropLostLocations, retainOtherExecutors, Table.mapValues, List.map_map,
    List.sum_eq_zero_iff, List.mem_map]
  rintro _ ⟨locations, _, rfl⟩
  simp [List.countP_eq_zero]

/-- An input stage loses a location only where one is on the executor. -/
theorem dropLostInputs_fst_eq_nil {inputs : Table Nat StageOutput} (none : locationsOn executorId inputs = 0) :
    (dropLostInputs executorId inputs).1 = [] := by
  rw [List.eq_nil_iff_forall_not_mem]
  intro inputStageId mem
  obtain ⟨output, inputMem, lost⟩ := (mem_dropLostInputs_fst executorId inputStageId inputs).mp mem
  simp only [dropLostLocations, List.any_eq_true, decide_eq_true_eq] at lost
  obtain ⟨locations, locationsMem, location, locationMem, onExecutor⟩ := lost
  simp only [locationsOn, List.sum_eq_zero_iff, List.mem_map, forall_exists_index, and_imp,
    forall_apply_eq_imp_iff₂, List.countP_eq_zero, decide_eq_true_eq] at none
  exact none _ inputMem _ locationsMem location locationMem onExecutor

theorem onExecutor_none : RunningStage.onExecutor executorId none = false := rfl

theorem runningSlotsOn_resetTasks (stage : RunningStage Plan) :
    (stage.resetTasks executorId).2.taskInfos.countP (RunningStage.onExecutor executorId) = 0 := by
  simp only [RunningStage.resetTasks, List.countP_map, List.countP_eq_zero]
  intro info _
  by_cases held : RunningStage.onExecutor executorId info = true <;> simp [held, onExecutor_none]

/-- The first pass leaves nothing to lower outside the successful stages, and
the successful stages as they were. -/
theorem stageLostOn_dropLost (stage : ExecutionStage Plan) :
    stageLostOn executorId (stage.dropLost executorId) =
      if stage.isSuccessful then stageLostOn executorId stage else 0 := by
  cases stage with
  | unResolved stage =>
    simp [stageLostOn, ExecutionStage.dropLost, ExecutionStage.inputs, runningSlotsOn,
      locationsOn_dropLostInputs, ExecutionStage.isSuccessful]
  | resolved stage =>
    simp [stageLostOn, ExecutionStage.dropLost, ExecutionStage.inputs, runningSlotsOn,
      locationsOn_dropLostInputs, ExecutionStage.isSuccessful]
  | running stage =>
    simp [stageLostOn, ExecutionStage.dropLost, ExecutionStage.inputs, runningSlotsOn,
      locationsOn_dropLostInputs, ExecutionStage.isSuccessful, runningSlotsOn_resetTasks]
  | successful stage => simp [ExecutionStage.dropLost, ExecutionStage.isSuccessful]
  | failed stage => rfl

/-- A stage with nothing on the executor adds nothing to the first pass's notes. -/
theorem scanStage_snd_of_quiet (scan : LostExecutorScan) (stageId : Nat) {stage : ExecutionStage Plan}
    (quiet : stage.isSuccessful = false → stageLostOn executorId stage = 0) :
    (scanStage executorId scan stageId stage).2 = scan := by
  cases stage with
  | unResolved stage =>
    have lost : (dropLostInputs executorId stage.inputs).1 = [] :=
      dropLostInputs_fst_eq_nil (Nat.eq_zero_of_add_eq_zero_right (quiet rfl))
    simp only [scanStage]
    rw [lost]
    rfl
  | resolved stage =>
    have lost : (dropLostInputs executorId stage.inputs).1 = [] :=
      dropLostInputs_fst_eq_nil (Nat.eq_zero_of_add_eq_zero_right (quiet rfl))
    simp only [scanStage]
    rw [lost]
    rfl
  | running stage =>
    have nothing := quiet rfl
    simp only [stageLostOn, ExecutionStage.inputs, runningSlotsOn] at nothing
    have lost := dropLostInputs_fst_eq_nil (Nat.eq_zero_of_add_eq_zero_right nothing)
    have freed : (stage.resetTasks executorId).1 = 0 := Nat.eq_zero_of_add_eq_zero_left nothing
    simp only [scanStage]
    rw [freed, show (stage.resetTasks executorId).2.inputs = stage.inputs from rfl, lost]
    rfl
  | successful stage => rfl
  | failed stage => rfl

theorem scanStages_snd_of_quiet :
    ∀ (scan : LostExecutorScan) (stages : Table Nat (ExecutionStage Plan)),
      (∀ entry ∈ stages, entry.2.isSuccessful = false → stageLostOn executorId entry.2 = 0) →
        (scanStages executorId scan stages).2 = scan
  | _, [], _ => rfl
  | scan, (stageId, stage) :: rest, quiet => by
    have first := scanStage_snd_of_quiet scan stageId (quiet _ List.mem_cons_self)
    have later := scanStages_snd_of_quiet (scanStage executorId scan stageId stage).2 rest
      fun entry mem => quiet entry (List.mem_cons_of_mem _ mem)
    simp only [scanStages]
    rw [later, first]

/-- The first pass lowers the measure, strictly unless it notes nothing. -/
theorem tableLostOn_scanStages (scan : LostExecutorScan) (stages : Table Nat (ExecutionStage Plan)) :
    tableLostOn executorId (scanStages executorId scan stages).1 ≤ tableLostOn executorId stages ∧
      ((scanStages executorId scan stages).2 = scan ∨
        tableLostOn executorId (scanStages executorId scan stages).1 < tableLostOn executorId stages) := by
  rw [scanStages_fst]
  have lowered : ∀ entry ∈ stages,
      stageLostOn executorId (entry.2.dropLost executorId) ≤ stageLostOn executorId entry.2 := by
    intro entry _
    rw [stageLostOn_dropLost]
    split <;> omega
  refine ⟨tableLostOn_mapValues_le lowered, ?_⟩
  by_cases quiet : ∀ entry ∈ stages, entry.2.isSuccessful = false → stageLostOn executorId entry.2 = 0
  · exact .inl (scanStages_snd_of_quiet scan stages quiet)
  · -- a stage not successful with something on the executor loses it
    right
    push Not at quiet
    obtain ⟨entry, mem, unsuccessful, something⟩ := quiet
    simp only [tableLostOn, Table.mapValues, List.map_map]
    refine List.sum_lt_sum _ _ lowered ⟨entry, mem, ?_⟩
    simp only [Function.comp, stageLostOn_dropLost, unsuccessful, Bool.false_eq_true, if_false]
    omega

end FirstPass

section SecondPass

variable {executorId : String}

theorem stageLostOn_resetLost (resubmitInputs : List Nat) (stageId : Nat) (stage : ExecutionStage Plan) :
    stageLostOn executorId (stage.resetLost executorId resubmitInputs stageId) = stageLostOn executorId stage := by
  cases stage with
  | successful success =>
    simp only [ExecutionStage.resetLost]
    split <;> rfl
  | _ => rfl

theorem resultsOn_resetTasks (success : SuccessfulStage Plan) :
    (success.resetTasks executorId).2.taskInfos.countP (SuccessfulStage.succeededOn executorId) = 0 := by
  simp only [SuccessfulStage.resetTasks, List.countP_map, List.countP_eq_zero]
  intro task _
  by_cases held : SuccessfulStage.succeededOn executorId task = true
  · simp only [Function.comp_apply, held, if_true]
    simp [SuccessfulStage.succeededOn]
  · simp [held]

/-- A successful stage the second pass reaches keeps no result on the executor. -/
theorem resultsOn_resetLost {resubmitInputs : List Nat} {stageId : Nat} (listed : stageId ∈ resubmitInputs)
    {stage : ExecutionStage Plan} {success : SuccessfulStage Plan}
    (reset : stage.resetLost executorId resubmitInputs stageId = .successful success) :
    success.taskInfos.countP (SuccessfulStage.succeededOn executorId) = 0 := by
  cases stage with
  | successful old =>
    simp only [ExecutionStage.resetLost, List.contains_iff_mem, listed, if_true,
      ExecutionStage.successful.injEq] at reset
    rw [← reset]
    exact resultsOn_resetTasks old
  | _ => cases reset

/-- The second pass notes only the stages it reaches. -/
theorem mem_resetSuccessfulInputs_snd (resubmitInputs : List Nat) :
    ∀ (resubmit : List Nat) (stages : Table Nat (ExecutionStage Plan)) {stageId : Nat},
      stageId ∈ (resetSuccessfulInputs executorId resubmitInputs resubmit stages).2 →
        stageId ∈ resubmit ∨ ∃ entry ∈ stages, entry.1 ∈ resubmitInputs ∧ entry.2.stageId = stageId
  | _, [], _, mem => .inl mem
  | resubmit, (key, stage) :: rest, stageId, mem => by
    simp only [resetSuccessfulInputs] at mem
    rcases mem_resetSuccessfulInputs_snd resubmitInputs _ rest mem with noted | ⟨entry, entryMem, listed, same⟩
    · cases stage with
      | successful success =>
        simp only at noted
        split at noted
        · rename_i contained
          split at noted
          · rcases List.mem_insert_iff.mp noted with rfl | earlier
            · exact .inr ⟨(key, .successful success), List.mem_cons_self, by simpa using contained, rfl⟩
            · exact .inl earlier
          · exact .inl noted
        · exact .inl noted
      | _ => exact .inl noted
    · exact .inr ⟨entry, List.mem_cons_of_mem _ entryMem, listed, same⟩

end SecondPass

section Rollbacks

variable {executorId : String} {rerun : List Nat}

/-- The successful stages to rerun hold no result on the executor. -/
def ResultsLost (executorId : String) (rerun : List Nat) (graph : ExecutionGraph Plan) : Prop :=
  ∀ stageId ∈ rerun, ∀ success, graph.stages.get? stageId = some (.successful success) →
    success.taskInfos.countP (SuccessfulStage.succeededOn executorId) = 0

/-- A graph a round rolls back and reruns in. -/
structure Clean (executorId : String) (rerun : List Nat) (graph : ExecutionGraph Plan) : Prop where
  keyed : graph.WellKeyed
  resultsLost : ResultsLost executorId rerun graph

/-- What rolling back and rerunning keep: a clean graph stays clean and its
measure does not rise. -/
def Lowers (executorId : String) (rerun : List Nat) (graph next : ExecutionGraph Plan) : Prop :=
  Clean executorId rerun graph →
    Clean executorId rerun next ∧ lostExecutorMeasure next executorId ≤ lostExecutorMeasure graph executorId

instance : IsPreorder (ExecutionGraph Plan) (Lowers executorId rerun) where
  refl _ clean := ⟨clean, Nat.le_refl _⟩
  trans _ _ _ first second clean :=
    ⟨(second (first clean).1).1, Nat.le_trans (second (first clean).1).2 (first clean).2⟩

/-- The second pass leaves the graph clean for the stages it notes. -/
theorem clean_resetSuccessfulInputs {graph : ExecutionGraph Plan} (keyed : graph.WellKeyed)
    (resubmitInputs : List Nat) :
    Clean executorId (resetSuccessfulInputs executorId resubmitInputs [] graph.stages).2
      { graph with stages := (resetSuccessfulInputs executorId resubmitInputs [] graph.stages).1 } := by
  rw [resetSuccessfulInputs_fst]
  refine ⟨keyed.mapValues (stageId_resetLost resubmitInputs), fun stageId noted success found => ?_⟩
  rcases mem_resetSuccessfulInputs_snd resubmitInputs [] graph.stages noted with
    nothing | ⟨⟨key, stage⟩, entryMem, listed, same⟩
  · cases nothing
  · have atKey : key = stageId := (keyed.keyed _ entryMem).symm.trans same
    subst atKey
    simp only [Table.get?_mapValues, Table.get?_of_mem keyed.distinct entryMem, Option.map_some,
      Option.some.injEq] at found
    exact resultsOn_resetLost listed found

theorem lowers_dropStage (graph : ExecutionGraph Plan) (stageId : Nat) :
    Lowers executorId rerun graph (graph.dropStage stageId) := by
  intro clean
  refine ⟨⟨clean.keyed.dropStage stageId, fun other mem success found => ?_⟩,
    tableLostOn_erase_le graph.stages stageId⟩
  simp only [dropStage, Table.get?_erase] at found
  split at found
  · cases found
  · exact clean.resultsLost other mem success found

/-- Writing a stage that is not successful over one with no less to lower. -/
theorem lowers_setStage {graph : ExecutionGraph Plan} {stageId : Nat} {old new : ExecutionStage Plan}
    (found : graph.stages.get? stageId = some old) (sameId : new.stageId = old.stageId)
    (unsuccessful : new.isSuccessful = false)
    (lowered : Clean executorId rerun graph → stageLostOn executorId new ≤ stageLostOn executorId old) :
    Lowers executorId rerun graph (graph.setStage stageId new) := by
  intro clean
  refine ⟨⟨clean.keyed.setStage found sameId, fun other mem success atOther => ?_⟩,
    tableLostOn_insert_le clean.keyed.distinct found (lowered clean)⟩
  simp only [setStage, Table.get?_insert] at atOther
  split at atOther
  · cases Option.some.inj atOther
    cases unsuccessful
  · exact clean.resultsLost other mem success atOther

/-- A stage rolled back to unresolved with its inputs holds no slot, so it has
no more to lower than before. -/
theorem lowers_rollBack {graph : ExecutionGraph Plan} {stageId : Nat} {old : ExecutionStage Plan}
    {unresolved : UnresolvedStage Plan} (found : graph.stages.get? stageId = some old)
    (sameId : unresolved.stageId = old.stageId) (inputs : unresolved.inputs = old.inputs) :
    Lowers executorId rerun graph (graph.setStage stageId (.unResolved unresolved)) :=
  lowers_setStage found sameId rfl fun _ => by
    simp only [stageLostOn, ExecutionStage.inputs, inputs, runningSlotsOn, Nat.add_zero]
    exact Nat.le_add_right _ _

theorem runningSlotsOn_toRunning (stage : SuccessfulStage Plan) :
    stage.toRunning.taskInfos.countP (RunningStage.onExecutor executorId) =
      stage.taskInfos.countP (SuccessfulStage.succeededOn executorId) := by
  simp only [SuccessfulStage.toRunning, List.countP_map]
  refine List.countP_congr fun task _ => ?_
  obtain ⟨taskId, status⟩ := task
  cases status <;>
    simp [TaskInfo.isSuccessful, RunningStage.onExecutor, SuccessfulStage.succeededOn]

/-- A rerun keeps the measure only for a stage whose results on the executor
were marked lost: its successful tasks go back into the slots. -/
theorem lowers_rerunSuccessfulStage {stageId : Nat} (listed : stageId ∈ rerun) :
    Steps (Lowers executorId rerun) (rerunSuccessfulStage stageId : GraphM Plan Bool) := by
  refine Steps.bind_get fun graph => ?_
  split
  · rename_i stage found
    simp only [exec_bind, exec_modify, exec_pure]
    refine lowers_setStage found rfl rfl fun clean => ?_
    have lost := clean.resultsLost stageId listed stage found
    simp only [stageLostOn, ExecutionStage.inputs, runningSlotsOn, runningSlotsOn_toRunning, lost]
    exact Nat.le_refl _
  · simp only [exec_bind, exec_modify, exec_pure]
    exact lowers_dropStage graph stageId
  · exact Steps.pure _ graph

theorem lowers_rerunStages :
    ∀ stageIds, stageIds ⊆ rerun → Steps (Lowers executorId rerun) (rerunStages stageIds : GraphM Plan Unit)
  | [], _ => Steps.pure _
  | _ :: rest, listed =>
    Steps.bind (lowers_rerunSuccessfulStage (listed List.mem_cons_self)) fun _ =>
      lowers_rerunStages rest fun _ mem => listed (List.mem_cons_of_mem _ mem)

variable [StagePlan Plan]

theorem lowers_rollbackResolvedStage (stageId : Nat) :
    Steps (Lowers executorId rerun) (rollbackResolvedStage stageId : GraphM Plan Bool) := by
  refine Steps.bind_get fun graph => ?_
  split
  · rename_i stage found
    split
    · rename_i unresolved ok
      obtain ⟨sameId, -, -, inputs⟩ := ExecutionStage.rollbackResolved_eq_ok ok
      simp only [exec_bind, exec_modify, exec_pure]
      exact lowers_rollBack found sameId inputs
    · simp only [exec_bind, exec_modify, exec_throw]
      exact lowers_dropStage graph stageId
  · simp only [exec_bind, exec_modify, exec_pure]
    exact lowers_dropStage graph stageId
  · exact Steps.pure _ graph

theorem lowers_rollbackRunningStage (stageId : Nat) (failureReasons : List String) :
    Steps (Lowers executorId rerun)
      (rollbackRunningStage stageId failureReasons : GraphM Plan (List RunningTaskInfo)) := by
  refine Steps.bind_get fun graph => ?_
  split
  · rename_i stage found
    split
    · rename_i unresolved ok
      obtain ⟨sameId, -, -, inputs⟩ := ExecutionStage.rollbackRunning_eq_ok ok
      simp only [exec_bind, exec_modify, exec_pure]
      exact lowers_rollBack found sameId inputs
    · simp only [exec_bind, exec_modify, exec_throw]
      exact lowers_dropStage graph stageId
  · simp only [exec_bind, exec_modify, exec_pure]
    exact lowers_dropStage graph stageId
  · exact Steps.pure _ graph

theorem lowers_rollbackResolvedStages :
    ∀ stageIds, Steps (Lowers executorId rerun) (rollbackResolvedStages stageIds : GraphM Plan Unit)
  | [] => Steps.pure _
  | stageId :: rest =>
    Steps.bind (lowers_rollbackResolvedStage stageId) fun _ => lowers_rollbackResolvedStages rest

theorem lowers_rollbackLostRunningStages :
    ∀ stageIds, Steps (Lowers executorId rerun)
      (rollbackLostRunningStages executorId stageIds : GraphM Plan (List RunningTaskInfo))
  | [] => Steps.pure _
  | stageId :: rest =>
    Steps.bind (lowers_rollbackRunningStage stageId [executorId]) fun _ =>
      Steps.bind (lowers_rollbackLostRunningStages rest) fun _ => Steps.pure _

end Rollbacks

section Round

variable {executorId : String}

/-- No stage that is not successful keeps a location on the executor in its
inputs, nor, running, a slot held by a task there. -/
def Cleared (executorId : String) (graph : ExecutionGraph Plan) : Prop :=
  ∀ entry ∈ graph.stages, entry.2.isSuccessful = false → stageLostOn executorId entry.2 = 0

/-- An error handed back to the caller: not a panic, and not a loop that does
not end. -/
def Fault.Returned (fault : Fault) : Prop := ∃ error, fault = .error error

theorem insertAll_eq_nil {α : Type} [DecidableEq α] {set items : List α} (empty : insertAll set items = []) :
    set = [] ∧ items = [] := by
  simp only [List.eq_nil_iff_forall_not_mem, mem_insertAll, not_or] at empty ⊢
  exact ⟨fun item => (empty item).1, fun item => (empty item).2⟩

theorem cleared_dropLost (graph : ExecutionGraph Plan) :
    Cleared executorId { graph with stages := graph.stages.mapValues fun _ stage => stage.dropLost executorId } := by
  intro entry mem unsuccessful
  obtain ⟨⟨stageId, stage⟩, _, rfl⟩ := List.mem_map.mp mem
  simp only [isSuccessful_dropLost] at unsuccessful
  simp only [stageLostOn_dropLost, unsuccessful, Bool.false_eq_true, if_false]

theorem Cleared.resetLost {graph : ExecutionGraph Plan} (cleared : Cleared executorId graph)
    (resubmitInputs : List Nat) :
    Cleared executorId
      { graph with stages := graph.stages.mapValues (ExecutionStage.resetLost executorId resubmitInputs) } := by
  intro entry mem unsuccessful
  obtain ⟨⟨stageId, stage⟩, old, rfl⟩ := List.mem_map.mp mem
  simp only [isSuccessful_resetLost] at unsuccessful
  rw [stageLostOn_resetLost]
  exact cleared _ old unsuccessful

/-- What the second pass leaves, whether it runs or not: a clean graph for the
stages it notes, the measure as it was, and the first pass's clearing. -/
theorem secondPass_spec {graph : ExecutionGraph Plan} (keyed : graph.WellKeyed)
    (cleared : Cleared executorId graph) (resubmitInputs : List Nat)
    {stages : Table Nat (ExecutionStage Plan)} {rerun : List Nat}
    (passed : (if resubmitInputs.isEmpty then (graph.stages, [])
      else resetSuccessfulInputs executorId resubmitInputs [] graph.stages) = (stages, rerun)) :
    Clean executorId rerun { graph with stages := stages } ∧
      tableLostOn executorId stages = tableLostOn executorId graph.stages ∧
      Cleared executorId { graph with stages := stages } ∧ (resubmitInputs = [] → rerun = []) := by
  split at passed
  · obtain ⟨rfl, rfl⟩ := Prod.mk.inj passed
    exact ⟨⟨keyed, fun _ mem => nomatch mem⟩, rfl, cleared, fun _ => rfl⟩
  · rename_i nonEmpty
    have clean := @clean_resetSuccessfulInputs Plan executorId graph keyed resubmitInputs
    have kept := resetSuccessfulInputs_fst executorId resubmitInputs [] graph.stages
    rw [passed] at clean kept
    dsimp only at clean kept
    refine ⟨clean, ?_, ?_, fun empty => absurd (List.isEmpty_iff.mpr empty) nonEmpty⟩
    · rw [kept]
      exact tableLostOn_mapValues_eq fun entry _ => stageLostOn_resetLost _ _ _
    · rw [kept]
      exact cleared.resetLost resubmitInputs

theorem returned_rerunSuccessfulStage (stageId : Nat) :
    Throws Fault.Returned (rerunSuccessfulStage stageId : GraphM Plan Bool) := by
  refine Throws.bind Throws.get fun graph => ?_
  split
  · exact Throws.bind (Throws.modify _) fun _ => Throws.pure _
  · exact Throws.bind (Throws.modify _) fun _ => Throws.pure _
  · exact Throws.pure _

theorem returned_rerunStages :
    ∀ stageIds, Throws Fault.Returned (rerunStages stageIds : GraphM Plan Unit)
  | [] => Throws.pure _
  | stageId :: rest =>
    Throws.bind (returned_rerunSuccessfulStage stageId) fun _ => returned_rerunStages rest

variable [StagePlan Plan]

theorem returned_rollbackResolvedStage (stageId : Nat) :
    Throws Fault.Returned (rollbackResolvedStage stageId : GraphM Plan Bool) := by
  refine Throws.bind Throws.get fun graph => ?_
  split
  · split
    · exact Throws.bind (Throws.modify _) fun _ => Throws.pure _
    · exact Throws.bind (Throws.modify _) fun _ => Throws.throw ⟨_, rfl⟩
  · exact Throws.bind (Throws.modify _) fun _ => Throws.pure _
  · exact Throws.pure _

theorem returned_rollbackRunningStage (stageId : Nat) (failureReasons : List String) :
    Throws Fault.Returned (rollbackRunningStage stageId failureReasons : GraphM Plan (List RunningTaskInfo)) := by
  refine Throws.bind Throws.get fun graph => ?_
  split
  · split
    · exact Throws.bind (Throws.modify _) fun _ => Throws.pure _
    · exact Throws.bind (Throws.modify _) fun _ => Throws.throw ⟨_, rfl⟩
  · exact Throws.bind (Throws.modify _) fun _ => Throws.pure _
  · exact Throws.pure _

theorem returned_rollbackResolvedStages :
    ∀ stageIds, Throws Fault.Returned (rollbackResolvedStages stageIds : GraphM Plan Unit)
  | [] => Throws.pure _
  | stageId :: rest =>
    Throws.bind (returned_rollbackResolvedStage stageId) fun _ => returned_rollbackResolvedStages rest

theorem returned_rollbackLostRunningStages :
    ∀ stageIds, Throws Fault.Returned
      (rollbackLostRunningStages executorId stageIds : GraphM Plan (List RunningTaskInfo))
  | [] => Throws.pure _
  | stageId :: rest =>
    Throws.bind (returned_rollbackRunningStage stageId [executorId]) fun _ =>
      Throws.bind (returned_rollbackLostRunningStages rest) fun _ => Throws.pure _

theorem returned_resetStagesInternal :
    Throws Fault.Returned (resetStagesInternal executorId : GraphM Plan (List Nat × List RunningTaskInfo)) := by
  refine Throws.bind Throws.get fun graph => ?_
  split
  split
  refine Throws.bind (Throws.set _) fun _ => ?_
  refine Throws.bind (returned_rollbackResolvedStages _) fun _ => ?_
  refine Throws.bind (returned_rollbackLostRunningStages _) fun _ => ?_
  exact Throws.bind (returned_rerunStages _) fun _ => Throws.pure _

/-- **One round.** A round that returns keeps the stages keyed by their ids;
one that resets something lowers the measure, and one that resets nothing
leaves the graph cleared. -/
theorem resetStagesInternal_spec {graph next : ExecutionGraph Plan} (keyed : graph.WellKeyed)
    {resetStage : List Nat} {tasks : List RunningTaskInfo}
    (ran : (resetStagesInternal executorId).exec graph = (.ok (resetStage, tasks), next)) :
    next.WellKeyed ∧
      (resetStage ≠ [] → lostExecutorMeasure next executorId < lostExecutorMeasure graph executorId) ∧
      (resetStage = [] → Cleared executorId next) := by
  unfold resetStagesInternal at ran
  obtain ⟨_, _, read, ran⟩ := exec_bind_eq_ok ran
  rw [exec_get, Prod.mk.injEq, Except.ok.injEq] at read
  obtain ⟨rfl, rfl⟩ := read
  generalize scanned : scanStages executorId ⟨[], [], [], []⟩ graph.stages = first at ran
  obtain ⟨stages, scan⟩ := first
  dsimp only at ran
  generalize passed : (if scan.resubmitInputs.isEmpty = true then (stages, [])
    else resetSuccessfulInputs executorId scan.resubmitInputs [] stages) = second at ran
  obtain ⟨reset, rerun⟩ := second
  dsimp only at ran
  obtain ⟨_, _, written, ran⟩ := exec_bind_eq_ok ran
  rw [exec_set, Prod.mk.injEq] at written
  obtain ⟨-, rfl⟩ := written
  obtain ⟨_, rolledBack, ranResolved, ran⟩ := exec_bind_eq_ok ran
  obtain ⟨_, rolledBackRunning, ranRunning, ran⟩ := exec_bind_eq_ok ran
  obtain ⟨_, rerunDone, ranRerun, ran⟩ := exec_bind_eq_ok ran
  rw [exec_pure, Prod.mk.injEq, Except.ok.injEq, Prod.mk.injEq] at ran
  obtain ⟨⟨rfl, rfl⟩, rfl⟩ := ran
  -- the first pass
  have first := @tableLostOn_scanStages Plan executorId ⟨[], [], [], []⟩ graph.stages
  have dropped := scanStages_fst executorId ⟨[], [], [], []⟩ graph.stages
  rw [scanned] at first dropped
  dsimp only at first dropped
  subst dropped
  -- the second pass, then the rollbacks and reruns
  obtain ⟨clean, kept, cleared, quiet⟩ := secondPass_spec (keyed.mapValues fun _ => stageId_dropLost)
    (cleared_dropLost graph) scan.resubmitInputs passed
  have tail : Lowers executorId rerun { graph with stages := reset } rerunDone :=
    IsTrans.trans _ _ _
      (IsTrans.trans _ _ _ ((lowers_rollbackResolvedStages _).of_exec ranResolved)
        ((lowers_rollbackLostRunningStages _).of_exec ranRunning))
      ((lowers_rerunStages _ (List.Subset.refl rerun)).of_exec ranRerun)
  obtain ⟨cleanDone, lowered⟩ := tail clean
  refine ⟨cleanDone.keyed, fun nonEmpty => ?_, fun empty => ?_⟩
  · -- a round that resets something noted something in its first pass
    rcases first.2 with same | lower
    · subst same
      obtain rfl := quiet rfl
      exact absurd rfl nonEmpty
    · rw [lostExecutorMeasure_eq, lostExecutorMeasure_eq]
      calc tableLostOn executorId rerunDone.stages
          ≤ tableLostOn executorId reset := lowered
        _ = tableLostOn executorId (graph.stages.mapValues fun _ stage => stage.dropLost executorId) := kept
        _ < tableLostOn executorId graph.stages := lower
  · -- a round that resets nothing rolls back and reruns nothing
    obtain ⟨firstThree, rerunEmpty⟩ := insertAll_eq_nil empty
    obtain ⟨firstTwo, runningEmpty⟩ := insertAll_eq_nil firstThree
    obtain ⟨-, resolvedEmpty⟩ := insertAll_eq_nil firstTwo
    rw [resolvedEmpty] at ranResolved
    rw [runningEmpty] at ranRunning
    rw [rerunEmpty] at ranRerun
    simp only [rollbackResolvedStages, rollbackLostRunningStages, rerunStages, exec_pure,
      Prod.mk.injEq] at ranResolved ranRunning ranRerun
    obtain ⟨-, rfl⟩ := ranResolved
    obtain ⟨-, rfl⟩ := ranRunning
    obtain ⟨-, rfl⟩ := ranRerun
    exact cleared

/-- **The rounds.** From a graph keyed by its stage ids, with more fuel than the
measure, the rounds end: they return, or stop at an error handed back to the
caller, and when they return the graph is cleared. -/
theorem resetStagesOnLostExecutorFrom_returns :
    ∀ (fuel : Nat) (reset : List Nat) (tasksToCancel : List RunningTaskInfo) {graph next : ExecutionGraph Plan}
      {result : Except Fault (List Nat × List RunningTaskInfo)},
      graph.WellKeyed → lostExecutorMeasure graph executorId < fuel →
      (resetStagesOnLostExecutorFrom executorId reset tasksToCancel fuel).exec graph = (result, next) →
        returned result = true ∧ ∀ value, result = .ok value → Cleared executorId next
  | 0, _, _, _, _, _, _, bounded, _ => absurd bounded (Nat.not_lt_zero _)
  | fuel + 1, reset, tasksToCancel, graph, next, result, keyed, bounded, ran => by
    rw [resetStagesOnLostExecutorFrom, exec_bind] at ran
    cases round : (resetStagesInternal executorId).exec graph with
    | mk roundResult middle =>
      rw [round] at ran
      cases roundResult with
      | error fault =>
        obtain ⟨rfl, rfl⟩ := Prod.mk.inj ran
        obtain ⟨error, rfl⟩ := returned_resetStagesInternal graph fault middle round
        exact ⟨rfl, fun _ stopped => nomatch stopped⟩
      | ok value =>
        obtain ⟨resetStage, tasks⟩ := value
        obtain ⟨keyedMiddle, lowered, cleared⟩ := resetStagesInternal_spec keyed round
        dsimp only at ran
        split at ran
        · rename_i nonEmpty
          have lower := lowered (by simpa using nonEmpty)
          exact resetStagesOnLostExecutorFrom_returns fuel _ _ keyedMiddle (by omega) ran
        · rename_i empty
          rw [exec_pure, Prod.mk.injEq] at ran
          obtain ⟨rfl, rfl⟩ := ran
          exact ⟨rfl, fun _ _ => cleared (by simpa using empty)⟩

/-- `reset_stages_on_lost_executor` gives its rounds more fuel than the measure. -/
theorem resetStagesOnLostExecutor_returns {graph next : ExecutionGraph Plan}
    {result : Except Fault (List Nat × List RunningTaskInfo)} (keyed : graph.WellKeyed)
    (ran : (resetStagesOnLostExecutor executorId).exec graph = (result, next)) :
    returned result = true ∧ ∀ value, result = .ok value → Cleared executorId next := by
  rw [resetStagesOnLostExecutor, exec_bind, exec_get] at ran
  exact resetStagesOnLostExecutorFrom_returns _ [] [] keyed (Nat.lt_succ_self _) ran

end Round

section Footprint

/-- What a lost executor leaves in the stages: the locations on it in the
inputs of the stages that are not successful, and the task infos running or
succeeded on it. -/
def executorFootprint (graph : ExecutionGraph Plan) (executorId : String) : Nat :=
  (graph.stages.map fun entry =>
    (if entry.2.isSuccessful then 0 else locationsOn executorId entry.2.inputs) +
      match entry.2 with
      | .running stage => stage.taskInfos.countP (RunningStage.onExecutor executorId)
      | .successful stage => stage.taskInfos.countP fun task => RunningStage.onExecutor executorId (some task)
      | .failed stage => stage.taskInfos.countP (RunningStage.onExecutor executorId)
      | _ => 0).sum

/-- A chain of three stages: three map partitions, one stage of one partition
reading them, and a final stage reading that. -/
def chainMapShape : ShapePlan := { stageId := 1, partitions := 3, shuffleInputs := [], readers := none }

def chainMiddleShape : ShapePlan := { stageId := 2, partitions := 1, shuffleInputs := [(1, 1)], readers := none }

def chainFinalShape : ShapePlan := { stageId := 3, partitions := 1, shuffleInputs := [(2, 1)], readers := none }

def lostChainJob : JobRun ShapePlan :=
  JobRun.start "scheduler" "job" "" "session" 1 [chainMapShape, chainMiddleShape, chainFinalShape]

/-- A task of the chain succeeds on `executor-1`, writing shuffle partition 0. -/
def chainTaskDone (taskId stageId partition : Nat) : TaskStatus :=
  asTaskStatus (.ok [⟨0, "/" ++ toString taskId ++ "/0", 1, 1, 1⟩]) "executor-1" taskId 0
    ⟨"job", stageId, partition⟩ none

/-- The three map tasks and then the middle task all succeed on `executor-1`;
the final stage is resolved. -/
def lostChainOps : List JobOp :=
  [.popNextTask "executor-1", .popNextTask "executor-1", .popNextTask "executor-1",
   .updateTaskStatus ⟨"executor-1"⟩ [chainTaskDone 0 1 0, chainTaskDone 1 1 1, chainTaskDone 2 1 2] [1],
   .revive,
   .popNextTask "executor-1",
   .updateTaskStatus ⟨"executor-1"⟩ [chainTaskDone 3 2 0] [2]]

/-- After the chain ran on `executor-1`, the first round of losing it resets
the middle and final stages, and the rounds then return. -/
theorem lostChain_reaches :
    ∃ run : JobRun ShapePlan, Reaches RetryLimits.taskManager lostChainJob run ∧
      ((resetStagesInternal "executor-1").exec run.graph).1 = .ok ([2, 3], []) ∧
      executorFootprint run.graph "executor-1" <
        executorFootprint ((resetStagesInternal "executor-1").exec run.graph).2 "executor-1" ∧
      ((resetStagesOnLostExecutor "executor-1").exec run.graph).1 = .ok ([1, 3, 2], []) :=
  Reaches.exists_of_performAll_any lostChainOps (by decide +kernel)

/-- Losing `executor-1` after the chain ran on it: the first round rolls the
final stage back and reruns the middle stage, whose locations on the executor
in its inputs now count, three of them against the two the round removed. -/
theorem lostChain_raisesMeasure_run :
    ∃ run : JobRun ShapePlan, Reaches RetryLimits.taskManager lostChainJob run ∧
      ((resetStagesInternal "executor-1").exec run.graph).1 = .ok ([2, 3], []) ∧
      executorFootprint run.graph "executor-1" <
        executorFootprint ((resetStagesInternal "executor-1").exec run.graph).2 "executor-1" := by
  obtain ⟨run, reaches, firstRound, raised, -⟩ := lostChain_reaches
  exact ⟨run, reaches, firstRound, raised⟩

end Footprint

section Cleared

variable [StagePlan Plan]

/-- **`reset_stages_on_lost_executor` ends.** Each round that resets something
lowers `lostExecutorMeasure`; the rounds return or hand an error back, and when
they return no stage that is not successful keeps a location on the executor
in its inputs or, running, a task running or succeeded there. -/
theorem resetStagesOnLostExecutor_clears (executorId : String) {graph : ExecutionGraph Plan}
    (keyed : graph.WellKeyed) :
    (∀ {resetStage : List Nat} {tasks : List RunningTaskInfo} {next : ExecutionGraph Plan},
      (resetStagesInternal executorId).exec graph = (.ok (resetStage, tasks), next) → resetStage ≠ [] →
        lostExecutorMeasure next executorId < lostExecutorMeasure graph executorId) ∧
    ∀ {result : Except Fault (List Nat × List RunningTaskInfo)} {next : ExecutionGraph Plan},
      (resetStagesOnLostExecutor executorId).exec graph = (result, next) →
        returned result = true ∧ ∀ value, result = .ok value → Cleared executorId next :=
  ⟨fun ran => (resetStagesInternal_spec keyed ran).2.1, resetStagesOnLostExecutor_returns keyed⟩

/-- Every graph a job reaches is keyed, so the rounds end on each of them. -/
theorem resetStagesOnLostExecutor_clears_of_reaches {limits : RetryLimits}
    {schedulerId jobId jobName sessionId : String} {outputPartitions : Nat} {shuffleStages : List Plan}
    {run : JobRun Plan}
    (reaches : Reaches limits (JobRun.start schedulerId jobId jobName sessionId outputPartitions shuffleStages) run)
    (executorId : String) :
    (∀ {resetStage : List Nat} {tasks : List RunningTaskInfo} {next : ExecutionGraph Plan},
      (resetStagesInternal executorId).exec run.graph = (.ok (resetStage, tasks), next) → resetStage ≠ [] →
        lostExecutorMeasure next executorId < lostExecutorMeasure run.graph executorId) ∧
    ∀ {result : Except Fault (List Nat × List RunningTaskInfo)} {next : ExecutionGraph Plan},
      (resetStagesOnLostExecutor executorId).exec run.graph = (result, next) →
        returned result = true ∧ ∀ value, result = .ok value → Cleared executorId next :=
  resetStagesOnLostExecutor_clears executorId reaches.wellKeyed_of_start

theorem lostChain_resetClears :
    ∃ run : JobRun ShapePlan, Reaches RetryLimits.taskManager lostChainJob run ∧
      Cleared "executor-1" ((resetStagesOnLostExecutor "executor-1").exec run.graph).2 := by
  obtain ⟨run, reaches, -, -, returned⟩ := lostChain_reaches
  exact ⟨run, reaches, ((resetStagesOnLostExecutor_clears_of_reaches reaches "executor-1").2
    (Prod.eta _).symm).2 ([1, 3, 2], []) returned⟩

end Cleared

end Ballista
