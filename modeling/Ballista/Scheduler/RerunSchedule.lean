import Mathlib.Data.List.Infix
import Ballista.Scheduler.StatusFrame
import Ballista.Scheduler.LostExecutorScan

/-! # The map partitions a read schedules to rerun

A fetch failure that `update_task_status` accepts below the stage failure
limit, while no stage failed, calls `remove_input_partitions`: it drops the
failing executor's locations of the map stage from the running stage's inputs,
schedules the map partitions they held to rerun, and names the executor among
the reasons of the stage's rollback. No other step of the read drops a location
from a running stage's inputs, nor schedules a rerun or a rollback.

`Reschedules` relates the input locations of the running stages and the
scheduled sets before a step to those after it: the locations only shrink, a
map partition is scheduled to rerun exactly when it was already or a location
of it was dropped, and every location dropped lived on an executor that the
stage's rollback names. Every step that returns keeps it, so a read that
returns does (`readTaskStatuses_reschedules`); the stage ids of both schedules
stay distinct.
-/

namespace Ballista

open ExceptT

variable {Plan : Type}

/-- The locations of a map stage's outputs, over all its partitions. -/
def StageOutput.locations (output : StageOutput) : List PartitionLocation :=
  output.partitionLocations.flatMap Prod.snd

/-- The locations of a map stage's outputs among some inputs. -/
def inputLocations (inputs : Table Nat StageOutput) (mapStageId : Nat) : List PartitionLocation :=
  ((inputs.get? mapStageId).map StageOutput.locations).getD []

/-- The locations of a map stage's outputs that a stage reads while it runs. -/
def ExecutionStage.runningInputLocations (stage : ExecutionStage Plan) (mapStageId : Nat) :
    List PartitionLocation :=
  match stage with
  | .running stage => inputLocations stage.inputs mapStageId
  | _ => []

/-- The locations of the outputs of `mapStageId` in the inputs of the stage at
`stageId`, when it is running, and none otherwise. -/
def runningInputLocations (stages : Table Nat (ExecutionStage Plan)) (stageId mapStageId : Nat) :
    List PartitionLocation :=
  ((stages.get? stageId).map (·.runningInputLocations mapStageId)).getD []

namespace StatusUpdates

/-- The map partitions of a map stage scheduled to rerun. -/
def resubmitted (updates : StatusUpdates) (mapStageId : Nat) : List Nat :=
  (updates.resubmitSuccessfulStages.get? mapStageId).getD []

/-- The executors named as the reasons of a stage's rollback. -/
def rollbackReasons (updates : StatusUpdates) (stageId : Nat) : List String :=
  (updates.rollbackRunningStages.get? stageId).getD []

end StatusUpdates

/-! ## The locations `remove_input_partitions` drops -/

theorem mem_locations_retainOtherExecutors {locations : Table Nat (List PartitionLocation)}
    {executorId : String} {location : PartitionLocation} :
    location ∈ (retainOtherExecutors locations executorId).flatMap Prod.snd ↔
      location ∈ locations.flatMap Prod.snd ∧ location.executorMeta.id ≠ executorId := by
  simp only [retainOtherExecutors, Table.mapValues, List.flatMap_map, List.mem_flatMap, List.mem_filter,
    decide_eq_true_eq]
  constructor
  · rintro ⟨entry, listed, held, elsewhere⟩
    exact ⟨⟨entry, listed, held⟩, elsewhere⟩
  · rintro ⟨⟨entry, listed, held⟩, elsewhere⟩
    exact ⟨entry, listed, held, elsewhere⟩

/-- The inner loop of `badMapPartitions` over the locations of one partition. -/
theorem mem_foldl_badLocations {executorId : String} {partition : Nat} :
    ∀ (locations : List PartitionLocation) (bad : List Nat),
      partition ∈ locations.foldl (fun bad location =>
          if location.executorMeta.id = executorId then List.insert location.mapPartitionId bad else bad) bad ↔
        partition ∈ bad ∨ ∃ location ∈ locations,
          location.executorMeta.id = executorId ∧ location.mapPartitionId = partition
  | [], bad => by simp
  | location :: rest, bad => by
    rw [List.foldl_cons, mem_foldl_badLocations rest]
    by_cases onExecutor : location.executorMeta.id = executorId
    · rw [if_pos onExecutor, List.mem_insert_iff]
      constructor
      · rintro ((rfl | earlier) | ⟨other, listed, onIt, named⟩)
        · exact .inr ⟨location, List.mem_cons_self, onExecutor, rfl⟩
        · exact .inl earlier
        · exact .inr ⟨other, List.mem_cons_of_mem _ listed, onIt, named⟩
      · rintro (earlier | ⟨other, listed, onIt, named⟩)
        · exact .inl (.inr earlier)
        · rcases List.mem_cons.mp listed with rfl | later
          · exact .inl (.inl named.symm)
          · exact .inr ⟨other, later, onIt, named⟩
    · rw [if_neg onExecutor]
      constructor
      · rintro (earlier | ⟨other, listed, onIt, named⟩)
        · exact .inl earlier
        · exact .inr ⟨other, List.mem_cons_of_mem _ listed, onIt, named⟩
      · rintro (earlier | ⟨other, listed, onIt, named⟩)
        · exact .inl earlier
        · rcases List.mem_cons.mp listed with rfl | later
          · exact absurd onIt onExecutor
          · exact .inr ⟨other, later, onIt, named⟩

/-- The map partitions `remove_input_partitions` returns are those with a
location on the executor. -/
theorem mem_badMapPartitions {locations : Table Nat (List PartitionLocation)} {executorId : String}
    {partition : Nat} :
    partition ∈ badMapPartitions locations executorId ↔
      ∃ location ∈ locations.flatMap Prod.snd,
        location.executorMeta.id = executorId ∧ location.mapPartitionId = partition := by
  suffices outer : ∀ (entries : Table Nat (List PartitionLocation)) (bad : List Nat),
      partition ∈ entries.foldl (fun bad entry => entry.2.foldl (fun bad location =>
          if location.executorMeta.id = executorId then List.insert location.mapPartitionId bad
          else bad) bad) bad ↔
        partition ∈ bad ∨ ∃ location ∈ entries.flatMap Prod.snd,
          location.executorMeta.id = executorId ∧ location.mapPartitionId = partition by
    rw [badMapPartitions, outer locations []]
    simp
  intro entries
  induction entries with
  | nil => simp
  | cons entry rest ih =>
    intro bad
    rw [List.foldl_cons, ih, mem_foldl_badLocations, List.flatMap_cons]
    simp only [List.mem_append, or_and_right, exists_or]
    rw [or_assoc]

theorem runningInputLocations_setStage (graph : ExecutionGraph Plan) (stageId : Nat)
    (stage : ExecutionStage Plan) (other mapStageId : Nat) :
    runningInputLocations (graph.setStage stageId stage).stages other mapStageId =
      if other = stageId then stage.runningInputLocations mapStageId
      else runningInputLocations graph.stages other mapStageId := by
  simp only [runningInputLocations, ExecutionGraph.setStage, Table.get?_insert]
  split <;> rfl

/-- Writing over a stage one with the same running inputs leaves the running
stages' input locations. -/
theorem runningInputLocations_setStage_of_found {graph : ExecutionGraph Plan} {stageId : Nat}
    {stage : ExecutionStage Plan} (found : graph.stages.get? stageId = some stage) (next : ExecutionStage Plan)
    (same : next.runningInputLocations = stage.runningInputLocations) :
    runningInputLocations (graph.setStage stageId next).stages = runningInputLocations graph.stages := by
  funext other mapStageId
  rw [runningInputLocations_setStage]
  split
  · rename_i here
    subst here
    simp [runningInputLocations, found, same]
  · rfl

/-- What `remove_input_partitions` keeps: the locations of the other map
stages, and those of the map stage on other executors. -/
theorem mem_inputLocations_of_removeInputPartitions {inputs next : Table Nat StageOutput}
    {stageId mapStageId : Nat} {executorId : String} {removed : List Nat}
    (removedInputs : removeInputPartitions inputs stageId mapStageId executorId = .ok (removed, next))
    (other : Nat) (location : PartitionLocation) :
    location ∈ inputLocations next other ↔
      location ∈ inputLocations inputs other ∧ (other = mapStageId → location.executorMeta.id ≠ executorId) := by
  unfold removeInputPartitions at removedInputs
  split at removedInputs
  · rename_i output found
    cases removedInputs
    by_cases same : other = mapStageId
    · subst same
      simp only [inputLocations, Table.get?_modify_self, found, Option.map_some, Option.getD_some,
        StageOutput.locations]
      rw [mem_locations_retainOtherExecutors]
      simp
    · simp [inputLocations, Table.get?_modify_of_ne _ _ same, same]
  · cases removedInputs

/-- What `remove_input_partitions` returns: the map partitions with a location
of the map stage on the executor. -/
theorem mem_removed_of_removeInputPartitions {inputs next : Table Nat StageOutput}
    {stageId mapStageId : Nat} {executorId : String} {removed : List Nat}
    (removedInputs : removeInputPartitions inputs stageId mapStageId executorId = .ok (removed, next))
    (partition : Nat) :
    partition ∈ removed ↔ ∃ location ∈ inputLocations inputs mapStageId,
      location.executorMeta.id = executorId ∧ location.mapPartitionId = partition := by
  unfold removeInputPartitions at removedInputs
  split at removedInputs
  · rename_i output found
    cases removedInputs
    simp only [inputLocations, found, Option.map_some, Option.getD_some, StageOutput.locations]
    exact mem_badMapPartitions
  · cases removedInputs

/-! ## What a step of the read schedules -/

open StatusUpdates

/-- From the input locations of the running stages and the scheduled sets
before a step to those after it: the locations only shrink; the stage ids of
both schedules stay distinct; the reasons of a rollback only grow; a map
partition is scheduled to rerun exactly when it was already or a location of
it was dropped; and a location dropped lived on an executor that the rollback
of its stage names. -/
structure Reschedules (before after : Nat → Nat → List PartitionLocation) (updates next : StatusUpdates) :
    Prop where
  shrinks : ∀ stageId mapStageId, after stageId mapStageId ⊆ before stageId mapStageId
  rollbackDistinct : updates.rollbackRunningStages.keys.Nodup → next.rollbackRunningStages.keys.Nodup
  resubmitDistinct : updates.resubmitSuccessfulStages.keys.Nodup → next.resubmitSuccessfulStages.keys.Nodup
  reasonsGrow : ∀ stageId, updates.rollbackReasons stageId ⊆ next.rollbackReasons stageId
  rescheduled : ∀ mapStageId partition, partition ∈ next.resubmitted mapStageId ↔
    partition ∈ updates.resubmitted mapStageId ∨ ∃ stageId, ∃ location ∈ before stageId mapStageId,
      location ∉ after stageId mapStageId ∧ location.mapPartitionId = partition
  blamed : ∀ stageId mapStageId, ∀ location ∈ before stageId mapStageId,
    location ∉ after stageId mapStageId → location.executorMeta.id ∈ next.rollbackReasons stageId

namespace Reschedules

variable {before middle after : Nat → Nat → List PartitionLocation} {updates between next : StatusUpdates}

theorem refl (locations : Nat → Nat → List PartitionLocation) (updates : StatusUpdates) :
    Reschedules locations locations updates updates where
  shrinks _ _ := List.Subset.refl _
  rollbackDistinct := id
  resubmitDistinct := id
  reasonsGrow _ := List.Subset.refl _
  rescheduled _ _ := by
    refine ⟨.inl, ?_⟩
    rintro (earlier | ⟨_, _, held, dropped, _⟩)
    · exact earlier
    · exact absurd held dropped
  blamed _ _ _ held dropped := absurd held dropped

theorem trans (first : Reschedules before middle updates between)
    (second : Reschedules middle after between next) : Reschedules before after updates next where
  shrinks stageId mapStageId :=
    List.Subset.trans (second.shrinks stageId mapStageId) (first.shrinks stageId mapStageId)
  rollbackDistinct := second.rollbackDistinct ∘ first.rollbackDistinct
  resubmitDistinct := second.resubmitDistinct ∘ first.resubmitDistinct
  reasonsGrow stageId := List.Subset.trans (first.reasonsGrow stageId) (second.reasonsGrow stageId)
  rescheduled mapStageId partition := by
    rw [second.rescheduled, first.rescheduled]
    constructor
    · rintro ((earlier | ⟨stageId, location, held, dropped, named⟩) | ⟨stageId, location, held, dropped, named⟩)
      · exact .inl earlier
      · -- dropped in the first part, and the second never gives it back
        exact .inr ⟨stageId, location, held,
          fun kept => dropped (second.shrinks stageId mapStageId kept), named⟩
      · exact .inr ⟨stageId, location, first.shrinks stageId mapStageId held, dropped, named⟩
    · rintro (earlier | ⟨stageId, location, held, dropped, named⟩)
      · exact .inl (.inl earlier)
      · by_cases kept : location ∈ middle stageId mapStageId
        · exact .inr ⟨stageId, location, kept, dropped, named⟩
        · exact .inl (.inr ⟨stageId, location, held, kept, named⟩)
  blamed stageId mapStageId location held dropped := by
    by_cases kept : location ∈ middle stageId mapStageId
    · exact second.blamed stageId mapStageId location kept dropped
    · exact second.reasonsGrow stageId (first.blamed stageId mapStageId location held kept)

/-- A step that drops no location and leaves both schedules as they are. -/
theorem of_same (locations : Nat → Nat → List PartitionLocation)
    (rollback : next.rollbackRunningStages = updates.rollbackRunningStages)
    (resubmit : next.resubmitSuccessfulStages = updates.resubmitSuccessfulStages) :
    Reschedules locations locations updates next where
  shrinks _ _ := List.Subset.refl _
  rollbackDistinct := by
    rw [rollback]
    exact id
  resubmitDistinct := by
    rw [resubmit]
    exact id
  reasonsGrow _ := by
    simp only [rollbackReasons, rollback]
    exact List.Subset.refl _
  rescheduled _ _ := by
    simp only [resubmitted, resubmit]
    refine ⟨.inl, ?_⟩
    rintro (earlier | ⟨_, _, held, dropped, _⟩)
    · exact earlier
    · exact absurd held dropped
  blamed _ _ _ held dropped := absurd held dropped

end Reschedules

/-- **A fetch failure below the limit.** Dropping the executor's locations of
the map stage from the running stage's inputs schedules exactly the map
partitions they held, and names the executor as a reason of the rollback. -/
theorem reschedules_removeInputPartitions {graph : ExecutionGraph Plan} {stageId mapStageId : Nat}
    {executorId : String} {stage : RunningStage Plan} {removed : List Nat} {inputs : Table Nat StageOutput}
    {updates next : StatusUpdates}
    (removedInputs : removeInputPartitions stage.inputs stageId mapStageId executorId = .ok (removed, inputs))
    (rollback : next.rollbackRunningStages =
      updates.rollbackRunningStages.upsert stageId [] (List.insert executorId))
    (resubmit : next.resubmitSuccessfulStages =
      updates.resubmitSuccessfulStages.upsert mapStageId [] (insertAll · removed)) :
    Reschedules (runningInputLocations (graph.setStage stageId (.running stage)).stages)
      (runningInputLocations (graph.setStage stageId (.running { stage with inputs := inputs })).stages)
      updates next := by
  have inStage : ∀ mapStageId', runningInputLocations (graph.setStage stageId (.running stage)).stages
      stageId mapStageId' = inputLocations stage.inputs mapStageId' := fun _ => by
    rw [runningInputLocations_setStage, if_pos rfl]
    rfl
  -- only the executor's locations of the map stage, in the stage read, are dropped
  have dropped : ∀ other mapStageId' location,
      location ∈ runningInputLocations (graph.setStage stageId (.running stage)).stages other mapStageId' →
      (location ∉ runningInputLocations (graph.setStage stageId (.running { stage with inputs := inputs })).stages
          other mapStageId' ↔
        other = stageId ∧ mapStageId' = mapStageId ∧ location.executorMeta.id = executorId) := by
    intro other mapStageId' location held
    rw [runningInputLocations_setStage] at held ⊢
    by_cases same : other = stageId
    · rw [if_pos same] at held ⊢
      have kept := mem_inputLocations_of_removeInputPartitions removedInputs mapStageId' location
      simp only [ExecutionStage.runningInputLocations] at held kept ⊢
      rw [kept]
      simp [held, same]
    · rw [if_neg same] at held ⊢
      simp [same, held]
  have reasons : ∀ other, next.rollbackReasons other =
      if other = stageId then (updates.rollbackReasons stageId).insert executorId
      else updates.rollbackReasons other := fun other => by
    simp only [rollbackReasons, rollback, Table.get?_upsert]
    split <;> rfl
  have partitions : ∀ mapStageId', next.resubmitted mapStageId' =
      if mapStageId' = mapStageId then insertAll (updates.resubmitted mapStageId) removed
      else updates.resubmitted mapStageId' := fun mapStageId' => by
    simp only [resubmitted, resubmit, Table.get?_upsert]
    split <;> rfl
  refine ⟨fun other mapStageId' location kept => ?_, fun distinct => ?_, fun distinct => ?_,
    fun other => ?_, fun mapStageId' partition => ?_, fun other mapStageId' location held gone => ?_⟩
  · rw [runningInputLocations_setStage] at kept ⊢
    by_cases same : other = stageId
    · rw [if_pos same] at kept ⊢
      exact ((mem_inputLocations_of_removeInputPartitions removedInputs _ _).mp kept).1
    · rw [if_neg same] at kept ⊢
      exact kept
  · rw [rollback]
    exact Table.keys_upsert_nodup _ _ _ distinct
  · rw [resubmit]
    exact Table.keys_upsert_nodup _ _ _ distinct
  · rw [reasons]
    split
    · rename_i same
      subst same
      exact List.subset_insert _ _
    · exact List.Subset.refl _
  · rw [partitions]
    by_cases same : mapStageId' = mapStageId
    · subst same
      rw [if_pos rfl, mem_insertAll, mem_removed_of_removeInputPartitions removedInputs]
      refine or_congr_right ⟨?_, ?_⟩
      · rintro ⟨location, held, onIt, named⟩
        refine ⟨stageId, location, (inStage _).symm ▸ held, ?_, named⟩
        exact (dropped _ _ _ ((inStage _).symm ▸ held)).mpr ⟨rfl, rfl, onIt⟩
      · rintro ⟨other, location, held, gone, named⟩
        obtain ⟨rfl, -, onIt⟩ := (dropped _ _ _ held).mp gone
        exact ⟨location, inStage _ ▸ held, onIt, named⟩
    · rw [if_neg same]
      refine ⟨.inl, ?_⟩
      rintro (earlier | ⟨other, location, held, gone, -⟩)
      · exact earlier
      · exact absurd ((dropped _ _ _ held).mp gone).2.1 same
  · obtain ⟨rfl, -, onIt⟩ := (dropped _ _ _ held).mp gone
    rw [reasons, if_pos rfl, onIt]
    exact List.mem_insert_self

/-! ## The statuses of a running stage -/

/-- The input locations of the running stages, with the stage at `stageId` as
a read holds it. -/
def readLocations (graph : ExecutionGraph Plan) (stageId : Nat) (stage : RunningStage Plan) :
    Nat → Nat → List PartitionLocation :=
  runningInputLocations (graph.setStage stageId (.running stage)).stages

theorem readLocations_of_inputs {graph : ExecutionGraph Plan} {stageId : Nat}
    {stage next : RunningStage Plan} (inputs : next.inputs = stage.inputs) :
    readLocations graph stageId next = readLocations graph stageId stage := by
  funext other mapStageId
  simp only [readLocations, runningInputLocations_setStage, ExecutionStage.runningInputLocations, inputs]

/-- Before any status, the read holds the stage the graph has. -/
theorem readLocations_of_found {graph : ExecutionGraph Plan} {stageId : Nat} {stage : RunningStage Plan}
    (found : graph.stages.get? stageId = some (.running stage)) :
    readLocations graph stageId stage = runningInputLocations graph.stages :=
  runningInputLocations_setStage_of_found found _ rfl

/-- A step of a read that keeps the stage's inputs and both schedules. -/
theorem reschedules_of_inputs {graph : ExecutionGraph Plan} {stageId : Nat} {stage next : RunningStage Plan}
    {updates nextUpdates : StatusUpdates} (inputs : next.inputs = stage.inputs)
    (rollback : nextUpdates.rollbackRunningStages = updates.rollbackRunningStages)
    (resubmit : nextUpdates.resubmitSuccessfulStages = updates.resubmitSuccessfulStages) :
    Reschedules (readLocations graph stageId stage) (readLocations graph stageId next) updates nextUpdates := by
  rw [readLocations_of_inputs inputs]
  exact .of_same _ rollback resubmit

namespace RunningStage

theorem inputs_of_updateTaskInfo {stage next : RunningStage Plan} {partitionId : Nat} {status : TaskStatus}
    {accepted : Bool} (updated : stage.updateTaskInfo partitionId status = .ok (accepted, next)) :
    next.inputs = stage.inputs := by
  unfold updateTaskInfo at updated
  split at updated
  · cases updated
  · cases updated
  · split at updated
    · cases updated
      rfl
    · split at updated
      · cases updated
      · split at updated
        · cases updated
        · cases updated
          rfl

theorem inputs_of_updateTaskMetrics {stage next : RunningStage Plan} {partition : Nat}
    {metrics : List OperatorMetricsSet} (updated : stage.updateTaskMetrics partition metrics = .ok next) :
    next.inputs = stage.inputs := by
  unfold updateTaskMetrics at updated
  split at updated
  · cases updated
    rfl
  · split at updated
    · split at updated
      · cases updated
      · cases updated
        rfl
    · cases updated
      rfl

theorem inputs_of_resetTaskInfo {stage next : RunningStage Plan} {partitionId : Nat}
    (reset : stage.resetTaskInfo partitionId = .ok next) : next.inputs = stage.inputs := by
  unfold resetTaskInfo at reset
  split at reset
  · cases reset
    rfl
  · cases reset

end RunningStage

section Reads

variable (ctx : UpdateContext) (graph : ExecutionGraph Plan) (stageId : Nat)

theorem reschedules_handleFetchFailure (attempt : Nat) (failedTask : FailedTask)
    (fetchError : FetchPartitionError) {read next : RunningRead Plan}
    (handled : handleFetchFailure ctx stageId attempt failedTask fetchError read = .ok next) :
    Reschedules (readLocations graph stageId read.1) (readLocations graph stageId next.1) read.2.2 next.2.2 := by
  obtain ⟨stage, locations, updates⟩ := read
  unfold handleFetchFailure at handled
  dsimp only at handled
  split at handled
  · split at handled
    · -- a stage failed already: only the attempt is recorded
      cases handled
      exact reschedules_of_inputs rfl rfl rfl
    · split at handled
      · cases handled
      · rename_i removed inputs removedInputs
        cases handled
        exact reschedules_removeInputPartitions removedInputs rfl rfl
  · cases handled
    exact reschedules_of_inputs rfl rfl rfl

theorem reschedules_handleRetryableFailure (partitionId : Nat) (failedTask : FailedTask)
    {read next : RunningRead Plan}
    (handled : handleRetryableFailure ctx stageId partitionId failedTask read = .ok next) :
    Reschedules (readLocations graph stageId read.1) (readLocations graph stageId next.1) read.2.2 next.2.2 := by
  obtain ⟨stage, locations, updates⟩ := read
  unfold handleRetryableFailure at handled
  dsimp only at handled
  split at handled
  · split at handled
    · cases handled
    · split at handled
      · split at handled
        · cases handled
        · rename_i reset
          cases handled
          exact reschedules_of_inputs (RunningStage.inputs_of_resetTaskInfo reset) rfl rfl
      · cases handled
        exact reschedules_of_inputs rfl rfl rfl
  · split at handled
    · split at handled
      · cases handled
      · rename_i reset
        cases handled
        exact reschedules_of_inputs (RunningStage.inputs_of_resetTaskInfo reset) rfl rfl
    · cases handled
      exact reschedules_of_inputs rfl rfl rfl

/-- One status of a running stage keeps the schedule relation. -/
theorem reschedules_updateRunningTaskStatus {read next : RunningRead Plan} {status : TaskStatus}
    (updated : updateRunningTaskStatus ctx stageId read status = .ok next) :
    Reschedules (readLocations graph stageId read.1) (readLocations graph stageId next.1) read.2.2 next.2.2 := by
  obtain ⟨stage, locations, updates⟩ := read
  unfold updateRunningTaskStatus at updated
  dsimp only at updated
  split at updated
  · cases updated
    exact .refl _ _
  · split at updated
    · cases updated
    · rename_i slotted
      cases updated
      exact reschedules_of_inputs (RunningStage.inputs_of_updateTaskInfo slotted) rfl rfl
    · -- the slot took the status: the kind of the status decides
      rename_i slotted
      have slot : Reschedules (readLocations graph stageId stage) (readLocations graph stageId _) updates
          updates := reschedules_of_inputs (RunningStage.inputs_of_updateTaskInfo slotted) rfl rfl
      split at updated
      · split at updated
        · exact slot.trans (reschedules_handleFetchFailure ctx graph stageId _ _ _ updated)
        · cases updated
          exact slot.trans (reschedules_of_inputs rfl rfl rfl)
        · exact slot.trans (reschedules_handleRetryableFailure ctx graph stageId _ _ updated)
        · cases updated
          exact slot.trans (reschedules_of_inputs rfl rfl rfl)
      · split at updated
        · cases updated
        · rename_i combined
          cases updated
          exact slot.trans (reschedules_of_inputs (RunningStage.inputs_of_updateTaskMetrics combined) rfl rfl)
      · cases updated
        exact slot

theorem reschedules_foldlM_updateRunningTaskStatus (statuses : List TaskStatus) {read next : RunningRead Plan}
    (folded : statuses.foldlM (updateRunningTaskStatus ctx stageId) read = .ok next) :
    Reschedules (readLocations graph stageId read.1) (readLocations graph stageId next.1) read.2.2 next.2.2 :=
  Except.foldlM_invariant
    (fun later : RunningRead Plan =>
      Reschedules (readLocations graph stageId read.1) (readLocations graph stageId later.1) read.2.2 later.2.2)
    (fun _ _ _ before updated => before.trans (reschedules_updateRunningTaskStatus ctx graph stageId updated))
    statuses (.refl _ _) folded

/-- A status of an unresolved stage schedules no rollback and no rerun. -/
theorem schedules_updateUnresolvedTaskStatus {read next : UnresolvedStage Plan × StatusUpdates}
    {status : TaskStatus} (updated : updateUnresolvedTaskStatus ctx stageId read status = .ok next) :
    next.2.rollbackRunningStages = read.2.rollbackRunningStages ∧
      next.2.resubmitSuccessfulStages = read.2.resubmitSuccessfulStages := by
  obtain ⟨stage, updates⟩ := read
  unfold updateUnresolvedTaskStatus at updated
  dsimp only at updated
  split at updated
  · split at updated
    · split at updated
      · cases updated
        exact ⟨rfl, rfl⟩
      · -- a late fetch failure schedules the reset of the map stage, not its rerun
        split at updated
        · split at updated
          · cases updated
          · cases updated
            exact ⟨rfl, rfl⟩
        · cases updated
          exact ⟨rfl, rfl⟩
      · cases updated
        exact ⟨rfl, rfl⟩
    · cases updated
      exact ⟨rfl, rfl⟩
  · cases updated
    exact ⟨rfl, rfl⟩

theorem schedules_foldlM_updateUnresolvedTaskStatus (statuses : List TaskStatus)
    {read next : UnresolvedStage Plan × StatusUpdates}
    (folded : statuses.foldlM (updateUnresolvedTaskStatus ctx stageId) read = .ok next) :
    next.2.rollbackRunningStages = read.2.rollbackRunningStages ∧
      next.2.resubmitSuccessfulStages = read.2.resubmitSuccessfulStages :=
  Except.foldlM_invariant
    (fun later : UnresolvedStage Plan × StatusUpdates =>
      later.2.rollbackRunningStages = read.2.rollbackRunningStages ∧
        later.2.resubmitSuccessfulStages = read.2.resubmitSuccessfulStages)
    (fun _ _ _ before updated => by
      obtain ⟨rollback, resubmit⟩ := schedules_updateUnresolvedTaskStatus ctx stageId updated
      exact ⟨rollback.trans before.1, resubmit.trans before.2⟩)
    statuses ⟨rfl, rfl⟩ folded

end Reads

/-! ## The whole read -/

/-- `Reschedules` between two states of the read. -/
abbrev UpdateState.Reschedules (state next : UpdateState Plan) : Prop :=
  Ballista.Reschedules (runningInputLocations state.graph.stages) (runningInputLocations next.graph.stages)
    state.updates next.updates

instance : IsPreorder (UpdateState Plan) UpdateState.Reschedules where
  refl _ := .refl _ _
  trans _ _ _ := Reschedules.trans

/-- A graph method that keeps the running stages' input locations. -/
def SameRunningInputs (graph next : ExecutionGraph Plan) : Prop :=
  runningInputLocations next.stages = runningInputLocations graph.stages

instance : IsPreorder (ExecutionGraph Plan) SameRunningInputs where
  refl _ := rfl
  trans _ _ _ first second := second.trans first

theorem sameRunningInputs_publishToLinks (stageId : Nat) (isCompleted : Bool)
    (locations : List PartitionLocation) :
    ∀ links, Steps SameRunningInputs (publishToLinks stageId isCompleted locations links : GraphM Plan (List Nat))
  | [] => Steps.pure _
  | link :: links => by
    refine Steps.bind_get fun graph => ?_
    split
    · rename_i linked found
      cases added : linked.addInputPartitions stageId locations with
      | error e =>
        rw [liftError_error, exec_bind_of_error (exec_throw _ _)]
        exact refl_of _ _
      | ok published =>
        rw [liftError_ok, exec_bind_of_ok (exec_pure _ _)]
        -- the linked stage stays unresolved, with no running inputs before or after
        exact steps_modify_bind (runningInputLocations_setStage_of_found found _ rfl)
          (Steps.bind (sameRunningInputs_publishToLinks stageId isCompleted locations links) fun _ =>
            Steps.pure _)
    · exact Steps.throw _ graph
    · exact Steps.throw _ graph

theorem sameRunningInputs_updateStageOutputLinks (stageId : Nat) (isCompleted : Bool)
    (locations : List PartitionLocation) (outputLinks : List Nat) :
    Steps SameRunningInputs (updateStageOutputLinks stageId isCompleted locations outputLinks :
      GraphM Plan (List Nat)) := by
  unfold updateStageOutputLinks
  split
  · exact Steps.bind (Steps.modify fun _ => rfl) fun _ => Steps.pure _
  · exact sameRunningInputs_publishToLinks stageId isCompleted locations outputLinks

theorem reschedules_onGraph {α : Type} {method : GraphM Plan α} (steps : Steps SameRunningInputs method) :
    Steps UpdateState.Reschedules (onGraph method) := by
  intro state
  rw [exec_onGraph]
  have same : SameRunningInputs state.graph (method.exec state.graph).2 := steps state.graph
  show Reschedules _ (runningInputLocations (method.exec state.graph).2.stages) _ _
  rw [same]
  exact .refl _ _

/-- The read of one group keeps the schedule relation on every run that returns. -/
theorem reschedules_updateStageTaskStatuses (ctx : UpdateContext) (stageId : Nat) (statuses : List TaskStatus) :
    StepsOk UpdateState.Reschedules (updateStageTaskStatuses ctx stageId statuses : UpdateM Plan Unit) := by
  refine StepsOk.bind_get fun state _ next ran => ?_
  split at ran
  · rename_i stage found
    split at ran
    · -- the stage as the loop left it is written back and the fault thrown
      rw [exec_bind_of_ok (exec_set _ _), exec_throw] at ran
      cases ran
    · rename_i read locations updates folded
      have readStage := reschedules_foldlM_updateRunningTaskStatus ctx state.graph stageId statuses folded
      rw [readLocations_of_found found] at readStage
      refine StepsOk.set_bind ran ?_ (StepsOk.bind
        (reschedules_onGraph (sameRunningInputs_updateStageOutputLinks _ _ _ _)).stepsOk
        fun _ => (Steps.modify fun _ => .of_same _ rfl rfl).stepsOk)
      -- a finished stage is noted successful, which neither schedule sees
      split
      · exact readStage.trans (.of_same _ rfl rfl)
      · exact readStage
  · rename_i stage found
    split at ran
    · rw [exec_bind_of_ok (exec_set _ _), exec_throw] at ran
      cases ran
    · rename_i read updates folded
      rw [exec_set, Prod.mk.injEq] at ran
      obtain ⟨-, rfl⟩ := ran
      obtain ⟨rollback, resubmit⟩ := schedules_foldlM_updateUnresolvedTaskStatus ctx stageId statuses folded
      show Reschedules _ (runningInputLocations (state.graph.setStage stageId (.unResolved read)).stages) _ _
      rw [runningInputLocations_setStage_of_found found (.unResolved read) rfl]
      exact .of_same _ rollback resubmit
  · rw [exec_pure, Prod.mk.injEq] at ran
    obtain ⟨-, rfl⟩ := ran
    exact refl_of _ _
  · cases ran

theorem reschedules_visitGroups (ctx : UpdateContext) (groups : Table Nat (List TaskStatus)) :
    ∀ visit, StepsOk UpdateState.Reschedules (visitGroups ctx groups visit : UpdateM Plan Unit)
  | [] => (Steps.pure _).stepsOk
  | stageId :: rest =>
    StepsOk.bind (reschedules_updateStageTaskStatuses ctx stageId _) fun _ => reschedules_visitGroups ctx groups rest

/-- **The rerun schedule of a read.** A read that returns drops, from the
inputs of the running stages, only locations of executors that the rollback of
their stage names; it schedules a map partition to rerun exactly when it
dropped a location of it; and it schedules each stage once, to roll back and to
rerun. -/
theorem readTaskStatuses_reschedules {executor : ExecutorMetadata} {maxTaskFailures maxStageFailures : Nat}
    {groups : Table Nat (List TaskStatus)} {visit : List Nat} {graph next : ExecutionGraph Plan}
    {updates : StatusUpdates}
    (read : (readTaskStatuses executor maxTaskFailures maxStageFailures groups visit).exec graph =
      (.ok updates, next)) :
    Reschedules (runningInputLocations graph.stages) (runningInputLocations next.stages)
      (StatusUpdates.initial graph) updates := by
  unfold readTaskStatuses at read
  obtain ⟨_, _, got, read⟩ := exec_bind_eq_ok read
  rw [exec_get, Prod.mk.injEq, Except.ok.injEq] at got
  obtain ⟨rfl, rfl⟩ := got
  dsimp only at read
  have visited := reschedules_visitGroups (UpdateContext.ofGraph graph executor maxTaskFailures maxStageFailures)
    groups visit { graph := graph, updates := StatusUpdates.initial graph }
  generalize (visitGroups _ groups visit).exec { graph := graph, updates := StatusUpdates.initial graph } =
    ran at read visited
  obtain ⟨result, state⟩ := ran
  dsimp only at read
  obtain ⟨_, _, wrote, read⟩ := exec_bind_eq_ok read
  rw [exec_set, Prod.mk.injEq] at wrote
  obtain ⟨-, rfl⟩ := wrote
  obtain ⟨_, _, lifted, read⟩ := exec_bind_eq_ok read
  -- the groups were read to the end
  cases result with
  | error fault =>
    rw [liftFault_error, exec_throw] at lifted
    cases lifted
  | ok value =>
    rw [liftFault_ok, exec_pure, Prod.mk.injEq] at lifted
    obtain ⟨-, rfl⟩ := lifted
    rw [exec_pure, Prod.mk.injEq, Except.ok.injEq] at read
    obtain ⟨rfl, rfl⟩ := read
    exact visited _ _ rfl

end Ballista
