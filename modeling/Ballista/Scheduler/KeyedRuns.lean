import Ballista.Scheduler.StatusFrame
import Ballista.Scheduler.LostExecutorScan
import Ballista.Scheduler.StageKeys
import Ballista.Scheduler.Run

/-! # Every run keeps the stages keyed and sized

`ExecutionGraph::new` keys each stage by its own id, each id once
(`wellKeyed_new`), and starts no stage running (`sized_new`). No method of the
graph breaks either: a method writes a stage only at the id of a stage it read
there, as that stage moved on, or removes a stage. A move
(`ExecutionStage.Moves`) keeps the stage's id, and keeps a task slot and a
failure count for each partition of a running stage and a task for each
partition of a successful one (`ExecutionStage.Sized`). `Steps StagesMove` is
built here method by method, from the stage transitions up, then for every step
of a job (`JobStep.stagesMove`), so that every graph a job reaches is keyed
(`Reaches.wellKeyed_of_start`) and sized (`Reaches.sized_of_start`).
-/

namespace Ballista

open ExceptT ExecutionGraph

variable {Plan : Type}

namespace ExecutionStage

/-- A running stage holds a task slot and a failure count for each of its
partitions, and a successful stage a task for each. -/
def Sized : ExecutionStage Plan → Prop
  | .running stage =>
    stage.taskInfos.length = stage.partitions ∧ stage.taskFailureNumbers.length = stage.partitions
  | .successful stage => stage.taskInfos.length = stage.partitions
  | _ => True

/-- A move of a stage in place, as the methods of the graph make them: the
stage keeps its id, and a sized stage stays sized. -/
structure Moves (stage next : ExecutionStage Plan) : Prop where
  stageId : next.stageId = stage.stageId
  sized : stage.Sized → next.Sized

theorem Moves.refl (stage : ExecutionStage Plan) : stage.Moves stage := ⟨rfl, id⟩

theorem Moves.trans {stage middle next : ExecutionStage Plan} (first : stage.Moves middle)
    (second : middle.Moves next) : stage.Moves next :=
  ⟨second.stageId.trans first.stageId, second.sized ∘ first.sized⟩

/-- A move to a state that carries no slots needs only the id. -/
theorem Moves.of_stageId {stage next : ExecutionStage Plan} (stageId : next.stageId = stage.stageId)
    (sized : next.Sized) : stage.Moves next :=
  ⟨stageId, fun _ => sized⟩

/-- A running stage moves when it keeps its id, its partitions, and as many
task slots and failure counts as it had. -/
theorem moves_running {stage next : RunningStage Plan} (stageId : next.stageId = stage.stageId)
    (partitions : next.partitions = stage.partitions)
    (taskInfos : next.taskInfos.length = stage.taskInfos.length)
    (failures : next.taskFailureNumbers.length = stage.taskFailureNumbers.length) :
    (running stage).Moves (running next) := by
  refine ⟨stageId, fun sized => ?_⟩
  obtain ⟨slots, counts⟩ := sized
  exact ⟨by rw [taskInfos, slots, partitions], by rw [failures, counts, partitions]⟩

/-- A successful stage moves when it keeps its id, its partitions and as many tasks. -/
theorem moves_successful {stage next : SuccessfulStage Plan} (stageId : next.stageId = stage.stageId)
    (partitions : next.partitions = stage.partitions)
    (taskInfos : next.taskInfos.length = stage.taskInfos.length) :
    (successful stage).Moves (successful next) := by
  refine ⟨stageId, fun sized => ?_⟩
  show next.taskInfos.length = next.partitions
  rw [taskInfos, partitions]
  exact sized

theorem moves_setTaskInfo (stage : RunningStage Plan) (partitionId : Nat) (info : Option TaskInfo) :
    (running stage).Moves (running { stage with taskInfos := stage.taskInfos.set partitionId info }) :=
  moves_running rfl rfl (List.length_set ..) rfl

theorem length_of_mapM_eq_some {α : Type} :
    ∀ {items : List (Option α)} {values : List α}, items.mapM id = some values →
      values.length = items.length
  | [], values, mapped => by
    simp only [List.mapM_nil, pure, Option.some.injEq] at mapped
    simp [← mapped]
  | item :: items, values, mapped => by
    simp only [List.mapM_cons, id] at mapped
    cases item with
    | none => simp at mapped
    | some value =>
      cases rest : items.mapM id with
      | none => simp [rest] at mapped
      | some rest' =>
        simp only [rest, Option.bind_eq_bind, Option.bind_some, Option.pure_def,
          Option.some.injEq] at mapped
        subst mapped
        simp [length_of_mapM_eq_some rest]

/-- Completing a stage keeps a task for each slot. -/
theorem moves_toSuccessful {stage : RunningStage Plan} {done : SuccessfulStage Plan}
    (ok : stage.toSuccessful = .ok done) : (running stage).Moves (successful done) := by
  unfold RunningStage.toSuccessful at ok
  split at ok
  · rename_i taskInfos mapped
    cases ok
    refine ⟨rfl, fun sized => ?_⟩
    show taskInfos.length = stage.partitions
    rw [length_of_mapM_eq_some mapped]
    exact sized.1
  · cases ok

/-- Rerunning a successful stage starts a failure count for each partition. -/
theorem moves_rerun (stage : SuccessfulStage Plan) :
    (successful stage).Moves (running stage.toRunning) := by
  refine ⟨rfl, fun sized => ?_⟩
  have slots : stage.taskInfos.length = stage.partitions := sized
  exact ⟨by simp [SuccessfulStage.toRunning, slots], by simp [SuccessfulStage.toRunning]⟩

theorem moves_revived (stage : ExecutionStage Plan) : stage.Moves stage.revived := by
  cases stage with
  | resolved stage =>
    exact .of_stageId rfl ⟨by simp [ResolvedStage.toRunning, RunningStage.new],
      by simp [ResolvedStage.toRunning, RunningStage.new]⟩
  | _ => exact .refl _

theorem moves_dropLost (executorId : String) (stage : ExecutionStage Plan) :
    stage.Moves (stage.dropLost executorId) := by
  cases stage with
  | unResolved stage => exact .of_stageId rfl trivial
  | resolved stage => exact .of_stageId rfl trivial
  | running stage => exact moves_running rfl rfl (by simp [RunningStage.resetTasks]) rfl
  | successful stage => exact .refl _
  | failed stage => exact .refl _

theorem moves_resetLost (executorId : String) (resubmitInputs : List Nat) (stageId : Nat)
    (stage : ExecutionStage Plan) : stage.Moves (stage.resetLost executorId resubmitInputs stageId) := by
  cases stage with
  | successful success =>
    simp only [ExecutionStage.resetLost]
    split
    · exact moves_successful rfl rfl (by simp [SuccessfulStage.resetTasks])
    · exact .refl _
  | _ => exact .refl _

end ExecutionStage

namespace RunningStage

variable {stage next : RunningStage Plan}

theorem moves_of_updateTaskInfo {partitionId : Nat} {status : TaskStatus} {accepted : Bool}
    (updated : stage.updateTaskInfo partitionId status = .ok (accepted, next)) :
    (ExecutionStage.running stage).Moves (.running next) := by
  unfold updateTaskInfo at updated
  split at updated
  · cases updated
  · cases updated
  · split at updated
    · -- a stale task id: the stage is kept
      cases updated
      exact .refl _
    · split at updated
      · cases updated
      · split at updated
        · cases updated
        · -- the slot takes the status and its failure count, both in place
          cases updated
          exact ExecutionStage.moves_running rfl rfl (List.length_set ..) (List.length_set ..)

theorem moves_of_updateTaskMetrics {partition : Nat} {metrics : List OperatorMetricsSet}
    (updated : stage.updateTaskMetrics partition metrics = .ok next) :
    (ExecutionStage.running stage).Moves (.running next) := by
  unfold updateTaskMetrics at updated
  split at updated
  · cases updated
    exact .refl _
  · split at updated
    · split at updated
      · cases updated
      · -- the task's metrics are combined into the stage's
        cases updated
        exact ExecutionStage.moves_running rfl rfl rfl rfl
    · cases updated
      exact ExecutionStage.moves_running rfl rfl rfl rfl

theorem moves_of_resetTaskInfo {partitionId : Nat} (reset : stage.resetTaskInfo partitionId = .ok next) :
    (ExecutionStage.running stage).Moves (.running next) := by
  unfold resetTaskInfo at reset
  split at reset
  · cases reset
    exact ExecutionStage.moves_setTaskInfo stage partitionId none
  · cases reset

end RunningStage

namespace ExecutionGraph

theorem WellKeyed.stageId_of_get? {graph : ExecutionGraph Plan} (keyed : graph.WellKeyed)
    {stageId : Nat} {stage : ExecutionStage Plan} (found : graph.stages.get? stageId = some stage) :
    stage.stageId = stageId :=
  keyed.keyed _ (Table.get?_eq_some_mem found)

/-- A stage written at its own id keeps the map keyed. -/
theorem WellKeyed.setStage_self {graph : ExecutionGraph Plan} (keyed : graph.WellKeyed)
    {stageId : Nat} {stage : ExecutionStage Plan} (sameId : stage.stageId = stageId) :
    (graph.setStage stageId stage).WellKeyed := by
  refine ⟨Table.keys_insert_nodup _ _ keyed.distinct, fun entry mem => ?_⟩
  rcases Table.mem_insert_cases mem with rfl | earlier
  · exact sameId
  · exact keyed.keyed entry earlier

theorem WellKeyed.of_stages {graph next : ExecutionGraph Plan} (keyed : graph.WellKeyed)
    (same : next.stages = graph.stages) : next.WellKeyed :=
  ⟨same ▸ keyed.distinct, same ▸ keyed.keyed⟩

/-- Every stage of the graph is sized. -/
def Sized (graph : ExecutionGraph Plan) : Prop := ∀ entry ∈ graph.stages, entry.2.Sized

/-- What a method of the graph does to its stages: a keyed graph stays keyed,
and each stage it leaves moved in place from the stage at its id. -/
def StagesMove (graph next : ExecutionGraph Plan) : Prop :=
  graph.WellKeyed → next.WellKeyed ∧
    ∀ entry ∈ next.stages, ∃ stage, (entry.1, stage) ∈ graph.stages ∧ stage.Moves entry.2

instance : IsPreorder (ExecutionGraph Plan) StagesMove where
  refl _ keyed := ⟨keyed, fun entry mem => ⟨entry.2, mem, .refl _⟩⟩
  trans _ _ _ first second keyed := by
    obtain ⟨keyedMiddle, earlier⟩ := first keyed
    obtain ⟨keyedNext, later⟩ := second keyedMiddle
    refine ⟨keyedNext, fun entry mem => ?_⟩
    obtain ⟨stage, atMiddle, moved⟩ := later entry mem
    obtain ⟨origin, atStart, movedBefore⟩ := earlier _ atMiddle
    exact ⟨origin, atStart, movedBefore.trans moved⟩

theorem StagesMove.wellKeyed {graph next : ExecutionGraph Plan} (moved : graph.StagesMove next)
    (keyed : graph.WellKeyed) : next.WellKeyed :=
  (moved keyed).1

theorem StagesMove.sized {graph next : ExecutionGraph Plan} (moved : graph.StagesMove next)
    (keyed : graph.WellKeyed) (sized : graph.Sized) : next.Sized := by
  intro entry mem
  obtain ⟨stage, atKey, moves⟩ := (moved keyed).2 entry mem
  exact moves.sized (sized _ atKey)

theorem StagesMove.of_stages {graph next : ExecutionGraph Plan} (same : next.stages = graph.stages) :
    graph.StagesMove next := fun keyed =>
  ⟨keyed.of_stages same, fun entry mem => ⟨entry.2, same ▸ mem, .refl _⟩⟩

/-- A move followed by a change that leaves the stages alone. -/
theorem StagesMove.trans_stages {graph middle next : ExecutionGraph Plan}
    (moved : graph.StagesMove middle) (same : next.stages = middle.stages) : graph.StagesMove next :=
  IsTrans.trans _ _ _ moved (StagesMove.of_stages same)

theorem StagesMove.setStage {graph : ExecutionGraph Plan} {stageId : Nat}
    {stage next : ExecutionStage Plan} (found : graph.stages.get? stageId = some stage)
    (moves : stage.Moves next) : graph.StagesMove (graph.setStage stageId next) := fun keyed => by
  refine ⟨keyed.setStage found moves.stageId, fun entry mem => ?_⟩
  rcases Table.mem_insert_cases mem with rfl | earlier
  · exact ⟨stage, Table.get?_eq_some_mem found, moves⟩
  · exact ⟨entry.2, earlier, .refl _⟩

theorem StagesMove.dropStage (graph : ExecutionGraph Plan) (stageId : Nat) :
    graph.StagesMove (graph.dropStage stageId) := fun keyed =>
  ⟨keyed.dropStage stageId, fun entry mem => ⟨entry.2, Table.mem_of_mem_erase mem, .refl _⟩⟩

/-- Rewriting every stage in place by a move. -/
theorem StagesMove.mapValues (graph : ExecutionGraph Plan)
    {update : Nat → ExecutionStage Plan → ExecutionStage Plan}
    (moves : ∀ stageId (stage : ExecutionStage Plan), stage.Moves (update stageId stage)) :
    graph.StagesMove { graph with stages := graph.stages.mapValues update } := fun keyed => by
  refine ⟨keyed.mapValues fun stageId (stage : ExecutionStage Plan) => (moves stageId stage).stageId,
    fun entry mem => ?_⟩
  obtain ⟨⟨stageId, stage⟩, old, rfl⟩ := List.mem_map.mp mem
  exact ⟨stage, old, moves stageId stage⟩

theorem StagesMove.revive (graph : ExecutionGraph Plan) : graph.StagesMove graph.revive.2 := fun keyed => by
  refine ⟨keyed.revive, fun entry mem => ?_⟩
  obtain ⟨stageId, stage'⟩ := entry
  have found := Table.get?_of_mem keyed.revive.distinct mem
  rw [keyed.get?_revive_eq] at found
  obtain ⟨stage, atKey, rfl⟩ := Option.map_eq_some_iff.mp found
  exact ⟨stage, Table.get?_eq_some_mem atKey, ExecutionStage.moves_revived stage⟩

end ExecutionGraph

section Reads

variable (ctx : UpdateContext) (stageId : Nat)

theorem moves_handleFetchFailure (taskStageAttemptNum : Nat) (failedTask : FailedTask)
    (fetchError : FetchPartitionError) (read : RunningRead Plan) :
    (ExecutionStage.running read.1).Moves (.running (Except.carried Prod.fst
      (handleFetchFailure ctx stageId taskStageAttemptNum failedTask fetchError read))) := by
  obtain ⟨stage, locations, updates⟩ := read
  unfold handleFetchFailure
  dsimp only
  split
  · split
    · -- a stage failed already: the stage is kept
      exact .refl _
    · split
      · exact .refl _
      · -- the lost locations leave the inputs, the slots stay
        exact ExecutionStage.moves_running rfl rfl rfl rfl
  · -- at the limit the stage is kept, and marked failed
    exact .refl _

theorem moves_handleRetryableFailure (partitionId : Nat) (failedTask : FailedTask)
    (read : RunningRead Plan) :
    (ExecutionStage.running read.1).Moves (.running (Except.carried Prod.fst
      (handleRetryableFailure ctx stageId partitionId failedTask read))) := by
  obtain ⟨stage, locations, updates⟩ := read
  unfold handleRetryableFailure
  dsimp only
  split
  · -- a counted failure
    split
    · exact .refl _
    · split
      · -- below the task failure limit the slot is freed for a retry
        split
        · exact .refl _
        · rename_i reset
          exact RunningStage.moves_of_resetTaskInfo reset
      · exact .refl _
  · split
    · -- an uncounted retryable failure frees the slot too
      split
      · exact .refl _
      · rename_i reset
        exact RunningStage.moves_of_resetTaskInfo reset
    · exact .refl _

/-- A status of a running stage moves the stage, also when it faults. -/
theorem moves_updateRunningTaskStatus (read : RunningRead Plan) (status : TaskStatus) :
    (ExecutionStage.running read.1).Moves
      (.running (Except.carried Prod.fst (updateRunningTaskStatus ctx stageId read status))) := by
  obtain ⟨stage, locations, updates⟩ := read
  unfold updateRunningTaskStatus
  dsimp only
  split
  · exact .refl _
  · split
    · exact .refl _
    · exact RunningStage.moves_of_updateTaskInfo ‹_›
    · rename_i next updated
      refine (RunningStage.moves_of_updateTaskInfo updated).trans ?_
      -- the slot took the status: the stage moves on by the status's kind
      split
      · split
        · exact moves_handleFetchFailure ctx stageId _ _ _ (next, locations, updates)
        · exact .refl _
        · exact moves_handleRetryableFailure ctx stageId _ _ (next, locations, updates)
        · exact .refl _
      · split
        · exact .refl _
        · exact RunningStage.moves_of_updateTaskMetrics ‹_›
      · exact .refl _

theorem moves_updateUnresolvedTaskStatus (read : UnresolvedStage Plan × StatusUpdates)
    (status : TaskStatus) :
    (ExecutionStage.unResolved read.1).Moves
      (.unResolved (Except.carried Prod.fst (updateUnresolvedTaskStatus ctx stageId read status))) := by
  refine .of_stageId ?_ trivial
  obtain ⟨stage, updates⟩ := read
  unfold updateUnresolvedTaskStatus
  dsimp only
  repeat' split
  all_goals rfl

theorem moves_foldlM_updateRunningTaskStatus (statuses : List TaskStatus) (read : RunningRead Plan) :
    (ExecutionStage.running read.1).Moves (.running
      (Except.carried Prod.fst (statuses.foldlM (updateRunningTaskStatus ctx stageId) read))) :=
  Except.carried_foldlM (fun stage : RunningStage Plan => (ExecutionStage.running read.1).Moves (.running stage))
    (fun read' status moved => moved.trans (moves_updateRunningTaskStatus ctx stageId read' status))
    statuses read (.refl _)

theorem moves_foldlM_updateUnresolvedTaskStatus (statuses : List TaskStatus)
    (read : UnresolvedStage Plan × StatusUpdates) :
    (ExecutionStage.unResolved read.1).Moves (.unResolved
      (Except.carried Prod.fst (statuses.foldlM (updateUnresolvedTaskStatus ctx stageId) read))) :=
  Except.carried_foldlM
    (fun stage : UnresolvedStage Plan => (ExecutionStage.unResolved read.1).Moves (.unResolved stage))
    (fun read' status moved => moved.trans (moves_updateUnresolvedTaskStatus ctx stageId read' status))
    statuses read (.refl _)

end Reads

section GraphMethods

/-- A graph method moves the stages in place, on every run, to a value or not. -/
abbrev MovesStages {α : Type} (method : GraphM Plan α) : Prop := Steps StagesMove method

theorem movesStages_liftFault {α : Type} (result : Except Fault α) :
    MovesStages (liftFault result : GraphM Plan α) := by
  cases result with
  | ok value => exact Steps.pure value
  | error fault => exact Steps.throw fault

theorem movesStages_reviveM : MovesStages (reviveM : GraphM Plan Bool) :=
  Steps.modifyGet StagesMove.revive

theorem movesStages_succeedStage (stageId : Nat) :
    MovesStages (succeedStage stageId : GraphM Plan Bool) := by
  refine Steps.bind_get fun graph => ?_
  split
  · rename_i stage found
    cases ok : stage.toSuccessful with
    | error fault =>
      rw [liftFault_error, exec_bind_of_error (exec_throw _ _)]
      exact refl_of _ _
    | ok done =>
      rw [liftFault_ok, exec_bind_of_ok (exec_pure _ _)]
      exact steps_modify_bind
        ((StagesMove.setStage found (ExecutionStage.moves_toSuccessful ok)).trans_stages rfl)
        (Steps.pure _)
  · exact steps_modify_bind (StagesMove.dropStage graph stageId) (Steps.pure _)
  · exact Steps.pure _ graph

theorem movesStages_rerunSuccessfulStage (stageId : Nat) :
    MovesStages (rerunSuccessfulStage stageId : GraphM Plan Bool) := by
  refine Steps.bind_get fun graph => ?_
  split
  · rename_i stage found
    exact steps_modify_bind (StagesMove.setStage found (ExecutionStage.moves_rerun stage)) (Steps.pure _)
  · exact steps_modify_bind (StagesMove.dropStage graph stageId) (Steps.pure _)
  · exact Steps.pure _ graph

theorem UnresolvedStage.stageId_of_addInputPartitions {stage next : UnresolvedStage Plan}
    {inputStageId : Nat} {locations : List PartitionLocation}
    (added : stage.addInputPartitions inputStageId locations = .ok next) : next.stageId = stage.stageId := by
  unfold UnresolvedStage.addInputPartitions at added
  split at added
  · cases added
    rfl
  · cases added

theorem movesStages_publishToLinks (stageId : Nat) (isCompleted : Bool)
    (locations : List PartitionLocation) :
    ∀ links, MovesStages (publishToLinks stageId isCompleted locations links : GraphM Plan (List Nat))
  | [] => Steps.pure _
  | link :: links => by
    refine Steps.bind_get fun graph => ?_
    split
    · rename_i linked found
      cases added : linked.addInputPartitions stageId locations with
      | error e =>
        rw [liftError_error, exec_bind_of_error (exec_throw _ _)]
        exact refl_of _ _
      | ok published =>
        rw [liftError_ok, exec_bind_of_ok (exec_pure _ _)]
        have sameId : (if isCompleted then published.completeInput stageId else published).stageId =
            linked.stageId := by
          split <;> exact (UnresolvedStage.stageId_of_addInputPartitions added : published.stageId = _)
        exact steps_modify_bind (StagesMove.setStage found (.of_stageId sameId trivial))
          (Steps.bind (movesStages_publishToLinks stageId isCompleted locations links) fun _ =>
            Steps.pure _)
    · exact Steps.throw _ graph
    · exact Steps.throw _ graph

theorem movesStages_updateStageOutputLinks (stageId : Nat) (isCompleted : Bool)
    (locations : List PartitionLocation) (outputLinks : List Nat) :
    MovesStages (updateStageOutputLinks stageId isCompleted locations outputLinks :
      GraphM Plan (List Nat)) := by
  unfold updateStageOutputLinks
  split
  · exact Steps.bind (Steps.modify fun _ => StagesMove.of_stages rfl) fun _ => Steps.pure _
  · exact movesStages_publishToLinks stageId isCompleted locations outputLinks

theorem mem_of_firstAvailableStage {stages : Table Nat (ExecutionStage Plan)} {stageId : Nat}
    {stage : RunningStage Plan} (found : firstAvailableStage stages = some (stageId, stage)) :
    (stageId, .running stage) ∈ stages := by
  unfold firstAvailableStage at found
  obtain ⟨⟨key, entryStage⟩, mem, picked⟩ := List.exists_of_findSome?_eq_some found
  cases entryStage with
  | running running =>
    dsimp only at picked
    split at picked
    · cases picked
      exact mem
    · cases picked
  | _ => cases picked

theorem ExecutionGraph.WellKeyed.get?_of_firstAvailableStage {graph : ExecutionGraph Plan}
    (keyed : graph.WellKeyed) {stageId : Nat} {stage : RunningStage Plan}
    (found : firstAvailableStage graph.stages = some (stageId, stage)) :
    graph.stages.get? stageId = some (.running stage) :=
  Table.get?_of_mem keyed.distinct (mem_of_firstAvailableStage found)

theorem movesStages_takeNextTask (executorId : String) (taskId : Nat) :
    MovesStages (takeNextTask executorId taskId : GraphM Plan (Option (TaskDescription Plan))) := by
  refine Steps.bind_get fun graph => ?_
  split
  · exact Steps.pure _ graph
  · rename_i stageId stage found
    split
    · split
      · -- the stage found is the one at its id only in a keyed graph
        refine steps_modify_bind (fun keyed => ?_) (Steps.pure _)
        exact StagesMove.setStage (keyed.get?_of_firstAvailableStage found)
          (ExecutionStage.moves_setTaskInfo _ _ _) keyed
      · exact Steps.throw _ graph
    · exact Steps.throw _ graph

theorem movesStages_popNextTaskFrom (executorId : String) :
    ∀ depth, MovesStages (popNextTaskFrom executorId depth : GraphM Plan (Option (TaskDescription Plan)))
  | 0 => Steps.pure _
  | depth + 1 => by
    refine Steps.bind Steps.get fun graph => ?_
    split
    · exact Steps.pure _
    · dsimp only
      split
      all_goals
        first
          | refine Steps.bind (Steps.modify fun _ => StagesMove.of_stages rfl) fun _ =>
              Steps.bind (movesStages_takeNextTask executorId _) fun nextTask => ?_
          | refine Steps.bind (Steps.pure _) fun nextTask => ?_
        -- both searches end in the join point: a task found, or a revive and another try
        split
        · exact Steps.pure _
        · refine Steps.bind movesStages_reviveM fun revived => ?_
          split
          · exact movesStages_popNextTaskFrom executorId depth
          · exact Steps.pure _

theorem movesStages_popNextTask (executorId : String) :
    MovesStages (popNextTask executorId : GraphM Plan (Option (TaskDescription Plan))) :=
  movesStages_popNextTaskFrom executorId 2

theorem movesStages_getRunningStageIdFrom (blackList : List Nat) :
    ∀ depth, MovesStages (getRunningStageIdFrom blackList depth : GraphM Plan (Option Nat))
  | 0 => Steps.pure _
  | depth + 1 => by
    refine Steps.bind Steps.get fun graph => ?_
    split
    · exact Steps.pure _
    · refine Steps.bind movesStages_reviveM fun revived => ?_
      split
      · exact movesStages_getRunningStageIdFrom blackList depth
      · exact Steps.pure _

theorem movesStages_fetchRunningStage (blackList : List Nat) :
    MovesStages (fetchRunningStage blackList : GraphM Plan (Option (RunningStage Plan))) := by
  refine Steps.bind Steps.get fun graph => ?_
  split
  · exact Steps.pure _
  · refine Steps.bind (movesStages_getRunningStageIdFrom blackList 2) fun fetched => ?_
    split
    · refine Steps.bind Steps.get fun graph => ?_
      split <;> exact Steps.pure _
    · exact Steps.pure _

theorem movesStages_bindStageTasks (stageId : Nat) :
    ∀ executors, MovesStages (bindStageTasks stageId executors : GraphM Plan (List (TaskDescription Plan)))
  | [] => Steps.pure _
  | executorId :: executors => by
    refine Steps.bind_get fun graph => ?_
    split
    · rename_i stage found
      split
      · exact Steps.pure _ graph
      · dsimp only
        split
        · refine steps_modify_bind
            ((StagesMove.setStage found (ExecutionStage.moves_setTaskInfo _ _ _)).trans_stages rfl)
            (Steps.bind (movesStages_bindStageTasks stageId executors) fun _ => Steps.pure _)
        · exact Steps.throw _ graph
    · exact Steps.pure _ graph

theorem movesStages_bindTasks (blackList : List Nat) (executors : List String) :
    MovesStages (bindTasks blackList executors : GraphM Plan (List (TaskDescription Plan))) := by
  refine Steps.bind (movesStages_fetchRunningStage blackList) fun fetched => ?_
  split
  · exact movesStages_bindStageTasks _ executors
  · exact Steps.pure _

theorem movesStages_markLostOutputs (jobId : String) (stageId : Nat) :
    ∀ partitions, MovesStages (markLostOutputs jobId stageId partitions : GraphM Plan Unit)
  | [] => Steps.pure _
  | partition :: rest => by
    refine Steps.bind_get fun graph => ?_
    dsimp only
    split
    · rename_i stage found
      split
      · rw [exec_bind_of_error (exec_throw _ _)]
        exact refl_of _ _
      · split
        · refine steps_modify_bind (StagesMove.setStage found ?_) (movesStages_markLostOutputs jobId stageId rest)
          exact ExecutionStage.moves_successful rfl rfl (List.length_set ..)
        · exact Steps.throw _ graph
    · exact movesStages_markLostOutputs jobId stageId rest graph

theorem movesStages_resubmitSuccessfulStages (jobId : String) :
    ∀ resubmit, MovesStages (resubmitSuccessfulStages jobId resubmit : GraphM Plan Unit)
  | [] => Steps.pure _
  | (stageId, missingParts) :: rest => by
    refine Steps.bind Steps.get fun graph => ?_
    dsimp only
    split
    · exact Steps.bind (movesStages_markLostOutputs jobId stageId missingParts) fun _ =>
        movesStages_resubmitSuccessfulStages jobId rest
    · exact movesStages_resubmitSuccessfulStages jobId rest
    · exact Steps.bind (Steps.throw _) fun _ => movesStages_resubmitSuccessfulStages jobId rest

theorem movesStages_resetLostTasks (stageId : Nat) :
    ∀ partitions, MovesStages (resetLostTasks stageId partitions : GraphM Plan Unit)
  | [] => Steps.pure _
  | partition :: rest => by
    refine Steps.bind_get fun graph => ?_
    dsimp only
    split
    · rename_i stage found
      split
      · rw [exec_bind_of_error (exec_throw _ _)]
        exact refl_of _ _
      · cases reset : stage.resetTaskInfo partition with
        | error fault =>
          rw [liftFault_error, exec_bind_of_error (exec_throw _ _)]
          exact refl_of _ _
        | ok next =>
          rw [liftFault_ok, exec_bind_of_ok (exec_pure _ _)]
          exact steps_modify_bind (StagesMove.setStage found (RunningStage.moves_of_resetTaskInfo reset))
            (movesStages_resetLostTasks stageId rest)
    · exact movesStages_resetLostTasks stageId rest graph

theorem movesStages_resetRunningStages (jobId : String) :
    ∀ reset, MovesStages (resetRunningStages jobId reset : GraphM Plan Unit)
  | [] => Steps.pure _
  | (stageId, missingParts) :: rest => by
    refine Steps.bind Steps.get fun graph => ?_
    dsimp only
    split
    · exact Steps.bind (movesStages_resetLostTasks stageId missingParts) fun _ =>
        movesStages_resetRunningStages jobId rest
    · exact movesStages_resetRunningStages jobId rest
    · exact Steps.bind (Steps.throw _) fun _ => movesStages_resetRunningStages jobId rest

theorem movesStages_succeedStages :
    ∀ stageIds, MovesStages (succeedStages stageIds : GraphM Plan Unit)
  | [] => Steps.pure _
  | stageId :: rest => Steps.bind (movesStages_succeedStage stageId) fun _ => movesStages_succeedStages rest

theorem movesStages_rerunSuccessfulStages :
    ∀ stageIds, MovesStages (rerunSuccessfulStages stageIds : GraphM Plan Unit)
  | [] => Steps.pure _
  | stageId :: rest =>
    Steps.bind (movesStages_rerunSuccessfulStage stageId) fun _ => movesStages_rerunSuccessfulStages rest

theorem movesStages_rerunStages :
    ∀ stageIds, MovesStages (rerunStages stageIds : GraphM Plan Unit)
  | [] => Steps.pure _
  | stageId :: rest =>
    Steps.bind (movesStages_rerunSuccessfulStage stageId) fun _ => movesStages_rerunStages rest

theorem movesStages_succeedJob : MovesStages (succeedJob : GraphM Plan Unit) := by
  refine Steps.bind_get fun graph => ?_
  split
  · rw [exec_bind_of_error (exec_throw _ _)]
    exact refl_of _ _
  · dsimp only
    rw [exec_set]
    exact StagesMove.of_stages rfl

theorem movesStages_finishStagesUpdate (jobId : String) (failedStages : Table Nat String)
    (hasResolved : Bool) (events : List QueryStageSchedulerEvent) :
    MovesStages (finishStagesUpdate jobId failedStages hasResolved events :
      GraphM Plan (List QueryStageSchedulerEvent)) := by
  unfold finishStagesUpdate
  dsimp only
  split
  · exact Steps.bind (Steps.modify fun _ => StagesMove.of_stages rfl) fun _ => Steps.pure _
  · refine Steps.bind Steps.get fun _ => ?_
    split
    · exact Steps.bind movesStages_succeedJob fun _ => Steps.pure _
    · split <;> exact Steps.pure _

variable [StagePlan Plan]

theorem movesStages_resolveStage (stageId : Nat) : MovesStages (resolveStage stageId : GraphM Plan Bool) := by
  refine Steps.bind_get fun graph => ?_
  split
  · rename_i stage found
    split
    · rename_i resolved ok
      exact steps_modify_bind
        (StagesMove.setStage found (.of_stageId (ExecutionStage.toResolved_eq_ok ok).1 trivial))
        (Steps.pure _)
    · exact steps_modify_bind (StagesMove.dropStage graph stageId) (Steps.throw _)
  · exact steps_modify_bind (StagesMove.dropStage graph stageId) (Steps.pure _)
  · exact Steps.pure _ graph

theorem movesStages_rollbackRunningStage (stageId : Nat) (failureReasons : List String) :
    MovesStages (rollbackRunningStage stageId failureReasons : GraphM Plan (List RunningTaskInfo)) := by
  refine Steps.bind_get fun graph => ?_
  split
  · rename_i stage found
    split
    · rename_i unresolved ok
      exact steps_modify_bind
        (StagesMove.setStage found (.of_stageId (ExecutionStage.rollbackRunning_eq_ok ok).1 trivial))
        (Steps.pure _)
    · exact steps_modify_bind (StagesMove.dropStage graph stageId) (Steps.throw _)
  · exact steps_modify_bind (StagesMove.dropStage graph stageId) (Steps.pure _)
  · exact Steps.pure _ graph

theorem movesStages_rollbackResolvedStage (stageId : Nat) :
    MovesStages (rollbackResolvedStage stageId : GraphM Plan Bool) := by
  refine Steps.bind_get fun graph => ?_
  split
  · rename_i stage found
    split
    · rename_i unresolved ok
      exact steps_modify_bind
        (StagesMove.setStage found (.of_stageId (ExecutionStage.rollbackResolved_eq_ok ok).1 trivial))
        (Steps.pure _)
    · exact steps_modify_bind (StagesMove.dropStage graph stageId) (Steps.throw _)
  · exact steps_modify_bind (StagesMove.dropStage graph stageId) (Steps.pure _)
  · exact Steps.pure _ graph

theorem movesStages_resolveStages :
    ∀ stageIds, MovesStages (resolveStages stageIds : GraphM Plan Unit)
  | [] => Steps.pure _
  | stageId :: rest => Steps.bind (movesStages_resolveStage stageId) fun _ => movesStages_resolveStages rest

theorem movesStages_rollbackRunningStages :
    ∀ rollbacks, MovesStages (rollbackRunningStages rollbacks : GraphM Plan (List RunningTaskInfo))
  | [] => Steps.pure _
  | (stageId, failureReasons) :: rest =>
    Steps.bind (movesStages_rollbackRunningStage stageId failureReasons) fun _ =>
      Steps.bind (movesStages_rollbackRunningStages rest) fun _ => Steps.pure _

theorem movesStages_rollbackAndRerun (updated : UpdatedStages) :
    MovesStages (rollbackAndRerun updated : GraphM Plan (List QueryStageSchedulerEvent)) := by
  unfold rollbackAndRerun
  split
  · refine Steps.bind (movesStages_rollbackRunningStages _) fun tasks => ?_
    refine Steps.bind (movesStages_rerunSuccessfulStages _) fun _ => ?_
    split <;> exact Steps.pure _
  · exact Steps.pure _

theorem movesStages_processingStagesUpdate (updated : UpdatedStages) :
    MovesStages (processingStagesUpdate updated : GraphM Plan (List QueryStageSchedulerEvent)) := by
  unfold processingStagesUpdate
  refine Steps.bind Steps.get fun graph => ?_
  refine Steps.bind (movesStages_resolveStages _) fun _ => ?_
  refine Steps.bind (movesStages_succeedStages _) fun _ => ?_
  exact Steps.bind (movesStages_rollbackAndRerun _) fun events => movesStages_finishStagesUpdate _ _ _ _

theorem movesStages_applyStatusUpdates (jobId : String) (updates : StatusUpdates) :
    MovesStages (applyStatusUpdates jobId updates : GraphM Plan (List QueryStageSchedulerEvent)) := by
  unfold applyStatusUpdates
  -- writing the failed attempts back leaves the stages alone
  refine Steps.bind (Steps.modify fun _ => StagesMove.of_stages rfl) fun _ => ?_
  refine Steps.bind (movesStages_resubmitSuccessfulStages _ _) fun _ => ?_
  refine Steps.bind (movesStages_resetRunningStages _ _) fun _ => ?_
  exact movesStages_processingStagesUpdate _

end GraphMethods

section Loop

/-- A step of the loop over the groups moves the stages of its graph. -/
def UpdateState.GraphMoves (state next : UpdateState Plan) : Prop := state.graph.StagesMove next.graph

instance : IsPreorder (UpdateState Plan) UpdateState.GraphMoves where
  refl state := refl_of StagesMove state.graph
  trans _ _ _ first second := IsTrans.trans _ _ _ (r := StagesMove) first second

/-- A method of the loop over the groups moves the stages of its graph in place. -/
abbrev MovesGraphStages {α : Type} (method : UpdateM Plan α) : Prop :=
  Steps UpdateState.GraphMoves method

theorem movesGraphStages_onGraph {α : Type} {method : GraphM Plan α} (steps : MovesStages method) :
    MovesGraphStages (onGraph method) := by
  intro state
  rw [exec_onGraph]
  exact steps state.graph

theorem movesGraphStages_updateStageTaskStatuses (ctx : UpdateContext) (stageId : Nat)
    (statuses : List TaskStatus) :
    MovesGraphStages (updateStageTaskStatuses ctx stageId statuses : UpdateM Plan Unit) := by
  refine Steps.bind_get fun state => ?_
  split
  · rename_i stage found
    -- the fold moves the stage, also when it faults
    have moved := moves_foldlM_updateRunningTaskStatus ctx stageId statuses (stage, [], state.updates)
    split
    · rename_i fault next folded
      rw [folded] at moved
      exact Steps.set_bind (StagesMove.setStage found moved) (Steps.throw _)
    · rename_i next locations updates folded
      rw [folded] at moved
      dsimp only
      refine Steps.set_bind (StagesMove.setStage found moved) ?_
      exact Steps.bind (movesGraphStages_onGraph (movesStages_updateStageOutputLinks _ _ _ _)) fun _ =>
        Steps.modify fun _ => refl_of StagesMove _
  · rename_i stage found
    have moved := moves_foldlM_updateUnresolvedTaskStatus ctx stageId statuses (stage, state.updates)
    split
    · rename_i fault next folded
      rw [folded] at moved
      exact Steps.set_bind (StagesMove.setStage found moved) (Steps.throw _)
    · rename_i next updates folded
      rw [folded] at moved
      rw [exec_set]
      exact StagesMove.setStage found moved
  · exact Steps.pure _ state
  · exact Steps.throw _ state

theorem movesGraphStages_visitGroups (ctx : UpdateContext) (groups : Table Nat (List TaskStatus)) :
    ∀ visit, MovesGraphStages (visitGroups ctx groups visit : UpdateM Plan Unit)
  | [] => Steps.pure _
  | stageId :: rest =>
    Steps.bind (movesGraphStages_updateStageTaskStatuses ctx stageId _) fun _ =>
      movesGraphStages_visitGroups ctx groups rest

theorem movesStages_readTaskStatuses (executor : ExecutorMetadata)
    (maxTaskFailures maxStageFailures : Nat) (groups : Table Nat (List TaskStatus)) (visit : List Nat) :
    MovesStages (readTaskStatuses executor maxTaskFailures maxStageFailures groups visit :
      GraphM Plan StatusUpdates) := by
  refine Steps.bind_get fun graph => ?_
  dsimp only
  refine Steps.set_bind
    (movesGraphStages_visitGroups _ groups visit { graph := graph, updates := StatusUpdates.initial graph }) ?_
  exact Steps.bind (movesStages_liftFault _) fun _ => Steps.pure _

variable [StagePlan Plan]

theorem movesStages_updateTaskStatus (executor : ExecutorMetadata) (taskStatuses : List TaskStatus)
    (maxTaskFailures maxStageFailures : Nat) (visit : List Nat) :
    MovesStages (updateTaskStatus executor taskStatuses maxTaskFailures maxStageFailures visit :
      GraphM Plan (List QueryStageSchedulerEvent)) := by
  unfold updateTaskStatus
  refine Steps.bind Steps.get fun graph => ?_
  refine Steps.bind movesStages_reviveM fun _ => ?_
  refine Steps.bind (movesStages_readTaskStatuses _ _ _ _ _) fun updates => ?_
  exact movesStages_applyStatusUpdates _ _

end Loop

section LostExecutor

variable [StagePlan Plan]

theorem movesStages_rollbackResolvedStages :
    ∀ stageIds, MovesStages (rollbackResolvedStages stageIds : GraphM Plan Unit)
  | [] => Steps.pure _
  | stageId :: rest =>
    Steps.bind (movesStages_rollbackResolvedStage stageId) fun _ => movesStages_rollbackResolvedStages rest

theorem movesStages_rollbackLostRunningStages (executorId : String) :
    ∀ stageIds, MovesStages (rollbackLostRunningStages executorId stageIds :
      GraphM Plan (List RunningTaskInfo))
  | [] => Steps.pure _
  | stageId :: rest =>
    Steps.bind (movesStages_rollbackRunningStage stageId _) fun _ =>
      Steps.bind (movesStages_rollbackLostRunningStages executorId rest) fun _ => Steps.pure _

theorem movesStages_resetStagesInternal (executorId : String) :
    MovesStages (resetStagesInternal executorId : GraphM Plan (List Nat × List RunningTaskInfo)) := by
  refine Steps.bind_get fun graph => ?_
  have dropped := scanStages_fst executorId ⟨[], [], [], []⟩ graph.stages
  generalize scanStages executorId ⟨[], [], [], []⟩ graph.stages = first at dropped ⊢
  obtain ⟨stages, scan⟩ := first
  dsimp only at dropped ⊢
  subst dropped
  refine Steps.set_bind ?_ ?_
  · -- both passes rewrite every stage in place
    split
    · exact StagesMove.mapValues graph fun _ => ExecutionStage.moves_dropLost executorId
    · rw [resetSuccessfulInputs_fst]
      exact IsTrans.trans _ _ _ (StagesMove.mapValues graph fun _ => ExecutionStage.moves_dropLost executorId)
        (StagesMove.mapValues _ (ExecutionStage.moves_resetLost executorId _))
  · refine Steps.bind (movesStages_rollbackResolvedStages _) fun _ => ?_
    refine Steps.bind (movesStages_rollbackLostRunningStages _ _) fun _ => ?_
    exact Steps.bind (movesStages_rerunStages _) fun _ => Steps.pure _

theorem movesStages_resetStagesOnLostExecutorFrom (executorId : String) :
    ∀ (reset : List Nat) (tasksToCancel : List RunningTaskInfo) (fuel : Nat),
      MovesStages (resetStagesOnLostExecutorFrom executorId reset tasksToCancel fuel :
        GraphM Plan (List Nat × List RunningTaskInfo))
  | _, _, 0 => Steps.throw _
  | reset, tasksToCancel, fuel + 1 => by
    refine Steps.bind (movesStages_resetStagesInternal executorId) fun round => ?_
    obtain ⟨resetStage, tasks⟩ := round
    dsimp only
    split
    · exact movesStages_resetStagesOnLostExecutorFrom executorId _ _ fuel
    · exact Steps.pure _

theorem movesStages_resetStagesOnLostExecutor (executorId : String) :
    MovesStages (resetStagesOnLostExecutor executorId : GraphM Plan (List Nat × List RunningTaskInfo)) :=
  Steps.bind Steps.get fun _ => movesStages_resetStagesOnLostExecutorFrom executorId [] [] _

end LostExecutor

section Runs

variable [StagePlan Plan] {limits : RetryLimits}

/-- Every step of a job moves its stages in place. -/
theorem JobStep.stagesMove {run next : JobRun Plan} (step : JobStep limits run next) :
    run.graph.StagesMove next.graph := by
  cases step with
  | revive => exact StagesMove.revive _
  | popNextTask executorId _ _ ran => exact (movesStages_popNextTask executorId).of_exec ran
  | bindTasks blackList executors _ _ ran => exact (movesStages_bindTasks blackList executors).of_exec ran
  | updateTaskStatus executor statuses visit _ _ _ _ ran =>
    exact (movesStages_updateTaskStatus executor statuses _ _ visit).of_exec ran
  | resetStagesOnLostExecutor executorId _ _ ran =>
    exact (movesStages_resetStagesOnLostExecutor executorId).of_exec ran
  | abort failureReason => exact StagesMove.of_stages rfl

/-- A run moves the stages of its start in place. -/
theorem Reaches.stagesMove {start run : JobRun Plan} (reaches : Reaches limits start run) :
    start.graph.StagesMove run.graph := by
  induction reaches with
  | refl => exact refl_of _ _
  | tail _ step before => exact IsTrans.trans _ _ _ before step.stagesMove

/-- `ExecutionGraph::new` starts every stage resolved or unresolved. -/
theorem ExecutionGraph.sized_new (schedulerId jobId jobName sessionId : String) (outputPartitions : Nat)
    (plans : List Plan) :
    (ExecutionGraph.new schedulerId jobId jobName sessionId outputPartitions plans).Sized := by
  intro entry mem
  have created := ((ExecutionStageBuilder.build_created _ plans).2 entry mem).2
  obtain ⟨stageId, stage⟩ := entry
  cases stage with
  | resolved stage => trivial
  | unResolved stage => trivial
  | _ => cases created

variable {schedulerId jobId jobName sessionId : String} {outputPartitions : Nat}
  {shuffleStages : List Plan} {run : JobRun Plan}

/-- Every graph a job reaches from its start is keyed by its stage ids. -/
theorem Reaches.wellKeyed_of_start
    (reaches : Reaches limits (JobRun.start schedulerId jobId jobName sessionId outputPartitions shuffleStages) run) :
    run.graph.WellKeyed :=
  reaches.stagesMove.wellKeyed (wellKeyed_new _ _ _ _ _ _)

/-- Every graph a job reaches from its start has a task slot and a failure
count for each partition of a running stage. -/
theorem Reaches.sized_of_start
    (reaches : Reaches limits (JobRun.start schedulerId jobId jobName sessionId outputPartitions shuffleStages) run) :
    run.graph.Sized :=
  reaches.stagesMove.sized (wellKeyed_new _ _ _ _ _ _) (ExecutionGraph.sized_new _ _ _ _ _ _)

end Runs

end Ballista
