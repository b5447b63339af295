import Ballista.Cluster.Bind

/-! # The tasks a job has waiting

What the binders hand out of a job is the tasks its graph has waiting once the
resolved stages are revived: the partitions with no task of each running stage
(`ExecutionGraph.waitingTasks`). Fetching a stage revives the resolved stages
at most, which leaves the tasks waiting as they were
(`WellKeyed.waitingTasks_reviveIdle`), and finds none exactly when none is
waiting (`waitingTasks_eq_nil_of_fetch`). Binding a partition takes
it out of the waiting tasks (`WellKeyed.waitingTasks_setTaskInfo`).

`JobBinds` is what a binder keeps of a job through its turn: the graph stays
keyed, sized and not failed, each task bound holds its partition's slot, and
the partitions bound together with the tasks still waiting are those waiting at
the start of the turn. Binding a partition of the stage under the binder's
handle keeps it (`JobBinds.bindPartition`).
-/

namespace Ballista

open ExceptT ExecutionGraph

variable {Plan : Type}

namespace RunningStage

/-- The partitions of a running stage that wait to be scheduled, in order. -/
def waitingPartitions (stage : RunningStage Plan) : List Nat :=
  (stage.taskInfos.zipIdx.filter fun entry => entry.1.isNone).map Prod.snd

theorem mem_waitingPartitions {stage : RunningStage Plan} {partitionId : Nat} :
    partitionId ∈ stage.waitingPartitions ↔ stage.taskInfos[partitionId]? = some none := by
  simp only [waitingPartitions, List.mem_map, List.mem_filter, List.mem_zipIdx_iff_getElem?]
  constructor
  · rintro ⟨⟨info, index⟩, ⟨found, waiting⟩, rfl⟩
    cases info with
    | none => exact found
    | some info => cases waiting
  · intro found
    exact ⟨(none, partitionId), ⟨found, rfl⟩, rfl⟩

theorem nodup_waitingPartitions (stage : RunningStage Plan) : stage.waitingPartitions.Nodup := by
  have indices : (stage.taskInfos.zipIdx.map Prod.snd).Nodup := by
    rw [List.zipIdx_map_snd]
    exact List.nodup_range' ..
  exact (List.filter_sublist.map Prod.snd).nodup indices

theorem length_waitingPartitions (stage : RunningStage Plan) :
    stage.waitingPartitions.length = stage.availableTasks := by
  rw [waitingPartitions, availableTasks, List.length_map, ← List.countP_eq_length_filter]
  conv_rhs => rw [← List.zipIdx_map_fst 0 stage.taskInfos]
  rw [List.countP_map]
  rfl

end RunningStage

open RunningStage

namespace ExecutionGraph

/-- The waiting partitions of the stage at a key, if it is running. -/
def waitingAt (entry : Nat × ExecutionStage Plan) : List (Nat × Nat) :=
  match entry.2 with
  | .running stage => stage.waitingPartitions.map (entry.1, ·)
  | _ => []

/-- The tasks a graph has waiting once its resolved stages are revived, as the
stage id and the partition of each. -/
def waitingTasks (graph : ExecutionGraph Plan) : List (Nat × Nat) :=
  graph.revive.2.stages.flatMap waitingAt

theorem fst_of_mem_waitingAt {entry : Nat × ExecutionStage Plan} {task : Nat × Nat}
    (mem : task ∈ waitingAt entry) : task.1 = entry.1 := by
  obtain ⟨key, stage⟩ := entry
  cases stage with
  | running stage =>
    obtain ⟨partitionId, -, rfl⟩ := List.mem_map.mp mem
    rfl
  | _ => cases mem

/-- In a keyed graph `revive` revives each stage in place. -/
theorem WellKeyed.stages_revive {graph : ExecutionGraph Plan} (keyed : graph.WellKeyed) :
    graph.revive.2.stages = graph.stages.mapValues fun _ stage => stage.revived :=
  Table.ext_of_keys (by rw [keyed.keys_revive, Table.keys_mapValues]) keyed.revive.distinct
    fun stageId => by rw [keyed.get?_revive_eq, Table.get?_mapValues]

theorem WellKeyed.mem_waitingTasks {graph : ExecutionGraph Plan} (keyed : graph.WellKeyed)
    {stageId partitionId : Nat} :
    (stageId, partitionId) ∈ graph.waitingTasks ↔
      ∃ stage, (graph.stages.get? stageId).map ExecutionStage.revived = some (.running stage) ∧
        stage.taskInfos[partitionId]? = some none := by
  rw [← keyed.get?_revive_eq]
  simp only [waitingTasks, List.mem_flatMap]
  constructor
  · rintro ⟨⟨key, stage⟩, mem, hit⟩
    cases stage with
    | running stage =>
      obtain ⟨partition, waiting, same⟩ := List.mem_map.mp hit
      cases same
      exact ⟨stage, Table.get?_of_mem keyed.revive.distinct mem, mem_waitingPartitions.mp waiting⟩
    | _ => cases hit
  · rintro ⟨stage, found, waiting⟩
    exact ⟨(stageId, .running stage), Table.get?_eq_some_mem found,
      List.mem_map.mpr ⟨partitionId, mem_waitingPartitions.mpr waiting, rfl⟩⟩

theorem WellKeyed.nodup_waitingTasks {graph : ExecutionGraph Plan} (keyed : graph.WellKeyed) :
    graph.waitingTasks.Nodup := by
  refine List.nodup_flatMap.mpr ⟨fun entry _ => ?_, ?_⟩
  · obtain ⟨key, stage⟩ := entry
    cases stage with
    | running stage => exact (nodup_waitingPartitions stage).map (Prod.mk_right_injective key)
    | _ => exact List.nodup_nil
  · -- the waiting tasks of different stages carry different stage ids
    refine (List.pairwise_map.mp keyed.revive.distinct).imp fun different => ?_
    intro task first second
    exact different ((fst_of_mem_waitingAt first).symm.trans (fst_of_mem_waitingAt second))

theorem WellKeyed.waitingTasks_reviveIdle {graph : ExecutionGraph Plan} (keyed : graph.WellKeyed) :
    graph.reviveIdle.waitingTasks = graph.waitingTasks := by
  unfold ExecutionGraph.reviveIdle
  split
  · rfl
  · show graph.revive.2.revive.2.stages.flatMap waitingAt = graph.revive.2.stages.flatMap waitingAt
    rw [keyed.revive_revive]

theorem waitingAt_eq_nil_of_firstAvailableStage {stages : Table Nat (ExecutionStage Plan)}
    (nothing : firstAvailableStage stages = none) : ∀ entry ∈ stages, waitingAt entry = [] := by
  intro entry mem
  have missed := List.findSome?_eq_none_iff.mp nothing entry mem
  obtain ⟨key, stage⟩ := entry
  cases stage with
  | running stage =>
    have idle : stage.availableTasks = 0 := by
      by_contra busy
      simp [Nat.pos_of_ne_zero busy] at missed
    have empty : stage.waitingPartitions = [] :=
      List.eq_nil_of_length_eq_zero ((length_waitingPartitions stage).trans idle)
    simp [waitingAt, empty]
  | _ => rfl

/-- A search for a stage finds none exactly when no task is waiting. -/
theorem waitingTasks_eq_nil_of_fetch {graph : ExecutionGraph Plan}
    (nothing : firstAvailableStage graph.reviveIdle.stages = none) : graph.waitingTasks = [] := by
  cases first : firstAvailableStage graph.stages with
  | some entry =>
    rw [reviveIdle_of_found first, first] at nothing
    cases nothing
  | none =>
    rw [reviveIdle_of_none first] at nothing
    exact List.flatMap_eq_nil_iff.mpr (waitingAt_eq_nil_of_firstAvailableStage nothing)

/-- Binding a waiting partition of the stage at its id takes it out of the
tasks waiting. -/
theorem WellKeyed.waitingTasks_setTaskInfo {graph : ExecutionGraph Plan} (keyed : graph.WellKeyed)
    {stage : RunningStage Plan} (handle : graph.stages.get? stage.stageId = some (.running stage))
    {partitionId : Nat} (waiting : stage.taskInfos[partitionId]? = some none) (info : TaskInfo)
    (taskIdGen : Nat) :
    ((stage.stageId, partitionId) :: ({ graph.setStage stage.stageId (.running { stage with
        taskInfos := stage.taskInfos.set partitionId (some info) }) with taskIdGen := taskIdGen } :
          ExecutionGraph Plan).waitingTasks).Perm graph.waitingTasks := by
  have nextKeyed : ({ graph.setStage stage.stageId (.running { stage with
      taskInfos := stage.taskInfos.set partitionId (some info) }) with taskIdGen := taskIdGen } :
        ExecutionGraph Plan).WellKeyed :=
    (keyed.setStage handle (show (ExecutionStage.running { stage with
      taskInfos := stage.taskInfos.set partitionId (some info) }).stageId = stage.stageId from rfl)).of_stages
        rfl
  have inRange : partitionId < stage.taskInfos.length := (List.getElem?_eq_some_iff.mp waiting).1
  have taken : (stage.stageId, partitionId) ∉ ({ graph.setStage stage.stageId (.running { stage with
      taskInfos := stage.taskInfos.set partitionId (some info) }) with taskIdGen := taskIdGen } :
        ExecutionGraph Plan).waitingTasks := by
    rw [nextKeyed.mem_waitingTasks]
    simp [ExecutionGraph.setStage, ExecutionStage.revived, List.getElem?_set_self inRange]
  refine (List.perm_ext_iff_of_nodup (List.nodup_cons.mpr ⟨taken, nextKeyed.nodup_waitingTasks⟩)
    keyed.nodup_waitingTasks).mpr fun task => ?_
  obtain ⟨stageId, partition⟩ := task
  rw [List.mem_cons, nextKeyed.mem_waitingTasks, keyed.mem_waitingTasks]
  simp only [ExecutionGraph.setStage, Table.get?_insert, Prod.mk.injEq]
  by_cases atStage : stageId = stage.stageId
  · subst atStage
    by_cases same : partition = partitionId
    · subst same
      simp [handle, ExecutionStage.revived, waiting]
    · simp [handle, ExecutionStage.revived, same, List.getElem?_set_ne (Ne.symm same)]
  · simp [atStage]

theorem stagesMove_reviveIdle (graph : ExecutionGraph Plan) : graph.StagesMove graph.reviveIdle := by
  unfold ExecutionGraph.reviveIdle
  split
  · exact refl_of _ _
  · exact StagesMove.revive graph

/-- Looking for a stage leaves a running stage as it is. -/
theorem WellKeyed.get?_reviveIdle_of_running {graph : ExecutionGraph Plan} (keyed : graph.WellKeyed)
    {stageId : Nat} {stage : RunningStage Plan} (found : graph.stages.get? stageId = some (.running stage)) :
    graph.reviveIdle.stages.get? stageId = some (.running stage) := by
  unfold ExecutionGraph.reviveIdle
  split
  · exact found
  · rw [keyed.get?_revive_eq, found]
    rfl

/-- A sized graph keeps a failure count for each slot of a running stage. -/
theorem lt_failures_of_sized {graph : ExecutionGraph Plan} (sized : graph.Sized) {stage : RunningStage Plan}
    (handle : graph.stages.get? stage.stageId = some (.running stage)) {partitionId : Nat}
    (waiting : stage.taskInfos[partitionId]? = some none) : partitionId < stage.taskFailureNumbers.length := by
  obtain ⟨slots, counts⟩ := sized _ (Table.get?_eq_some_mem handle)
  have inRange := (List.getElem?_eq_some_iff.mp waiting).1
  omega

end ExecutionGraph

namespace Cluster

/-- The stage id and partition a task is bound to. -/
def boundSlot (task : BoundTask Plan) : Nat × Nat :=
  (task.2.partition.stageId, task.2.partition.partitionId)

/-- What a binder keeps of a job through its turn, from the job's graph at the
start of the turn to its graph now, with the tasks bound to the job so far: the
graph stays keyed, sized and not failed; each task bound is of the job and
holds its partition's slot, running on its executor under its task id; and the
partitions bound together with the tasks still waiting are those that were
waiting at the start. -/
structure JobBinds (jobId : String) (start graph : ExecutionGraph Plan) (bound : List (BoundTask Plan)) :
    Prop where
  keyed : graph.WellKeyed
  sized : graph.Sized
  running : graph.isFailed = false
  ofJob : ∀ task ∈ bound, task.2.partition.jobId = jobId
  holds : ∀ task ∈ bound, ∃ stage, graph.stages.get? task.2.partition.stageId = some (.running stage) ∧
    stage.taskInfos[task.2.partition.partitionId]? = some (some (createTaskInfo task.1 task.2.taskId))
  accounted : (bound.map boundSlot ++ graph.waitingTasks).Perm start.waitingTasks

variable {jobId : String} {start graph : ExecutionGraph Plan} {bound : List (BoundTask Plan)}

theorem JobBinds.begin (keyed : graph.WellKeyed) (sized : graph.Sized) (running : graph.isFailed = false) :
    JobBinds jobId graph graph [] where
  keyed := keyed
  sized := sized
  running := running
  ofJob := fun _ mem => absurd mem List.not_mem_nil
  holds := fun _ mem => absurd mem List.not_mem_nil
  accounted := List.Perm.refl _

/-- Looking for a stage keeps what the turn keeps. -/
theorem JobBinds.reviveIdle (job : JobBinds jobId start graph bound) :
    JobBinds jobId start graph.reviveIdle bound where
  keyed := job.keyed.reviveIdle
  sized := (stagesMove_reviveIdle graph).sized job.keyed job.sized
  running := by rw [isFailed_reviveIdle, job.running]
  ofJob := job.ofJob
  holds := fun task mem => by
    obtain ⟨stage, found, holding⟩ := job.holds task mem
    exact ⟨stage, job.keyed.get?_reviveIdle_of_running found, holding⟩
  accounted := by
    rw [job.keyed.waitingTasks_reviveIdle]
    exact job.accounted

/-- A partition whose failure count the stage has binds: the task drawn at the
graph's next task id, and the stage and graph with the partition's slot
holding it. -/
theorem bindPartition_of_lt {stage : RunningStage Plan} {partitionId : Nat}
    (counted : partitionId < stage.taskFailureNumbers.length) (jobId sessionId : String)
    (dataCache : Bool) (executorId : String) (graph : ExecutionGraph Plan) :
    (bindPartition jobId sessionId dataCache stage partitionId executorId).exec graph =
      (.ok ({ sessionId := sessionId, partition := ⟨jobId, stage.stageId, partitionId⟩,
              stageAttemptNum := stage.stageAttemptNum, taskId := graph.taskIdGen,
              taskAttempt := stage.taskFailureNumbers[partitionId], dataCache := dataCache,
              plan := stage.plan },
            { stage with taskInfos :=
                stage.taskInfos.set partitionId (some (createTaskInfo executorId graph.taskIdGen)) }),
        { graph.setStage stage.stageId (.running { stage with
            taskInfos := stage.taskInfos.set partitionId (some (createTaskInfo executorId graph.taskIdGen)) })
          with taskIdGen := graph.taskIdGen + 1 }) := by
  simp only [bindPartition, exec_bind, exec_get, exec_modify, List.getElem?_eq_getElem counted, exec_pure]

/-- Binding a waiting partition of the stage under the binder's handle keeps
what the turn keeps, with the task added; the stage it leaves is under the
handle, with the partition's slot holding the task. -/
theorem JobBinds.bindPartition (job : JobBinds jobId start graph bound) {stage : RunningStage Plan}
    (handle : graph.stages.get? stage.stageId = some (.running stage)) {partitionId : Nat}
    (waiting : stage.taskInfos[partitionId]? = some none) (sessionId : String) (dataCache : Bool)
    (executorId : String) :
    ∃ task next graph', (bindPartition jobId sessionId dataCache stage partitionId executorId).exec graph =
        (.ok (task, next), graph') ∧
      task.partition = ⟨jobId, stage.stageId, partitionId⟩ ∧
      JobBinds jobId start graph' (bound ++ [(executorId, task)]) ∧
      next.stageId = stage.stageId ∧ graph'.stages.get? next.stageId = some (.running next) ∧
      next.taskInfos = stage.taskInfos.set partitionId (some (createTaskInfo executorId graph.taskIdGen)) := by
  rw [bindPartition_of_lt (lt_failures_of_sized job.sized handle waiting)]
  refine ⟨_, _, _, rfl, rfl, ?_, rfl, by simp [ExecutionGraph.setStage], rfl⟩
  have inRange : partitionId < stage.taskInfos.length := (List.getElem?_eq_some_iff.mp waiting).1
  have moved : graph.StagesMove { graph.setStage stage.stageId (.running { stage with
      taskInfos := stage.taskInfos.set partitionId (some (createTaskInfo executorId graph.taskIdGen)) })
        with taskIdGen := graph.taskIdGen + 1 } :=
    (StagesMove.setStage handle (ExecutionStage.moves_setTaskInfo stage partitionId _)).trans_stages rfl
  refine ⟨(moved job.keyed).1, moved.sized job.keyed job.sized, job.running, ?_, ?_, ?_⟩
  · intro task mem
    rcases List.mem_append.mp mem with earlier | added
    · exact job.ofJob task earlier
    · rw [List.mem_singleton.mp added]
  · intro task mem
    simp only [ExecutionGraph.setStage, Table.get?_insert]
    rcases List.mem_append.mp mem with earlier | added
    · obtain ⟨held, found, holding⟩ := job.holds task earlier
      split
      · -- a task bound earlier in this stage holds another slot than the waiting one
        rename_i atStage
        rw [atStage, handle] at found
        cases found
        have other : task.2.partition.partitionId ≠ partitionId := by
          rintro same
          rw [same, waiting] at holding
          cases holding
        exact ⟨_, rfl, by rw [List.getElem?_set_ne (Ne.symm other), holding]⟩
      · exact ⟨held, found, holding⟩
    · rw [List.mem_singleton.mp added]
      simp [List.getElem?_set_self inRange]
  · have taken := job.keyed.waitingTasks_setTaskInfo handle waiting
      (createTaskInfo executorId graph.taskIdGen) (graph.taskIdGen + 1)
    rw [List.map_append, List.append_assoc]
    exact (List.Perm.append_left _ taken).trans job.accounted

/-- The rounds a binder is given over a job cover the tasks it has waiting. -/
theorem length_waitingTasks_le_bindRounds {graph : ExecutionGraph Plan} (keyed : graph.WellKeyed) :
    graph.waitingTasks.length ≤ bindRounds graph := by
  unfold waitingTasks bindRounds
  rw [keyed.stages_revive, List.length_flatMap, Table.mapValues]
  simp only [List.map_map, Function.comp_def]
  -- a stage waits on as many tasks as it counts towards the rounds
  refine Nat.le_of_eq (congrArg List.sum (List.map_congr_left ?_)) |>.trans (Nat.le_add_left _ _)
  rintro ⟨key, stage⟩ _
  cases stage with
  | resolved stage =>
    simp [waitingAt, ExecutionStage.revived, length_waitingPartitions, RunningStage.availableTasks,
      ResolvedStage.toRunning, RunningStage.new, List.countP_replicate]
  | running stage => simp [waitingAt, ExecutionStage.revived, length_waitingPartitions]
  | _ => rfl

end Cluster

end Ballista
