import Ballista.Cluster.Waiting
import Ballista.Cluster.BindSlots

/-! # What the bias and round-robin binders bind

With `if_skip` never black-listing a stage, both binders bind as many tasks as
there are free slots or tasks waiting in the running jobs, whichever is fewer,
each to a slot of its executor, and each to a partition that was waiting and
now holds it (`bindTask_bindsSchedulable`).

The proof follows the loops of the binders, inside out. A loop over the
partitions of a stage binds them in turn, keeping what the job's turn keeps
(`JobBinds`) and a slot invariant of its own: the bias binder's cursor leaves
only drained slots behind, the round-robin binder's slots stay staggered; it
returns from the binder only when no slot is left, and otherwise bound every
partition (`BindsPartitions`, `bindsPartitions_bias`,
`bindsPartitions_roundRobin`). The loop over a job's stages then either
returns from the binder or leaves the job with no task waiting, its fuel
covering the tasks waiting (`bindStagesFrom_spec`); and the loop over the jobs
adds the jobs up (`bindJobs_spec`).
-/

namespace Ballista

variable {Plan : Type}

/-- The graphs the scheduler holds: keyed by stage id, with a task slot and a
failure count for each partition of a running stage. -/
structure ExecutionGraph.Formed (graph : ExecutionGraph Plan) : Prop where
  keyed : graph.WellKeyed
  sized : graph.Sized

/-- Every graph a job reaches from the graph `ExecutionGraph::new` builds is
formed. -/
theorem Reaches.formed_of_start [StagePlan Plan] {limits : RetryLimits}
    {schedulerId jobId jobName sessionId : String} {outputPartitions : Nat} {shuffleStages : List Plan}
    {run : JobRun Plan}
    (reaches : Reaches limits (JobRun.start schedulerId jobId jobName sessionId outputPartitions shuffleStages) run) :
    run.graph.Formed :=
  ⟨reaches.wellKeyed_of_start, reaches.sized_of_start⟩

namespace Cluster

open ExceptT ExecutionGraph

/-! ## A binder's progress through one job -/

/-- What a binder's loops over one job leave, from a binding to another, having
bound `added`: the tasks are appended to the binding's, the job's turn keeps
them, each took a free slot of its executor, and the slot invariant holds. -/
structure Advances (Inv : Binding Plan → Prop) (jobId : String) (start : ExecutionGraph Plan)
    (bound : List (BoundTask Plan)) (binding : Binding Plan) (added : List (BoundTask Plan))
    (binding' : Binding Plan) (graph' : ExecutionGraph Plan) : Prop where
  tasks : binding'.schedulableTasks = binding.schedulableTasks ++ added
  job : JobBinds jobId start graph' (bound ++ added)
  slotsTaken : (added.map Prod.fst ++ slotUnits binding'.slots).Perm (slotUnits binding.slots)
  inv : Inv binding'

section Advances

variable {Inv : Binding Plan → Prop} {jobId : String} {start graph graph' graph'' : ExecutionGraph Plan}
  {bound added added' : List (BoundTask Plan)} {binding binding' binding'' : Binding Plan}

theorem Advances.refl (job : JobBinds jobId start graph bound) (inv : Inv binding) :
    Advances Inv jobId start bound binding [] binding graph where
  tasks := (List.append_nil _).symm
  job := by rw [List.append_nil]; exact job
  slotsTaken := List.Perm.refl _
  inv := inv

theorem Advances.trans (first : Advances Inv jobId start bound binding added binding' graph')
    (second : Advances Inv jobId start (bound ++ added) binding' added' binding'' graph'') :
    Advances Inv jobId start bound binding (added ++ added') binding'' graph'' where
  tasks := by rw [second.tasks, first.tasks, List.append_assoc]
  job := by rw [← List.append_assoc]; exact second.job
  slotsTaken := by
    rw [List.map_append, List.append_assoc]
    exact (second.slotsTaken.append_left _).trans first.slotsTaken
  inv := second.inv

/-- The tasks a job's turn bound are as many as the tasks it has waiting fewer. -/
theorem JobBinds.length_add (job : JobBinds jobId start graph bound) :
    bound.length + graph.waitingTasks.length = start.waitingTasks.length := by
  rw [← job.accounted.length_eq, List.length_append, List.length_map]

end Advances

/-- What a binder's loop over the partitions of a stage does, for an invariant
of its binding: given partitions waiting in the stage under its handle, each
once, and a slot left in total, it binds them in turn; when it returns from the
binder no slot is left, and otherwise it bound every partition and a slot is
still left in total. -/
def BindsPartitions (Inv : Binding Plan → Prop)
    (partitions : String → String → RunningStage Plan → List Nat → Binding Plan →
      GraphM Plan (Bool × Binding Plan)) : Prop :=
  ∀ ⦃jobId sessionId : String⦄ ⦃start graph : ExecutionGraph Plan⦄ ⦃bound : List (BoundTask Plan)⦄
    ⦃stage : RunningStage Plan⦄ ⦃partitionIds : List Nat⦄ ⦃binding : Binding Plan⦄,
    JobBinds jobId start graph bound → graph.stages.get? stage.stageId = some (.running stage) →
    partitionIds.Nodup → (∀ partitionId ∈ partitionIds, stage.taskInfos[partitionId]? = some none) →
    Inv binding → 0 < binding.totalSlots →
    ∃ stopped added binding' graph',
      (partitions jobId sessionId stage partitionIds binding).exec graph = (.ok (stopped, binding'), graph') ∧
      Advances Inv jobId start bound binding added binding' graph' ∧
      (stopped = true → slotUnits binding'.slots = []) ∧
      (stopped = false → added.length = partitionIds.length ∧ 0 < binding'.totalSlots)

/-- Binding one partition of a list of waiting ones, each once, leaves the rest
waiting in the stage it leaves. -/
theorem waiting_of_setTaskInfo {stage : RunningStage Plan} {partitionId : Nat} {rest : List Nat}
    (distinct : (partitionId :: rest).Nodup)
    (waiting : ∀ other ∈ partitionId :: rest, stage.taskInfos[other]? = some none) (info : Option TaskInfo) :
    ∀ other ∈ rest, (stage.taskInfos.set partitionId info)[other]? = some none := by
  intro other mem
  have different : partitionId ≠ other := fun same => (List.nodup_cons.mp distinct).1 (same ▸ mem)
  rw [List.getElem?_set_ne different]
  exact waiting other (List.mem_cons_of_mem _ mem)

/-- The bias binder's loop over partitions: the slot found from the cursor
takes each partition, until the cursor runs off the slots. -/
theorem bindsPartitions_bias :
    BindsPartitions (fun binding => Drained binding.slots binding.idxSlot) (@biasPartitions Plan) := by
  intro jobId sessionId start graph bound stage partitionIds binding job handle distinct waiting drained pos
  induction partitionIds generalizing stage graph bound binding with
  | nil =>
    exact ⟨false, [], binding, graph, by simp [biasPartitions, exec_pure], Advances.refl job drained,
      by simp, fun _ => ⟨rfl, pos⟩⟩
  | cons partitionId rest ih =>
    cases next : nextFreeSlot binding.slots binding.idxSlot with
    | none =>
      exact ⟨true, [], binding, graph, by simp [biasPartitions, next, exec_pure], Advances.refl job drained,
        fun _ => drained.slotUnits_eq_nil next, by simp⟩
    | some found =>
      obtain ⟨slot, index⟩ := found
      obtain ⟨-, slotFound, free, -⟩ := nextFreeSlot_eq_some next
      obtain ⟨task, stage', graph₁, ran, -, job₁, sameId, handle₁, infos₁⟩ :=
        job.bindPartition handle (waiting partitionId List.mem_cons_self) sessionId false slot.executorId
      -- the slot found gives one up and stays under the cursor
      have step : Advances (fun binding => Drained binding.slots binding.idxSlot) jobId start bound binding
          [(slot.executorId, task)]
          { binding with
            slots := binding.slots.modify index fun slot => { slot with slots := slot.slots - 1 },
            idxSlot := index,
            schedulableTasks := binding.schedulableTasks ++ [(slot.executorId, task)] } graph₁ :=
        ⟨rfl, job₁, slotUnits_modify_perm slotFound free, drained.take next⟩
      have waiting₁ : ∀ other ∈ rest, stage'.taskInfos[other]? = some none := by
        rw [infos₁]
        exact waiting_of_setTaskInfo distinct waiting _
      obtain ⟨stopped, added, binding₂, graph₂, ran₂, advances, stop, done⟩ :=
        ih job₁ handle₁ (List.nodup_cons.mp distinct).2 waiting₁ step.inv pos
      refine ⟨stopped, (slot.executorId, task) :: added, binding₂, graph₂, ?_, step.trans advances, stop,
        fun more => ?_⟩
      · simp only [biasPartitions, next, exec_bind, ran]
        exact ran₂
      · obtain ⟨count, left⟩ := done more
        exact ⟨by simp [count], left⟩

/-- The round-robin binder's loop over partitions: the slot its cursor lands on
takes each partition, until no slot is left in total. -/
theorem bindsPartitions_roundRobin :
    BindsPartitions (fun binding => Staggered binding.slots binding.idxSlot ∧
      binding.totalSlots = (slotUnits binding.slots).length) (@roundRobinPartitions Plan) := by
  intro jobId sessionId start graph bound stage partitionIds binding job handle distinct waiting inv pos
  obtain ⟨staggered, total⟩ := inv
  induction partitionIds generalizing stage graph bound binding with
  | nil =>
    exact ⟨false, [], binding, graph, by simp [roundRobinPartitions, exec_pure],
      Advances.refl job ⟨staggered, total⟩, by simp, fun _ => ⟨rfl, pos⟩⟩
  | cons partitionId rest ih =>
    have free : slotUnits binding.slots ≠ [] := fun none => by
      rw [none, List.length_nil] at total
      omega
    obtain ⟨first, firstFound, slot, slotFound, left, staggered₁⟩ := staggered.take free
    obtain ⟨task, stage', graph₁, ran, -, job₁, sameId, handle₁, infos₁⟩ :=
      job.bindPartition handle (waiting partitionId List.mem_cons_self) sessionId false slot.executorId
    obtain ⟨cursor, atCursor⟩ : ∃ cursor, cursor =
        if first.slots = 0 then 0 else if binding.slots.length ≤ binding.idxSlot then 0 else binding.idxSlot :=
      ⟨_, rfl⟩
    rw [← atCursor] at slotFound staggered₁
    -- the slot under the cursor gives one up, and the cursor steps on
    let binding₁ : Binding Plan :=
      { binding with
        slots := binding.slots.set cursor { slot with slots := slot.slots - 1 },
        idxSlot := cursor + 1,
        totalSlots := binding.totalSlots - 1,
        schedulableTasks := binding.schedulableTasks ++ [(slot.executorId, task)] }
    have step : Advances (fun binding => Staggered binding.slots binding.idxSlot ∧
          binding.totalSlots = (slotUnits binding.slots).length) jobId start bound binding
        [(slot.executorId, task)] binding₁ graph₁ := by
      have taken := slotUnits_set_perm slotFound left
      refine ⟨rfl, job₁, taken, staggered₁, ?_⟩
      have counted := taken.length_eq
      rw [List.length_cons] at counted
      dsimp only [binding₁]
      omega
    have ranOne : (roundRobinPartitions jobId sessionId stage (partitionId :: rest) binding).exec graph =
        if binding.totalSlots - 1 = 0 then (.ok (true, binding₁), graph₁)
        else (roundRobinPartitions jobId sessionId stage' rest binding₁).exec graph₁ := by
      subst atCursor
      simp only [roundRobinPartitions, firstFound, slotFound, exec_bind, ran, left, if_false]
      split <;> simp [exec_pure, binding₁]
    by_cases ends : binding.totalSlots - 1 = 0
    · -- the last slot is taken: the binder returns
      rw [if_pos ends] at ranOne
      refine ⟨true, [(slot.executorId, task)], _, graph₁, ranOne, step, fun _ => ?_, by simp⟩
      have total₁ := step.inv.2
      dsimp only [binding₁] at total₁ ⊢
      exact List.eq_nil_of_length_eq_zero (by omega)
    · rw [if_neg ends] at ranOne
      obtain ⟨staggered₂, total₂⟩ := step.inv
      have waiting₁ : ∀ other ∈ rest, stage'.taskInfos[other]? = some none := by
        rw [infos₁]
        exact waiting_of_setTaskInfo distinct waiting _
      obtain ⟨stopped, added, binding₂, graph₂, ran₂, advances, stop, done⟩ :=
        ih job₁ handle₁ (List.nodup_cons.mp distinct).2 waiting₁ (by dsimp only [binding₁]; omega) staggered₂ total₂
      refine ⟨stopped, (slot.executorId, task) :: added, binding₂, graph₂, ranOne.trans ran₂,
        step.trans advances, stop, fun more => ?_⟩
      obtain ⟨count, left⟩ := done more
      exact ⟨by simp [count], left⟩

/-! ## The loop over a job's stages -/

section Stages

variable {Inv : Binding Plan → Prop}
  {partitions : String → String → RunningStage Plan → List Nat → Binding Plan → GraphM Plan (Bool × Binding Plan)}

/-- The runnable tasks of a stage with a task waiting, with a slot left in
total: waiting partitions of it, each once, and one at least. -/
theorem runnableTasks_spec {stage : RunningStage Plan} (waiting : 0 < stage.availableTasks) {totalSlots : Nat}
    (pos : 0 < totalSlots) :
    (runnableTasks stage totalSlots).Nodup ∧
      (∀ partitionId ∈ runnableTasks stage totalSlots, stage.taskInfos[partitionId]? = some none) ∧
      0 < (runnableTasks stage totalSlots).length := by
  show (stage.waitingPartitions.take totalSlots).Nodup ∧
    (∀ partitionId ∈ stage.waitingPartitions.take totalSlots, stage.taskInfos[partitionId]? = some none) ∧
    0 < (stage.waitingPartitions.take totalSlots).length
  refine ⟨stage.nodup_waitingPartitions.sublist (List.take_sublist _ _),
    fun partitionId mem => RunningStage.mem_waitingPartitions.mp (List.mem_of_mem_take mem), ?_⟩
  rw [List.length_take, stage.length_waitingPartitions]
  omega

/-- The loop over a job's stages, on more fuel than the job has tasks waiting:
it returns from the binder with no slot left, or leaves the job with no task
waiting and a slot still left in total. -/
theorem bindStagesFrom_spec (spec : BindsPartitions Inv partitions) (jobId sessionId : String)
    {start : ExecutionGraph Plan} (fuel : Nat) {graph : ExecutionGraph Plan} {bound : List (BoundTask Plan)}
    {binding : Binding Plan} (job : JobBinds jobId start graph bound) (inv : Inv binding)
    (pos : 0 < binding.totalSlots) (enough : graph.waitingTasks.length < fuel) :
    ∃ stopped added binding' graph',
      (bindStagesFrom (partitions jobId sessionId) (fun _ => false) fuel [] binding).exec graph =
        (.ok (stopped, binding'), graph') ∧
      Advances Inv jobId start bound binding added binding' graph' ∧
      (stopped = true → slotUnits binding'.slots = []) ∧
      (stopped = false → graph'.waitingTasks = [] ∧ 0 < binding'.totalSlots) := by
  -- each round either returns or binds a task waiting, which the fuel covers
  induction fuel generalizing graph bound binding with
  | zero => exact absurd enough (Nat.not_lt_zero _)
  | succ fuel ih =>
    have fetched := job.keyed.fetchRunningStage_nil job.running
    cases found : firstAvailableStage graph.reviveIdle.stages with
    | none =>
      rw [found, Option.map_none] at fetched
      exact ⟨false, [], binding, graph.reviveIdle, bindStagesFrom_of_fetch_none fetched,
        Advances.refl job.reviveIdle inv, by simp,
        fun _ => ⟨job.keyed.waitingTasks_reviveIdle.trans (waitingTasks_eq_nil_of_fetch found), pos⟩⟩
    | some entry =>
      obtain ⟨stageId, stage⟩ := entry
      rw [found, Option.map_some] at fetched
      have job₁ := job.reviveIdle
      have handle : graph.reviveIdle.stages.get? stage.stageId = some (.running stage) := by
        have atKey := job₁.keyed.get?_of_firstAvailableStage found
        have sameId : stage.stageId = stageId := job₁.keyed.stageId_of_get? atKey
        rw [sameId]
        exact atKey
      obtain ⟨distinct, waiting, nonempty⟩ :=
        runnableTasks_spec (availableTasks_pos_of_firstAvailableStage found) pos
      obtain ⟨stopped, added, binding₁, graph₁, ran, advances, stop, done⟩ :=
        spec job₁ handle distinct waiting inv pos
      rw [bindStagesFrom_of_fetch_some fetched rfl, ran]
      cases stopped with
      | true => exact ⟨true, added, binding₁, graph₁, rfl, advances, stop, by simp⟩
      | false =>
        obtain ⟨count, pos₁⟩ := done rfl
        have fewer : graph₁.waitingTasks.length < fuel := by
          have before := job.length_add
          have after := advances.job.length_add
          rw [List.length_append] at after
          omega
        obtain ⟨stopped₂, added₂, binding₂, graph₂, ran₂, advances₂, stop₂, done₂⟩ :=
          ih advances.job advances.inv pos₁ fewer
        exact ⟨stopped₂, added ++ added₂, binding₂, graph₂, ran₂, advances.trans advances₂, stop₂, done₂⟩

end Stages

/-! ## The loop over the jobs -/

/-- The tasks a job has for the binders: those its graph has waiting once the
resolved stages are revived, when the job is running and its graph has not
failed. -/
def JobInfoCache.waitingTasks (jobInfo : JobInfoCache Plan) : List (Nat × Nat) :=
  match jobInfo.status with
  | some (.running _) => if jobInfo.executionGraph.isFailed then [] else jobInfo.executionGraph.waitingTasks
  | _ => []

/-- The tasks the active jobs have for the binders, together. -/
def schedulableCount (activeJobs : Table String (JobInfoCache Plan)) : Nat :=
  (activeJobs.map fun entry => entry.2.waitingTasks.length).sum

theorem schedulableCount_cons (jobId : String) (jobInfo : JobInfoCache Plan)
    (rest : Table String (JobInfoCache Plan)) :
    schedulableCount ((jobId, jobInfo) :: rest) = jobInfo.waitingTasks.length + schedulableCount rest := by
  simp [schedulableCount]

/-- A partition waiting in a job of the map: its stage, revived if it was
resolved, is running with no task in the partition's slot. -/
def WaitingIn (activeJobs : Table String (JobInfoCache Plan)) (partition : PartitionId) : Prop :=
  ∃ jobInfo stage, activeJobs.get? partition.jobId = some jobInfo ∧
    (jobInfo.executionGraph.stages.get? partition.stageId).map ExecutionStage.revived = some (.running stage) ∧
    stage.taskInfos[partition.partitionId]? = some none

/-- A task held by its partition's slot in a job of the map, running on its
executor under its task id. -/
def HeldIn (jobs : Table String (JobInfoCache Plan)) (task : BoundTask Plan) : Prop :=
  ∃ jobInfo stage, jobs.get? task.2.partition.jobId = some jobInfo ∧
    jobInfo.executionGraph.stages.get? task.2.partition.stageId = some (.running stage) ∧
    stage.taskInfos[task.2.partition.partitionId]? = some (some (createTaskInfo task.1 task.2.taskId))

/-- What a binder's run did, from the free slots and the active jobs it was
given to the tasks it bound and the slots and jobs it left: it bound as many
tasks as there were free slots or tasks waiting, whichever is fewer; each took
a free slot of its executor, so that the executors of the tasks and the free
slots left are the free slots given, and no executor got more tasks than it had
free slots; each task's partition was waiting, and now holds the task running
on its executor under its task id; no partition was bound twice; and the jobs
left are the jobs given, with formed graphs. -/
structure BindsSchedulable (slots : List AvailableTaskSlots) (activeJobs : Table String (JobInfoCache Plan))
    (tasks : List (BoundTask Plan)) (slotsLeft : List AvailableTaskSlots)
    (jobsLeft : Table String (JobInfoCache Plan)) : Prop where
  count : tasks.length = min (slots.map AvailableTaskSlots.slots).sum (schedulableCount activeJobs)
  slotsTaken : (tasks.map Prod.fst ++ slotUnits slotsLeft).Perm (slotUnits slots)
  withinSlots : ∀ executorId, (tasks.filter fun task => task.1 = executorId).length ≤
    ((slots.filter fun slot => slot.executorId = executorId).map AvailableTaskSlots.slots).sum
  waitingBefore : ∀ task ∈ tasks, WaitingIn activeJobs task.2.partition
  runningAfter : ∀ task ∈ tasks, HeldIn jobsLeft task
  distinct : (tasks.map fun task => task.2.partition).Nodup
  keys : jobsLeft.keys = activeJobs.keys
  formed : ∀ entry ∈ jobsLeft, entry.2.executionGraph.Formed

section Jobs

variable {slots slots₁ slotsLeft : List AvailableTaskSlots} {tasks added : List (BoundTask Plan)}
  {jobId : String} {jobInfo : JobInfoCache Plan} {rest jobsLeft : Table String (JobInfoCache Plan)}
  {graph₁ : ExecutionGraph Plan}

/-- The tasks that took free slots, each of its executor, are no more for an
executor than its free slots. -/
theorem withinSlots_of_slotsTaken (taken : (tasks.map Prod.fst ++ slotUnits slotsLeft).Perm (slotUnits slots))
    (executorId : String) :
    (tasks.filter fun task => task.1 = executorId).length ≤
      ((slots.filter fun slot => slot.executorId = executorId).map AvailableTaskSlots.slots).sum := by
  have counted : (tasks.map Prod.fst).count executorId = (tasks.filter fun task => task.1 = executorId).length := by
    rw [List.count_eq_countP, List.countP_map, List.countP_eq_length_filter]
    congr 2
  rw [← count_slotUnits, ← taken.count_eq, List.count_append, counted]
  omega

theorem WaitingIn.mem_keys {activeJobs : Table String (JobInfoCache Plan)} {partition : PartitionId}
    (waiting : WaitingIn activeJobs partition) : partition.jobId ∈ activeJobs.keys := by
  obtain ⟨jobInfo, -, found, -⟩ := waiting
  exact Table.mem_keys_of_get? found

theorem WaitingIn.cons {partition : PartitionId} (waiting : WaitingIn rest partition) (fresh : jobId ∉ rest.keys) :
    WaitingIn ((jobId, jobInfo) :: rest) partition := by
  rw [WaitingIn, Table.get?_cons_of_mem_keys waiting.mem_keys fresh]
  exact waiting

theorem HeldIn.cons {task : BoundTask Plan} (held : HeldIn jobsLeft task) (fresh : jobId ∉ jobsLeft.keys) :
    HeldIn ((jobId, jobInfo) :: jobsLeft) task := by
  have mem : task.2.partition.jobId ∈ jobsLeft.keys := by
    obtain ⟨heldInfo, -, found, -⟩ := held
    exact Table.mem_keys_of_get? found
  rw [HeldIn, Table.get?_cons_of_mem_keys mem fresh]
  exact held

theorem get?_cons_self (jobId : String) (jobInfo : JobInfoCache Plan) (rest : Table String (JobInfoCache Plan)) :
    Table.get? ((jobId, jobInfo) :: rest) jobId = some jobInfo := by
  rw [Table.get?_cons, if_pos rfl]

/-- The partitions a job's turn bound were waiting in the job's graph. -/
theorem JobBinds.waitingIn (job : JobBinds jobId jobInfo.executionGraph graph₁ added)
    (keyed : jobInfo.executionGraph.WellKeyed) : ∀ task ∈ added, WaitingIn ((jobId, jobInfo) :: rest) task.2.partition := by
  intro task mem
  have waiting : boundSlot task ∈ jobInfo.executionGraph.waitingTasks :=
    job.accounted.subset (List.mem_append_left _ (List.mem_map_of_mem mem))
  obtain ⟨stage, found, slot⟩ := keyed.mem_waitingTasks.mp waiting
  exact ⟨jobInfo, stage, by rw [job.ofJob task mem, get?_cons_self], found, slot⟩

/-- The tasks a job's turn bound are held where it left the job's graph. -/
theorem JobBinds.heldIn (job : JobBinds jobId jobInfo.executionGraph graph₁ added) :
    ∀ task ∈ added, HeldIn ((jobId, { jobInfo with executionGraph := graph₁ }) :: rest) task := by
  intro task mem
  obtain ⟨stage, found, held⟩ := job.holds task mem
  exact ⟨_, stage, by rw [job.ofJob task mem, get?_cons_self], found, held⟩

/-- A job's turn binds each partition once. -/
theorem JobBinds.nodup_partitions {start : ExecutionGraph Plan} (job : JobBinds jobId start graph₁ added)
    (keyed : start.WellKeyed) : (added.map fun task => task.2.partition).Nodup := by
  have slotsOnce : (added.map boundSlot).Nodup :=
    (List.nodup_append.mp (job.accounted.nodup_iff.mpr keyed.nodup_waitingTasks)).1
  refine List.Nodup.of_map (fun partition : PartitionId => (partition.stageId, partition.partitionId)) ?_
  rw [List.map_map]
  exact slotsOnce

/-- A job the binder passes over binds nothing and is left as it was. -/
theorem BindsSchedulable.cons_idle (later : BindsSchedulable slots rest tasks slotsLeft jobsLeft)
    (idle : jobInfo.waitingTasks = []) (fresh : jobId ∉ rest.keys) (formed : jobInfo.executionGraph.Formed) :
    BindsSchedulable slots ((jobId, jobInfo) :: rest) tasks slotsLeft ((jobId, jobInfo) :: jobsLeft) where
  count := by rw [schedulableCount_cons, idle, List.length_nil, Nat.zero_add]; exact later.count
  slotsTaken := later.slotsTaken
  withinSlots := later.withinSlots
  waitingBefore := fun task mem => (later.waitingBefore task mem).cons fresh
  runningAfter := fun task mem => (later.runningAfter task mem).cons (later.keys ▸ fresh)
  distinct := later.distinct
  keys := by rw [Table.keys_cons, Table.keys_cons, later.keys]
  formed := by
    rintro entry (_ | ⟨_, mem⟩)
    · exact formed
    · exact later.formed entry mem

/-- A job whose turn leaves no task waiting, followed by the binder's run over
the jobs after it. -/
theorem BindsSchedulable.cons_bound (job : JobBinds jobId jobInfo.executionGraph graph₁ added)
    (emptied : graph₁.waitingTasks = []) (taken : (added.map Prod.fst ++ slotUnits slots₁).Perm (slotUnits slots))
    (busy : jobInfo.waitingTasks = jobInfo.executionGraph.waitingTasks) (formed : jobInfo.executionGraph.Formed)
    (fresh : jobId ∉ rest.keys) (later : BindsSchedulable slots₁ rest tasks slotsLeft jobsLeft) :
    BindsSchedulable slots ((jobId, jobInfo) :: rest) (added ++ tasks) slotsLeft
      ((jobId, { jobInfo with executionGraph := graph₁ }) :: jobsLeft) where
  count := by
    have all := job.length_add
    have laterCount := later.count
    have slotsCount := taken.length_eq
    rw [emptied, List.length_nil, Nat.add_zero] at all
    rw [← length_slotUnits] at laterCount ⊢
    rw [List.length_append, List.length_map] at slotsCount
    rw [schedulableCount_cons, busy, List.length_append]
    omega
  slotsTaken := by
    rw [List.map_append, List.append_assoc]
    exact (later.slotsTaken.append_left _).trans taken
  withinSlots := withinSlots_of_slotsTaken (by
    rw [List.map_append, List.append_assoc]
    exact (later.slotsTaken.append_left _).trans taken)
  waitingBefore := by
    intro task mem
    rcases List.mem_append.mp mem with ours | theirs
    · exact job.waitingIn formed.keyed task ours
    · exact (later.waitingBefore task theirs).cons fresh
  runningAfter := by
    intro task mem
    rcases List.mem_append.mp mem with ours | theirs
    · exact job.heldIn task ours
    · exact (later.runningAfter task theirs).cons (later.keys ▸ fresh)
  distinct := by
    rw [List.map_append]
    refine List.nodup_append.mpr ⟨job.nodup_partitions formed.keyed, later.distinct, ?_⟩
    -- the partitions of this job and of the jobs after it have different job ids
    rintro _ ours _ theirs same
    obtain ⟨task, mem, rfl⟩ := List.mem_map.mp ours
    obtain ⟨other, otherMem, rfl⟩ := List.mem_map.mp theirs
    have later_key := (later.waitingBefore other otherMem).mem_keys
    rw [← same, job.ofJob task mem] at later_key
    exact fresh later_key
  keys := by rw [Table.keys_cons, Table.keys_cons, later.keys]
  formed := by
    rintro entry (_ | ⟨_, mem⟩)
    · exact ⟨job.keyed, job.sized⟩
    · exact later.formed entry mem

/-- A job whose turn returns from the binder, with no free slot left. -/
theorem BindsSchedulable.cons_stopped (job : JobBinds jobId jobInfo.executionGraph graph₁ added)
    (taken : (added.map Prod.fst ++ slotUnits slotsLeft).Perm (slotUnits slots)) (drained : slotUnits slotsLeft = [])
    (busy : jobInfo.waitingTasks = jobInfo.executionGraph.waitingTasks) (keyed : jobInfo.executionGraph.WellKeyed)
    (formedRest : ∀ entry ∈ rest, entry.2.executionGraph.Formed) :
    BindsSchedulable slots ((jobId, jobInfo) :: rest) added slotsLeft
      ((jobId, { jobInfo with executionGraph := graph₁ }) :: rest) where
  count := by
    have all := job.length_add
    have slotsCount := taken.length_eq
    rw [drained, List.append_nil, List.length_map] at slotsCount
    rw [← length_slotUnits, schedulableCount_cons, busy]
    omega
  slotsTaken := taken
  withinSlots := withinSlots_of_slotsTaken taken
  waitingBefore := job.waitingIn keyed
  runningAfter := job.heldIn
  distinct := job.nodup_partitions keyed
  keys := rfl
  formed := by
    rintro entry (_ | ⟨_, mem⟩)
    · exact ⟨job.keyed, job.sized⟩
    · exact formedRest entry mem

/-- What a run did from a rearrangement of the slots it did from the slots. -/
theorem BindsSchedulable.of_perm {activeJobs : Table String (JobInfoCache Plan)} {sorted : List AvailableTaskSlots}
    (rearranged : sorted.Perm slots) (run : BindsSchedulable sorted activeJobs tasks slotsLeft jobsLeft) :
    BindsSchedulable slots activeJobs tasks slotsLeft jobsLeft where
  count := by
    rw [← length_slotUnits, ← (slotUnits_perm rearranged).length_eq, length_slotUnits]
    exact run.count
  slotsTaken := run.slotsTaken.trans (slotUnits_perm rearranged)
  withinSlots := withinSlots_of_slotsTaken (run.slotsTaken.trans (slotUnits_perm rearranged))
  waitingBefore := run.waitingBefore
  runningAfter := run.runningAfter
  distinct := run.distinct
  keys := run.keys
  formed := run.formed

end Jobs

section Binders

variable {Inv : Binding Plan → Prop}
  {partitions : String → String → RunningStage Plan → List Nat → Binding Plan → GraphM Plan (Bool × Binding Plan)}

/-- The loop over the jobs, from a binding with a slot left in total. -/
theorem bindJobs_spec (spec : BindsPartitions Inv partitions) (activeJobs : Table String (JobInfoCache Plan))
    {binding : Binding Plan} (distinct : activeJobs.keys.Nodup)
    (formed : ∀ entry ∈ activeJobs, entry.2.executionGraph.Formed) (inv : Inv binding)
    (pos : 0 < binding.totalSlots) :
    ∃ added binding' jobsLeft, bindJobs partitions (fun _ => false) activeJobs binding = .ok (binding', jobsLeft) ∧
      binding'.schedulableTasks = binding.schedulableTasks ++ added ∧
      BindsSchedulable binding.slots activeJobs added binding'.slots jobsLeft := by
  induction activeJobs generalizing binding with
  | nil =>
    refine ⟨[], binding, [], rfl, (List.append_nil _).symm, ⟨?_, List.Perm.refl _, fun _ => ?_,
      fun _ mem => absurd mem List.not_mem_nil, fun _ mem => absurd mem List.not_mem_nil, List.nodup_nil,
      rfl, fun _ mem => absurd mem List.not_mem_nil⟩⟩
    · simp [schedulableCount]
    · simp
  | cons entry rest ih =>
    obtain ⟨jobId, jobInfo⟩ := entry
    have distinct : (jobId :: Table.keys rest).Nodup := distinct
    have fresh : jobId ∉ Table.keys rest := (List.nodup_cons.mp distinct).1
    have formedRest : ∀ entry ∈ rest, entry.2.executionGraph.Formed :=
      fun entry mem => formed entry (List.mem_cons_of_mem _ mem)
    have formedHead : jobInfo.executionGraph.Formed := formed _ List.mem_cons_self
    -- a job passed over binds nothing; the binder goes on with the same binding
    obtain ⟨passed, bindingPassed, jobsPassed, ranPassed, tasksPassed, laterPassed⟩ :=
      ih (List.nodup_cons.mp distinct).2 formedRest inv pos
    unfold bindJobs
    rw [bindJobsWith]
    split
    · rename_i scheduler running
      cases failed : jobInfo.executionGraph.isFailed with
      | true =>
        rw [bindStagesFrom_of_fetch_none (fetchRunningStage_of_isFailed failed [])]
        have idle : jobInfo.waitingTasks = [] := by simp [JobInfoCache.waitingTasks, running, failed]
        refine ⟨passed, bindingPassed, _, ?_, tasksPassed, laterPassed.cons_idle idle fresh formedHead⟩
        show (bindJobs partitions (fun _ => false) rest binding).map _ = _
        rw [ranPassed]
        rfl
      | false =>
        have busy : jobInfo.waitingTasks = jobInfo.executionGraph.waitingTasks := by
          simp [JobInfoCache.waitingTasks, running, failed]
        have enough : jobInfo.executionGraph.waitingTasks.length < bindRounds jobInfo.executionGraph + 1 :=
          Nat.lt_succ_of_le (length_waitingTasks_le_bindRounds formedHead.keyed)
        obtain ⟨stopped, added, binding₁, graph₁, ran, advances, stop, done⟩ :=
          bindStagesFrom_spec spec jobId jobInfo.executionGraph.sessionId _
            (JobBinds.begin formedHead.keyed formedHead.sized failed) inv pos enough
        have job : JobBinds jobId jobInfo.executionGraph graph₁ added := by
          simpa using advances.job
        rw [ran]
        cases stopped with
        | true =>
          exact ⟨added, binding₁, _, rfl, advances.tasks,
            BindsSchedulable.cons_stopped job advances.slotsTaken (stop rfl) busy formedHead.keyed formedRest⟩
        | false =>
          obtain ⟨emptied, pos₁⟩ := done rfl
          obtain ⟨added₂, binding₂, jobsLeft, ran₂, tasks₂, later⟩ :=
            ih (List.nodup_cons.mp distinct).2 formedRest advances.inv pos₁
          refine ⟨added ++ added₂, binding₂, _, ?_, by rw [tasks₂, advances.tasks, List.append_assoc],
            BindsSchedulable.cons_bound job emptied advances.slotsTaken busy formedHead fresh later⟩
          show (bindJobs partitions (fun _ => false) rest binding₁).map _ = _
          rw [ran₂]
          rfl
    · rename_i notRunning
      have idle : jobInfo.waitingTasks = [] := by
        unfold JobInfoCache.waitingTasks
        split
        · rename_i scheduler running
          exact absurd running (notRunning scheduler)
        · rfl
      refine ⟨passed, bindingPassed, _, ?_, tasksPassed, laterPassed.cons_idle idle fresh formedHead⟩
      show (bindJobs partitions (fun _ => false) rest binding).map _ = _
      rw [ranPassed]
      rfl

/-- What both binders do with `if_skip` never black-listing a stage, for a loop
over partitions whose invariant holds of the sorted slots. -/
theorem bindWith_spec (spec : BindsPartitions Inv partitions)
    (begin : ∀ slots : List AvailableTaskSlots, Inv
      { slots := slots.insertionSort fun first second => second.slots ≤ first.slots, idxSlot := 0,
        totalSlots := slots.foldl (fun acc slot => acc + slot.slots) 0, schedulableTasks := [] })
    (slots : List AvailableTaskSlots) (activeJobs : Table String (JobInfoCache Plan))
    (distinct : activeJobs.keys.Nodup) (formed : ∀ entry ∈ activeJobs, entry.2.executionGraph.Formed) :
    ∃ tasks slotsLeft jobsLeft, bindWith partitions slots activeJobs (fun _ => false) = .ok (tasks, slotsLeft, jobsLeft) ∧
      BindsSchedulable slots activeJobs tasks slotsLeft jobsLeft := by
  have total := foldl_slots_eq slots 0
  rw [Nat.zero_add] at total
  unfold bindWith
  dsimp only
  split
  · -- no free slot: nothing is bound
    rename_i none
    refine ⟨[], slots, activeJobs, rfl, ⟨?_, List.Perm.refl _, fun _ => ?_,
      fun _ mem => absurd mem List.not_mem_nil, fun _ mem => absurd mem List.not_mem_nil, List.nodup_nil,
      rfl, formed⟩⟩
    · rw [← length_slotUnits, ← total, none]
      simp
    · simp
  · rename_i some
    obtain ⟨added, binding, jobsLeft, ran, tasks, run⟩ :=
      bindJobs_spec spec activeJobs distinct formed (begin slots) (Nat.pos_of_ne_zero some)
    refine ⟨added, binding.slots, jobsLeft, by rw [ran, ← List.nil_append added, ← tasks]; rfl, ?_⟩
    exact run.of_perm (List.perm_insertionSort _ slots)

end Binders

/-- **What the bias and round-robin binders bind.** With `if_skip` never
black-listing a stage, over active jobs with formed graphs, both binders return
and bind as many tasks as there are free slots or tasks waiting once the
resolved stages are revived, whichever is fewer; each task takes a free slot of
its executor, never one of a slot with none left, and no executor more than it
has; each task's partition was waiting and holds the task running on its
executor under its task id; and no partition is bound twice. -/
theorem bindTask_bindsSchedulable [StagePlan Plan] (slots : List AvailableTaskSlots)
    (activeJobs : Table String (JobInfoCache Plan)) (distinct : activeJobs.keys.Nodup)
    (formed : ∀ entry ∈ activeJobs, entry.2.executionGraph.Formed) :
    (∃ tasks slotsLeft jobsLeft,
      bindTaskBias slots activeJobs (fun _ => false) = .ok (tasks, slotsLeft, jobsLeft) ∧
        BindsSchedulable slots activeJobs tasks slotsLeft jobsLeft) ∧
    (∃ tasks slotsLeft jobsLeft,
      bindTaskRoundRobin slots activeJobs (fun _ => false) = .ok (tasks, slotsLeft, jobsLeft) ∧
        BindsSchedulable slots activeJobs tasks slotsLeft jobsLeft) := by
  refine ⟨bindWith_spec bindsPartitions_bias (fun slots => drained_zero _) slots activeJobs distinct formed,
    bindWith_spec bindsPartitions_roundRobin (fun slots => ⟨(descending_insertionSort slots).staggered, ?_⟩)
      slots activeJobs distinct formed⟩
  -- the round-robin binder counts the free slots it sorted
  rw [foldl_slots_eq, Nat.zero_add]
  exact (slotUnits_perm (List.perm_insertionSort _ slots)).length_eq.symm

/-- Two executors, with two free slots and one. -/
def twoExecutors : List AvailableTaskSlots := [⟨"executor-1", 2⟩, ⟨"executor-2", 1⟩]

/-- The job of four stages, two of them forking from the first, as the only
active job. -/
def forkJobs : Table String (JobInfoCache ShapePlan) :=
  [(forkJob.graph.jobId, ⟨forkJob.graph, some (.running "scheduler")⟩)]

theorem bindTask_bindsSchedulable_forkJobs :
    forkJobs.keys.Nodup ∧ (∀ entry ∈ forkJobs, entry.2.executionGraph.Formed) ∧
      ((∃ tasks slotsLeft jobsLeft,
        bindTaskBias twoExecutors forkJobs (fun _ => false) = .ok (tasks, slotsLeft, jobsLeft) ∧
          BindsSchedulable twoExecutors forkJobs tasks slotsLeft jobsLeft) ∧
      (∃ tasks slotsLeft jobsLeft,
        bindTaskRoundRobin twoExecutors forkJobs (fun _ => false) = .ok (tasks, slotsLeft, jobsLeft) ∧
          BindsSchedulable twoExecutors forkJobs tasks slotsLeft jobsLeft)) := by
  have distinct : forkJobs.keys.Nodup := List.nodup_singleton _
  have formed : ∀ entry ∈ forkJobs, entry.2.executionGraph.Formed := by
    rintro entry (_ | ⟨_, ⟨⟩⟩)
    exact Reaches.formed_of_start (Relation.ReflTransGen.refl : Reaches RetryLimits.taskManager forkJob forkJob)
  exact ⟨distinct, formed, bindTask_bindsSchedulable twoExecutors forkJobs distinct formed⟩

end Cluster

end Ballista
