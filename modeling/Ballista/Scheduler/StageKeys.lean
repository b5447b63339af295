import Ballista.Scheduler.Builder

/-! # Stages keyed by their ids

A job's graph keeps its stages in a table by stage id, and each stage carries
its own id (`ExecutionGraph.WellKeyed`). The graph `ExecutionGraph::new` builds
is keyed (`wellKeyed_new`): its builder creates each stage once, resolved
without inputs or unresolved with an incomplete output for each stage it reads.
A stage's transitions keep its id (`toResolved_eq_ok`, `rollbackRunning_eq_ok`,
`rollbackResolved_eq_ok`), so writing a stage back at its id, dropping one, and
`revive`, which starts each resolved stage in place (`WellKeyed.get?_revive_eq`),
keep the graph keyed.
-/

namespace Ballista

variable {Plan : Type}

namespace ExecutionStage

variable [StagePlan Plan]

/-- Resolving keeps the attempt, the links and the inputs. -/
theorem toResolved_eq_ok {stage : UnresolvedStage Plan} {next : ResolvedStage Plan}
    (ok : stage.toResolved = .ok next) :
    next.stageId = stage.stageId ∧ next.stageAttemptNum = stage.stageAttemptNum ∧
      next.outputLinks = stage.outputLinks ∧ next.inputs = stage.inputs := by
  unfold UnresolvedStage.toResolved at ok
  simp only [bind, Except.bind] at ok
  -- each of the three rewrites of the plan may fail, and resolving with it
  split at ok
  · cases ok
  · split at ok
    · cases ok
    · split at ok
      · cases ok
      · cases ok
        exact ⟨rfl, rfl, rfl, rfl⟩

/-- Rolling back a running stage opens its next attempt and keeps its inputs. -/
theorem rollbackRunning_eq_ok {stage : RunningStage Plan} {failureReasons : List String}
    {next : UnresolvedStage Plan} (ok : stage.toUnresolved failureReasons = .ok next) :
    next.stageId = stage.stageId ∧ next.stageAttemptNum = stage.stageAttemptNum + 1 ∧
      next.outputLinks = stage.outputLinks ∧ next.inputs = stage.inputs := by
  unfold RunningStage.toUnresolved at ok
  simp only [bind, Except.bind] at ok
  split at ok
  · cases ok
  · cases ok
    exact ⟨rfl, rfl, rfl, rfl⟩

/-- Rolling back a resolved stage keeps its attempt and its inputs. -/
theorem rollbackResolved_eq_ok {stage : ResolvedStage Plan} {next : UnresolvedStage Plan}
    (ok : stage.toUnresolved = .ok next) :
    next.stageId = stage.stageId ∧ next.stageAttemptNum = stage.stageAttemptNum ∧
      next.outputLinks = stage.outputLinks ∧ next.inputs = stage.inputs := by
  unfold ResolvedStage.toUnresolved at ok
  simp only [bind, Except.bind] at ok
  split at ok
  · cases ok
  · cases ok
    exact ⟨rfl, rfl, rfl, rfl⟩

end ExecutionStage

namespace ExecutionGraph

theorem WellKeyed.setStage {graph : ExecutionGraph Plan} (keyed : graph.WellKeyed) {stageId : Nat}
    {stage next : ExecutionStage Plan} (found : graph.stages.get? stageId = some stage)
    (sameId : next.stageId = stage.stageId) : (graph.setStage stageId next).WellKeyed := by
  have present := Table.mem_keys_of_get? found
  refine ⟨?_, fun entry mem => ?_⟩
  · simpa [ExecutionGraph.setStage, Table.keys_insert_of_mem next present] using keyed.distinct
  · rcases Table.mem_insert_cases mem with rfl | earlier
    · rw [sameId]
      exact keyed.keyed _ (Table.get?_eq_some_mem found)
    · exact keyed.keyed entry earlier

theorem WellKeyed.dropStage {graph : ExecutionGraph Plan} (keyed : graph.WellKeyed)
    (stageId : Nat) : (graph.dropStage stageId).WellKeyed :=
  ⟨(Table.keys_erase_sublist _ stageId).nodup keyed.distinct,
    fun entry mem => keyed.keyed entry (Table.mem_of_mem_erase mem)⟩

end ExecutionGraph

/-- The stage `revive` leaves in place of a stage: a resolved stage starts
running, any other stays. -/
def ExecutionStage.revived : ExecutionStage Plan → ExecutionStage Plan
  | .resolved stage => .running stage.toRunning
  | stage => stage

namespace ExecutionStage

@[simp] theorem stageId_revived (stage : ExecutionStage Plan) : stage.revived.stageId = stage.stageId := by
  cases stage <;> rfl

@[simp] theorem inputs_revived (stage : ExecutionStage Plan) : stage.revived.inputs = stage.inputs := by
  cases stage <;> rfl

@[simp] theorem isUnresolved_revived (stage : ExecutionStage Plan) :
    stage.revived.isUnresolved = stage.isUnresolved := by
  cases stage <;> rfl

@[simp] theorem isSuccessful_revived (stage : ExecutionStage Plan) :
    stage.revived.isSuccessful = stage.isSuccessful := by
  cases stage <;> rfl

end ExecutionStage

namespace ExecutionGraph

theorem WellKeyed.resolvedStageIds_sublist {graph : ExecutionGraph Plan} (keyed : graph.WellKeyed) :
    (graph.resolvedStages.map ResolvedStage.stageId).Sublist graph.stages.keys := by
  have entries := keyed.keyed
  unfold resolvedStages Table.keys
  generalize graph.stages = stages at entries ⊢
  induction stages with
  | nil => exact .slnil
  | cons entry rest ih =>
    obtain ⟨key, stage⟩ := entry
    have later := ih fun other mem => entries other (List.mem_cons_of_mem _ mem)
    cases stage with
    | resolved resolved =>
      have atKey : resolved.stageId = key := entries _ List.mem_cons_self
      simpa [List.filterMap_cons, atKey] using later.cons_cons key
    | _ => simpa [List.filterMap_cons] using later.cons key

/-- In a keyed graph `revive` revives each stage in place. -/
theorem WellKeyed.get?_revive_eq {graph : ExecutionGraph Plan} (keyed : graph.WellKeyed)
    (stageId : Nat) :
    graph.revive.2.stages.get? stageId = (graph.stages.get? stageId).map ExecutionStage.revived := by
  cases found : graph.stages.get? stageId with
  | none =>
    rw [get?_revive_of_ne graph ?_, found]
    · rfl
    intro resolved mem same
    obtain ⟨key, entry⟩ := mem_resolvedStages.mp mem
    have atKey : key = stageId := (keyed.keyed _ entry).symm.trans same
    subst atKey
    rw [Table.get?_of_mem keyed.distinct entry] at found
    cases found
  | some stage =>
    cases stage with
    | resolved resolved =>
      have entry := Table.get?_eq_some_mem found
      have atKey : resolved.toRunning.stageId = stageId := keyed.keyed _ entry
      have distinct : (graph.resolvedStages.map fun stage => stage.toRunning.stageId).Nodup :=
        keyed.resolvedStageIds_sublist.nodup keyed.distinct
      have revived := Table.get?_foldl_insert_of_mem (fun stage : ResolvedStage Plan => stage.toRunning.stageId)
        (fun stage => ExecutionStage.running stage.toRunning) graph.stages distinct
        (mem_resolvedStages.mpr ⟨stageId, entry⟩)
      simp only [atKey] at revived
      simpa only [ExecutionGraph.revive, List.foldl_map, Option.map_some, ExecutionStage.revived]
        using revived
    | _ =>
      rw [keyed.get?_revive found (fun _ same => by cases same)]
      rfl

/-- In a keyed graph `revive` writes only at keys already there. -/
theorem WellKeyed.keys_revive {graph : ExecutionGraph Plan} (keyed : graph.WellKeyed) :
    graph.revive.2.stages.keys = graph.stages.keys := by
  have present : ∀ stage ∈ graph.resolvedStages, stage.toRunning.stageId ∈ graph.stages.keys := by
    intro stage mem
    obtain ⟨key, entry⟩ := mem_resolvedStages.mp mem
    have atKey : stage.stageId = key := keyed.keyed _ entry
    show stage.stageId ∈ graph.stages.keys
    rw [atKey]
    exact List.mem_map_of_mem entry
  simpa only [ExecutionGraph.revive, List.foldl_map] using Table.keys_foldl_insert _
    (fun stage : ResolvedStage Plan => stage.toRunning.stageId)
    (fun stage => ExecutionStage.running stage.toRunning) graph.stages present

theorem WellKeyed.revive {graph : ExecutionGraph Plan} (keyed : graph.WellKeyed) :
    graph.revive.2.WellKeyed := by
  have keys := keyed.keys_revive
  refine ⟨keys ▸ keyed.distinct, fun entry mem => ?_⟩
  obtain ⟨stageId, stage'⟩ := entry
  have found := Table.get?_of_mem (keys ▸ keyed.distinct) mem
  rw [keyed.get?_revive_eq] at found
  obtain ⟨stage, atKey, rfl⟩ := Option.map_eq_some_iff.mp found
  rw [ExecutionStage.stageId_revived]
  exact keyed.keyed _ (Table.get?_eq_some_mem atKey)

end ExecutionGraph

/-- A stage as `ExecutionGraph::new` creates it: resolved without an input, or
unresolved with an incomplete output for each input, one per input stage. -/
def ExecutionStage.Created : ExecutionStage Plan → Prop
  | .resolved stage => stage.inputs = []
  | .unResolved stage => stage.inputs.keys.Nodup ∧ ∀ input ∈ stage.inputs, input.2.complete = false
  | _ => False

/-- `UnresolvedStage::new` starts one incomplete output for each input stage. -/
theorem newInputs_created (childStageIds : List Nat) (inputs : Table Nat StageOutput)
    (distinct : inputs.keys.Nodup) (incomplete : ∀ input ∈ inputs, input.2.complete = false) :
    (childStageIds.foldl (fun inputs child => inputs.insert child StageOutput.new) inputs).keys.Nodup ∧
      ∀ input ∈ childStageIds.foldl (fun inputs child => inputs.insert child StageOutput.new) inputs,
        input.2.complete = false := by
  induction childStageIds generalizing inputs with
  | nil => exact ⟨distinct, incomplete⟩
  | cons child rest ih =>
    refine ih _ (Table.keys_insert_nodup _ _ distinct) fun input mem => ?_
    rcases Table.mem_insert_cases mem with rfl | earlier
    · rfl
    · exact incomplete input earlier

variable [StagePlan Plan]

namespace ExecutionStageBuilder

/-- Creating the stages keys each by its id, once, and creates it resolved
without inputs or unresolved with incomplete ones. -/
theorem created_foldl (plans : List Plan) :
    ∀ acc : ExecutionStageBuilder × Table Nat (ExecutionStage Plan),
      acc.2.keys.Nodup → (∀ entry ∈ acc.2, entry.2.stageId = entry.1 ∧ entry.2.Created) →
      (plans.foldl createStage acc).2.keys.Nodup ∧
        ∀ entry ∈ (plans.foldl createStage acc).2, entry.2.stageId = entry.1 ∧ entry.2.Created := by
  induction plans with
  | nil => exact fun _ distinct created => ⟨distinct, created⟩
  | cons plan rest ih =>
    rintro ⟨builder, stages⟩ distinct created
    refine ih _ (Table.keys_insert_nodup _ _ distinct) fun entry mem => ?_
    rcases Table.mem_insert_cases mem with rfl | earlier
    · -- the new stage: resolved when it reads no stage, unresolved otherwise
      dsimp only
      split
      · exact ⟨rfl, rfl⟩
      · exact ⟨rfl, newInputs_created _ [] List.nodup_nil fun _ mem => absurd mem List.not_mem_nil⟩
    · exact created entry earlier

theorem build_created (builder : ExecutionStageBuilder) (plans : List Plan) :
    (builder.build plans).keys.Nodup ∧
      ∀ entry ∈ builder.build plans, entry.2.stageId = entry.1 ∧ entry.2.Created :=
  created_foldl plans _ List.nodup_nil fun _ mem => absurd mem List.not_mem_nil

end ExecutionStageBuilder

namespace ExecutionGraph

variable (schedulerId jobId jobName sessionId : String) (outputPartitions : Nat) (plans : List Plan)

theorem wellKeyed_new : (ExecutionGraph.new schedulerId jobId jobName sessionId outputPartitions plans).WellKeyed :=
  ⟨(ExecutionStageBuilder.build_created _ plans).1,
    fun entry mem => ((ExecutionStageBuilder.build_created _ plans).2 entry mem).1⟩

end ExecutionGraph

end Ballista
