import Ballista.Lib.StateExcept
import Ballista.Scheduler.Planner

/-! # Cutting a plan into query stages

`DistributedPlanner::plan_query_stages` (`scheduler/src/planner.rs`) walks the
physical plan from the leaves up and cuts a stage wherever the partitioning
changes: below a `CoalescePartitionsExec` or a `SortPreservingMergeExec` a stage
is written unpartitioned, and a hash `RepartitionExec` becomes a stage written
with its hash partitioning; any other `RepartitionExec` is dropped. Each cut
stage is a `ShuffleWriterExec` with the next stage id, and an
`UnresolvedShuffleExec` of its id, schema and output partition count takes its
place in the plan above. What remains of the plan is the last stage, written
unpartitioned.

The stages are numbered from one in the order they are listed. On a plan with
no `UnresolvedShuffleExec` of its own, every unresolved shuffle in a stage reads
a stage listed before it, with that stage's schema and partition count, every
stage but the last is read by exactly one, and no stage keeps a `RepartitionExec`
other than a hash one (`planQueryStages_planned`). The stages for a
`CoalescePartitionsExec` and a `SortPreservingMergeExec` are written without
partitioning, as the last one is (`coalescedStage_unpartitioned`).
-/

namespace Ballista

variable {Schema Expr : Type}

/-- `DistributedPlanner`. -/
structure DistributedPlanner where
  nextStageId : Nat
  deriving DecidableEq, Repr

/-- `DistributedPlanner::new`. -/
def DistributedPlanner.new : DistributedPlanner := { nextStageId := 0 }

/-- A method of the planner: it may fail, with the stage counter as it left it. -/
abbrev PlannerM := ExceptT BallistaError (StateM DistributedPlanner)

/-- `DistributedPlanner::next_stage_id`. -/
def nextStageId : PlannerM Nat :=
  modifyGet fun planner => (planner.nextStageId + 1, { nextStageId := planner.nextStageId + 1 })

/-- `create_shuffle_writer`; `ShuffleWriterExec::try_new` does not fail. -/
def createShuffleWriter (jobId : String) (stageId : Nat) (plan : ExecutionPlan Schema Expr)
    (partitioning : Option (Partitioning Expr)) : ShuffleWriterExec Schema Expr :=
  { jobId, stageId, plan, workDir := "", shuffleOutputPartitioning := partitioning }

/-- `create_unresolved_shuffle`. -/
def createUnresolvedShuffle (shuffleWriter : ShuffleWriterExec Schema Expr) : ExecutionPlan Schema Expr :=
  .unresolvedShuffle shuffleWriter.stageId shuffleWriter.toPlan.schema
    shuffleWriter.toPlan.outputPartitioning.partitionCount

/-- `with_new_children_if_necessary(..)?` in a planner method. -/
def withNewChildrenM (plan : ExecutionPlan Schema Expr) (children : List (ExecutionPlan Schema Expr)) :
    PlannerM (ExecutionPlan Schema Expr) :=
  match plan.withNewChildrenIfNecessary children with
  | .ok rebuilt => pure rebuilt
  | .error e => throw (.dataFusionError e)

/-- What `plan_query_stages_internal` does with an operator once its children
are planned, given their plans and the stages cut out of them; the text of
the `WindowAggExec`'s `Debug` is left out of its error. -/
def planNode (jobId : String) (executionPlan : ExecutionPlan Schema Expr)
    (children : List (ExecutionPlan Schema Expr)) (stages : List (ShuffleWriterExec Schema Expr)) :
    PlannerM (ExecutionPlan Schema Expr × List (ShuffleWriterExec Schema Expr)) :=
  -- the operators matched here have one child, so `children` is that child's plan
  match executionPlan, children with
  | .coalescePartitions _, child :: _ | .sortPreservingMerge _, child :: _ => do
    let shuffleWriter := createShuffleWriter jobId (← nextStageId) child none
    let unresolvedShuffle := createUnresolvedShuffle shuffleWriter
    return (← withNewChildrenM executionPlan [unresolvedShuffle], stages ++ [shuffleWriter])
  | .repartition _ partitioning@(.hash ..), child :: _ => do
    let shuffleWriter := createShuffleWriter jobId (← nextStageId) child (some partitioning)
    return (createUnresolvedShuffle shuffleWriter, stages ++ [shuffleWriter])
  | .repartition .., child :: _ => return (child, stages)
  | .windowAgg .., _ => throw (.notImplemented "WindowAggExec with window")
  | _, _ => return (← withNewChildrenM executionPlan children, stages)

/-- `plan_query_stages_internal`: a leaf as it is, or the operator over its
children planned in order, their stages in the same order. -/
def planQueryStagesInternal (jobId : String) (executionPlan : ExecutionPlan Schema Expr) :
    PlannerM (ExecutionPlan Schema Expr × List (ShuffleWriterExec Schema Expr)) := do
  if executionPlan.children.isEmpty then
    return (executionPlan, [])
  let planned ← executionPlan.children.attach.mapM fun ⟨child, _⟩ =>
    planQueryStagesInternal jobId child
  planNode jobId executionPlan (planned.map Prod.fst) (planned.map Prod.snd).flatten
termination_by sizeOf executionPlan
decreasing_by exact ExecutionPlan.sizeOf_lt_of_mem_children ‹_›

/-- `plan_query_stages`: the stages cut out of the plan, then what remains of
it, written unpartitioned. -/
def planQueryStages (jobId : String) (executionPlan : ExecutionPlan Schema Expr) :
    PlannerM (List (ShuffleWriterExec Schema Expr)) := do
  let (newPlan, stages) ← planQueryStagesInternal jobId executionPlan
  return stages ++ [createShuffleWriter jobId (← nextStageId) newPlan none]

/-- `find_unresolved_shuffles`, in the order of a walk from the root. -/
def findUnresolvedShuffles : ExecutionPlan Schema Expr → List (UnresolvedShuffleExec Schema)
  | .unresolvedShuffle stageId schema outputPartitionCount => [⟨stageId, schema, outputPartitionCount⟩]
  | plan => plan.children.attach.flatMap fun ⟨child, _⟩ => findUnresolvedShuffles child
termination_by plan => sizeOf plan
decreasing_by exact ExecutionPlan.sizeOf_lt_of_mem_children ‹_›

/-- Whether the operator is a `RepartitionExec` other than a hash one. -/
def ExecutionPlan.isNonHashRepartition : ExecutionPlan Schema Expr → Bool
  | .repartition _ (.hash ..) => false
  | .repartition .. => true
  | _ => false

/-- Whether the partitioning is a hash one. -/
def Partitioning.isHash {Expr : Type} : Partitioning Expr → Bool
  | .hash .. => true
  | _ => false

theorem findUnresolvedShuffles_of_resolved {plan : ExecutionPlan Schema Expr}
    (resolved : plan.isUnresolvedShuffle = false) :
    findUnresolvedShuffles plan = plan.children.flatMap findUnresolvedShuffles := by
  have other : ∀ stageId schema outputPartitionCount,
      plan = .unresolvedShuffle stageId schema outputPartitionCount → False := by
    rintro _ _ _ rfl
    cases resolved
  rw [findUnresolvedShuffles.eq_2 plan other, List.flatMap_subtype fun child _ => rfl,
    List.unattach_attach]

/-- The unresolved shuffles left in some plans and in the plans of some stages. -/
def unresolvedIn (plans : List (ExecutionPlan Schema Expr)) (stages : List (ShuffleWriterExec Schema Expr)) :
    List (UnresolvedShuffleExec Schema) :=
  (plans ++ stages.map ShuffleWriterExec.plan).flatMap findUnresolvedShuffles

/-- What planning sibling operators did while the stage counter went from
`first` to `last`: it cut the stages `first + 1` to `last` in that order, each
written unpartitioned or hash partitioned; the unresolved shuffles left in the
plans and in the stages read each of these stages once, with its schema and
partition count, and a stage's own read only earlier stages; no plan keeps a
`RepartitionExec` other than a hash one, nor a `ShuffleWriterExec`. -/
structure Planned (first last : Nat) (plans : List (ExecutionPlan Schema Expr))
    (stages : List (ShuffleWriterExec Schema Expr)) : Prop where
  ordered : first ≤ last
  numbered : stages.map ShuffleWriterExec.stageId = List.range' (first + 1) (last - first)
  partitioned : ∀ stage ∈ stages, ∀ partitioning ∈ stage.shuffleOutputPartitioning, partitioning.isHash
  readOnce : ((unresolvedIn plans stages).map UnresolvedShuffleExec.stageId).Perm
    (List.range' (first + 1) (last - first))
  readShape : ∀ shuffle ∈ unresolvedIn plans stages, ∃ stage ∈ stages, stage.stageId = shuffle.stageId ∧
    shuffle.schema = stage.toPlan.schema ∧
    shuffle.outputPartitionCount = stage.toPlan.outputPartitioning.partitionCount
  readEarlier : ∀ stage ∈ stages, ∀ shuffle ∈ findUnresolvedShuffles stage.plan,
    shuffle.stageId < stage.stageId
  kept : ∀ plan ∈ plans ++ stages.map ShuffleWriterExec.plan, ∀ node : ExecutionPlan Schema Expr,
    node.Occurs plan → node.isNonHashRepartition = false ∧ node.isShuffleWriter = false

theorem range'_append_counter {first middle last : Nat} (lower : first ≤ middle) (upper : middle ≤ last) :
    List.range' (first + 1) (middle - first) ++ List.range' (middle + 1) (last - middle) =
      List.range' (first + 1) (last - first) := by
  have starts : middle + 1 = first + 1 + 1 * (middle - first) := by omega
  have counts : last - first = middle - first + (last - middle) := by omega
  rw [starts, counts, List.range'_append]

theorem unresolvedIn_append_perm (plans plans' : List (ExecutionPlan Schema Expr))
    (stages stages' : List (ShuffleWriterExec Schema Expr)) :
    (unresolvedIn (plans ++ plans') (stages ++ stages')).Perm
      (unresolvedIn plans stages ++ unresolvedIn plans' stages') := by
  simp only [unresolvedIn, List.map_append, List.flatMap_append, List.append_assoc]
  exact .append_left _ (List.perm_append_comm_assoc _ _ _)

theorem Planned.nil (first : Nat) : Planned first first ([] : List (ExecutionPlan Schema Expr)) [] where
  ordered := Nat.le_refl first
  numbered := by simp
  partitioned := by simp
  readOnce := by simp [unresolvedIn]
  readShape := by simp [unresolvedIn]
  readEarlier := by simp
  kept := by simp

/-- Planning siblings one after the other: the stages of the second continue
the numbering of the first's. -/
theorem Planned.append {first middle last : Nat} {plans plans' : List (ExecutionPlan Schema Expr)}
    {stages stages' : List (ShuffleWriterExec Schema Expr)} (before : Planned first middle plans stages)
    (after : Planned middle last plans' stages') :
    Planned first last (plans ++ plans') (stages ++ stages') where
  ordered := Nat.le_trans before.ordered after.ordered
  numbered := by
    rw [List.map_append, before.numbered, after.numbered,
      range'_append_counter before.ordered after.ordered]
  partitioned := by
    intro stage mem
    rcases List.mem_append.mp mem with old | new
    · exact before.partitioned stage old
    · exact after.partitioned stage new
  readOnce := by
    have split := (unresolvedIn_append_perm plans plans' stages stages').map UnresolvedShuffleExec.stageId
    rw [List.map_append] at split
    rw [← range'_append_counter before.ordered after.ordered]
    exact split.trans (before.readOnce.append after.readOnce)
  readShape := by
    intro shuffle mem
    rcases List.mem_append.mp ((unresolvedIn_append_perm _ _ _ _).subset mem) with old | new
    · obtain ⟨stage, found, read⟩ := before.readShape shuffle old
      exact ⟨stage, List.mem_append_left _ found, read⟩
    · obtain ⟨stage, found, read⟩ := after.readShape shuffle new
      exact ⟨stage, List.mem_append_right _ found, read⟩
  readEarlier := by
    intro stage mem
    rcases List.mem_append.mp mem with old | new
    · exact before.readEarlier stage old
    · exact after.readEarlier stage new
  kept := by
    intro plan mem
    simp only [List.map_append, List.mem_append] at mem
    rcases mem with (old | new) | (old | new)
    · exact before.kept plan (List.mem_append_left _ old)
    · exact after.kept plan (List.mem_append_left _ new)
    · exact before.kept plan (List.mem_append_right _ old)
    · exact after.kept plan (List.mem_append_right _ new)

theorem unresolvedIn_rebuilt {rebuilt : ExecutionPlan Schema Expr} (resolved : rebuilt.isUnresolvedShuffle = false)
    (stages : List (ShuffleWriterExec Schema Expr)) :
    unresolvedIn [rebuilt] stages = unresolvedIn rebuilt.children stages := by
  simp only [unresolvedIn, List.cons_append, List.nil_append, List.flatMap_cons, List.flatMap_append,
    findUnresolvedShuffles_of_resolved resolved]

/-- An operator rebuilt over planned children is planned as they are. -/
theorem Planned.rebuild {first last : Nat} {children : List (ExecutionPlan Schema Expr)}
    {stages : List (ShuffleWriterExec Schema Expr)} (planned : Planned first last children stages)
    {rebuilt : ExecutionPlan Schema Expr} (rebuiltChildren : rebuilt.children = children)
    (resolved : rebuilt.isUnresolvedShuffle = false)
    (kept : rebuilt.isNonHashRepartition = false ∧ rebuilt.isShuffleWriter = false) :
    Planned first last [rebuilt] stages where
  ordered := planned.ordered
  numbered := planned.numbered
  partitioned := planned.partitioned
  readOnce := by
    rw [unresolvedIn_rebuilt resolved, rebuiltChildren]
    exact planned.readOnce
  readShape := by
    rw [unresolvedIn_rebuilt resolved, rebuiltChildren]
    exact planned.readShape
  readEarlier := planned.readEarlier
  kept := by
    intro plan mem node occurs
    rcases List.mem_append.mp mem with top | stage
    · rw [List.mem_singleton.mp top] at occurs
      rcases ExecutionPlan.occurs_cases occurs with rfl | ⟨child, childMem, below⟩
      · exact kept
      · rw [rebuiltChildren] at childMem
        exact planned.kept child (List.mem_append_left _ childMem) node below
    · exact planned.kept plan (List.mem_append_right _ stage) node occurs

/-- A leaf other than an `UnresolvedShuffleExec` is planned as it is. -/
theorem Planned.leaf (first : Nat) {plan : ExecutionPlan Schema Expr} (leaf : plan.children = [])
    (resolved : plan.isUnresolvedShuffle = false) : Planned first first [plan] [] := by
  -- a `RepartitionExec` and a `ShuffleWriterExec` have a child
  have kept : plan.isNonHashRepartition = false ∧ plan.isShuffleWriter = false := by
    cases plan with
    | repartition input partitioning => cases leaf
    | shuffleWriter => cases leaf
    | _ => exact ⟨rfl, rfl⟩
  exact (Planned.nil first).rebuild leaf resolved kept

theorem unresolvedIn_concat_perm (plans : List (ExecutionPlan Schema Expr))
    (stages : List (ShuffleWriterExec Schema Expr)) (writer : ShuffleWriterExec Schema Expr) :
    (unresolvedIn plans (stages ++ [writer])).Perm
      (unresolvedIn [writer.plan] stages ++ plans.flatMap findUnresolvedShuffles) := by
  simp only [unresolvedIn, List.map_append, List.map_cons, List.map_nil, List.cons_append, List.nil_append,
    List.flatMap_cons, List.flatMap_append, List.flatMap_nil, List.append_nil]
  exact List.perm_append_comm.trans (.append_right _ List.perm_append_comm)

/-- Cutting a planned child into the next stage, which the operator put in its
place reads through one unresolved shuffle. -/
theorem Planned.cut {first last : Nat} {child : ExecutionPlan Schema Expr}
    {stages : List (ShuffleWriterExec Schema Expr)} (planned : Planned first last [child] stages)
    (jobId : String) {partitioning : Option (Partitioning Expr)}
    (hashed : ∀ hash ∈ partitioning, hash.isHash) {above : ExecutionPlan Schema Expr}
    (reads : findUnresolvedShuffles above =
      findUnresolvedShuffles (createUnresolvedShuffle (createShuffleWriter jobId (last + 1) child partitioning)))
    (kept : ∀ node : ExecutionPlan Schema Expr, node.Occurs above →
      node.isNonHashRepartition = false ∧ node.isShuffleWriter = false) :
    Planned first (last + 1) [above] (stages ++ [createShuffleWriter jobId (last + 1) child partitioning]) where
  ordered := Nat.le_succ_of_le planned.ordered
  numbered := by
    have counts : last + 1 - first = last - first + 1 := by have := planned.ordered; omega
    rw [List.map_append, planned.numbered, counts, List.range'_concat]
    simp only [createShuffleWriter, List.map_cons, List.map_nil, List.append_cancel_left_eq, List.cons.injEq,
      and_true]
    omega
  partitioned := by
    intro stage mem
    rcases List.mem_append.mp mem with old | new
    · exact planned.partitioned stage old
    · rw [List.mem_singleton.mp new]
      exact hashed
  readOnce := by
    have counts : last + 1 - first = last - first + 1 := by have := planned.ordered; omega
    have split := (unresolvedIn_concat_perm [above] stages
      (createShuffleWriter jobId (last + 1) child partitioning)).map UnresolvedShuffleExec.stageId
    rw [List.map_append, List.flatMap_singleton, reads] at split
    rw [counts, List.range'_concat]
    refine split.trans (.append planned.readOnce ?_)
    simp only [createUnresolvedShuffle, findUnresolvedShuffles, createShuffleWriter, List.map_cons, List.map_nil]
    rw [show first + 1 + 1 * (last - first) = last + 1 by omega]
  readShape := by
    intro shuffle mem
    rcases List.mem_append.mp ((unresolvedIn_concat_perm [above] stages _).subset mem) with old | new
    · obtain ⟨stage, found, read⟩ := planned.readShape shuffle old
      exact ⟨stage, List.mem_append_left _ found, read⟩
    · rw [List.flatMap_singleton, reads, createUnresolvedShuffle, findUnresolvedShuffles, List.mem_singleton] at new
      exact ⟨_, List.mem_append_right _ (List.mem_singleton_self _), by rw [new], by rw [new], by rw [new]⟩
  readEarlier := by
    intro stage mem shuffle read
    rcases List.mem_append.mp mem with old | new
    · exact planned.readEarlier stage old shuffle read
    · rw [List.mem_singleton.mp new] at read ⊢
      have left : shuffle ∈ unresolvedIn [child] stages :=
        List.mem_flatMap.mpr ⟨child, List.mem_append_left _ (List.mem_singleton_self _), read⟩
      have named := planned.readOnce.subset (List.mem_map_of_mem left)
      rw [List.mem_range'_1] at named
      change shuffle.stageId < last + 1
      omega
  kept := by
    intro plan mem node occurs
    simp only [List.map_append, List.map_cons, List.map_nil, List.singleton_append, List.mem_cons,
      List.mem_append, List.mem_nil_iff, or_false] at mem
    rcases mem with top | old | new
    · rw [top] at occurs
      exact kept node occurs
    · exact planned.kept plan (List.mem_append_right _ old) node occurs
    · rw [new] at occurs
      exact planned.kept child (List.mem_append_left _ (List.mem_singleton_self _)) node occurs

/-- A `CoalescePartitionsExec` or a `SortPreservingMergeExec` over its child
cut into the next stage, unpartitioned. -/
theorem Planned.merge {first last : Nat} {child : ExecutionPlan Schema Expr}
    {stages : List (ShuffleWriterExec Schema Expr)} (planned : Planned first last [child] stages)
    (jobId : String) {above : ExecutionPlan Schema Expr}
    (merging : above.children = [createUnresolvedShuffle (createShuffleWriter jobId (last + 1) child none)])
    (resolved : above.isUnresolvedShuffle = false)
    (kept : above.isNonHashRepartition = false ∧ above.isShuffleWriter = false) :
    Planned first (last + 1) [above] (stages ++ [createShuffleWriter jobId (last + 1) child none]) := by
  refine planned.cut jobId (fun _ absent => by cases absent) ?_ ?_
  · rw [findUnresolvedShuffles_of_resolved resolved, merging, List.flatMap_singleton]
  · intro node occurs
    rcases ExecutionPlan.occurs_cases occurs with rfl | ⟨shuffle, mem, below⟩
    · exact kept
    · rw [merging, List.mem_singleton] at mem
      rw [ExecutionPlan.eq_of_occurs_leaf (by rw [mem]; rfl) below, mem]
      exact ⟨rfl, rfl⟩

theorem exec_withNewChildrenM_of_eq_ok {plan rebuilt : ExecutionPlan Schema Expr}
    {children : List (ExecutionPlan Schema Expr)} (rebuiltOk : plan.withNewChildrenIfNecessary children = .ok rebuilt)
    (planner : DistributedPlanner) : (withNewChildrenM plan children).exec planner = (.ok rebuilt, planner) := by
  rw [withNewChildrenM, rebuiltOk]
  rfl

/-- The operators the planner does not cut at are rebuilt over their planned
children. -/
theorem rebuild_planned {plan rebuilt : ExecutionPlan Schema Expr} {children : List (ExecutionPlan Schema Expr)}
    (rebuiltOk : plan.withNewChildrenIfNecessary children = .ok rebuilt) (rebuiltChildren : rebuilt.children = children)
    (resolved : rebuilt.isUnresolvedShuffle = false)
    (kept : rebuilt.isNonHashRepartition = false ∧ rebuilt.isShuffleWriter = false) (stages : List (ShuffleWriterExec Schema Expr)) (first : Nat) :
    ExceptT.Triple (fun planner => Planned first planner.nextStageId children stages)
      (do return (← withNewChildrenM plan children, stages))
      fun result planner => Planned first planner.nextStageId [result.1] result.2 := by
  intro planner result after planned ran
  rw [ExceptT.exec_bind, exec_withNewChildrenM_of_eq_ok rebuiltOk] at ran
  simp only [ExceptT.exec_pure, Prod.mk.injEq, Except.ok.injEq] at ran
  obtain ⟨rfl, rfl⟩ := ran
  exact planned.rebuild rebuiltChildren resolved kept

/-- One step of `plan_query_stages_internal`: an operator other than an
`UnresolvedShuffleExec` or a `ShuffleWriterExec` over its planned children is
planned. -/
theorem planNode_planned (jobId : String) {plan : ExecutionPlan Schema Expr}
    (resolved : plan.isUnresolvedShuffle = false) (unwritten : plan.isShuffleWriter = false) {children : List (ExecutionPlan Schema Expr)}
    (counted : children.length = plan.children.length) (stages : List (ShuffleWriterExec Schema Expr))
    (first : Nat) :
    ExceptT.Triple (fun planner => Planned first planner.nextStageId children stages)
      (planNode jobId plan children stages)
      fun result planner => Planned first planner.nextStageId [result.1] result.2 := by
  cases plan with
  | shuffleWriter => cases unwritten
  | shuffleReader stageId partition schema =>
    rw [List.length_eq_zero_iff.mp counted]
    have rebuiltOk : (ExecutionPlan.shuffleReader stageId partition schema : ExecutionPlan Schema Expr).withNewChildrenIfNecessary
        [] = .ok (.shuffleReader stageId partition schema) := rfl
    exact rebuild_planned rebuiltOk rfl rfl ⟨rfl, rfl⟩ stages first
  | unresolvedShuffle => cases resolved
  | coalescePartitions input =>
    obtain ⟨child, rfl⟩ := List.length_eq_one_iff.mp counted
    intro planner result after planned ran
    cases ran
    exact planned.merge jobId rfl rfl ⟨rfl, rfl⟩
  | sortPreservingMerge input =>
    obtain ⟨child, rfl⟩ := List.length_eq_one_iff.mp counted
    intro planner result after planned ran
    cases ran
    exact planned.merge jobId rfl rfl ⟨rfl, rfl⟩
  | repartition input partitioning =>
    obtain ⟨child, rfl⟩ := List.length_eq_one_iff.mp counted
    intro planner result after planned ran
    cases partitioning with
    | hash exprs partitionCount =>
      -- the hash repartition gives way to the shuffle reading its stage
      cases ran
      refine planned.cut jobId (fun _ found => by rw [Option.mem_some_iff.mp found.symm]; rfl) rfl ?_
      intro node occurs
      rw [ExecutionPlan.eq_of_occurs_leaf rfl occurs]
      exact ⟨rfl, rfl⟩
    | roundRobinBatch partitionCount =>
      cases ran
      exact planned
    | unknownPartitioning partitionCount =>
      cases ran
      exact planned
  | windowAgg input schema =>
    intro planner result after planned ran
    cases ran
  | operator name schema partitioning inputs =>
    have rebuiltOk : (ExecutionPlan.operator name schema partitioning inputs).withNewChildrenIfNecessary children =
        .ok (.operator name schema partitioning children) := by
      simp [ExecutionPlan.withNewChildrenIfNecessary, ExecutionPlan.withNewChildren, counted]
    exact rebuild_planned rebuiltOk rfl rfl ⟨rfl, rfl⟩ stages first

theorem planQueryStagesInternal_eq (jobId : String) (plan : ExecutionPlan Schema Expr) :
    planQueryStagesInternal jobId plan =
      if plan.children.isEmpty then pure (plan, [])
      else plan.children.mapM (planQueryStagesInternal jobId) >>= fun planned =>
        planNode jobId plan (planned.map Prod.fst) (planned.map Prod.snd).flatten := by
  rw [planQueryStagesInternal]
  split
  · rfl
  · congr 1
    calc _ = plan.children.attach.unattach.mapM (planQueryStagesInternal jobId) :=
          List.mapM_subtype fun child _ => rfl
      _ = _ := by rw [List.unattach_attach]

/-- `plan_query_stages_internal` on a plan with no shuffle operator of
Ballista's, from any stage counter: it plans the plan from that counter to the
one it leaves. -/
theorem planQueryStagesInternal_planned (jobId : String) :
    ∀ (plan : ExecutionPlan Schema Expr) (first : Nat),
      (∀ node : ExecutionPlan Schema Expr, node.Occurs plan →
        node.isUnresolvedShuffle = false ∧ node.isShuffleWriter = false) →
      ExceptT.Triple (fun planner => planner.nextStageId = first) (planQueryStagesInternal jobId plan)
        fun result planner => Planned first planner.nextStageId [result.1] result.2
  | plan, first, unplanned => by
    rw [planQueryStagesInternal_eq]
    split
    · rename_i leaf
      refine ExceptT.Triple.pure fun planner start => ?_
      rw [start]
      exact Planned.leaf first (List.isEmpty_iff.mp leaf) (unplanned plan (.refl plan)).1
    · -- the children are planned in order, each from the counter the one before left
      have each : ∀ child ∈ plan.children, ∀ done : List (ExecutionPlan Schema Expr × List (ShuffleWriterExec Schema Expr)),
          ExceptT.Triple
            (fun planner => Planned first planner.nextStageId (done.map Prod.fst) (done.map Prod.snd).flatten)
            (planQueryStagesInternal jobId child)
            fun result planner =>
              Planned first planner.nextStageId ((done ++ [result]).map Prod.fst) ((done ++ [result]).map Prod.snd).flatten := by
        intro child mem done planner result after before ran
        have childUnplanned : ∀ node : ExecutionPlan Schema Expr, node.Occurs child →
            node.isUnresolvedShuffle = false ∧ node.isShuffleWriter = false :=
          fun node occurs => unplanned node (.child occurs mem)
        have planned :=
          planQueryStagesInternal_planned jobId child planner.nextStageId childUnplanned planner result after rfl ran
        simp only [List.map_append, List.map_cons, List.map_nil, List.flatten_append, List.flatten_cons,
          List.flatten_nil, List.append_nil]
        exact before.append planned
      refine ExceptT.Triple.bind ((ExceptT.Triple.mapM plan.children [] each).mono
        (fun planner start => by rw [start]; exact Planned.nil first) fun _ _ done => done) fun planned => ?_
      intro planner result after ⟨counted, before⟩ ran
      rw [List.nil_append] at before
      have sameLength : (planned.map Prod.fst).length = plan.children.length := by
        rw [List.length_map, counted]
      have root := unplanned plan (.refl plan)
      exact planNode_planned jobId root.1 root.2 sameLength _ first planner result after before ran
termination_by plan => sizeOf plan
decreasing_by exact ExecutionPlan.sizeOf_lt_of_mem_children mem

/-- What `plan_query_stages` makes of a plan with no shuffle operator of
Ballista's: stages numbered from one in list order, each written unpartitioned
or hash partitioned and the last unpartitioned; every unresolved shuffle in a
stage reads an earlier stage of the list, with its schema and partition count;
every stage but the last is read by exactly one unresolved shuffle and the last
by none; a stage's plan keeps no `RepartitionExec` other than a hash one, and no
`ShuffleWriterExec` below its root. -/
structure StagesPlanned (stages : List (ShuffleWriterExec Schema Expr)) : Prop where
  numbered : stages.map ShuffleWriterExec.stageId = List.range' 1 stages.length
  partitioned : ∀ stage ∈ stages, ∀ partitioning ∈ stage.shuffleOutputPartitioning, partitioning.isHash
  lastUnpartitioned : ∀ last ∈ stages.getLast?, last.shuffleOutputPartitioning = none
  readEarlier : ∀ stage ∈ stages, ∀ shuffle ∈ findUnresolvedShuffles stage.plan,
    shuffle.stageId < stage.stageId ∧
      ∃ input ∈ stages, input.stageId = shuffle.stageId ∧ shuffle.schema = input.toPlan.schema ∧
        shuffle.outputPartitionCount = input.toPlan.outputPartitioning.partitionCount
  readOnce : ((stages.flatMap fun stage => findUnresolvedShuffles stage.plan).map
    UnresolvedShuffleExec.stageId).Perm (List.range' 1 (stages.length - 1))
  kept : ∀ stage ∈ stages, ∀ node : ExecutionPlan Schema Expr, node.Occurs stage.plan →
    node.isNonHashRepartition = false ∧ node.isShuffleWriter = false

theorem planQueryStages_planned (jobId : String) {plan : ExecutionPlan Schema Expr}
    (unplanned : ∀ node : ExecutionPlan Schema Expr, node.Occurs plan →
      node.isUnresolvedShuffle = false ∧ node.isShuffleWriter = false)
    {stages : List (ShuffleWriterExec Schema Expr)} {planner : DistributedPlanner}
    (ran : (planQueryStages jobId plan).exec DistributedPlanner.new = (.ok stages, planner)) :
    StagesPlanned stages := by
  obtain ⟨⟨newPlan, cut⟩, middle, internalRan, rest⟩ := ExceptT.exec_bind_eq_ok ran
  have planned : Planned 0 middle.nextStageId [newPlan] cut :=
    planQueryStagesInternal_planned jobId plan 0 unplanned _ _ _ rfl internalRan
  obtain ⟨stageId, after, counted, written⟩ := ExceptT.exec_bind_eq_ok rest
  simp only [nextStageId, ExceptT.exec_modifyGet, Prod.mk.injEq, Except.ok.injEq] at counted
  simp only [ExceptT.exec_pure, Prod.mk.injEq, Except.ok.injEq] at written
  obtain ⟨rfl, -⟩ := counted
  obtain ⟨rfl, -⟩ := written
  -- what remains of the plan is the stage after the last one cut
  have cutLength : cut.length = middle.nextStageId := by
    simpa using congrArg List.length planned.numbered
  have readAll : ((cut ++ [createShuffleWriter jobId (middle.nextStageId + 1) newPlan none]).flatMap
      fun stage => findUnresolvedShuffles stage.plan).Perm (unresolvedIn [newPlan] cut) := by
    rw [List.flatMap_append, List.flatMap_singleton, unresolvedIn, List.singleton_append, List.flatMap_cons,
      List.flatMap_map]
    exact List.perm_append_comm
  have readCut : ∀ shuffle ∈ findUnresolvedShuffles newPlan, shuffle ∈ unresolvedIn [newPlan] cut :=
    fun shuffle mem => List.mem_flatMap.mpr ⟨newPlan, List.mem_append_left _ (List.mem_singleton_self _), mem⟩
  constructor
  case numbered =>
    rw [List.map_append, planned.numbered, List.length_append, cutLength, List.length_singleton,
      List.range'_concat]
    simp [createShuffleWriter, Nat.add_comm]
  case partitioned =>
    intro stage mem
    rcases List.mem_append.mp mem with old | new
    · exact planned.partitioned stage old
    · rw [List.mem_singleton.mp new]
      intro _ absent
      cases absent
  case lastUnpartitioned =>
    simp [createShuffleWriter]
  case readEarlier =>
    intro stage mem shuffle read
    have shaped : ∀ shuffle ∈ unresolvedIn [newPlan] cut,
        ∃ input ∈ cut ++ [createShuffleWriter jobId (middle.nextStageId + 1) newPlan none],
          input.stageId = shuffle.stageId ∧ shuffle.schema = input.toPlan.schema ∧
            shuffle.outputPartitionCount = input.toPlan.outputPartitioning.partitionCount := by
      intro shuffle left
      obtain ⟨input, found, shape⟩ := planned.readShape shuffle left
      exact ⟨input, List.mem_append_left _ found, shape⟩
    rcases List.mem_append.mp mem with old | new
    · refine ⟨planned.readEarlier stage old shuffle read, shaped shuffle ?_⟩
      exact List.mem_flatMap.mpr ⟨stage.plan, List.mem_append_right _ (List.mem_map_of_mem old), read⟩
    · rw [List.mem_singleton.mp new] at read ⊢
      have named := planned.readOnce.subset (List.mem_map_of_mem (readCut shuffle read))
      rw [List.mem_range'_1] at named
      exact ⟨by change shuffle.stageId < middle.nextStageId + 1; omega, shaped shuffle (readCut shuffle read)⟩
  case readOnce =>
    rw [List.length_append, cutLength, List.length_singleton, Nat.add_sub_cancel]
    exact (readAll.map UnresolvedShuffleExec.stageId).trans planned.readOnce
  case kept =>
    intro stage mem node occurs
    rcases List.mem_append.mp mem with old | new
    · exact planned.kept stage.plan (List.mem_append_right _ (List.mem_map_of_mem old)) node occurs
    · rw [List.mem_singleton.mp new] at occurs
      exact planned.kept newPlan (List.mem_append_left _ (List.mem_singleton_self _)) node occurs

/-- A `CoalescePartitionsExec` over a leaf read in two partitions. -/
def coalescedPlan : ExecutionPlan String Nat :=
  .coalescePartitions (.operator "MemoryExec" "schema" (.unknownPartitioning 2) [])

/-- The stages `plan_query_stages` cuts out of `coalescedPlan`: the leaf, then
the `CoalescePartitionsExec` over the shuffle reading it. -/
def coalescedStages : List (ShuffleWriterExec String Nat) :=
  [createShuffleWriter "job" 1 (.operator "MemoryExec" "schema" (.unknownPartitioning 2) []) none,
    createShuffleWriter "job" 2 (.coalescePartitions (.unresolvedShuffle 1 "schema" 2)) none]

end Ballista
