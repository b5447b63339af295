import Ballista.Core.Serde

/-! # Physical plans

The operators of a DataFusion physical plan that Ballista's planner and codec
tell apart: its own `ShuffleWriterExec`, `ShuffleReaderExec` and
`UnresolvedShuffleExec` (`core/src/execution_plans`), DataFusion's
`CoalescePartitionsExec`, `SortPreservingMergeExec`, `RepartitionExec` and
`WindowAggExec`, and any other operator, which is rebuilt over new children
as it is. Schemas and physical expressions are parameters. An operator of
DataFusion's other than these keeps the schema and output partitioning it was
built with.

`with_new_children_if_necessary` checks the number of children and then asks
the operator to rebuild itself; an `UnresolvedShuffleExec` refuses, also when
it has no children to replace.
-/

namespace Ballista

/-- `Partitioning`. -/
inductive Partitioning (Expr : Type) where
  | roundRobinBatch (partitionCount : Nat)
  | hash (exprs : List Expr) (partitionCount : Nat)
  | unknownPartitioning (partitionCount : Nat)
  deriving DecidableEq, Repr

/-- `Partitioning::partition_count`. -/
def Partitioning.partitionCount {Expr : Type} : Partitioning Expr → Nat
  | .roundRobinBatch partitionCount => partitionCount
  | .hash _ partitionCount => partitionCount
  | .unknownPartitioning partitionCount => partitionCount

/-- An operator tree of a physical plan. -/
inductive ExecutionPlan (Schema Expr : Type) where
  /-- `ShuffleWriterExec`: the root of a query stage, writing the output of
  `plan` into shuffle files, repartitioned when `shuffleOutputPartitioning` is
  set. -/
  | shuffleWriter (jobId : String) (stageId : Nat) (plan : ExecutionPlan Schema Expr)
      (workDir : String) (shuffleOutputPartitioning : Option (Partitioning Expr))
  /-- `ShuffleReaderExec`: reads, for each of its partitions, the shuffle files
  of an earlier stage at these locations. -/
  | shuffleReader (stageId : Nat) (partition : List (List PartitionLocation)) (schema : Schema)
  /-- `UnresolvedShuffleExec`: the place of a `ShuffleReaderExec` whose input
  stage has not completed. -/
  | unresolvedShuffle (stageId : Nat) (schema : Schema) (outputPartitionCount : Nat)
  | coalescePartitions (input : ExecutionPlan Schema Expr)
  | sortPreservingMerge (input : ExecutionPlan Schema Expr)
  | repartition (input : ExecutionPlan Schema Expr) (partitioning : Partitioning Expr)
  | windowAgg (input : ExecutionPlan Schema Expr) (schema : Schema)
  /-- Any other operator: its name, schema, output partitioning and children. -/
  | operator (name : String) (schema : Schema) (partitioning : Partitioning Expr)
      (children : List (ExecutionPlan Schema Expr))
  deriving Repr

namespace ExecutionPlan

variable {Schema Expr : Type}

/-- `ExecutionPlan::children`. -/
def children : ExecutionPlan Schema Expr → List (ExecutionPlan Schema Expr)
  | .shuffleWriter _ _ plan _ _ => [plan]
  | .shuffleReader .. => []
  | .unresolvedShuffle .. => []
  | .coalescePartitions input => [input]
  | .sortPreservingMerge input => [input]
  | .repartition input _ => [input]
  | .windowAgg input _ => [input]
  | .operator _ _ _ children => children

/-- `ExecutionPlan::schema`. -/
def schema : ExecutionPlan Schema Expr → Schema
  | .shuffleWriter _ _ plan _ _ => plan.schema
  | .shuffleReader _ _ schema => schema
  | .unresolvedShuffle _ schema _ => schema
  | .coalescePartitions input => input.schema
  | .sortPreservingMerge input => input.schema
  | .repartition input _ => input.schema
  | .windowAgg _ schema => schema
  | .operator _ schema _ _ => schema

/-- `properties().output_partitioning()`. A shuffle writer reports its shuffle
partitioning, or its input's when it has none; the readers report as many
partitions as they read or will read. -/
def outputPartitioning : ExecutionPlan Schema Expr → Partitioning Expr
  | .shuffleWriter _ _ plan _ shuffleOutputPartitioning =>
    shuffleOutputPartitioning.getD plan.outputPartitioning
  | .shuffleReader _ partition _ => .unknownPartitioning partition.length
  | .unresolvedShuffle _ _ outputPartitionCount => .unknownPartitioning outputPartitionCount
  | .coalescePartitions _ => .unknownPartitioning 1
  | .sortPreservingMerge _ => .unknownPartitioning 1
  | .repartition _ partitioning => partitioning
  | .windowAgg input _ => input.outputPartitioning
  | .operator _ _ partitioning _ => partitioning

/-- `ExecutionPlan::with_new_children`, given as many children as the
operator has. -/
def withNewChildren : ExecutionPlan Schema Expr → List (ExecutionPlan Schema Expr) →
    Except DataFusionError (ExecutionPlan Schema Expr)
  | .shuffleWriter jobId stageId _ workDir partitioning, [child] =>
    .ok (.shuffleWriter jobId stageId child workDir partitioning)
  | .shuffleReader stageId partition schema, _ => .ok (.shuffleReader stageId partition schema)
  | .unresolvedShuffle .., _ =>
    .error (.other "Ballista UnresolvedShuffleExec does not support with_new_children()")
  | .coalescePartitions _, [child] => .ok (.coalescePartitions child)
  | .sortPreservingMerge _, [child] => .ok (.sortPreservingMerge child)
  | .repartition _ partitioning, [child] => .ok (.repartition child partitioning)
  | .windowAgg _ schema, [child] => .ok (.windowAgg child schema)
  | .operator name schema partitioning _, children => .ok (.operator name schema partitioning children)
  | _, _ => .error (.other "Wrong number of children")

/-- `with_new_children_if_necessary`. -/
def withNewChildrenIfNecessary (plan : ExecutionPlan Schema Expr)
    (children : List (ExecutionPlan Schema Expr)) : Except DataFusionError (ExecutionPlan Schema Expr) :=
  if children.length = plan.children.length then plan.withNewChildren children
  else .error (.other "Wrong number of children")

/-- Whether the operator is an `UnresolvedShuffleExec`. -/
def isUnresolvedShuffle : ExecutionPlan Schema Expr → Bool
  | .unresolvedShuffle .. => true
  | _ => false

/-- Whether the operator is a `ShuffleWriterExec`. -/
def isShuffleWriter : ExecutionPlan Schema Expr → Bool
  | .shuffleWriter .. => true
  | _ => false

/-- Whether the operator is a `ShuffleReaderExec`. -/
def isShuffleReader : ExecutionPlan Schema Expr → Bool
  | .shuffleReader .. => true
  | _ => false

/-- `node` occurs in `plan`: it is the plan, or it occurs in one of the plan's
children. -/
inductive Occurs : ExecutionPlan Schema Expr → ExecutionPlan Schema Expr → Prop
  | refl (plan : ExecutionPlan Schema Expr) : Occurs plan plan
  | child {node child plan : ExecutionPlan Schema Expr} :
      Occurs node child → child ∈ plan.children → Occurs node plan

/-- A child is smaller than its operator: the measure of every recursion over
the children of a plan. -/
theorem sizeOf_lt_of_mem_children {plan child : ExecutionPlan Schema Expr}
    (mem : child ∈ plan.children) : sizeOf child < sizeOf plan := by
  cases plan with
  | operator name schema partitioning inputs =>
    simp only [children] at mem
    have inList := List.sizeOf_lt_of_mem mem
    simp only [operator.sizeOf_spec]
    omega
  | _ => simp_all [children] <;> omega

/-- A node of a plan is the plan or occurs in one of its children. -/
theorem occurs_cases {node plan : ExecutionPlan Schema Expr} (occurs : node.Occurs plan) :
    node = plan ∨ ∃ child ∈ plan.children, node.Occurs child := by
  cases occurs with
  | refl => exact .inl rfl
  | child below mem => exact .inr ⟨_, mem, below⟩

/-- Only a leaf occurs in a leaf. -/
theorem eq_of_occurs_leaf {node plan : ExecutionPlan Schema Expr} (leaf : plan.children = [])
    (occurs : node.Occurs plan) : node = plan := by
  rcases occurs_cases occurs with same | ⟨child, mem, _⟩
  · exact same
  · rw [leaf] at mem
    cases mem

/-- Rebuilding an operator other than an `UnresolvedShuffleExec` over as many
children as it has succeeds and keeps the operator; rebuilding the result over
the old children gives the operator back. -/
theorem withNewChildrenIfNecessary_eq_ok {plan : ExecutionPlan Schema Expr}
    (resolved : plan.isUnresolvedShuffle = false) {children : List (ExecutionPlan Schema Expr)}
    (sameLength : children.length = plan.children.length) :
    ∃ rebuilt, plan.withNewChildrenIfNecessary children = .ok rebuilt ∧ rebuilt.children = children ∧
      rebuilt.isUnresolvedShuffle = false ∧ rebuilt.isShuffleReader = plan.isShuffleReader ∧
      rebuilt.withNewChildrenIfNecessary plan.children = .ok plan := by
  cases plan with
  | shuffleWriter jobId stageId input workDir partitioning =>
    obtain ⟨child, rfl⟩ := List.length_eq_one_iff.mp sameLength
    exact ⟨.shuffleWriter jobId stageId child workDir partitioning, rfl, rfl, rfl, rfl, rfl⟩
  | shuffleReader stageId partition schema =>
    rw [List.length_eq_zero_iff.mp sameLength]
    exact ⟨.shuffleReader stageId partition schema, rfl, rfl, rfl, rfl, rfl⟩
  | unresolvedShuffle => cases resolved
  | coalescePartitions input =>
    obtain ⟨child, rfl⟩ := List.length_eq_one_iff.mp sameLength
    exact ⟨.coalescePartitions child, rfl, rfl, rfl, rfl, rfl⟩
  | sortPreservingMerge input =>
    obtain ⟨child, rfl⟩ := List.length_eq_one_iff.mp sameLength
    exact ⟨.sortPreservingMerge child, rfl, rfl, rfl, rfl, rfl⟩
  | repartition input partitioning =>
    obtain ⟨child, rfl⟩ := List.length_eq_one_iff.mp sameLength
    exact ⟨.repartition child partitioning, rfl, rfl, rfl, rfl, rfl⟩
  | windowAgg input schema =>
    obtain ⟨child, rfl⟩ := List.length_eq_one_iff.mp sameLength
    exact ⟨.windowAgg child schema, rfl, rfl, rfl, rfl, rfl⟩
  | operator name schema partitioning old =>
    refine ⟨.operator name schema partitioning children, ?_, rfl, rfl, rfl, ?_⟩
    · simp [withNewChildrenIfNecessary, withNewChildren, sameLength, ExecutionPlan.children]
    · simp [withNewChildrenIfNecessary, withNewChildren, sameLength, ExecutionPlan.children]

end ExecutionPlan

/-- `ShuffleWriterExec`, as the planner hands out the stages it cut. -/
structure ShuffleWriterExec (Schema Expr : Type) where
  jobId : String
  stageId : Nat
  plan : ExecutionPlan Schema Expr
  workDir : String
  shuffleOutputPartitioning : Option (Partitioning Expr)
  deriving Repr

/-- The writer as the root of its stage's plan. -/
def ShuffleWriterExec.toPlan {Schema Expr : Type} (writer : ShuffleWriterExec Schema Expr) :
    ExecutionPlan Schema Expr :=
  .shuffleWriter writer.jobId writer.stageId writer.plan writer.workDir writer.shuffleOutputPartitioning

/-- `UnresolvedShuffleExec`, as `find_unresolved_shuffles` returns them. -/
structure UnresolvedShuffleExec (Schema : Type) where
  stageId : Nat
  schema : Schema
  outputPartitionCount : Nat
  deriving DecidableEq, Repr

end Ballista
