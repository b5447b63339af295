import Mathlib.Data.List.Forall2
import Ballista.Lib.RoundTrip
import Ballista.Core.Plan
import Ballista.Scheduler.Stage

/-! # Resolving and rolling back the shuffles of a stage

A stage's plan reads the output of its input stages through
`UnresolvedShuffleExec`s until they complete. `remove_unresolved_shuffles`
(`scheduler/src/planner.rs`) then puts a `ShuffleReaderExec` in place of each,
with as many partitions as the unresolved shuffle announced and, for each, the
locations recorded for it; `rollback_resolved_shuffles` puts the unresolved
shuffles back when an input stage has to run again. Both rebuild every other
operator over its rebuilt children.

On a plan whose root is not an `UnresolvedShuffleExec`, with no
`ShuffleReaderExec` in it and locations for every stage it reads, rolling back
what the removal gives returns the plan, and the removal leaves no unresolved
shuffle and a reader of the recorded locations in place of each
(`rollbackResolvedShuffles_removeUnresolvedShuffles`).
-/

namespace Ballista

variable {Schema Expr : Type}

/-- The `ShuffleReaderExec` that `remove_unresolved_shuffles` puts in place of
an `UnresolvedShuffleExec` of `stageId`: one partition for each of its output
partitions, with the locations recorded for it, or none. -/
def shuffleReaderFor (partitionLocations : InputLocations) (stageId : Nat) (schema : Schema)
    (outputPartitionCount : Nat) : Except BallistaError (ExecutionPlan Schema Expr) :=
  match partitionLocations.get? stageId with
  | none => .error (.general "Missing partition location. Could not remove unresolved shuffles")
  | some p =>
    .ok (.shuffleReader stageId ((List.range outputPartitionCount).map fun i => (p.get? i).getD [])
      schema)

/-- `remove_unresolved_shuffles`. -/
def removeUnresolvedShuffles (stage : ExecutionPlan Schema Expr) (partitionLocations : InputLocations) :
    Except BallistaError (ExecutionPlan Schema Expr) := do
  let newChildren ← stage.children.attach.mapM fun ⟨child, _⟩ =>
    match child with
    | .unresolvedShuffle stageId schema outputPartitionCount =>
      shuffleReaderFor partitionLocations stageId schema outputPartitionCount
    | child => removeUnresolvedShuffles child partitionLocations
  (stage.withNewChildrenIfNecessary newChildren).mapError .dataFusionError
termination_by sizeOf stage
decreasing_by exact ExecutionPlan.sizeOf_lt_of_mem_children ‹_›

/-- `rollback_resolved_shuffles`. -/
def rollbackResolvedShuffles (stage : ExecutionPlan Schema Expr) :
    Except BallistaError (ExecutionPlan Schema Expr) := do
  let newChildren ← stage.children.attach.mapM fun ⟨child, _⟩ =>
    match child with
    | shuffleReader@(.shuffleReader stageId _ _) =>
      pure (.unresolvedShuffle stageId shuffleReader.schema
        shuffleReader.outputPartitioning.partitionCount)
    | child => rollbackResolvedShuffles child
  (stage.withNewChildrenIfNecessary newChildren).mapError .dataFusionError
termination_by sizeOf stage
decreasing_by exact ExecutionPlan.sizeOf_lt_of_mem_children ‹_›

/-- What `remove_unresolved_shuffles` puts in place of a child. -/
def removedChild (partitionLocations : InputLocations) :
    ExecutionPlan Schema Expr → Except BallistaError (ExecutionPlan Schema Expr)
  | .unresolvedShuffle stageId schema outputPartitionCount =>
    shuffleReaderFor partitionLocations stageId schema outputPartitionCount
  | child => removeUnresolvedShuffles child partitionLocations

/-- What `rollback_resolved_shuffles` puts in place of a child. -/
def rolledBackChild : ExecutionPlan Schema Expr → Except BallistaError (ExecutionPlan Schema Expr)
  | shuffleReader@(.shuffleReader stageId _ _) =>
    .ok (.unresolvedShuffle stageId shuffleReader.schema shuffleReader.outputPartitioning.partitionCount)
  | child => rollbackResolvedShuffles child

theorem removeUnresolvedShuffles_eq (stage : ExecutionPlan Schema Expr)
    (partitionLocations : InputLocations) :
    removeUnresolvedShuffles stage partitionLocations =
      stage.children.mapM (removedChild partitionLocations) >>= fun newChildren =>
        (stage.withNewChildrenIfNecessary newChildren).mapError .dataFusionError := by
  rw [removeUnresolvedShuffles]
  congr 1
  calc _ = stage.children.attach.unattach.mapM (removedChild partitionLocations) :=
        List.mapM_subtype fun child _ => by cases child <;> rfl
    _ = _ := by rw [List.unattach_attach]

theorem rollbackResolvedShuffles_eq (stage : ExecutionPlan Schema Expr) :
    rollbackResolvedShuffles stage =
      stage.children.mapM rolledBackChild >>= fun newChildren =>
        (stage.withNewChildrenIfNecessary newChildren).mapError .dataFusionError := by
  rw [rollbackResolvedShuffles]
  congr 1
  calc _ = stage.children.attach.unattach.mapM rolledBackChild :=
        List.mapM_subtype fun child _ => by cases child <;> rfl
    _ = _ := by rw [List.unattach_attach]

theorem removedChild_of_resolved {child : ExecutionPlan Schema Expr}
    (resolved : child.isUnresolvedShuffle = false) (partitionLocations : InputLocations) :
    removedChild partitionLocations child = removeUnresolvedShuffles child partitionLocations := by
  cases child <;> first | rfl | cases resolved

theorem rolledBackChild_of_not_reader {child : ExecutionPlan Schema Expr}
    (notReader : child.isShuffleReader = false) :
    rolledBackChild child = rollbackResolvedShuffles child := by
  cases child <;> first | rfl | cases notReader

variable (partitionLocations : InputLocations)

/-- What the removal leaves of `plan`: no unresolved shuffle, and readers only
in place of unresolved shuffles of `plan`, each reading, for every output
partition of the shuffle, the locations recorded for it, or none. -/
def ResolvedFrom (plan resolved : ExecutionPlan Schema Expr) : Prop :=
  (∀ node : ExecutionPlan Schema Expr, node.Occurs resolved → node.isUnresolvedShuffle = false) ∧
  ∀ stageId partition schema, (ExecutionPlan.shuffleReader stageId partition schema).Occurs resolved →
    ∃ outputPartitionCount locations,
      (ExecutionPlan.unresolvedShuffle stageId schema outputPartitionCount).Occurs plan ∧
      partitionLocations.get? stageId = some locations ∧
      partition = (List.range outputPartitionCount).map fun i => (locations.get? i).getD []

/-- The reader for a located unresolved shuffle rolls back to the shuffle. -/
theorem shuffleReaderFor_spec {stageId : Nat} {schema : Schema} {outputPartitionCount : Nat}
    (located : (partitionLocations.get? stageId).isSome) :
    ∃ reader : ExecutionPlan Schema Expr,
      shuffleReaderFor partitionLocations stageId schema outputPartitionCount = .ok reader ∧
      rolledBackChild reader = .ok (.unresolvedShuffle stageId schema outputPartitionCount) ∧
      ResolvedFrom partitionLocations (.unresolvedShuffle stageId schema outputPartitionCount) reader := by
  obtain ⟨locations, found⟩ := Option.isSome_iff_exists.mp located
  refine ⟨.shuffleReader stageId ((List.range outputPartitionCount).map fun i =>
    (locations.get? i).getD []) schema, ?_, ?_, ?_, ?_⟩
  · simp [shuffleReaderFor, found]
  · simp [rolledBackChild, ExecutionPlan.schema, ExecutionPlan.outputPartitioning,
      Partitioning.partitionCount]
  · intro node occurs
    rw [ExecutionPlan.eq_of_occurs_leaf rfl occurs]
    rfl
  · intro readStage readPartition readSchema occurs
    cases ExecutionPlan.eq_of_occurs_leaf rfl occurs
    exact ⟨outputPartitionCount, locations, .refl _, found, rfl⟩

/-- Removing the unresolved shuffles of a plan whose root is not one, with no
reader in it and locations for every stage it reads, succeeds, leaves no
unresolved shuffle and is undone by the rollback. -/
theorem removeUnresolvedShuffles_spec : ∀ (plan : ExecutionPlan Schema Expr),
    plan.isUnresolvedShuffle = false →
    (∀ node : ExecutionPlan Schema Expr, node.Occurs plan → node.isShuffleReader = false) →
    (∀ stageId schema outputPartitionCount,
      (ExecutionPlan.unresolvedShuffle stageId schema outputPartitionCount).Occurs plan →
        (partitionLocations.get? stageId).isSome) →
    ∃ resolved, removeUnresolvedShuffles plan partitionLocations = .ok resolved ∧
      rollbackResolvedShuffles resolved = .ok plan ∧ resolved.isShuffleReader = false ∧
      ResolvedFrom partitionLocations plan resolved
  | plan, root, noReaders, located => by
    -- each child is replaced by a reader or by itself with its shuffles removed
    have each : ∀ child ∈ plan.children, ∃ resolved,
        removedChild partitionLocations child = .ok resolved ∧
          (rolledBackChild resolved = .ok child ∧ ResolvedFrom partitionLocations child resolved) := by
      intro child mem
      have childNoReaders : ∀ node : ExecutionPlan Schema Expr, node.Occurs child →
          node.isShuffleReader = false :=
        fun node occurs => noReaders node (.child occurs mem)
      have childLocated : ∀ stageId schema outputPartitionCount,
          (ExecutionPlan.unresolvedShuffle stageId schema outputPartitionCount).Occurs child →
            (partitionLocations.get? stageId).isSome :=
        fun stageId schema outputPartitionCount occurs =>
          located stageId schema outputPartitionCount (.child occurs mem)
      by_cases unresolved : child.isUnresolvedShuffle = true
      · cases child with
        | unresolvedShuffle stageId schema outputPartitionCount =>
          exact shuffleReaderFor_spec partitionLocations (childLocated _ _ _ (.refl _))
        | _ => cases unresolved
      · have resolvedChild : child.isUnresolvedShuffle = false := by simpa using unresolved
        obtain ⟨resolved, removed, rolledBack, notReader, spec⟩ :=
          removeUnresolvedShuffles_spec child resolvedChild childNoReaders childLocated
        refine ⟨resolved, ?_, ?_, spec⟩
        · rw [removedChild_of_resolved resolvedChild]
          exact removed
        · rw [rolledBackChild_of_not_reader notReader]
          exact rolledBack
    obtain ⟨newChildren, removedAll, related⟩ := List.mapM_eq_ok_of_forall each
    obtain ⟨rebuilt, rebuiltOk, rebuiltChildren, rebuiltResolved, rebuiltReader, back⟩ :=
      ExecutionPlan.withNewChildrenIfNecessary_eq_ok root related.length_eq.symm
    have rolledBackAll : newChildren.mapM rolledBackChild = .ok plan.children :=
      List.mapM_eq_ok_of_forall₂ (related.imp fun _ _ both => both.1)
    refine ⟨rebuilt, ?_, ?_, ?_, ?_, ?_⟩
    · rw [removeUnresolvedShuffles_eq, removedAll]
      simp [rebuiltOk]
    · rw [rollbackResolvedShuffles_eq, rebuiltChildren, rolledBackAll]
      simp [back]
    · rw [rebuiltReader]
      exact noReaders plan (.refl _)
    · intro node occurs
      rcases ExecutionPlan.occurs_cases occurs with rfl | ⟨child, mem, below⟩
      · exact rebuiltResolved
      · rw [rebuiltChildren] at mem
        obtain ⟨_, _, _, spec⟩ := related.exists_of_mem_right mem
        exact spec.1 node below
    · intro stageId partition schema occurs
      rcases ExecutionPlan.occurs_cases occurs with same | ⟨child, mem, below⟩
      · have reader := noReaders plan (.refl _)
        rw [← rebuiltReader, ← same] at reader
        cases reader
      · rw [rebuiltChildren] at mem
        obtain ⟨original, originalMem, _, spec⟩ := related.exists_of_mem_right mem
        obtain ⟨outputPartitionCount, locations, occursBefore, found, read⟩ :=
          spec.2 stageId partition schema below
        exact ⟨outputPartitionCount, locations, .child occursBefore originalMem, found, read⟩
termination_by plan => sizeOf plan
decreasing_by exact ExecutionPlan.sizeOf_lt_of_mem_children mem

/-- Rolling back the resolved shuffles of a stage's plan gives back the plan
they were resolved from, when its root is not an unresolved shuffle, no reader
occurs in it and every stage it reads has recorded locations; the resolved plan
has no unresolved shuffle, and each of its readers reads, for each output
partition of the shuffle it replaced, the locations recorded for it, or none. -/
theorem rollbackResolvedShuffles_removeUnresolvedShuffles {plan : ExecutionPlan Schema Expr}
    (root : plan.isUnresolvedShuffle = false)
    (noReaders : ∀ node : ExecutionPlan Schema Expr, node.Occurs plan → node.isShuffleReader = false)
    (located : ∀ stageId schema outputPartitionCount,
      (ExecutionPlan.unresolvedShuffle stageId schema outputPartitionCount).Occurs plan →
        (partitionLocations.get? stageId).isSome) :
    ∃ resolved, removeUnresolvedShuffles plan partitionLocations = .ok resolved ∧
      rollbackResolvedShuffles resolved = .ok plan ∧
      (∀ node : ExecutionPlan Schema Expr, node.Occurs resolved → node.isUnresolvedShuffle = false) ∧
      ∀ stageId partition schema, (ExecutionPlan.shuffleReader stageId partition schema).Occurs resolved →
        ∃ outputPartitionCount locations,
          (ExecutionPlan.unresolvedShuffle stageId schema outputPartitionCount).Occurs plan ∧
          partitionLocations.get? stageId = some locations ∧
          partition = (List.range outputPartitionCount).map fun i => (locations.get? i).getD [] := by
  obtain ⟨resolved, removed, rolledBack, _, noUnresolved, readers⟩ :=
    removeUnresolvedShuffles_spec partitionLocations plan root noReaders located
  exact ⟨resolved, removed, rolledBack, noUnresolved, readers⟩

/-- A projection over the unresolved shuffle of stage 1's two output partitions. -/
def sampleStage : ExecutionPlan String Nat :=
  .operator "ProjectionExec" "schema" (.unknownPartitioning 2) [.unresolvedShuffle 1 "schema" 2]

/-- Stage 1's first output partition was written to one location, its second to none. -/
def sampleLocations : InputLocations :=
  [(1, [(0, [⟨0, ⟨"job", 1, 0⟩, ⟨"executor-1"⟩, ⟨none, none, none⟩, "/shuffle/1/0"⟩])])]

theorem sampleStage_resolves :
    sampleStage.isUnresolvedShuffle = false ∧
    (∀ node : ExecutionPlan String Nat, node.Occurs sampleStage → node.isShuffleReader = false) ∧
    (∀ stageId schema outputPartitionCount,
      (ExecutionPlan.unresolvedShuffle stageId schema outputPartitionCount).Occurs sampleStage →
        (sampleLocations.get? stageId).isSome) ∧
    ∃ resolved, removeUnresolvedShuffles sampleStage sampleLocations = .ok resolved ∧
      rollbackResolvedShuffles resolved = .ok sampleStage ∧
      (∀ node : ExecutionPlan String Nat, node.Occurs resolved → node.isUnresolvedShuffle = false) ∧
      ∀ stageId partition schema, (ExecutionPlan.shuffleReader stageId partition schema).Occurs resolved →
        ∃ outputPartitionCount locations,
          (ExecutionPlan.unresolvedShuffle stageId schema outputPartitionCount).Occurs sampleStage ∧
          sampleLocations.get? stageId = some locations ∧
          partition = (List.range outputPartitionCount).map fun i => (locations.get? i).getD [] := by
  have nodes : ∀ node : ExecutionPlan String Nat, node.Occurs sampleStage →
      node = sampleStage ∨ node = .unresolvedShuffle 1 "schema" 2 := by
    intro node occurs
    rcases ExecutionPlan.occurs_cases occurs with same | ⟨child, mem, below⟩
    · exact .inl same
    · simp only [sampleStage, ExecutionPlan.children, List.mem_singleton] at mem
      subst mem
      exact .inr (ExecutionPlan.eq_of_occurs_leaf rfl below)
  have noReaders : ∀ node : ExecutionPlan String Nat, node.Occurs sampleStage →
      node.isShuffleReader = false := by
    intro node occurs
    rcases nodes node occurs with rfl | rfl <;> rfl
  have located : ∀ stageId schema outputPartitionCount,
      (ExecutionPlan.unresolvedShuffle stageId schema outputPartitionCount).Occurs sampleStage →
        (sampleLocations.get? stageId).isSome := by
    intro stageId schema outputPartitionCount occurs
    rcases nodes _ occurs with same | same
    · cases same
    · cases same
      rfl
  exact ⟨rfl, noReaders, located,
    rollbackResolvedShuffles_removeUnresolvedShuffles sampleLocations rfl noReaders located⟩

end Ballista
