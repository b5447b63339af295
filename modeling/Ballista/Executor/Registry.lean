import Mathlib.Data.List.Nodup
import Ballista.Executor.Tasks
import Ballista.Lib.Interleaving

/-! # The executor's abort handles under concurrent calls

`execute_query_stage` inserts the abort handle of a task's future, awaits the
future, and removes the handle only when the stage came back with its shuffle
files: the `??` returns before the removal both when the future was aborted
and when the stage failed. `cancel_task` removes a handle and aborts its
future. `active_task_count` counts the handles, and `TasksDrainedFuture` is
ready once none is left.

Each call is a process: an `execute_query_stage` call starts, then returns
with what its stage computed, or `Cancelled` if its future was aborted; a
`cancel_task` call is one step. Over calls of distinct tasks, in every
interleaving the handles are those of the calls awaiting their future or
returned with an error, whose future was not aborted (`registry_handles`): a
failed stage leaves its handle behind, so an executor whose every task has
returned can keep a handle for ever and never drain
(`failedStage_leaksHandle_run`).
-/

namespace Ballista

namespace Executor

/-- `TasksDrainedFuture::poll`: ready once no abort handle is left. -/
def tasksDrained (executor : Executor) : Bool := executor.abortHandles.length = 0

/-- Where an `execute_query_stage` call is. -/
inductive QueryStagePhase where
  | pending
  /-- The handle is inserted and the call awaits its future. -/
  | awaiting
  | returned (result : Except BallistaError (List ShuffleWritePartition))

/-- A call on the executor: `execute_query_stage` of a task, with what its
stage comes back with, or `cancel_task`, with what it answered once made. -/
inductive ExecutorCall where
  | executeQueryStage (key : TaskKey) (stageResult : Except BallistaError (List ShuffleWritePartition))
      (phase : QueryStagePhase)
  | cancelTask (taskId : Nat) (jobId : String) (stageId partitionId : Nat) (found : Option Bool)

/-- One step of a call: the start and the return of `execute_query_stage`, and
the whole of `cancel_task`. -/
def callStep (executor : Executor) : ExecutorCall → Option (Executor × ExecutorCall)
  | .executeQueryStage key stageResult .pending =>
    some (executor.startQueryStage key, .executeQueryStage key stageResult .awaiting)
  | .executeQueryStage key stageResult .awaiting =>
    let (result, executor) := executor.finishQueryStage key stageResult
    some (executor, .executeQueryStage key stageResult (.returned result))
  | .executeQueryStage _ _ (.returned _) => none
  | .cancelTask taskId jobId stageId partitionId none =>
    let (found, executor) := executor.cancelTask taskId jobId stageId partitionId
    some (executor, .cancelTask taskId jobId stageId partitionId (some found))
  | .cancelTask _ _ _ _ (some _) => none

/-- The calls on an executor with no task, none of them made yet. -/
def registryStart (calls : List ExecutorCall) : Interleaving.Config Executor ExecutorCall :=
  { shared := Executor.new, procs := calls }

namespace ExecutorCall

/-- The task of an `execute_query_stage` call. -/
def queryStageKey : ExecutorCall → Option TaskKey
  | .executeQueryStage key _ _ => some key
  | .cancelTask .. => none

/-- The call has not begun. -/
def Fresh : ExecutorCall → Prop
  | .executeQueryStage _ _ phase => phase = .pending
  | .cancelTask _ _ _ _ found => found = none

/-- An `execute_query_stage` call of a task that has started and not returned. -/
def Awaits (call : ExecutorCall) (key : TaskKey) : Prop :=
  ∃ stageResult, call = .executeQueryStage key stageResult .awaiting

/-- The call leaves the handle of a task in place: it awaits its future, or it
returned an error, and its future was not aborted. -/
def HoldsHandle (call : ExecutorCall) (executor : Executor) (key : TaskKey) : Prop :=
  key ∉ executor.aborted ∧ ∃ stageResult,
    call = .executeQueryStage key stageResult .awaiting ∨
      ∃ e, call = .executeQueryStage key stageResult (.returned (.error e))

/-- A returned call came back with what its stage computed, unless its future
was aborted. -/
def ReturnedAsComputed (call : ExecutorCall) (executor : Executor) : Prop :=
  ∀ key stageResult result, call = .executeQueryStage key stageResult (.returned result) →
    result = stageResult ∨ key ∈ executor.aborted

end ExecutorCall

/-- No two `execute_query_stage` calls are of the same task. -/
def DistinctTasks (calls : List ExecutorCall) : Prop :=
  ∀ (first second : Nat) (call other : ExecutorCall) (key : TaskKey),
    calls[first]? = some call → calls[second]? = some other →
      call.queryStageKey = some key → other.queryStageKey = some key → first = second

/-- What every interleaving of calls of distinct tasks keeps: the handles and
the aborted futures are sets, a task's handle is held exactly by its call, and
a call returned what its stage computed unless it was aborted. -/
structure RegistryInv (config : Interleaving.Config Executor ExecutorCall) : Prop where
  distinct : DistinctTasks config.procs
  handlesNodup : config.shared.abortHandles.Nodup
  abortedNodup : config.shared.aborted.Nodup
  handles : ∀ key, key ∈ config.shared.abortHandles ↔
    ∃ (position : Nat) (call : ExecutorCall),
      config.procs[position]? = some call ∧ call.HoldsHandle config.shared key
  returned : ∀ (position : Nat) (call : ExecutorCall), config.procs[position]? = some call →
    call.ReturnedAsComputed config.shared

namespace ExecutorCall

theorem queryStageKey_of_holdsHandle {call : ExecutorCall} {executor : Executor} {key : TaskKey}
    (holds : call.HoldsHandle executor key) : call.queryStageKey = some key := by
  obtain ⟨-, stageResult, rfl | ⟨e, rfl⟩⟩ := holds <;> rfl

/-- Whether a call holds a task's handle reads only whether that future was aborted. -/
theorem holdsHandle_congr {executor next : Executor} {key : TaskKey}
    (same : key ∈ next.aborted ↔ key ∈ executor.aborted) (call : ExecutorCall) :
    call.HoldsHandle next key ↔ call.HoldsHandle executor key := by
  unfold HoldsHandle
  rw [same]

theorem ReturnedAsComputed.mono {call : ExecutorCall} {executor next : Executor}
    (computed : call.ReturnedAsComputed executor)
    (kept : ∀ key, call.queryStageKey = some key → key ∈ executor.aborted → key ∈ next.aborted) :
    call.ReturnedAsComputed next := by
  intro key stageResult result returned
  rcases computed key stageResult result returned with same | aborted
  · exact .inl same
  · exact .inr (kept key (by rw [returned]; rfl) aborted)

end ExecutorCall

theorem DistinctTasks.set {calls : List ExecutorCall} (distinct : DistinctTasks calls) {index : Nat}
    {call moved : ExecutorCall} (found : calls[index]? = some call)
    (sameTask : moved.queryStageKey = call.queryStageKey) : DistinctTasks (calls.set index moved) := by
  -- a call of the task after the step was one before it, at the same index
  have before : ∀ (position : Nat) (other : ExecutorCall) (key : TaskKey),
      (calls.set index moved)[position]? = some other → other.queryStageKey = some key →
        ∃ earlier : ExecutorCall, calls[position]? = some earlier ∧ earlier.queryStageKey = some key := by
    intro position other key stands keyed
    rcases Interleaving.getElem?_set_cases stands with ⟨rfl, rfl⟩ | ⟨-, unmoved⟩
    · exact ⟨call, found, sameTask ▸ keyed⟩
    · exact ⟨other, unmoved, keyed⟩
  intro first second one two key oneAt twoAt oneKeyed twoKeyed
  obtain ⟨oneBefore, oneFound, oneBeforeKeyed⟩ := before first one key oneAt oneKeyed
  obtain ⟨twoBefore, twoFound, twoBeforeKeyed⟩ := before second two key twoAt twoKeyed
  exact distinct first second oneBefore twoBefore key oneFound twoFound oneBeforeKeyed twoBeforeKeyed

/-- No call at another index holds the handle of a call's own task. -/
theorem DistinctTasks.not_holdsHandle {calls : List ExecutorCall} (distinct : DistinctTasks calls)
    {index : Nat} {call : ExecutorCall} {key : TaskKey} (found : calls[index]? = some call)
    (keyed : call.queryStageKey = some key) (executor : Executor) :
    ¬∃ (position : Nat) (other : ExecutorCall),
      position ≠ index ∧ calls[position]? = some other ∧ other.HoldsHandle executor key := by
  rintro ⟨position, other, apart, stands, holds⟩
  exact apart (distinct position index other call key stands found
    (ExecutorCall.queryStageKey_of_holdsHandle holds) keyed)

/-- A step of the call at an index that keeps its task and changes the handles
and the aborted futures only at one task keeps the invariant, when the handle
of that task is held as the invariant says. -/
theorem RegistryInv.of_step {config : Interleaving.Config Executor ExecutorCall}
    (inv : RegistryInv config) {index : Nat} {proc moved : ExecutorCall} {next : Executor}
    (found : config.procs[index]? = some proc) (touched : TaskKey)
    (sameTask : moved.queryStageKey = proc.queryStageKey)
    (handlesNodup : next.abortHandles.Nodup) (abortedNodup : next.aborted.Nodup)
    (handlesElse : ∀ key, key ≠ touched →
      (key ∈ next.abortHandles ↔ key ∈ config.shared.abortHandles))
    (abortedElse : ∀ key, key ≠ touched → (key ∈ next.aborted ↔ key ∈ config.shared.aborted))
    (movedElse : ∀ key, key ≠ touched →
      (moved.HoldsHandle next key ↔ proc.HoldsHandle config.shared key))
    (handlesTouched : touched ∈ next.abortHandles ↔ moved.HoldsHandle next touched ∨
      ∃ (position : Nat) (other : ExecutorCall),
        position ≠ index ∧ config.procs[position]? = some other ∧ other.HoldsHandle next touched)
    (returnedMoved : moved.ReturnedAsComputed next)
    (returnedElse : ∀ (position : Nat) (call : ExecutorCall), position ≠ index →
      config.procs[position]? = some call → call.ReturnedAsComputed next) :
    RegistryInv { shared := next, procs := config.procs.set index moved } := by
  refine ⟨inv.distinct.set found sameTask, handlesNodup, abortedNodup, fun key => ?_,
    fun position call stands => ?_⟩
  · rw [Interleaving.exists_getElem?_set_iff moved found]
    by_cases other : key = touched
    · subst other
      exact handlesTouched
    · -- away from the touched task nothing changed, for the moved call or the others
      rw [handlesElse key other, inv.handles, Interleaving.exists_getElem?_iff found,
        movedElse key other]
      simp only [ExecutorCall.holdsHandle_congr (abortedElse key other)]
  · rcases Interleaving.getElem?_set_cases stands with ⟨-, rfl⟩ | ⟨apart, before⟩
    · exact returnedMoved
    · exact returnedElse position call apart before

theorem finishQueryStage_cases (executor : Executor) (key : TaskKey)
    (stageResult : Except BallistaError (List ShuffleWritePartition)) :
    (key ∈ executor.aborted ∧
      executor.finishQueryStage key stageResult = (.error .cancelled, executor)) ∨
    (key ∉ executor.aborted ∧ ∃ e, stageResult = .error e ∧
      executor.finishQueryStage key stageResult = (.error e, executor)) ∨
    (key ∉ executor.aborted ∧ ∃ partitions, stageResult = .ok partitions ∧
      executor.finishQueryStage key stageResult =
        (.ok partitions, { executor with abortHandles := executor.abortHandles.erase key })) := by
  by_cases aborted : key ∈ executor.aborted
  · exact .inl ⟨aborted, by simp [finishQueryStage, aborted]⟩
  · cases stageResult with
    | error e => exact .inr (.inl ⟨aborted, e, rfl, by simp [finishQueryStage, aborted]⟩)
    | ok partitions => exact .inr (.inr ⟨aborted, partitions, rfl, by simp [finishQueryStage, aborted]⟩)

theorem ExecutorCall.not_holdsHandle_cancelTask (taskId : Nat) (jobId : String)
    (stageId partitionId : Nat) (found : Option Bool) (executor : Executor) (key : TaskKey) :
    ¬(ExecutorCall.cancelTask taskId jobId stageId partitionId found).HoldsHandle executor key := by
  rintro ⟨-, _, same | ⟨_, same⟩⟩ <;> cases same

/-- The start of `execute_query_stage` keeps the invariant: the task's handle
is inserted for the call now awaiting, whose future is no longer aborted. -/
theorem RegistryInv.start {config : Interleaving.Config Executor ExecutorCall}
    (inv : RegistryInv config) {index : Nat} {key : TaskKey}
    {stageResult : Except BallistaError (List ShuffleWritePartition)}
    (found : config.procs[index]? = some (.executeQueryStage key stageResult .pending)) :
    RegistryInv
      { shared := config.shared.startQueryStage key,
        procs := config.procs.set index (.executeQueryStage key stageResult .awaiting) } := by
  -- every other call is of another task
  have otherTask : ∀ (position : Nat) (call : ExecutorCall) (other : TaskKey), position ≠ index →
      config.procs[position]? = some call → call.queryStageKey = some other → other ≠ key :=
    fun position call other apart stands keyed same =>
      apart (inv.distinct position index call _ key stands found (same ▸ keyed) rfl)
  refine inv.of_step found key rfl (List.Nodup.insert inv.handlesNodup) (inv.abortedNodup.erase key)
    (fun other apart => ?_) (fun other apart => List.mem_erase_of_ne apart)
    (fun other apart => iff_of_false ?_ ?_) ?_ ?_ ?_
  · simp [startQueryStage, List.mem_insert_iff, apart]
  · exact fun holds => apart (Option.some.inj (ExecutorCall.queryStageKey_of_holdsHandle holds)).symm
  · exact fun holds => apart (Option.some.inj (ExecutorCall.queryStageKey_of_holdsHandle holds)).symm
  · refine iff_of_true (List.mem_insert_self) (.inl ⟨fun aborted => ?_, stageResult, .inl rfl⟩)
    exact ((inv.abortedNodup.mem_erase_iff).mp aborted).1 rfl
  · intro _ _ _ same
    cases same
  · exact fun position call apart stands => (inv.returned position call stands).mono
      fun other keyed aborted => (List.mem_erase_of_ne (otherTask position call other apart stands keyed)).mpr
        aborted

/-- The return of `execute_query_stage` keeps the invariant, by the way it returns:
an aborted future and a failed stage leave the handles as they were, a stage
that succeeded removes its handle. -/
theorem RegistryInv.finish {config : Interleaving.Config Executor ExecutorCall}
    (inv : RegistryInv config) {index : Nat} {key : TaskKey}
    {stageResult : Except BallistaError (List ShuffleWritePartition)}
    (found : config.procs[index]? = some (.executeQueryStage key stageResult .awaiting)) :
    RegistryInv
      { shared := (config.shared.finishQueryStage key stageResult).2,
        procs := config.procs.set index (.executeQueryStage key stageResult
          (.returned (config.shared.finishQueryStage key stageResult).1)) } := by
  have others := inv.distinct.not_holdsHandle found rfl
  have notOther : ∀ (moved : ExecutorCall) (executor : Executor) (other : TaskKey), other ≠ key →
      moved.queryStageKey = some key → ¬moved.HoldsHandle executor other :=
    fun moved executor other apart keyed holds =>
      apart (Option.some.inj (keyed.symm.trans (ExecutorCall.queryStageKey_of_holdsHandle holds))).symm
  rcases finishQueryStage_cases config.shared key stageResult with
    ⟨aborted, ran⟩ | ⟨fresh, e, rfl, ran⟩ | ⟨fresh, partitions, rfl, ran⟩ <;> rw [ran]
  · -- the future was aborted: the handle went with the cancellation
    refine inv.of_step found key rfl inv.handlesNodup inv.abortedNodup (fun _ _ => Iff.rfl)
      (fun _ _ => Iff.rfl) (fun other apart => iff_of_false (notOther _ _ other apart rfl)
        (notOther _ _ other apart rfl)) ?_ ?_ fun position call _ stands => inv.returned position call stands
    · rw [inv.handles, Interleaving.exists_getElem?_iff found]
      simp only [ExecutorCall.HoldsHandle, aborted, not_true_eq_false, false_and, false_or]
    · intro _ _ _ same
      cases same
      exact .inr aborted
  · -- the stage failed: the `??` returned before removing the handle
    refine inv.of_step found key rfl inv.handlesNodup inv.abortedNodup (fun _ _ => Iff.rfl)
      (fun _ _ => Iff.rfl) (fun other apart => iff_of_false (notOther _ _ other apart rfl)
        (notOther _ _ other apart rfl)) ?_ ?_ fun position call _ stands => inv.returned position call stands
    · rw [inv.handles, Interleaving.exists_getElem?_iff found]
      exact or_congr_left (iff_of_true ⟨fresh, .error e, .inl rfl⟩ ⟨fresh, .error e, .inr ⟨e, rfl⟩⟩)
    · intro _ _ _ same
      cases same
      exact .inl rfl
  · -- the stage succeeded: its handle is removed
    refine inv.of_step found key rfl (inv.handlesNodup.erase key) inv.abortedNodup
      (fun other apart => List.mem_erase_of_ne apart) (fun _ _ => Iff.rfl)
      (fun other apart => iff_of_false (notOther _ _ other apart rfl) (notOther _ _ other apart rfl))
      (iff_of_false (fun present => ((inv.handlesNodup.mem_erase_iff).mp present).1 rfl) ?_) ?_
      fun position call _ stands => inv.returned position call stands
    · rintro (⟨-, _, same | ⟨_, same⟩⟩ | held)
      · cases same
      · cases same
      · exact others _ held
    · intro _ _ _ same
      cases same
      exact .inl rfl

/-- `cancel_task` keeps the invariant: a handle it finds is removed and its
future aborted, and nothing changes when it finds none. -/
theorem RegistryInv.cancel {config : Interleaving.Config Executor ExecutorCall}
    (inv : RegistryInv config) {index taskId : Nat} {jobId : String} {stageId partitionId : Nat}
    (found : config.procs[index]? = some (.cancelTask taskId jobId stageId partitionId none)) :
    RegistryInv
      { shared := (config.shared.cancelTask taskId jobId stageId partitionId).2,
        procs := config.procs.set index (.cancelTask taskId jobId stageId partitionId
          (some (config.shared.cancelTask taskId jobId stageId partitionId).1)) } := by
  set key : TaskKey := (taskId, { jobId := jobId, stageId := stageId, partitionId := partitionId })
  have notHeld := ExecutorCall.not_holdsHandle_cancelTask taskId jobId stageId partitionId
  by_cases present : key ∈ config.shared.abortHandles
  · have ran : config.shared.cancelTask taskId jobId stageId partitionId =
        (true, { abortHandles := config.shared.abortHandles.erase key,
                 aborted := config.shared.aborted.insert key }) := by
      simp [cancelTask, key, present]
    rw [ran]
    refine inv.of_step found key rfl (inv.handlesNodup.erase key) (List.Nodup.insert inv.abortedNodup)
      (fun other apart => List.mem_erase_of_ne apart) (fun other apart => ?_)
      (fun other _ => iff_of_false (notHeld _ _ other) (notHeld _ _ other))
      (iff_of_false (fun held => ((inv.handlesNodup.mem_erase_iff).mp held).1 rfl) ?_) ?_ ?_
    · simp [List.mem_insert_iff, apart]
    · -- the aborted future holds no handle any more
      rintro (held | ⟨_, _, _, _, held⟩)
      · exact notHeld _ _ key held
      · exact held.1 (List.mem_insert_self)
    · intro _ _ _ same
      cases same
    · exact fun position call _ stands => (inv.returned position call stands).mono
        fun _ _ aborted => List.mem_insert_of_mem aborted
  · have ran : config.shared.cancelTask taskId jobId stageId partitionId = (false, config.shared) := by
      simp [cancelTask, key, present]
    rw [ran]
    refine inv.of_step found key rfl inv.handlesNodup inv.abortedNodup (fun _ _ => Iff.rfl)
      (fun _ _ => Iff.rfl) (fun other _ => iff_of_false (notHeld _ _ other) (notHeld _ _ other)) ?_ ?_
      fun position call _ stands => inv.returned position call stands
    · rw [inv.handles, Interleaving.exists_getElem?_iff found]
      exact or_congr_left (iff_of_false (notHeld _ _ key) (notHeld _ _ key))
    · intro _ _ _ same
      cases same

/-- Every step of every call keeps the invariant. -/
theorem RegistryInv.step {config next : Interleaving.Config Executor ExecutorCall}
    (inv : RegistryInv config) (step : Interleaving.Step callStep config next) : RegistryInv next := by
  cases step with
  | move index proc shared moved found stepped =>
    cases proc with
    | executeQueryStage key stageResult phase =>
      cases phase with
      | pending =>
        simp only [callStep, Option.some.injEq, Prod.mk.injEq] at stepped
        obtain ⟨rfl, rfl⟩ := stepped
        exact inv.start found
      | awaiting =>
        have finished := inv.finish found
        rcases ran : config.shared.finishQueryStage key stageResult with ⟨result, executor⟩
        rw [ran] at finished
        simp only [callStep, ran, Option.some.injEq, Prod.mk.injEq] at stepped
        obtain ⟨rfl, rfl⟩ := stepped
        exact finished
      | returned => cases stepped
    | cancelTask taskId jobId stageId partitionId answered =>
      cases answered with
      | none =>
        have cancelled := inv.cancel found
        rcases ran : config.shared.cancelTask taskId jobId stageId partitionId with ⟨answer, executor⟩
        rw [ran] at cancelled
        simp only [callStep, ran, Option.some.injEq, Prod.mk.injEq] at stepped
        obtain ⟨rfl, rfl⟩ := stepped
        exact cancelled
      | some => cases stepped

theorem registryInv_start {calls : List ExecutorCall} (fresh : ∀ call ∈ calls, call.Fresh)
    (distinct : DistinctTasks calls) : RegistryInv (registryStart calls) where
  distinct := distinct
  handlesNodup := List.nodup_nil
  abortedNodup := List.nodup_nil
  handles key := by
    refine ⟨fun present => absurd present List.not_mem_nil, ?_⟩
    rintro ⟨position, call, stands, -, stageResult, same | ⟨e, same⟩⟩
    · have begun := fresh call (List.mem_of_getElem? stands)
      rw [same] at begun
      cases begun
    · have begun := fresh call (List.mem_of_getElem? stands)
      rw [same] at begun
      cases begun
  returned position call stands key stageResult result same := by
    have begun := fresh call (List.mem_of_getElem? stands)
    rw [same] at begun
    cases begun

/-- **The handles in every interleaving.** Over calls of distinct tasks made
on an executor with no task, a task has a handle exactly when its
`execute_query_stage` call awaits its future or returned an error, and the
future was not aborted. -/
theorem registry_handles {calls : List ExecutorCall} (fresh : ∀ call ∈ calls, call.Fresh)
    (distinct : DistinctTasks calls) {config : Interleaving.Config Executor ExecutorCall}
    (reaches : Interleaving.Reaches callStep (registryStart calls) config) (key : TaskKey) :
    key ∈ config.shared.abortHandles ↔
      ∃ (position : Nat) (call : ExecutorCall),
        config.procs[position]? = some call ∧ call.HoldsHandle config.shared key :=
  (Interleaving.Reaches.invariant (fun _ _ step inv => RegistryInv.step inv step) reaches
    (registryInv_start fresh distinct)).handles key

/-- One task, whose stage fails on an IO error. -/
def failedStageCall : ExecutorCall :=
  .executeQueryStage (1, ⟨"job", 1, 0⟩) (.error (.ioError "disk")) .pending

/-- The executor once the task of `failedStageCall` has returned. -/
def leakedRegistry : Interleaving.Config Executor ExecutorCall :=
  { shared := { abortHandles := [(1, ⟨"job", 1, 0⟩)], aborted := [] },
    procs := [.executeQueryStage (1, ⟨"job", 1, 0⟩) (.error (.ioError "disk"))
      (.returned (.error (.ioError "disk")))] }

/-- In the run that starts the task of `failedStageCall` and lets its stage
fail, the handle left is held by the returned call. -/
theorem leakedRegistry_handles :
    (1, ⟨"job", 1, 0⟩) ∈ leakedRegistry.shared.abortHandles ↔
      ∃ (position : Nat) (call : ExecutorCall), leakedRegistry.procs[position]? = some call ∧
        call.HoldsHandle leakedRegistry.shared (1, ⟨"job", 1, 0⟩) :=
  registry_handles (fun call mem => by rw [List.mem_singleton.mp mem]; exact rfl)
    (fun first second _ _ _ stands other _ _ => by
      have firstBound := (List.getElem?_eq_some_iff.mp stands).1
      have secondBound := (List.getElem?_eq_some_iff.mp other).1
      rw [List.length_singleton] at firstBound secondBound
      omega)
    (Interleaving.Reaches.of_schedule
      (by rfl : (registryStart [failedStageCall]).schedule callStep [0, 0] = some leakedRegistry))
    (1, ⟨"job", 1, 0⟩)

/-- The task starts and its stage fails: the call has returned, yet its handle
stays, the executor counts one active task, and no call is left to move, so
`TasksDrainedFuture` stays pending for ever. -/
theorem failedStage_leaksHandle_run :
    Interleaving.Reaches callStep (registryStart [failedStageCall]) leakedRegistry ∧
      (∀ (position : Nat) (call : ExecutorCall) (key : TaskKey),
        leakedRegistry.procs[position]? = some call → ¬call.Awaits key) ∧
      leakedRegistry.shared.abortHandles = [(1, ⟨"job", 1, 0⟩)] ∧
      leakedRegistry.shared.activeTaskCount = 1 ∧ leakedRegistry.shared.tasksDrained = false ∧
      ∀ next, ¬Interleaving.Step callStep leakedRegistry next := by
  -- the only call is the returned one, which takes no further step
  have returnedOnly : ∀ (position : Nat) (call : ExecutorCall),
      leakedRegistry.procs[position]? = some call →
        call = .executeQueryStage (1, ⟨"job", 1, 0⟩) (.error (.ioError "disk"))
          (.returned (.error (.ioError "disk"))) :=
    fun _ _ stands => List.mem_singleton.mp (List.mem_of_getElem? stands)
  refine ⟨Interleaving.Reaches.of_schedule
      (by rfl : (registryStart [failedStageCall]).schedule callStep [0, 0] = some leakedRegistry),
    fun position call key stands => ?_, rfl, rfl, rfl, fun next step => ?_⟩
  · rintro ⟨stageResult, same⟩
    rw [returnedOnly position call stands] at same
    cases same
  · cases step with
    | move index proc shared moved found stepped =>
      rw [returnedOnly index proc found] at stepped
      cases stepped

end Executor

end Ballista
