import Ballista.Cluster.BindSlots

/-! # What every run of a binder keeps

The binders work on the slots through the references they were handed: they
sort them, move a cursor over them and take free slots from the slot under it,
and never add, drop or exchange one. Whatever the graphs and whatever `if_skip`
black-lists, a run of a binder that returns leaves each slot where the sort put
it, with its executor, and each task it bound took one free slot of its
executor (`Takes`, `bindWith_takes`).

This is the frame the callers of the binders rest on: `InMemoryClusterState`
writes the slots the binder left back to its map by executor. It needs no
invariant of the graphs, so it also covers the round-robin pass of the
consistent-hash policy, whose `if_skip` black-lists the stages the
consistent-hash binder takes. The loops are taken apart as triples over their
returning runs (`ExceptT.Triple`); the loop over the jobs is generic in the
binder's local state (`bindJobsWith_keeps`).
-/

namespace Ballista

namespace Cluster

open ExceptT

variable {Plan : Type}

theorem map_modify_of_forall {α β : Type} {f : α → α} {g : α → β} (kept : ∀ a, g (f a) = g a) :
    ∀ (items : List α) (index : Nat), (items.modify index f).map g = items.map g
  | [], _ => by simp
  | _ :: _, 0 => by simp [kept]
  | item :: items, index + 1 => by
    rw [List.modify_succ_cons, List.map_cons, List.map_cons, map_modify_of_forall kept items index]

/-- The bias binder takes a free slot in place: the slots keep their executors. -/
theorem executorIds_modify (slots : List AvailableTaskSlots) (index : Nat) :
    (slots.modify index fun slot => { slot with slots := slot.slots - 1 }).map
      AvailableTaskSlots.executorId = slots.map AvailableTaskSlots.executorId :=
  @map_modify_of_forall _ _ (fun slot => { slot with slots := slot.slots - 1 }) AvailableTaskSlots.executorId
    (fun _ => rfl) slots index

/-- The round-robin binder writes the slot it read back with a new count: the
slots keep their executors. -/
theorem executorIds_set {slots : List AvailableTaskSlots} {index : Nat} {slot : AvailableTaskSlots}
    (found : slots[index]? = some slot) (count : Nat) :
    (slots.set index { slot with slots := count }).map AvailableTaskSlots.executorId =
      slots.map AvailableTaskSlots.executorId := by
  obtain ⟨inRange, rfl⟩ := List.getElem?_eq_some_iff.mp found
  apply List.ext_getElem?
  intro position
  rw [List.getElem?_map, List.getElem?_map, List.getElem?_set]
  split
  · rename_i same
    subst same
    simp [inRange]
  · rfl

/-- How a binder's local state moves on: the slots stay with their executors,
in their places, and the tasks bound meanwhile are appended, each having taken
one free slot of its executor. -/
structure Takes (binding binding' : Binding Plan) : Prop where
  executors : binding'.slots.map AvailableTaskSlots.executorId =
    binding.slots.map AvailableTaskSlots.executorId
  bound : ∃ added, binding'.schedulableTasks = binding.schedulableTasks ++ added ∧
    (added.map Prod.fst ++ slotUnits binding'.slots).Perm (slotUnits binding.slots)

namespace Takes

variable {binding binding' binding'' : Binding Plan}

protected theorem refl (binding : Binding Plan) : Takes binding binding :=
  ⟨rfl, [], (List.append_nil _).symm, List.Perm.refl _⟩

protected theorem trans (first : Takes binding binding') (second : Takes binding' binding'') :
    Takes binding binding'' := by
  obtain ⟨added, tasks, taken⟩ := first.bound
  obtain ⟨added', tasks', taken'⟩ := second.bound
  refine ⟨second.executors.trans first.executors, added ++ added', ?_, ?_⟩
  · rw [tasks', tasks, List.append_assoc]
  · rw [List.map_append, List.append_assoc]
    exact (taken'.append_left _).trans taken

/-- Binding one task to the executor of a slot that gave one free slot up. -/
theorem single {executorId : String} {task : TaskDescription Plan}
    (executors : binding'.slots.map AvailableTaskSlots.executorId =
      binding.slots.map AvailableTaskSlots.executorId)
    (tasks : binding'.schedulableTasks = binding.schedulableTasks ++ [(executorId, task)])
    (taken : (executorId :: slotUnits binding'.slots).Perm (slotUnits binding.slots)) :
    Takes binding binding' :=
  ⟨executors, [(executorId, task)], tasks, taken⟩

instance : IsPreorder (Binding Plan) Takes where
  refl := Takes.refl
  trans _ _ _ := Takes.trans

end Takes

/-- A loop of a binder over some runnable partitions takes its binding a `Takes`
step on every run that returns. -/
def KeepsSlots
    (partitions : String → String → RunningStage Plan → List Nat → Binding Plan →
      GraphM Plan (Bool × Binding Plan)) : Prop :=
  ∀ jobId sessionId stage partitionIds binding,
    Triple (fun _ => True) (partitions jobId sessionId stage partitionIds binding)
      fun result _ => Takes binding result.2

/-- The bias binder's loop takes the slot found from the cursor for each
partition it binds. -/
theorem keepsSlots_bias : KeepsSlots (@biasPartitions Plan) := by
  intro jobId sessionId stage partitionIds binding
  induction partitionIds generalizing stage binding with
  | nil => exact Triple.pure fun _ _ => Takes.refl binding
  | cons partitionId rest ih =>
    unfold biasPartitions
    split
    · exact Triple.pure fun _ _ => Takes.refl binding
    · rename_i slot index next
      obtain ⟨-, found, free, -⟩ := nextFreeSlot_eq_some next
      refine Triple.bind (Triple.any _) fun bound => ?_
      obtain ⟨task, stage'⟩ := bound
      -- the slot found gives one up, and the rest of the loop starts from there
      have step : Takes binding
          { binding with
            slots := binding.slots.modify index fun slot => { slot with slots := slot.slots - 1 },
            idxSlot := index,
            schedulableTasks := binding.schedulableTasks ++ [(slot.executorId, task)] } :=
        Takes.single (executorIds_modify binding.slots index) rfl (slotUnits_modify_perm found free)
      exact Triple.mono (ih stage' _).frame (fun _ _ => trivial) fun _ _ taken => step.trans taken.2

/-- The round-robin binder's loop takes the slot its cursor lands on for each
partition it binds, and throws when that slot has none left. -/
theorem keepsSlots_roundRobin : KeepsSlots (@roundRobinPartitions Plan) := by
  intro jobId sessionId stage partitionIds binding
  induction partitionIds generalizing stage binding with
  | nil => exact Triple.pure fun _ _ => Takes.refl binding
  | cons partitionId rest ih =>
    unfold roundRobinPartitions
    dsimp only
    split
    · split
      · rename_i slot found
        refine Triple.bind (Triple.any _) fun bound => ?_
        obtain ⟨task, stage'⟩ := bound
        dsimp only
        split
        · exact Triple.throw _
        · rename_i free
          -- the slot under the cursor gives one up
          have step : ∀ cursor, Takes binding
              { binding with
                slots := binding.slots.set _ { slot with slots := slot.slots - 1 },
                idxSlot := cursor, totalSlots := binding.totalSlots - 1,
                schedulableTasks := binding.schedulableTasks ++ [(slot.executorId, task)] } :=
            fun _ => Takes.single (executorIds_set found _) rfl (slotUnits_set_perm found free)
          split
          · exact Triple.pure fun _ _ => step _
          · exact Triple.mono (ih stage' _).frame (fun _ _ => trivial) fun _ _ taken => (step _).trans taken.2
      · exact Triple.throw _
    · exact Triple.throw _

/-! ## The loops around a loop over partitions -/

section Loops

variable {partitions : String → String → RunningStage Plan → List Nat → Binding Plan →
  GraphM Plan (Bool × Binding Plan)}

/-- The loop over a job's stages, whatever `if_skip` black-lists: each round
that binds runs the loop over partitions. -/
theorem bindStagesFrom_takes (keeps : KeepsSlots partitions) (jobId sessionId : String)
    (ifSkip : Plan → Bool) :
    ∀ (fuel : Nat) (blackList : List Nat) (binding : Binding Plan),
      Triple (fun _ => True) (bindStagesFrom (partitions jobId sessionId) ifSkip fuel blackList binding)
        fun result _ => Takes binding result.2
  | 0, _, _ => Triple.throw _
  | fuel + 1, blackList, binding => by
    unfold bindStagesFrom
    refine Triple.bind (Triple.any _) fun fetched => ?_
    cases fetched with
    | none => exact Triple.pure fun _ _ => Takes.refl binding
    | some stage =>
      dsimp only
      split
      · -- a black-listed stage binds nothing
        exact Triple.mono (bindStagesFrom_takes keeps jobId sessionId ifSkip fuel _ binding)
          (fun _ _ => trivial) fun _ _ taken => taken
      · refine Triple.bind (keeps jobId sessionId stage _ binding) fun result => ?_
        obtain ⟨stopped, binding₁⟩ := result
        dsimp only
        split
        · exact Triple.pure fun _ taken => taken
        · exact Triple.mono (bindStagesFrom_takes keeps jobId sessionId ifSkip fuel blackList binding₁).frame
            (fun _ taken => taken) fun _ _ taken => taken.1.trans taken.2

end Loops

/-- The loop over the jobs keeps any preorder of the binder's local state that
the loop over each job's stages keeps. -/
theorem bindJobsWith_keeps {β : Type} {R : β → β → Prop} [IsPreorder β R]
    {bindStages : String → ExecutionGraph Plan → β → GraphM Plan (Bool × β)}
    (keeps : ∀ jobId graph binding,
      Triple (fun _ => True) (bindStages jobId graph binding) fun result _ => R binding result.2) :
    ∀ {activeJobs : Table String (JobInfoCache Plan)} {binding binding' : β}
      {jobsLeft : Table String (JobInfoCache Plan)},
      bindJobsWith bindStages activeJobs binding = .ok (binding', jobsLeft) → R binding binding'
  | [], binding, _, _, ran => by
    cases ran
    exact refl_of R binding
  | (jobId, jobInfo) :: rest, binding, binding', jobsLeft, ran => by
    rw [bindJobsWith] at ran
    split at ran
    · -- a running job: its stages are bound, and the loop goes on unless the binder returned
      generalize stagesRan : (bindStages jobId jobInfo.executionGraph binding).exec jobInfo.executionGraph = run
        at ran
      obtain ⟨result, graph⟩ := run
      cases result with
      | error fault => cases ran
      | ok result =>
        obtain ⟨stopped, binding₁⟩ := result
        have first : R binding binding₁ := keeps jobId _ binding _ _ _ trivial stagesRan
        cases stopped with
        | true =>
          cases ran
          exact first
        | false =>
          dsimp only at ran
          cases later : bindJobsWith bindStages rest binding₁ with
          | error fault =>
            rw [later] at ran
            cases ran
          | ok result =>
            rw [later] at ran
            cases ran
            exact trans_of R first (bindJobsWith_keeps keeps later)
    · -- a job passed over: the loop goes on with the same binding
      cases later : bindJobsWith bindStages rest binding with
      | error fault =>
        rw [later] at ran
        cases ran
      | ok result =>
        rw [later] at ran
        cases ran
        exact bindJobsWith_keeps keeps later

/-- **What every run of a binder that returns did to the slots.** Whatever the
graphs and whatever `if_skip` black-lists, the slots left belong to the
executors of the slots given, one each, and the executors of the tasks bound
together with the free slots left are the free slots given. -/
theorem bindWith_takes {partitions : String → String → RunningStage Plan → List Nat → Binding Plan →
      GraphM Plan (Bool × Binding Plan)}
    (keeps : KeepsSlots partitions) {slots : List AvailableTaskSlots}
    {activeJobs : Table String (JobInfoCache Plan)} {ifSkip : Plan → Bool} {tasks : List (BoundTask Plan)}
    {slotsLeft : List AvailableTaskSlots} {jobsLeft : Table String (JobInfoCache Plan)}
    (ran : bindWith partitions slots activeJobs ifSkip = .ok (tasks, slotsLeft, jobsLeft)) :
    (slotsLeft.map AvailableTaskSlots.executorId).Perm (slots.map AvailableTaskSlots.executorId) ∧
      (tasks.map Prod.fst ++ slotUnits slotsLeft).Perm (slotUnits slots) := by
  unfold bindWith at ran
  dsimp only at ran
  split at ran
  · -- no free slot: the slots are handed back as given
    cases ran
    exact ⟨List.Perm.refl _, List.Perm.refl _⟩
  · have sorted := List.perm_insertionSort (fun first second : AvailableTaskSlots => second.slots ≤ first.slots) slots
    cases jobsRan : bindJobs partitions ifSkip activeJobs
        { slots := slots.insertionSort fun first second => second.slots ≤ first.slots, idxSlot := 0,
          totalSlots := slots.foldl (fun acc slot => acc + slot.slots) 0, schedulableTasks := [] } with
    | error fault =>
      rw [jobsRan] at ran
      cases ran
    | ok result =>
      rw [jobsRan] at ran
      cases ran
      have taken := bindJobsWith_keeps
        (fun jobId graph binding => bindStagesFrom_takes keeps jobId graph.sessionId ifSkip _ [] binding) jobsRan
      obtain ⟨added, bound, units⟩ := taken.bound
      rw [List.nil_append] at bound
      refine ⟨?_, ?_⟩
      · rw [taken.executors]
        exact sorted.map _
      · rw [bound]
        exact units.trans (slotUnits_perm sorted)

end Cluster

end Ballista
