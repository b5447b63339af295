import Ballista.Cluster.InMemory

/-! # Binding with the consistent-hash policy

With the consistent-hash policy, `bind_schedulable_tasks` of the in-memory
cluster state first binds round robin the stages it cannot hash, which writes
through the references to the executors' entries, then builds the nodes of the
ring from the entries (`get_topology_nodes`) and binds the other stages over
the ring, each task taking a free slot of the node its file hashes to. The
slots the ring's nodes were left with are then written to their executors'
entries.

The ring's binder keeps each node with its name and executor, and each task it
binds took one free slot of its node (`HashTakes`, `bindTaskConsistentHash_takes`),
much as the other binders do with their slots. The nodes of
`get_topology_nodes` are named apart, belong to distinct executors, and hold
their entries' free slots (`TopologyFrom`). So when the call returns, each
executor's entry has lost exactly one free slot for each task bound to it,
round robin or over the ring (`bindSchedulableTasks_consistentHash_slotsOf`).
-/

namespace Ballista

namespace Cluster

open ExceptT ExecutionGraph

variable {Plan Key : Type} [LinearOrder Key]

@[simp] theorem name_topologyNode (node : TopologyNode) : Node.name node = node.name := rfl

/-- The ring's nodes by name, each with its executor. -/
def nodeIds (nodes : Table String (TopologyNode × Nat)) : List (String × String) :=
  nodes.map fun entry => (entry.1, entry.2.1.id)

/-- The free slots of the ring's nodes, one executor id for each. -/
def nodeUnits (nodes : Table String (TopologyNode × Nat)) : List String :=
  nodes.flatMap fun entry => List.replicate entry.2.1.availableSlots entry.2.1.id

theorem nodeIds_takeNodeSlot (ch : ConsistentHash TopologyNode Key) (nodeName : String) :
    nodeIds (takeNodeSlot ch nodeName).nodeReplicas = nodeIds ch.nodeReplicas := by
  simp only [nodeIds, takeNodeSlot, Table.modify, List.map_map]
  refine List.map_congr_left fun entry _ => ?_
  simp only [Function.comp_apply]
  split <;> rfl

/-- The node found gives one free slot up. -/
theorem nodeUnits_takeNodeSlot_perm {ch : ConsistentHash TopologyNode Key} {nodeName : String}
    {node : TopologyNode} {numReplicas : Nat} (distinct : ch.nodeReplicas.keys.Nodup)
    (found : ch.nodeReplicas.get? nodeName = some (node, numReplicas)) (free : 0 < node.availableSlots) :
    (node.id :: nodeUnits (takeNodeSlot ch nodeName).nodeReplicas).Perm (nodeUnits ch.nodeReplicas) := by
  obtain ⟨front, back, whole, modified⟩ := Table.exists_modify_eq distinct found
  have taken : List.replicate node.availableSlots node.id =
      node.id :: List.replicate (node.availableSlots - 1) node.id := by
    rw [← List.replicate_succ, Nat.sub_add_cancel free]
  simp only [takeNodeSlot]
  rw [modified, whole]
  simp only [nodeUnits, List.flatMap_append, List.flatMap_cons, taken]
  exact List.perm_middle.symm

/-- How the ring binder's local state moves on: the nodes stay under their
names with their executors, and the tasks bound meanwhile are appended, each
having taken one free slot of its node. -/
structure HashTakes (binding binding' : HashBinding Key Plan) : Prop where
  nodes : nodeIds binding'.chTopology.nodeReplicas = nodeIds binding.chTopology.nodeReplicas
  bound : ∃ added, binding'.schedulableTasks = binding.schedulableTasks ++ added ∧
    (added.map Prod.fst ++ nodeUnits binding'.chTopology.nodeReplicas).Perm
      (nodeUnits binding.chTopology.nodeReplicas)

namespace HashTakes

variable {binding binding' binding'' : HashBinding Key Plan}

protected theorem refl (binding : HashBinding Key Plan) : HashTakes binding binding :=
  ⟨rfl, [], (List.append_nil _).symm, List.Perm.refl _⟩

protected theorem trans (first : HashTakes binding binding') (second : HashTakes binding' binding'') :
    HashTakes binding binding'' := by
  obtain ⟨added, tasks, taken⟩ := first.bound
  obtain ⟨added', tasks', taken'⟩ := second.bound
  refine ⟨second.nodes.trans first.nodes, added ++ added', ?_, ?_⟩
  · rw [tasks', tasks, List.append_assoc]
  · rw [List.map_append, List.append_assoc]
    exact (taken'.append_left _).trans taken

/-- The ring keeps its names, so one entry per name. -/
theorem keys_eq (taken : HashTakes binding binding') :
    binding'.chTopology.nodeReplicas.keys = binding.chTopology.nodeReplicas.keys := by
  have names := congrArg (List.map Prod.fst) taken.nodes
  simpa [nodeIds, Table.keys, List.map_map, Function.comp_def] using names

end HashTakes

/-! ## The ring binder's loops -/

section Loops

/-- The ring binder's loop over a stage's partitions takes a free slot of the
node found for each partition it binds, and throws when that node has none. -/
theorem hashPartitions_takes (jobId sessionId : String) (scanFiles : List (List PartitionedFile))
    (tolerance : Nat) :
    ∀ (partitionIds : List Nat) (stage : RunningStage Plan) (binding : HashBinding Key Plan),
      binding.chTopology.nodeReplicas.keys.Nodup →
      Triple (fun _ => True) (hashPartitions jobId sessionId scanFiles tolerance stage partitionIds binding)
        fun result _ => HashTakes binding result.2.1 := by
  intro partitionIds
  induction partitionIds with
  | nil => exact fun stage binding _ => Triple.pure fun _ _ => HashTakes.refl binding
  | cons partitionId rest ih =>
    intro stage binding distinct
    unfold hashPartitions
    dsimp only
    split
    · split
      · split
        · exact Triple.throw _
        · exact ih stage binding distinct
        · split
          · exact Triple.throw _
          · rename_i nodeName _ _ node numReplicas found
            refine Triple.bind (Triple.any _) fun bound => ?_
            obtain ⟨task, stage'⟩ := bound
            dsimp only
            split
            · exact Triple.throw _
            · rename_i free
              -- the node found gives one up, and the rest of the loop starts from there
              let binding' : HashBinding Key Plan :=
                { chTopology := takeNodeSlot binding.chTopology nodeName, totalSlots := binding.totalSlots - 1,
                  schedulableTasks := binding.schedulableTasks ++ [(node.id, task)] }
              have step : HashTakes binding binding' :=
                ⟨nodeIds_takeNodeSlot _ _, [(node.id, task)], rfl,
                  nodeUnits_takeNodeSlot_perm distinct found (Nat.pos_of_ne_zero free)⟩
              split
              · exact Triple.pure fun _ _ => step
              · exact Triple.mono (ih stage' binding' (step.keys_eq ▸ distinct)).frame (fun _ _ => trivial)
                  fun _ _ taken => step.trans taken.2
      · exact Triple.throw _
    · exact Triple.throw _

/-- The passes over a stage, each over the partitions still waiting. -/
theorem hashPasses_takes (jobId sessionId : String) (scanFiles : List (List PartitionedFile)) :
    ∀ (tolerances : List Nat) (stage : RunningStage Plan) (binding : HashBinding Key Plan),
      binding.chTopology.nodeReplicas.keys.Nodup →
      Triple (fun _ => True) (hashPasses jobId sessionId scanFiles tolerances stage binding)
        fun result _ => HashTakes binding result.2
  | [], _, binding, _ => Triple.pure fun _ _ => HashTakes.refl binding
  | tolerance :: rest, stage, binding, distinct => by
    unfold hashPasses
    refine Triple.bind (hashPartitions_takes jobId sessionId scanFiles tolerance _ stage binding distinct)
      fun result => ?_
    obtain ⟨stopped, binding₁, stage₁⟩ := result
    dsimp only
    split
    · exact Triple.pure fun _ taken => taken
    · -- the next pass starts from the ring the first left, under the same names
      exact Triple.mono (Triple.assume fun (taken : HashTakes binding binding₁) =>
          hashPasses_takes jobId sessionId scanFiles rest stage₁ binding₁ (taken.keys_eq ▸ distinct))
        (fun _ taken => taken) fun _ _ taken => taken.1.trans taken.2

/-- The ring binder's loop over a job's stages: each stage that scans once
goes through both passes. -/
theorem hashStagesFrom_takes
    (getScanFiles : String → Plan → Except BallistaError (List (List (List PartitionedFile))))
    (jobId sessionId : String) (tolerance : Nat) :
    ∀ (fuel : Nat) (blackList : List Nat) (binding : HashBinding Key Plan),
      binding.chTopology.nodeReplicas.keys.Nodup →
      Triple (fun _ => True) (hashStagesFrom getScanFiles jobId sessionId tolerance fuel blackList binding)
        fun result _ => HashTakes binding result.2
  | 0, _, _, _ => Triple.throw _
  | fuel + 1, blackList, binding, distinct => by
    unfold hashStagesFrom
    refine Triple.bind (Triple.any _) fun fetched => ?_
    cases fetched with
    | none => exact Triple.pure fun _ _ => HashTakes.refl binding
    | some stage =>
      dsimp only
      refine Triple.bind (Triple.any _) fun scanFiles => ?_
      split
      · -- a stage that does not scan once binds nothing
        exact Triple.mono (hashStagesFrom_takes getScanFiles jobId sessionId tolerance fuel _ binding distinct)
          (fun _ _ => trivial) fun _ _ taken => taken
      · split
        · refine Triple.bind (hashPasses_takes jobId sessionId _ [0, tolerance] stage binding distinct)
            fun result => ?_
          obtain ⟨stopped, binding₁⟩ := result
          dsimp only
          split
          · exact Triple.pure fun _ taken => taken
          · exact Triple.mono (Triple.assume fun (taken : HashTakes binding binding₁) =>
                hashStagesFrom_takes getScanFiles jobId sessionId tolerance fuel _ binding₁
                  (taken.keys_eq ▸ distinct))
              (fun _ taken => taken) fun _ _ taken => taken.1.trans taken.2
        · exact Triple.throw _

end Loops

/-- `HashTakes` from a ring with one entry per name, which the ring binder keeps. -/
def HashKeeps (binding binding' : HashBinding Key Plan) : Prop :=
  binding.chTopology.nodeReplicas.keys.Nodup → HashTakes binding binding'

instance : IsPreorder (HashBinding Key Plan) HashKeeps where
  refl binding _ := HashTakes.refl binding
  trans _ _ _ first second distinct :=
    (first distinct).trans (second ((first distinct).keys_eq ▸ distinct))

/-- **What every run of the ring binder that returns did to the ring.** Over
nodes named apart, whatever the graphs: either no slot was free and nothing was
bound, or the ring left has the nodes given, under their names, with their
executors, and the executors of the tasks bound together with the free slots
left are the free slots given. -/
theorem bindTaskConsistentHash_takes {topologyNodes : List TopologyNode}
    {numReplicas tolerance : Nat} {activeJobs : Table String (JobInfoCache Plan)}
    {getScanFiles : String → Plan → Except BallistaError (List (List (List PartitionedFile)))}
    {hashFunc : String → Key} {tasks : List (BoundTask Plan)}
    {chTopology : Option (ConsistentHash TopologyNode Key)} {jobsLeft : Table String (JobInfoCache Plan)}
    (distinct : (topologyNodes.map TopologyNode.name).Nodup)
    (ran : bindTaskConsistentHash topologyNodes numReplicas tolerance activeJobs getScanFiles hashFunc =
      .ok (tasks, chTopology, jobsLeft)) :
    tasks = [] ∧ chTopology = none ∨
      ∃ ring, chTopology = some ring ∧
        nodeIds ring.nodeReplicas = topologyNodes.map (fun node => (node.name, node.id)) ∧
        (tasks.map Prod.fst ++ nodeUnits ring.nodeReplicas).Perm
          (topologyNodes.flatMap fun node => List.replicate node.availableSlots node.id) := by
  unfold bindTaskConsistentHash at ran
  dsimp only at ran
  split at ran
  · cases ran
    exact .inl ⟨rfl, rfl⟩
  · -- the nodes are placed on a new ring in order, one entry each
    have placed := ConsistentHash.nodeReplicas_newWithHash (topologyNodes.map fun node => (node, numReplicas))
      hashFunc (by simpa [List.map_map, Function.comp_def] using distinct)
    generalize ConsistentHash.newWithHash (topologyNodes.map fun node => (node, numReplicas)) hashFunc = ring
      at placed ran
    cases bound : bindJobsWith (fun jobId graph binding =>
        hashStagesFrom getScanFiles jobId graph.sessionId tolerance (bindRounds graph + 1) [] binding)
      activeJobs ⟨ring, topologyNodes.foldl (fun acc node => acc + node.availableSlots) 0, []⟩ with
    | error fault =>
      rw [bound] at ran
      cases ran
    | ok result =>
      obtain ⟨binding, jobs⟩ := result
      rw [bound] at ran
      cases ran
      have stages : ∀ (jobId : String) (graph : ExecutionGraph Plan) (binding : HashBinding Key Plan),
          Triple (fun _ => True)
            (hashStagesFrom getScanFiles jobId graph.sessionId tolerance (bindRounds graph + 1) [] binding)
            fun result _ => HashKeeps binding result.2 :=
        fun jobId graph binding _ _ _ _ stagesRan distinct =>
          hashStagesFrom_takes getScanFiles jobId graph.sessionId tolerance _ [] binding distinct _ _ _ trivial
            stagesRan
      have keeps : HashKeeps _ binding := bindJobsWith_keeps stages bound
      have names : ring.nodeReplicas.keys.Nodup := by
        simpa [placed, Table.keys, List.map_map, Function.comp_def] using distinct
      obtain ⟨nodes, added, tasks, taken⟩ := keeps names
      refine .inr ⟨binding.chTopology, rfl, ?_, ?_⟩
      · rw [nodes, placed]
        simp [nodeIds, List.map_map, Function.comp_def]
      · rw [tasks, List.nil_append] at *
        simpa [nodeUnits, placed, List.flatMap_map] using taken

/-! ## The nodes of the ring -/

/-- An entry's free slots, read by its executor, when each executor has one entry. -/
theorem slotsOf_of_mem {entries : List AvailableTaskSlots}
    (distinct : (entries.map AvailableTaskSlots.executorId).Nodup) {data : AvailableTaskSlots}
    (mem : data ∈ entries) : slotsOf entries data.executorId = some data.slots := by
  induction entries with
  | nil => cases mem
  | cons first rest ih =>
    rw [List.map_cons, List.nodup_cons] at distinct
    rw [slotsOf_cons]
    rcases List.mem_cons.mp mem with rfl | later
    · rw [if_pos rfl]
    · have apart : data.executorId ≠ first.executorId :=
        fun same => distinct.1 (same ▸ List.mem_map_of_mem later)
      rw [if_neg apart, ih distinct.2 later]

/-- What the nodes built from some entries are: one per name, stored under it,
each of an executor asked for, with that executor's entry's free slots, and of
distinct executors. -/
structure TopologyFrom (entries : List AvailableTaskSlots) (executors : Option (List String))
    (nodes : Table String (TopologyNode × Nat)) : Prop where
  distinct : nodes.keys.Nodup
  named : ∀ entry ∈ nodes, entry.2.1.name = entry.1
  fromEntry : ∀ entry ∈ nodes, (⟨entry.2.1.id, entry.2.1.availableSlots⟩ : AvailableTaskSlots) ∈ entries ∧
    (executors.map fun executors => executors.contains entry.2.1.id).getD true = true
  apart : (nodes.map fun entry => entry.2.1.id).Nodup

/-- Writing a node of a new executor under a name keeps the nodes' executors apart. -/
theorem nodup_ids_insert {nodes : Table String (TopologyNode × Nat)} (distinct : nodes.keys.Nodup)
    (apart : (nodes.map fun entry => entry.2.1.id).Nodup) (name : String) {value : TopologyNode × Nat}
    (fresh : value.1.id ∉ nodes.map fun entry => entry.2.1.id) :
    ((nodes.insert name value).map fun entry => entry.2.1.id).Nodup := by
  unfold Table.insert
  split
  · -- the node replaces the one stored under its name
    rename_i present
    obtain ⟨old, found⟩ := Option.isSome_iff_exists.mp present
    obtain ⟨front, back, whole, modified⟩ := Table.exists_modify_eq distinct found
    rw [modified]
    rw [whole] at apart fresh
    simp only [List.map_append, List.map_cons, List.nodup_middle, List.nodup_cons, List.mem_append,
      List.mem_cons, not_or] at apart fresh ⊢
    exact ⟨⟨fresh.1, fresh.2.2⟩, apart.2⟩
  · rw [List.map_append, List.map_singleton, List.nodup_append]
    refine ⟨apart, List.nodup_singleton _, fun other mem pushed added same => fresh ?_⟩
    rw [List.mem_singleton] at added
    rw [← added, ← same]
    exact mem

namespace TopologyFrom

variable {done : List AvailableTaskSlots} {executors : Option (List String)}
  {nodes : Table String (TopologyNode × Nat)}

theorem widen (built : TopologyFrom done executors nodes) (more : List AvailableTaskSlots) :
    TopologyFrom (done ++ more) executors nodes :=
  ⟨built.distinct, built.named, fun entry mem =>
    ⟨List.mem_append_left _ (built.fromEntry entry mem).1, (built.fromEntry entry mem).2⟩, built.apart⟩

/-- A node of the next entry, of a new executor asked for, written under a name. -/
theorem insert (built : TopologyFrom done executors nodes) {slots : AvailableTaskSlots}
    (fresh : slots.executorId ∉ done.map AvailableTaskSlots.executorId)
    (asked : (executors.map fun executors => executors.contains slots.executorId).getD true = true)
    (name : String) (lastSeenTs : Nat) :
    TopologyFrom (done ++ [slots]) executors
      (nodes.insert name (⟨slots.executorId, name, slots.slots⟩, lastSeenTs)) := by
  -- every node so far is of an executor seen before
  have seen : ∀ entry ∈ nodes, entry.2.1.id ∈ done.map AvailableTaskSlots.executorId :=
    fun entry mem => List.mem_map_of_mem (built.fromEntry entry mem).1
  refine ⟨Table.keys_insert_nodup _ _ built.distinct, fun entry mem => ?_, fun entry mem => ?_,
    nodup_ids_insert built.distinct built.apart name fun mem => ?_⟩
  · rcases Table.mem_insert_cases mem with rfl | old
    · rfl
    · exact built.named entry old
  · rcases Table.mem_insert_cases mem with rfl | old
    · exact ⟨List.mem_append_right _ (List.mem_singleton_self _), asked⟩
    · exact ⟨List.mem_append_left _ (built.fromEntry entry old).1, (built.fromEntry entry old).2⟩
  · obtain ⟨entry, present, same⟩ := List.mem_map.mp mem
    have earlier : entry.2.1.id = slots.executorId := same
    exact fresh (earlier ▸ seen entry present)

/-- One entry's turn keeps what the nodes are. -/
theorem addTopologyNode (built : TopologyFrom done executors nodes) (state : InMemoryClusterState)
    {slots : AvailableTaskSlots} (fresh : slots.executorId ∉ done.map AvailableTaskSlots.executorId) :
    TopologyFrom (done ++ [slots]) executors (state.addTopologyNode executors nodes slots) := by
  unfold InMemoryClusterState.addTopologyNode
  split
  · rename_i asked
    split
    · exact built.widen _
    · dsimp only
      split
      · split
        · exact built.insert fresh asked _ _
        · exact built.widen _
      · exact built.insert fresh asked _ _
  · exact built.widen _

end TopologyFrom

theorem topologyFrom_foldl (state : InMemoryClusterState) (executors : Option (List String)) :
    ∀ (rest done : List AvailableTaskSlots) (nodes : Table String (TopologyNode × Nat)),
      ((done ++ rest).map AvailableTaskSlots.executorId).Nodup → TopologyFrom done executors nodes →
        TopologyFrom (done ++ rest) executors (rest.foldl (state.addTopologyNode executors) nodes)
  | [], done, nodes, _, built => by simpa using built
  | slots :: rest, done, nodes, distinct, built => by
    have fresh : slots.executorId ∉ done.map AvailableTaskSlots.executorId := by
      rw [List.map_append, List.map_cons, List.nodup_middle, List.nodup_cons] at distinct
      exact fun mem => distinct.1 (List.mem_append_left _ mem)
    have rest := topologyFrom_foldl state executors rest (done ++ [slots]) _ (by simpa using distinct)
      (built.addTopologyNode state fresh)
    simpa using rest

/-- **The nodes of `get_topology_nodes`** are one per name, each of its own
executor, asked for, with the free slots of that executor's entry. -/
theorem topologyFrom_getTopologyNodes (state : InMemoryClusterState) (executors : Option (List String)) :
    TopologyFrom state.taskSlots.entries executors (state.getTopologyNodes executors) :=
  topologyFrom_foldl state executors state.taskSlots.entries [] [] state.taskSlots.distinct
    ⟨List.nodup_nil, fun _ absent => absurd absent List.not_mem_nil,
      fun _ absent => absurd absent List.not_mem_nil, List.nodup_nil⟩

/-! ## Reading the ring's slots by executor -/

theorem count_nodeUnits_cons (entry : String × (TopologyNode × Nat)) (rest : Table String (TopologyNode × Nat))
    (executorId : String) :
    (nodeUnits (entry :: rest)).count executorId =
      (if entry.2.1.id = executorId then entry.2.1.availableSlots else 0) + (nodeUnits rest).count executorId := by
  simp [nodeUnits, List.count_replicate]

/-- An executor with no node has no free slot on the ring. -/
theorem count_nodeUnits_of_not_mem {nodes : Table String (TopologyNode × Nat)} {executorId : String}
    (absent : executorId ∉ nodes.map fun entry => entry.2.1.id) : (nodeUnits nodes).count executorId = 0 := by
  refine List.count_eq_zero.mpr fun mem => absent ?_
  obtain ⟨entry, present, unit⟩ := List.mem_flatMap.mp mem
  rw [List.eq_of_mem_replicate unit]
  exact List.mem_map_of_mem present

/-- With one node per executor, an executor's free slots on the ring are its node's. -/
theorem count_nodeUnits_of_mem {nodes : Table String (TopologyNode × Nat)}
    (apart : (nodes.map fun entry => entry.2.1.id).Nodup) {entry : String × (TopologyNode × Nat)}
    (mem : entry ∈ nodes) : (nodeUnits nodes).count entry.2.1.id = entry.2.1.availableSlots := by
  induction nodes with
  | nil => cases mem
  | cons first rest ih =>
    rw [List.map_cons, List.nodup_cons] at apart
    rw [count_nodeUnits_cons]
    rcases List.mem_cons.mp mem with rfl | later
    · rw [if_pos rfl, count_nodeUnits_of_not_mem apart.1, Nat.add_zero]
    · have other : first.2.1.id ≠ entry.2.1.id :=
        fun same => apart.1 (same ▸ List.mem_map_of_mem later)
      rw [if_neg other, ih apart.2 later, Nat.zero_add]

theorem TaskSlots.slotsOf_setSlots (taskSlots : TaskSlots) (executorId : String) (slots : Nat)
    (other : String) :
    slotsOf (taskSlots.setSlots executorId slots).entries other =
      (slotsOf taskSlots.entries other).map fun current => if other = executorId then slots else current := by
  simp [TaskSlots.setSlots, TaskSlots.mapSlots, slotsOf_map_slots]

/-- Writing the ring's nodes to their executors' entries, one node per executor:
an executor with a node has its node's free slots. -/
theorem slotsOf_foldl_setSlots (executorId : String) :
    ∀ (nodes : Table String (TopologyNode × Nat)) (taskSlots : TaskSlots),
      (nodes.map fun entry => entry.2.1.id).Nodup →
      slotsOf (nodes.foldl (fun taskSlots entry => taskSlots.setSlots entry.2.1.id entry.2.1.availableSlots)
          taskSlots).entries executorId =
        (slotsOf taskSlots.entries executorId).map fun slots =>
          if executorId ∈ nodes.map (fun entry => entry.2.1.id) then (nodeUnits nodes).count executorId else slots
  | [], taskSlots, _ => by simp
  | entry :: rest, taskSlots, apart => by
    rw [List.map_cons, List.nodup_cons] at apart
    rw [List.foldl_cons, slotsOf_foldl_setSlots executorId rest _ apart.2, TaskSlots.slotsOf_setSlots,
      Option.map_map]
    congr 1
    funext slots
    simp only [Function.comp_apply, List.map_cons, List.mem_cons, count_nodeUnits_cons]
    by_cases same : executorId = entry.2.1.id
    · -- the executor's node is the first, and no later one is its
      subst same
      simp [apart.1, count_nodeUnits_of_not_mem apart.1]
    · simp only [same, Ne.symm same, false_or, if_false, Nat.zero_add]

/-- **The ring's pass, written back.** When the ring binder returns a ring over
the nodes of `get_topology_nodes`, writing the ring's nodes to their executors'
entries leaves each entry less one free slot for each task bound over the ring
to its executor; those are no more than the entry's free slots when it is one
the call may use, and none otherwise. -/
theorem slotsOf_writeRing {state : InMemoryClusterState} {executors : Option (List String)}
    {numReplicas tolerance : Nat} {activeJobs : Table String (JobInfoCache Plan)}
    {getScanFiles : String → Plan → Except BallistaError (List (List (List PartitionedFile)))}
    {hashFunc : String → Key} {hashTasks : List (BoundTask Plan)} {ring : ConsistentHash TopologyNode Key}
    {jobsLeft : Table String (JobInfoCache Plan)}
    (ran : bindTaskConsistentHash ((state.getTopologyNodes executors).map fun entry => entry.2.1) numReplicas
      tolerance activeJobs getScanFiles hashFunc = .ok (hashTasks, some ring, jobsLeft))
    (executorId : String) :
    slotsOf (ring.nodeReplicas.foldl (fun taskSlots entry => taskSlots.setSlots entry.2.1.id entry.2.1.availableSlots)
        state.taskSlots).entries executorId =
      (slotsOf state.taskSlots.entries executorId).map (· - (hashTasks.map Prod.fst).count executorId) ∧
    (hashTasks.map Prod.fst).count executorId ≤
      (slotsOf (availableSlots state.taskSlots.entries executors) executorId).getD 0 := by
  have topology := topologyFrom_getTopologyNodes state executors
  generalize state.getTopologyNodes executors = nodes at topology ran
  have names : ((nodes.map fun entry => entry.2.1).map TopologyNode.name).Nodup := by
    have keyed : (nodes.map fun entry => entry.2.1).map TopologyNode.name = nodes.keys := by
      rw [List.map_map, Table.keys]
      exact List.map_congr_left fun entry mem => topology.named entry mem
    rw [keyed]
    exact topology.distinct
  rcases bindTaskConsistentHash_takes names ran with ⟨-, none⟩ | ⟨ring', same, ids, taken⟩
  · cases none
  cases same
  -- the ring's nodes are the topology's, with their executors
  have ringIds : ring.nodeReplicas.map (fun entry => entry.2.1.id) = nodes.map fun entry => entry.2.1.id := by
    simpa [nodeIds, List.map_map, Function.comp_def] using congrArg (List.map Prod.snd) ids
  rw [List.flatMap_map] at taken
  have counted := taken.count_eq executorId
  rw [List.count_append] at counted
  change _ + _ = (nodeUnits nodes).count executorId at counted
  rw [slotsOf_foldl_setSlots executorId _ _ (ringIds ▸ topology.apart), ringIds]
  by_cases present : executorId ∈ nodes.map fun entry => entry.2.1.id
  · -- the executor's node started with its entry's free slots
    obtain ⟨entry, mem, rfl⟩ := List.mem_map.mp present
    obtain ⟨recorded, asked⟩ := topology.fromEntry entry mem
    have slots : slotsOf state.taskSlots.entries entry.2.1.id = some entry.2.1.availableSlots :=
      slotsOf_of_mem state.taskSlots.distinct recorded
    rw [count_nodeUnits_of_mem topology.apart mem] at counted
    rw [slotsOf_availableSlots state.taskSlots.distinct, slots]
    simp only [present, if_true, Option.map_some, Option.some.injEq, Option.filter_some, asked, Bool.and_true]
    refine ⟨by omega, ?_⟩
    split_ifs <;> simp only [Option.getD_some, Option.getD_none, decide_eq_true_eq] at * <;> omega
  · -- an executor with no node was bound nothing over the ring
    rw [count_nodeUnits_of_not_mem present] at counted
    have none : (hashTasks.map Prod.fst).count executorId = 0 := by omega
    rw [none]
    simp [present]

/-! ## The call with the consistent-hash policy -/

/-- Two passes one after the other take what each took, within the free slots
the first could use, when the second could use only what the first left. -/
theorem add_le_getD_availableSlots {entries entries' : List AvailableTaskSlots}
    {executors : Option (List String)} (distinct : (entries.map AvailableTaskSlots.executorId).Nodup)
    (distinct' : (entries'.map AvailableTaskSlots.executorId).Nodup) {executorId : String} {first second : Nat}
    (taken : slotsOf entries' executorId = (slotsOf entries executorId).map (· - first))
    (firstLe : first ≤ (slotsOf (availableSlots entries executors) executorId).getD 0)
    (secondLe : second ≤ (slotsOf (availableSlots entries' executors) executorId).getD 0) :
    first + second ≤ (slotsOf (availableSlots entries executors) executorId).getD 0 := by
  rw [slotsOf_availableSlots distinct] at firstLe ⊢
  rw [slotsOf_availableSlots distinct', taken] at secondLe
  generalize (executors.map fun executors => executors.contains executorId).getD true = asked
    at firstLe secondLe ⊢
  cases found : slotsOf entries executorId with
  | none =>
    simp only [found, Option.map_none, Option.filter_none, Option.getD_none] at firstLe secondLe ⊢
    omega
  | some slots =>
    simp only [found, Option.map_some, Option.filter_some] at firstLe secondLe ⊢
    cases asked with
    | false => simp only [Bool.and_false, Bool.false_eq_true, if_false, Option.getD_none] at firstLe secondLe ⊢; omega
    | true =>
      -- the second pass could use the executor only if the first left it a slot
      simp only [Bool.and_true, decide_eq_true_eq] at firstLe secondLe ⊢
      split_ifs at firstLe secondLe ⊢ <;> simp only [Option.getD_some, Option.getD_none] at firstLe secondLe ⊢ <;>
        omega

/-- What the call with the consistent-hash policy did, when it returned: the
round-robin pass returned and was written back, and either the ring bound
nothing more, or it returned a ring whose nodes were written back too. -/
theorem bindSchedulableTasks_consistentHash_cases
    (getScanFiles : Plan → Except BallistaError (List (List (List PartitionedFile)))) (hashFunc : String → Key)
    {numReplicas tolerance : Nat} {activeJobs : Table String (JobInfoCache Plan)}
    {executors : Option (List String)} {state after : InMemoryClusterState} {tasks : List (BoundTask Plan)}
    {jobsLeft : Table String (JobInfoCache Plan)}
    (ran : state.bindSchedulableTasks getScanFiles hashFunc (.consistentHash numReplicas tolerance) activeJobs
      executors = (.ok (tasks, jobsLeft), after)) :
    ∃ rrTasks slotsLeft jobs,
      bindTaskRoundRobin (availableSlots state.taskSlots.entries executors) activeJobs (InMemoryClusterState.scansOnce getScanFiles) =
        .ok (rrTasks, slotsLeft, jobs) ∧
      (tasks = rrTasks ∧ after = { state with taskSlots := state.taskSlots.writeBack slotsLeft } ∨
        ∃ hashTasks ring,
          bindTaskConsistentHash
              (({ state with taskSlots := state.taskSlots.writeBack slotsLeft } : InMemoryClusterState).getTopologyNodes
                executors |>.map fun entry => entry.2.1)
              numReplicas tolerance jobs (fun _ plan => getScanFiles plan) hashFunc =
            .ok (hashTasks, some ring, jobsLeft) ∧
          tasks = rrTasks ++ hashTasks ∧
          after = { state with
            taskSlots := ring.nodeReplicas.foldl
              (fun taskSlots entry => taskSlots.setSlots entry.2.1.id entry.2.1.availableSlots)
              (state.taskSlots.writeBack slotsLeft) }) := by
  unfold InMemoryClusterState.bindSchedulableTasks at ran
  dsimp only at ran
  split at ran
  · cases ran
  · rename_i rrTasks slotsLeft jobs rr
    refine ⟨rrTasks, slotsLeft, jobs, rr, ?_⟩
    split at ran
    · cases ran
    · rename_i hashTasks chTopology jobs' hash
      split at ran
      · -- the ring bound nothing: the round-robin pass is all
        cases ran
        exact .inl ⟨rfl, rfl⟩
      · split at ran
        · cases ran
        · rename_i ring
          cases ran
          exact .inr ⟨hashTasks, ring, hash, rfl, rfl⟩

/-- **`bind_schedulable_tasks` with the consistent-hash policy.** When the call
returns, each executor's entry has lost one free slot for each task bound to
it, round robin or over the ring; those are no more than the free slots of its
entry when it is one the call may use (it has a free slot and is of an executor
asked for), and none otherwise. -/
theorem InMemoryClusterState.bindSchedulableTasks_consistentHash_slotsOf
    (getScanFiles : Plan → Except BallistaError (List (List (List PartitionedFile)))) (hashFunc : String → Key)
    {numReplicas tolerance : Nat} {activeJobs : Table String (JobInfoCache Plan)}
    {executors : Option (List String)} {state : InMemoryClusterState} {tasks : List (BoundTask Plan)}
    {jobsLeft : Table String (JobInfoCache Plan)}
    (ran : (state.bindSchedulableTasks getScanFiles hashFunc (.consistentHash numReplicas tolerance) activeJobs
      executors).1 = .ok (tasks, jobsLeft)) (executorId : String) :
    slotsOf (state.bindSchedulableTasks getScanFiles hashFunc (.consistentHash numReplicas tolerance) activeJobs
        executors).2.taskSlots.entries executorId =
      (slotsOf state.taskSlots.entries executorId).map (· - (tasks.map Prod.fst).count executorId) ∧
    (tasks.map Prod.fst).count executorId ≤
      (slotsOf (availableSlots state.taskSlots.entries executors) executorId).getD 0 := by
  generalize bound : state.bindSchedulableTasks getScanFiles hashFunc (.consistentHash numReplicas tolerance)
    activeJobs executors = result at ran ⊢
  obtain ⟨outcome, after⟩ := result
  dsimp only at ran ⊢
  subst ran
  obtain ⟨rrTasks, slotsLeft, jobs, rr, passes⟩ := bindSchedulableTasks_consistentHash_cases getScanFiles hashFunc bound
  -- the round-robin pass, written back
  obtain ⟨kept, taken⟩ := bindWith_takes keepsSlots_roundRobin rr
  obtain ⟨firstSlots, firstLe⟩ := TaskSlots.slotsOf_writeBack kept taken executorId
  rcases passes with ⟨rfl, rfl⟩ | ⟨hashTasks, ring, hash, rfl, rfl⟩
  · exact ⟨firstSlots, firstLe⟩
  · -- then the ring's pass, from the entries the first left
    obtain ⟨secondSlots, secondLe⟩ := slotsOf_writeRing hash executorId
    refine ⟨?_, ?_⟩
    · rw [secondSlots]
      simp only [firstSlots, Option.map_map, List.map_append, List.count_append]
      congr 1
      funext slots
      simp only [Function.comp_apply, Nat.sub_sub]
    · rw [List.map_append, List.count_append]
      exact add_le_getD_availableSlots state.taskSlots.distinct (state.taskSlots.writeBack slotsLeft).distinct
        firstSlots firstLe secondLe

/-- `executor-1`, at `localhost:50051`, registered with two free slots. -/
def oneExecutorState : InMemoryClusterState :=
  InMemoryClusterState.empty.registerExecutor "executor-1" ⟨"localhost", 50051⟩ 2 10

/-- The job of `scanJob` as the only active job, running. -/
def scanJobs : Table String (JobInfoCache ShapePlan) :=
  [("job", ⟨scanJob.graph, some (.running "scheduler")⟩)]

/-- A scan of two files, one for each partition. -/
def twoFileGroups (_ : ShapePlan) : Except BallistaError (List (List (List PartitionedFile))) :=
  .ok [[[⟨"/data/a.parquet"⟩], [⟨"/data/b.parquet"⟩]]]

theorem bindSchedulableTasks_consistentHash_slotsOf_scanJobs :
    ∃ tasks jobsLeft,
      (oneExecutorState.bindSchedulableTasks twoFileGroups id (.consistentHash 1 0) scanJobs none).1 =
        .ok (tasks, jobsLeft) ∧
      ∀ executorId,
        slotsOf (oneExecutorState.bindSchedulableTasks twoFileGroups id (.consistentHash 1 0) scanJobs
            none).2.taskSlots.entries executorId =
          (slotsOf oneExecutorState.taskSlots.entries executorId).map (· - (tasks.map Prod.fst).count executorId) ∧
        (tasks.map Prod.fst).count executorId ≤
          (slotsOf (availableSlots oneExecutorState.taskSlots.entries none) executorId).getD 0 := by
  have returned :
      (oneExecutorState.bindSchedulableTasks twoFileGroups id (.consistentHash 1 0) scanJobs none).1.isOk = true := by
    decide
  obtain ⟨tasks, jobsLeft, ran⟩ : ∃ tasks jobsLeft,
      (oneExecutorState.bindSchedulableTasks twoFileGroups id (.consistentHash 1 0) scanJobs none).1 =
        .ok (tasks, jobsLeft) := by
    cases called : (oneExecutorState.bindSchedulableTasks twoFileGroups id (.consistentHash 1 0) scanJobs none).1 with
    | error fault =>
      rw [called] at returned
      cases returned
    | ok bound => exact ⟨bound.1, bound.2, rfl⟩
  exact ⟨tasks, jobsLeft, ran, InMemoryClusterState.bindSchedulableTasks_consistentHash_slotsOf twoFileGroups id ran⟩

end Cluster

end Ballista
