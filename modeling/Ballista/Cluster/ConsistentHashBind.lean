import Ballista.Cluster.Bind
import Ballista.Core.ConsistentHash

/-! # The consistent-hash binder

`bind_task_consistent_hash` places the executors with free slots on a hash
ring, `num_replicas` virtual nodes each, and walks the running jobs as the
other binders do. For each stage `fetch_running_stage` hands out it asks
`get_scan_files` for the file groups of the stage's scans; a stage with no scan
or more than one is black-listed (`is_skip_consistent_hash`). Otherwise the
runnable partitions go round twice, with no tolerance and then with the given
one: a partition hashes the location of the first file of its file group, and
the node the ring finds for it takes the task and gives up a slot. A stage
where a whole pass bound nothing is black-listed.

The file group of a partition is looked up by the partition's index in the
only scan's groups, which nothing relates to the stage's partition count: a
stage with more partitions than its scan has file groups indexes past them
(`bindTaskConsistentHash_pastFileGroups`).
-/

namespace Ballista

namespace Cluster

open ExceptT ExecutionGraph

/-- `PartitionedFile`, of which the binder reads the location of the object. -/
structure PartitionedFile where
  location : String
  deriving DecidableEq, Repr

/-- `TopologyNode`, without the time it was last seen, which the binder does
not read. -/
structure TopologyNode where
  id : String
  name : String
  availableSlots : Nat
  deriving DecidableEq, Repr

/-- A node takes tasks while it has a free slot. -/
instance : Node TopologyNode where
  name node := node.name
  isValid node := decide (0 < node.availableSlots)

/-- `is_skip_consistent_hash`: the stage scans no files, or scans more than once. -/
def isSkipConsistentHash (scanFiles : List (List (List PartitionedFile))) : Bool :=
  scanFiles.isEmpty || 1 < scanFiles.length

/-- The local state of `bind_task_consistent_hash`: the ring of nodes, the
count `total_slots`, and the tasks bound so far. -/
structure HashBinding (Key Plan : Type) [LinearOrder Key] where
  chTopology : ConsistentHash TopologyNode Key
  totalSlots : Nat
  schedulableTasks : List (BoundTask Plan)

variable {Plan Key : Type} [StagePlan Plan] [LinearOrder Key]

/-- `node.available_slots -= 1` on the node stored under a name. -/
def takeNodeSlot (ch : ConsistentHash TopologyNode Key) (nodeName : String) :
    ConsistentHash TopologyNode Key :=
  { ch with
    nodeReplicas := ch.nodeReplicas.modify nodeName fun (node, numReplicas) =>
      ({ node with availableSlots := node.availableSlots - 1 }, numReplicas) }

/-- One pass of `bind_task_consistent_hash` over the runnable partitions of a
stage, with a tolerance: the first file of each partition's file group is
hashed onto the ring, and the node found takes the task, which caches its data
in the pass without tolerance; `true` when the binder returns, no slot being
left in total. -/
def hashPartitions (jobId sessionId : String) (scanFiles : List (List PartitionedFile))
    (tolerance : Nat) :
    RunningStage Plan → List Nat → HashBinding Key Plan →
      GraphM Plan (Bool × HashBinding Key Plan × RunningStage Plan)
  | stage, [], binding => return (false, binding, stage)
  | stage, partitionId :: rest, binding => do
    let some partitionFiles := scanFiles[partitionId]? | throw (.panic "index out of bounds")
    let fileForHash :: _ := partitionFiles
      | throw (.panic "assertion failed: !partition_files.is_empty()")
    match binding.chTopology.getMutWithTolerance fileForHash.location tolerance with
    | .error message => throw (.panic message)
    | .ok none => hashPartitions jobId sessionId scanFiles tolerance stage rest binding
    | .ok (some nodeName) =>
      match binding.chTopology.nodeReplicas.get? nodeName with
      | none => throw (.panic "called `Option::unwrap()` on a `None` value")
      | some (node, _) =>
        let (task, stage) ←
          bindPartition jobId sessionId (tolerance == 0) stage partitionId node.id
        if node.availableSlots = 0 then throw (.panic "attempt to subtract with overflow")
        else
          let binding := { binding with
            chTopology := takeNodeSlot binding.chTopology nodeName,
            totalSlots := binding.totalSlots - 1,
            schedulableTasks := binding.schedulableTasks ++ [(node.id, task)] }
          if binding.totalSlots = 0 then return (true, binding, stage)
          else hashPartitions jobId sessionId scanFiles tolerance stage rest binding

/-- The passes over a stage, `for tolerance in tolerance_list`, each over the
partitions still waiting. -/
def hashPasses (jobId sessionId : String) (scanFiles : List (List PartitionedFile)) :
    List Nat → RunningStage Plan → HashBinding Key Plan → GraphM Plan (Bool × HashBinding Key Plan)
  | [], _, binding => return (false, binding)
  | tolerance :: rest, stage, binding => do
    let (stopped, binding, stage) ← hashPartitions jobId sessionId scanFiles tolerance stage
      (runnableTasks stage binding.totalSlots) binding
    if stopped then return (true, binding)
    else hashPasses jobId sessionId scanFiles rest stage binding

/-- The loop of `bind_task_consistent_hash` over one job's stages, on fuel, as
`bindStagesFrom` for the other binders: a stage is black-listed when it does
not scan exactly once, or when both passes over it bound nothing. -/
def hashStagesFrom
    (getScanFiles : String → Plan → Except BallistaError (List (List (List PartitionedFile))))
    (jobId sessionId : String) (tolerance : Nat) :
    Nat → List Nat → HashBinding Key Plan → GraphM Plan (Bool × HashBinding Key Plan)
  | 0, _, _ => throw .diverges
  | fuel + 1, blackList, binding => do
    match ← fetchRunningStage blackList with
    | none => return (false, binding)
    | some stage =>
      let scanFiles ← liftError (getScanFiles jobId stage.plan)
      if isSkipConsistentHash scanFiles then
        hashStagesFrom getScanFiles jobId sessionId tolerance fuel (blackList ++ [stage.stageId])
          binding
      else
        let preTotalSlots := binding.totalSlots
        let some scanFiles := scanFiles[0]? | throw (.panic "index out of bounds")
        let (stopped, binding) ← hashPasses jobId sessionId scanFiles [0, tolerance] stage binding
        if stopped then return (true, binding)
        else
          hashStagesFrom getScanFiles jobId sessionId tolerance fuel
            (if preTotalSlots = binding.totalSlots then blackList ++ [stage.stageId] else blackList)
            binding

/-- **`bind_task_consistent_hash`**, with the hash function `ConsistentHash::new`
uses (md5 of the bytes) as a parameter: the tasks bound, the ring with the
slots left, and the jobs as left; no ring when no slot is free. -/
def bindTaskConsistentHash (topologyNodes : List TopologyNode) (numReplicas tolerance : Nat)
    (activeJobs : Table String (JobInfoCache Plan))
    (getScanFiles : String → Plan → Except BallistaError (List (List (List PartitionedFile))))
    (hashFunc : String → Key) :
    Except Fault (List (BoundTask Plan) × Option (ConsistentHash TopologyNode Key) ×
      Table String (JobInfoCache Plan)) :=
  let totalSlots := topologyNodes.foldl (fun acc node => acc + node.availableSlots) 0
  if totalSlots = 0 then .ok ([], none, activeJobs)
  else
    let chTopology :=
      ConsistentHash.newWithHash (topologyNodes.map fun node => (node, numReplicas)) hashFunc
    (bindJobsWith (fun jobId graph binding =>
        hashStagesFrom getScanFiles jobId graph.sessionId tolerance (bindRounds graph + 1) []
          binding)
      activeJobs ⟨chTopology, totalSlots, []⟩).map fun (binding, activeJobs) =>
        (binding.schedulableTasks, some binding.chTopology, activeJobs)

/-- A job of one map stage of two partitions, as `ExecutionGraph::new` builds it. -/
def scanJob : JobRun ShapePlan :=
  JobRun.start "scheduler" "job" "" "session" 2 [⟨1, 2, [], none⟩]

/-- The stage scans once, and its scan has one file group where the stage has
two partitions, as when a repartition stands between the scan and the shuffle
writer: the first partition is bound to `executor-1`, and the second looks up
its file group past the end. -/
theorem bindTaskConsistentHash_pastFileGroups :
    isSkipConsistentHash [[[⟨"/data/a.parquet"⟩]]] = false ∧
    (bindTaskConsistentHash [⟨"executor-1", "localhost:50051", 2⟩] 1 0
        [("job", ⟨scanJob.graph, some (.running "scheduler")⟩)]
        (fun _ _ => .ok [[[⟨"/data/a.parquet"⟩]]]) id).map (fun _ => ()) =
      .error (.panic "index out of bounds") :=
  ⟨rfl, by decide⟩

end Cluster

end Ballista
