import Ballista.Scheduler.QueryStages
import Ballista.Scheduler.StageKeys

/-! # The graph of a planned job

`ExecutionGraph::new` hands the stages `plan_query_stages` cut out of a plan to
`ExecutionStageBuilder::build`. The builder first visits every stage, giving
each stage an `UnresolvedShuffleExec` reads the visited stage as output link and
the visited stage that stage as a dependency; it then creates each stage with
the links and dependencies recorded for its id. Over stages with distinct ids, a
stage's output links are the stages that read it and its inputs the stages it
reads (`build_links`), so the two agree.

On the stages of the planner, with their `UnresolvedShuffleExec`s visited in
the order of a walk from the root, the graph is keyed by the stage ids one to
the number of stages, a stage only reads stages of lower ids, so the links
have no cycle, and the last stage is the only one no stage reads.
-/

namespace Ballista

section Build

variable {Plan : Type} [StagePlan Plan]

/-- Stage `reader` of `plans` has an `UnresolvedShuffleExec` reading stage `input`. -/
def Reads (plans : List Plan) (reader input : Nat) : Prop :=
  ∃ plan ∈ plans, StagePlan.stageId plan = reader ∧ input ∈ StagePlan.unresolvedShuffleStageIds plan

theorem reads_nil (reader input : Nat) : ¬Reads ([] : List Plan) reader input := by
  rintro ⟨plan, mem, -⟩
  cases mem

theorem reads_cons (plan : Plan) (plans : List Plan) (reader input : Nat) :
    Reads (plan :: plans) reader input ↔
      (input ∈ StagePlan.unresolvedShuffleStageIds plan ∧ reader = StagePlan.stageId plan) ∨
        Reads plans reader input := by
  constructor
  · rintro ⟨found, mem, named, read⟩
    rcases List.mem_cons.mp mem with rfl | later
    · exact .inl ⟨read, named.symm⟩
    · exact .inr ⟨found, later, named, read⟩
  · rintro (⟨read, named⟩ | ⟨found, mem, read⟩)
    · exact ⟨plan, List.mem_cons_self, named.symm, read⟩
    · exact ⟨found, List.mem_cons_of_mem plan mem, read⟩

namespace ExecutionStageBuilder

/-- A stage id pushed onto a list unless it is there already. -/
theorem mem_push_iff {links : List Nat} {stageId other : Nat} :
    other ∈ (if links.contains stageId then links else links ++ [stageId]) ↔
      other ∈ links ∨ other = stageId := by
  split
  · rename_i present
    constructor
    · exact .inl
    · rintro (mem | rfl)
      · exact mem
      · simpa using present
  · simp

/-- The one edge a visited `UnresolvedShuffleExec` adds, in both tables. -/
theorem mem_links_visitUnresolvedShuffle (builder : ExecutionStageBuilder) (input producer reader : Nat) :
    (reader ∈ ((builder.visitUnresolvedShuffle input).outputLinks.get? producer).getD [] ↔
      reader ∈ (builder.outputLinks.get? producer).getD [] ∨
        (producer = input ∧ reader = builder.currentStageId)) ∧
    (producer ∈ ((builder.visitUnresolvedShuffle input).stageDependencies.get? reader).getD [] ↔
      producer ∈ (builder.stageDependencies.get? reader).getD [] ∨
        (producer = input ∧ reader = builder.currentStageId)) := by
  simp only [visitUnresolvedShuffle, Table.get?_upsert]
  constructor
  · by_cases same : producer = input
    · subst same
      rw [if_pos rfl, Option.getD_some, mem_push_iff]
      simp
    · simp [same]
  · by_cases same : reader = builder.currentStageId
    · subst same
      rw [if_pos rfl, Option.getD_some, mem_push_iff]
      simp
    · simp [same]

/-- Visiting the `UnresolvedShuffleExec`s of one stage adds an edge from each
stage they read to the visited stage. -/
theorem mem_links_visitUnresolvedShuffles (inputs : List Nat) :
    ∀ (builder : ExecutionStageBuilder) (producer reader : Nat),
      (reader ∈ ((inputs.foldl visitUnresolvedShuffle builder).outputLinks.get? producer).getD [] ↔
        reader ∈ (builder.outputLinks.get? producer).getD [] ∨
          (producer ∈ inputs ∧ reader = builder.currentStageId)) ∧
      (producer ∈ ((inputs.foldl visitUnresolvedShuffle builder).stageDependencies.get? reader).getD [] ↔
        producer ∈ (builder.stageDependencies.get? reader).getD [] ∨
          (producer ∈ inputs ∧ reader = builder.currentStageId)) := by
  induction inputs with
  | nil => simp
  | cons input rest ih =>
    intro builder producer reader
    -- the visit keeps the visited stage, so every edge of the rest ends there too
    obtain ⟨linked, depends⟩ := ih (builder.visitUnresolvedShuffle input) producer reader
    obtain ⟨linkedHead, dependsHead⟩ := mem_links_visitUnresolvedShuffle builder input producer reader
    rw [List.foldl_cons, linked, depends, linkedHead, dependsHead]
    have kept : (builder.visitUnresolvedShuffle input).currentStageId = builder.currentStageId := rfl
    simp only [kept, List.mem_cons, or_and_right, or_assoc, and_self]

/-- Visiting stages adds an edge for each stage an `UnresolvedShuffleExec`
reads to the stage it stands in. -/
theorem mem_links_visitStages (plans : List Plan) :
    ∀ (builder : ExecutionStageBuilder) (producer reader : Nat),
      (reader ∈ ((plans.foldl visitStage builder).outputLinks.get? producer).getD [] ↔
        reader ∈ (builder.outputLinks.get? producer).getD [] ∨ Reads plans reader producer) ∧
      (producer ∈ ((plans.foldl visitStage builder).stageDependencies.get? reader).getD [] ↔
        producer ∈ (builder.stageDependencies.get? reader).getD [] ∨ Reads plans reader producer) := by
  induction plans with
  | nil => simp [reads_nil]
  | cons plan rest ih =>
    intro builder producer reader
    obtain ⟨linked, depends⟩ := ih (builder.visitStage plan) producer reader
    obtain ⟨linkedHead, dependsHead⟩ := mem_links_visitUnresolvedShuffles
      (StagePlan.unresolvedShuffleStageIds plan) { builder with currentStageId := StagePlan.stageId plan }
      producer reader
    rw [List.foldl_cons, linked, depends, visitStage, linkedHead, dependsHead, reads_cons]
    simp only [or_assoc, and_self]

/-- `UnresolvedStage::new` has an input for each child stage. -/
theorem mem_keys_newInputs (childStageIds : List Nat) :
    ∀ (inputs : Table Nat StageOutput) (input : Nat),
      input ∈ (childStageIds.foldl (fun inputs child => inputs.insert child StageOutput.new) inputs).keys ↔
        input ∈ inputs.keys ∨ input ∈ childStageIds := by
  induction childStageIds with
  | nil => simp
  | cons child rest ih =>
    intro inputs input
    rw [List.foldl_cons, ih, Table.mem_keys_insert, List.mem_cons]
    tauto

/-- What `createStage` makes of a plan: the stage at the plan's id, with the
output links and dependencies recorded for the id, which it takes out of the
builder. -/
theorem createStage_spec (builder : ExecutionStageBuilder) (stages : Table Nat (ExecutionStage Plan))
    (plan : Plan) :
    ∃ stage, (createStage (builder, stages) plan).2 = stages.insert (StagePlan.stageId plan) stage ∧
      stage.outputLinks = (builder.outputLinks.get? (StagePlan.stageId plan)).getD [] ∧
      (∀ input, input ∈ stage.inputs.keys ↔
        input ∈ (builder.stageDependencies.get? (StagePlan.stageId plan)).getD []) ∧
      (createStage (builder, stages) plan).1 =
        { builder with
          outputLinks := builder.outputLinks.erase (StagePlan.stageId plan),
          stageDependencies := builder.stageDependencies.erase (StagePlan.stageId plan) } := by
  refine ⟨_, rfl, ?_, ?_, rfl⟩
  · split <;> rfl
  · intro input
    split
    · rename_i empty
      rw [List.isEmpty_iff.mp empty]
      simp [ExecutionStage.inputs, ResolvedStage.new, Table.keys]
    · simp only [ExecutionStage.inputs, UnresolvedStage.new]
      rw [mem_keys_newInputs]
      simp [Table.keys]

/-- Creating stages of other ids leaves the stage at a key as it was. -/
theorem get?_createStages_of_not_mem (plans : List Plan) {key : Nat}
    (absent : key ∉ plans.map StagePlan.stageId) :
    ∀ acc : ExecutionStageBuilder × Table Nat (ExecutionStage Plan),
      (plans.foldl createStage acc).2.get? key = acc.2.get? key := by
  induction plans with
  | nil => intro acc; rfl
  | cons plan rest ih =>
    rintro ⟨builder, stages⟩
    rw [List.map_cons, List.mem_cons, not_or] at absent
    obtain ⟨stage, created, -, -, -⟩ := createStage_spec builder stages plan
    rw [List.foldl_cons, ih absent.2, created, Table.get?_insert, if_neg absent.1]

theorem mem_keys_createStages (plans : List Plan) :
    ∀ (acc : ExecutionStageBuilder × Table Nat (ExecutionStage Plan)) (key : Nat),
      key ∈ (plans.foldl createStage acc).2.keys ↔ key ∈ acc.2.keys ∨ key ∈ plans.map StagePlan.stageId := by
  induction plans with
  | nil => simp
  | cons plan rest ih =>
    rintro ⟨builder, stages⟩ key
    obtain ⟨stage, created, -, -, -⟩ := createStage_spec builder stages plan
    rw [List.foldl_cons, ih, created, Table.mem_keys_insert, List.map_cons, List.mem_cons]
    tauto

/-- Creating stages of distinct ids, each stage is found at its id with the
output links and dependencies the builder recorded for it. -/
theorem createStages_spec (plans : List Plan) (distinct : (plans.map StagePlan.stageId).Nodup) :
    ∀ (acc : ExecutionStageBuilder × Table Nat (ExecutionStage Plan)), ∀ plan ∈ plans,
      ∃ stage, (plans.foldl createStage acc).2.get? (StagePlan.stageId plan) = some stage ∧
        stage.outputLinks = (acc.1.outputLinks.get? (StagePlan.stageId plan)).getD [] ∧
        ∀ input, input ∈ stage.inputs.keys ↔
          input ∈ (acc.1.stageDependencies.get? (StagePlan.stageId plan)).getD [] := by
  induction plans with
  | nil => intro _ plan mem; cases mem
  | cons head rest ih =>
    rintro ⟨builder, stages⟩ plan mem
    rw [List.map_cons, List.nodup_cons] at distinct
    obtain ⟨stage, created, linked, inputs, taken⟩ := createStage_spec builder stages head
    rw [List.foldl_cons]
    rcases List.mem_cons.mp mem with rfl | later
    · -- the rest have other ids and leave this stage as it was created
      refine ⟨stage, ?_, linked, inputs⟩
      rw [get?_createStages_of_not_mem rest distinct.1, created, Table.get?_insert_self]
    · -- a later stage finds the builder with only the head's entries taken out
      have other : StagePlan.stageId plan ≠ StagePlan.stageId head :=
        fun same => distinct.1 (same ▸ List.mem_map_of_mem later)
      obtain ⟨found, foundAt, foundLinks, foundInputs⟩ := ih distinct.2 _ plan later
      refine ⟨found, foundAt, ?_, fun input => ?_⟩
      · rw [foundLinks, taken, Table.get?_erase, if_neg other]
      · rw [foundInputs, taken, Table.get?_erase, if_neg other]

/-- `build` over stages of distinct ids: each stage is found at its id, its
output links are the stages that read it and its inputs the stages it reads. -/
theorem build_links (plans : List Plan) (distinct : (plans.map StagePlan.stageId).Nodup) {plan : Plan}
    (mem : plan ∈ plans) :
    ∃ stage, (new.build plans).get? (StagePlan.stageId plan) = some stage ∧
      (∀ reader, reader ∈ stage.outputLinks ↔ Reads plans reader (StagePlan.stageId plan)) ∧
      ∀ input, input ∈ stage.inputs.keys ↔ Reads plans (StagePlan.stageId plan) input := by
  obtain ⟨stage, found, linked, inputs⟩ :=
    createStages_spec plans distinct (plans.foldl visitStage new, []) plan mem
  refine ⟨stage, found, fun reader => ?_, fun input => ?_⟩
  · rw [linked, (mem_links_visitStages plans new _ reader).1]
    simp [new]
  · rw [inputs, (mem_links_visitStages plans new input _).2]
    simp [new]

theorem mem_keys_build (plans : List Plan) (key : Nat) :
    key ∈ (new.build plans).keys ↔ key ∈ plans.map StagePlan.stageId := by
  rw [build, mem_keys_createStages]
  simp [Table.keys]

/-- A stage `build` made over stages of distinct ids is one of theirs, read by
the stages that read its id and reading the stages its id reads. -/
theorem build_get? (plans : List Plan) (distinct : (plans.map StagePlan.stageId).Nodup) {key : Nat}
    {stage : ExecutionStage Plan} (found : (new.build plans).get? key = some stage) :
    key ∈ plans.map StagePlan.stageId ∧ (∀ reader, reader ∈ stage.outputLinks ↔ Reads plans reader key) ∧
      ∀ input, input ∈ stage.inputs.keys ↔ Reads plans key input := by
  have keyed := (mem_keys_build plans key).mp (Table.mem_keys_of_get? found)
  obtain ⟨plan, mem, rfl⟩ := List.mem_map.mp keyed
  obtain ⟨built, foundBuilt, linked, inputs⟩ := build_links plans distinct mem
  rw [found, Option.some.injEq] at foundBuilt
  subst foundBuilt
  exact ⟨keyed, linked, inputs⟩

end ExecutionStageBuilder

/-- The links `build` gives the stages of a job numbered one to `count`: the
graph is keyed by those ids; a stage is an output link of exactly the stages it
reads; a stage reads only stages of lower ids, so the links have no cycle; and
the last stage is the only one no stage reads. -/
structure StagesLinked (table : Table Nat (ExecutionStage Plan)) (count : Nat) : Prop where
  keyed : table.keys.Perm (List.range' 1 count)
  consistent : ∀ producer stage reader readerStage, table.get? producer = some stage →
    table.get? reader = some readerStage → (reader ∈ stage.outputLinks ↔ producer ∈ readerStage.inputs.keys)
  ordered : ∀ reader stage, table.get? reader = some stage → ∀ producer ∈ stage.inputs.keys, producer < reader
  final : ∀ stageId stage, table.get? stageId = some stage → (stage.outputLinks = [] ↔ stageId = count)

end Build

section Planned

variable {Schema Expr : Type}

/-- The planner's stages as the scheduler holds them. A stage is its
`ShuffleWriterExec`: `accept` visits the writer, which sets the stage, then the
`UnresolvedShuffleExec`s of its plan in the order of a walk from the root, the
plan holding no writer of its own. `get_stage_partitions` is the writer's input
partition count. Resolving and rolling back a stage rewrite the writer's input
as `remove_unresolved_shuffles` and `rollback_resolved_shuffles` rewrite the
children of the writer; the optimizer rules are taken to leave a plan as it is. -/
instance : StagePlan (ShuffleWriterExec Schema Expr) where
  stageId writer := writer.stageId
  unresolvedShuffleStageIds writer := (findUnresolvedShuffles writer.plan).map UnresolvedShuffleExec.stageId
  stagePartitions writer := writer.plan.outputPartitioning.partitionCount
  removeUnresolvedShuffles writer partitionLocations :=
    (removedChild partitionLocations writer.plan).map fun plan => { writer with plan }
  joinSelection writer := .ok writer
  aggregateStatistics writer := .ok writer
  rollbackResolvedShuffles writer := (rolledBackChild writer.plan).map fun plan => { writer with plan }

@[simp] theorem stageId_shuffleWriter (writer : ShuffleWriterExec Schema Expr) :
    StagePlan.stageId writer = writer.stageId := rfl

@[simp] theorem unresolvedShuffleStageIds_shuffleWriter (writer : ShuffleWriterExec Schema Expr) :
    StagePlan.unresolvedShuffleStageIds writer =
      (findUnresolvedShuffles writer.plan).map UnresolvedShuffleExec.stageId := rfl

/-- Some stage reads a stage exactly when one of the unresolved shuffles of the
stages names it. -/
theorem exists_reads_iff (stages : List (ShuffleWriterExec Schema Expr)) (producer : Nat) :
    (∃ reader, Reads stages reader producer) ↔
      producer ∈ (stages.flatMap fun stage => findUnresolvedShuffles stage.plan).map
        UnresolvedShuffleExec.stageId := by
  simp only [Reads, stageId_shuffleWriter, unresolvedShuffleStageIds_shuffleWriter, List.mem_map,
    List.mem_flatMap]
  constructor
  · rintro ⟨reader, stage, mem, -, shuffle, read, named⟩
    exact ⟨shuffle, ⟨stage, mem, read⟩, named⟩
  · rintro ⟨shuffle, ⟨stage, mem, read⟩, named⟩
    exact ⟨stage.stageId, stage, mem, rfl, shuffle, read, named⟩

/-- The graph `build` makes of the planner's stages is linked as they read each
other. -/
theorem StagesPlanned.linked {stages : List (ShuffleWriterExec Schema Expr)} (planned : StagesPlanned stages) :
    StagesLinked (ExecutionStageBuilder.new.build stages) stages.length := by
  have ids : stages.map StagePlan.stageId = List.range' 1 stages.length := planned.numbered
  have distinct : (stages.map StagePlan.stageId).Nodup := ids ▸ List.nodup_range'
  constructor
  case keyed =>
    rw [List.perm_ext_iff_of_nodup (ExecutionStageBuilder.build_created _ stages).1 List.nodup_range']
    intro key
    rw [ExecutionStageBuilder.mem_keys_build, ids]
  case consistent =>
    intro producer stage reader readerStage found readerFound
    rw [(ExecutionStageBuilder.build_get? stages distinct found).2.1,
      (ExecutionStageBuilder.build_get? stages distinct readerFound).2.2]
  case ordered =>
    intro reader stage found producer mem
    obtain ⟨writer, written, named, read⟩ :=
      ((ExecutionStageBuilder.build_get? stages distinct found).2.2 producer).mp mem
    rw [stageId_shuffleWriter] at named
    rw [unresolvedShuffleStageIds_shuffleWriter] at read
    obtain ⟨shuffle, shuffleMem, rfl⟩ := List.mem_map.mp read
    rw [← named]
    exact (planned.readEarlier writer written shuffle shuffleMem).1
  case final =>
    -- a stage no stage reads is one no unresolved shuffle names: the last
    intro stageId stage found
    obtain ⟨keyed, linked, -⟩ := ExecutionStageBuilder.build_get? stages distinct found
    rw [ids, List.mem_range'_1] at keyed
    have unread : stage.outputLinks = [] ↔ ¬∃ reader, Reads stages reader stageId := by
      rw [List.eq_nil_iff_forall_not_mem]
      simp only [linked, not_exists]
    rw [unread, exists_reads_iff, planned.readOnce.mem_iff, List.mem_range'_1]
    omega

end Planned

end Ballista
