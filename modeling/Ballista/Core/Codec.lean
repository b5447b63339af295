import Mathlib.Algebra.GroupWithZero.Nat
import Ballista.Lib.RoundTrip
import Ballista.Core.Plan

/-! # Ballista's plan nodes in protobuf

`BallistaPhysicalExtensionCodec` (`core/src/serde/mod.rs`) writes the three
plan nodes of Ballista's own into a `BallistaPhysicalPlanNode` and reads them
back; DataFusion's `datafusion-proto` writes the rest of a plan, the schemas and
the physical expressions. The messages are modelled as values: `prost`'s byte
encoding, which reads back every message it writes, is left out. Protobuf
`uint32`, `uint64` and `int64` fields are `UInt32`, `UInt64` and `Int64`, and
Rust's `as` casts between them and `usize` are `ofNat` and `toNat`.

A `ShuffleWriterExec` is written without its input plan and work directory; it
is read back over the first of the given inputs, with an empty work directory.
A `ShuffleReaderExec` writes its locations, each through the conversions of
`serde/scheduler/to_proto.rs` and back through those of `from_proto.rs`;
unknown partition statistics are written as `-1`. Under bounds on the numbers
that these casts keep, and with `datafusion-proto` reading back the schemas and
expressions it writes, reading a written node gives the node back
(`tryDecode_tryEncode`).

An executor's metadata is modelled by its id (`Ballista.ExecutorMetadata`):
its host, ports and task slots, which the conversions copy, are left out.
-/

namespace Ballista

namespace Protobuf

/-- `protobuf::PartitionId`. -/
structure PartitionId where
  jobId : String
  stageId : UInt32
  partitionId : UInt32
  deriving DecidableEq, Repr

/-- `protobuf::PartitionStats`, whose `column_stats` the conversions leave empty. -/
structure PartitionStats where
  numRows : Int64
  numBatches : Int64
  numBytes : Int64
  deriving DecidableEq, Repr

/-- `protobuf::ExecutorMetadata`, reduced to the id. -/
structure ExecutorMetadata where
  id : String
  deriving DecidableEq, Repr

/-- `protobuf::PartitionLocation`. -/
structure PartitionLocation where
  mapPartitionId : UInt32
  partitionId : Option PartitionId
  executorMeta : Option ExecutorMetadata
  partitionStats : Option PartitionStats
  path : String
  deriving DecidableEq, Repr

/-- `protobuf::ShuffleReaderPartition`. -/
structure ShuffleReaderPartition where
  location : List PartitionLocation
  deriving DecidableEq, Repr

/-- `datafusion_proto::protobuf::PhysicalHashRepartition`. -/
structure PhysicalHashRepartition (ExprProto : Type) where
  hashExpr : List ExprProto
  partitionCount : UInt64
  deriving DecidableEq, Repr

/-- `protobuf::ShuffleWriterExecNode`, whose `input` the codec leaves empty. -/
structure ShuffleWriterExecNode (ExprProto : Type) where
  jobId : String
  stageId : UInt32
  outputPartitioning : Option (PhysicalHashRepartition ExprProto)
  deriving DecidableEq, Repr

/-- `protobuf::ShuffleReaderExecNode`. -/
structure ShuffleReaderExecNode (SchemaProto : Type) where
  stageId : UInt32
  partition : List ShuffleReaderPartition
  schema : Option SchemaProto
  deriving DecidableEq, Repr

/-- `protobuf::UnresolvedShuffleExecNode`. -/
structure UnresolvedShuffleExecNode (SchemaProto : Type) where
  stageId : UInt32
  schema : Option SchemaProto
  outputPartitionCount : UInt32
  deriving DecidableEq, Repr

/-- `ballista_physical_plan_node::PhysicalPlanType`. -/
inductive PhysicalPlanType (SchemaProto ExprProto : Type) where
  | shuffleWriter (node : ShuffleWriterExecNode ExprProto)
  | shuffleReader (node : ShuffleReaderExecNode SchemaProto)
  | unresolvedShuffle (node : UnresolvedShuffleExecNode SchemaProto)
  deriving DecidableEq, Repr

/-- `protobuf::BallistaPhysicalPlanNode`. -/
structure BallistaPhysicalPlanNode (SchemaProto ExprProto : Type) where
  physicalPlanType : Option (PhysicalPlanType SchemaProto ExprProto)
  deriving DecidableEq, Repr

end Protobuf

/-- `Into<protobuf::PartitionId> for PartitionId`. -/
def PartitionId.toProto (id : PartitionId) : Protobuf.PartitionId :=
  { jobId := id.jobId, stageId := UInt32.ofNat id.stageId, partitionId := UInt32.ofNat id.partitionId }

/-- `Into<PartitionId> for protobuf::PartitionId`. -/
def PartitionId.ofProto (id : Protobuf.PartitionId) : PartitionId :=
  { jobId := id.jobId, stageId := id.stageId.toNat, partitionId := id.partitionId.toNat }

/-- `Into<protobuf::PartitionStats> for PartitionStats`: an unknown statistic is `-1`. -/
def PartitionStats.toProto (stats : PartitionStats) : Protobuf.PartitionStats :=
  let noneValue : Int64 := -1
  { numRows := (stats.numRows.map Int64.ofNat).getD noneValue
    numBatches := (stats.numBatches.map Int64.ofNat).getD noneValue
    numBytes := (stats.numBytes.map Int64.ofNat).getD noneValue }

/-- `foo` of `from_proto.rs`: a negative statistic is an unknown one. -/
def foo (n : Int64) : Option Nat :=
  if n < 0 then none else some n.toUInt64.toNat

/-- `Into<PartitionStats> for protobuf::PartitionStats`. -/
def PartitionStats.ofProto (stats : Protobuf.PartitionStats) : PartitionStats :=
  { numRows := foo stats.numRows, numBatches := foo stats.numBatches, numBytes := foo stats.numBytes }

/-- `Into<protobuf::ExecutorMetadata> for ExecutorMetadata`. -/
def ExecutorMetadata.toProto (metadata : ExecutorMetadata) : Protobuf.ExecutorMetadata :=
  { id := metadata.id }

/-- `Into<ExecutorMetadata> for protobuf::ExecutorMetadata`. -/
def ExecutorMetadata.ofProto (metadata : Protobuf.ExecutorMetadata) : ExecutorMetadata :=
  { id := metadata.id }

/-- `TryInto<protobuf::PartitionLocation> for PartitionLocation`, which never fails. -/
def PartitionLocation.toProto (location : PartitionLocation) : Protobuf.PartitionLocation :=
  { mapPartitionId := UInt32.ofNat location.mapPartitionId
    partitionId := some location.partitionId.toProto
    executorMeta := some location.executorMeta.toProto
    partitionStats := some location.partitionStats.toProto
    path := location.path }

/-- `TryInto<PartitionLocation> for protobuf::PartitionLocation`: each nested
message is required, in the order of the fields. -/
def PartitionLocation.ofProto (location : Protobuf.PartitionLocation) :
    Except BallistaError PartitionLocation :=
  match location.partitionId, location.executorMeta, location.partitionStats with
  | none, _, _ => .error (.general "partition_id in PartitionLocation is missing.")
  | some _, none, _ => .error (.general "executor_meta in PartitionLocation is missing")
  | some _, some _, none => .error (.general "partition_stats in PartitionLocation is missing")
  | some partitionId, some executorMeta, some partitionStats =>
    .ok { mapPartitionId := location.mapPartitionId.toNat
          partitionId := PartitionId.ofProto partitionId
          executorMeta := ExecutorMetadata.ofProto executorMeta
          partitionStats := PartitionStats.ofProto partitionStats
          path := location.path }

/-- How the codec ends without a node: an error, or a panic. -/
inductive CodecFault where
  | error (error : DataFusionError)
  | panic (message : String)
  deriving DecidableEq, Repr

/-- What the codec uses of `datafusion-proto`: schemas and physical
expressions into their messages and back; the expressions are read against the
schema of the operator's input. -/
structure DataFusionProto (Schema Expr SchemaProto ExprProto : Type) where
  /-- `TryFrom<&Schema> for protobuf::Schema`. -/
  schemaToProto : Schema → Except DataFusionError SchemaProto
  /-- `TryFrom<&protobuf::Schema> for Schema`. -/
  schemaOfProto : SchemaProto → Except DataFusionError Schema
  /-- `serialize_physical_expr` with the default extension codec. -/
  serializePhysicalExpr : Expr → Except DataFusionError ExprProto
  /-- `parse_physical_expr`. -/
  parsePhysicalExpr : ExprProto → Schema → Except DataFusionError Expr

namespace DataFusionProto

variable {Schema Expr SchemaProto ExprProto : Type}
  (proto : DataFusionProto Schema Expr SchemaProto ExprProto)

/-- Schemas and their messages. -/
def schemaCodec : Codec Schema SchemaProto DataFusionError :=
  { encode := proto.schemaToProto, decode := proto.schemaOfProto }

/-- Physical expressions and their messages, read against an input schema. -/
def exprCodec (inputSchema : Schema) : Codec Expr ExprProto DataFusionError :=
  { encode := proto.serializePhysicalExpr, decode := (proto.parsePhysicalExpr · inputSchema) }

/-- `datafusion-proto` reads back the schemas and expressions it writes. -/
structure Lawful : Prop where
  schema : proto.schemaCodec.RoundTrips fun _ => True
  expr : ∀ inputSchema, (proto.exprCodec inputSchema).RoundTrips fun _ => True

/-- `convert_required!`: a schema field that must be present. -/
def convertRequired : Option SchemaProto → Except DataFusionError Schema
  | none => .error (.other "Missing required field in protobuf")
  | some schema => proto.schemaOfProto schema

end DataFusionProto

/-- A location through `TryInto` both ways, its errors wrapped as the codec
wraps them. -/
def partitionLocationCodec : Codec PartitionLocation Protobuf.PartitionLocation DataFusionError where
  encode location := .ok location.toProto
  decode location := (PartitionLocation.ofProto location).mapError fun e =>
    .other ("Fail to get partition location due to " ++ e.debug)

/-- The locations of one partition of a `ShuffleReaderExec`. -/
def readerPartitionCodec : Codec (List PartitionLocation) Protobuf.ShuffleReaderPartition DataFusionError where
  encode locations := Protobuf.ShuffleReaderPartition.mk <$> partitionLocationCodec.list.encode locations
  decode partition := partitionLocationCodec.list.decode partition.location

variable {Schema Expr SchemaProto ExprProto : Type}
  (proto : DataFusionProto Schema Expr SchemaProto ExprProto)

/-- The output partitioning of a `ShuffleWriterExec`: a hash partitioning is
written with `serialize_physical_expr`, any other is refused, and
`parse_protobuf_hash_partitioning` reads it back against the writer's input
schema. -/
def hashRepartitionCodec (inputSchema : Schema) :
    Codec (Partitioning Expr) (Protobuf.PhysicalHashRepartition ExprProto) DataFusionError where
  encode
    | .hash exprs partitionCount => do
      let hashExpr ← (proto.exprCodec inputSchema).list.encode exprs
      pure { hashExpr, partitionCount := UInt64.ofNat partitionCount }
    | .roundRobinBatch partitionCount =>
      .error (.other ("physical_plan::to_proto() invalid partitioning for ShuffleWriterExec: " ++
        "Some(RoundRobinBatch(" ++ toString partitionCount ++ "))"))
    | .unknownPartitioning partitionCount =>
      .error (.other ("physical_plan::to_proto() invalid partitioning for ShuffleWriterExec: " ++
        "Some(UnknownPartitioning(" ++ toString partitionCount ++ "))"))
  decode hashPart := do
    let exprs ← (proto.exprCodec inputSchema).list.decode hashPart.hashExpr
    pure (.hash exprs hashPart.partitionCount.toNat)

/-- `BallistaPhysicalExtensionCodec::try_encode`; the text of an unsupported
node's `Debug` is left out of its error. -/
def tryEncode : ExecutionPlan Schema Expr →
    Except CodecFault (Protobuf.BallistaPhysicalPlanNode SchemaProto ExprProto)
  | .shuffleWriter jobId stageId plan _ shuffleOutputPartitioning => do
    let outputPartitioning ← ((hashRepartitionCodec proto plan.schema).option.encode
      shuffleOutputPartitioning).mapError .error
    pure { physicalPlanType := some (.shuffleWriter
      { jobId, stageId := UInt32.ofNat stageId, outputPartitioning }) }
  | .shuffleReader stageId partition schema => do
    let partition ← (readerPartitionCodec.list.encode partition).mapError .error
    let schema ← (proto.schemaToProto schema).mapError .error
    pure { physicalPlanType := some (.shuffleReader
      { stageId := UInt32.ofNat stageId, partition, schema := some schema }) }
  | .unresolvedShuffle stageId schema outputPartitionCount => do
    let schema ← (proto.schemaToProto schema).mapError .error
    pure { physicalPlanType := some (.unresolvedShuffle
      { stageId := UInt32.ofNat stageId, schema := some schema,
        outputPartitionCount := UInt32.ofNat outputPartitionCount }) }
  | _ => .error (.error (.other "unsupported plan type"))

/-- `BallistaPhysicalExtensionCodec::try_decode`, given the decoded message and
the node's inputs. -/
def tryDecode (node : Protobuf.BallistaPhysicalPlanNode SchemaProto ExprProto)
    (inputs : List (ExecutionPlan Schema Expr)) : Except CodecFault (ExecutionPlan Schema Expr) :=
  match node.physicalPlanType with
  | none => .error (.error (.other
      "Could not deserialize BallistaPhysicalPlanNode because it's physical_plan_type is none"))
  | some (.shuffleWriter shuffleWriter) =>
    match inputs with
    -- `inputs[0]`
    | [] => .error (.panic "index out of bounds: the len is 0 but the index is 0")
    | input :: _ => do
      let shuffleOutputPartitioning ← ((hashRepartitionCodec proto input.schema).option.decode
        shuffleWriter.outputPartitioning).mapError .error
      -- the executor fills in the work directory
      pure (.shuffleWriter shuffleWriter.jobId shuffleWriter.stageId.toNat input ""
        shuffleOutputPartitioning)
  | some (.shuffleReader shuffleReader) => do
    let schema ← (proto.convertRequired shuffleReader.schema).mapError .error
    let partitionLocation ← (readerPartitionCodec.list.decode shuffleReader.partition).mapError .error
    pure (.shuffleReader shuffleReader.stageId.toNat partitionLocation schema)
  | some (.unresolvedShuffle unresolvedShuffle) => do
    let schema ← (proto.convertRequired unresolvedShuffle.schema).mapError .error
    pure (.unresolvedShuffle unresolvedShuffle.stageId.toNat schema
      unresolvedShuffle.outputPartitionCount.toNat)

/-- The node as the codec reads it back: a shuffle writer's work directory is empty. -/
def ExecutionPlan.withoutWorkDir : ExecutionPlan Schema Expr → ExecutionPlan Schema Expr
  | .shuffleWriter jobId stageId plan _ partitioning => .shuffleWriter jobId stageId plan "" partitioning
  | node => node

/-- The statistics the proto keeps: each known one below `2^63`. -/
def PartitionStats.Fits (stats : PartitionStats) : Prop :=
  (∀ n ∈ stats.numRows, n < 2 ^ 63) ∧ (∀ n ∈ stats.numBatches, n < 2 ^ 63) ∧
    (∀ n ∈ stats.numBytes, n < 2 ^ 63)

instance (stats : PartitionStats) : Decidable stats.Fits :=
  inferInstanceAs (Decidable (_ ∧ _ ∧ _))

/-- The numbers of a location that the proto keeps: its ids in `u32`, its
statistics below `2^63`. -/
def PartitionLocation.Fits (location : PartitionLocation) : Prop :=
  location.mapPartitionId < UInt32.size ∧ location.partitionId.stageId < UInt32.size ∧
    location.partitionId.partitionId < UInt32.size ∧ location.partitionStats.Fits

instance (location : PartitionLocation) : Decidable location.Fits :=
  inferInstanceAs (Decidable (_ ∧ _ ∧ _ ∧ _))

/-- The partitionings a `ShuffleWriterExec` writes: hash partitionings, their
count in `u64`. -/
def Partitioning.Encodable {Expr : Type} : Partitioning Expr → Prop
  | .hash _ partitionCount => partitionCount < UInt64.size
  | _ => False

/-- The nodes the codec writes, with numbers that the proto's widths keep. -/
def ExecutionPlan.Encodable : ExecutionPlan Schema Expr → Prop
  | .shuffleWriter _ stageId _ _ partitioning =>
    stageId < UInt32.size ∧ ∀ present ∈ partitioning, present.Encodable
  | .shuffleReader stageId partition _ =>
    stageId < UInt32.size ∧ ∀ locations ∈ partition, ∀ location ∈ locations, location.Fits
  | .unresolvedShuffle stageId _ outputPartitionCount =>
    stageId < UInt32.size ∧ outputPartitionCount < UInt32.size
  | _ => False

theorem PartitionId.ofProto_toProto {id : PartitionId} (stage : id.stageId < UInt32.size)
    (partition : id.partitionId < UInt32.size) : PartitionId.ofProto id.toProto = id := by
  simp [PartitionId.ofProto, PartitionId.toProto, UInt32.toNat_ofNat_of_lt' stage,
    UInt32.toNat_ofNat_of_lt' partition]

/-- A statistic below `2^63` is written as a non-negative `i64` and read back. -/
theorem foo_ofNat {n : Nat} (fits : n < 2 ^ 63) : foo (Int64.ofNat n) = some n := by
  have nonnegative : ¬ Int64.ofNat n < 0 := by
    rw [Int64.lt_iff_toInt_lt, Int64.toInt_ofNat_of_lt fits]
    simp
  have reinterpreted : (Int64.ofNat n).toUInt64 = UInt64.ofNat n := rfl
  have wide : n < UInt64.size := Nat.lt_trans fits (by decide)
  simp only [foo, nonnegative, if_false, reinterpreted, UInt64.toNat_ofNat_of_lt' wide]

theorem foo_getD {stat : Option Nat} (fits : ∀ n ∈ stat, n < 2 ^ 63) :
    foo ((stat.map Int64.ofNat).getD (-1)) = stat := by
  cases stat with
  | none => rfl
  | some n => exact foo_ofNat (fits n rfl)

theorem PartitionStats.ofProto_toProto {stats : PartitionStats} (fits : stats.Fits) :
    PartitionStats.ofProto stats.toProto = stats := by
  obtain ⟨rows, batches, bytes⟩ := fits
  simp only [PartitionStats.ofProto, PartitionStats.toProto, foo_getD rows, foo_getD batches,
    foo_getD bytes]

theorem partitionLocation_roundTrips : partitionLocationCodec.RoundTrips PartitionLocation.Fits := by
  rw [Codec.roundTrips_iff]
  intro location fits
  obtain ⟨mapPartition, stage, partition, stats⟩ := fits
  refine ⟨location.toProto, rfl, ?_⟩
  simp [partitionLocationCodec, PartitionLocation.toProto, PartitionLocation.ofProto,
    UInt32.toNat_ofNat_of_lt' mapPartition, PartitionId.ofProto_toProto stage partition,
    PartitionStats.ofProto_toProto stats, ExecutorMetadata.ofProto, ExecutorMetadata.toProto]

theorem readerPartition_roundTrips :
    readerPartitionCodec.RoundTrips fun locations => ∀ location ∈ locations, location.Fits := by
  rw [Codec.roundTrips_iff]
  intro locations fits
  obtain ⟨wire, written, read⟩ :=
    Codec.roundTrips_iff.mp partitionLocation_roundTrips.list locations fits
  refine ⟨⟨wire⟩, ?_, read⟩
  change (Protobuf.ShuffleReaderPartition.mk <$> partitionLocationCodec.list.encode locations) = _
  rw [written]
  rfl

theorem hashRepartition_roundTrips (lawful : proto.Lawful) (inputSchema : Schema) :
    (hashRepartitionCodec proto inputSchema).RoundTrips Partitioning.Encodable := by
  rw [Codec.roundTrips_iff]
  intro partitioning encodable
  cases partitioning with
  | hash exprs partitionCount =>
    obtain ⟨hashExpr, written, read⟩ :=
      Codec.roundTrips_iff.mp (lawful.expr inputSchema).list exprs fun _ _ => trivial
    refine ⟨{ hashExpr, partitionCount := UInt64.ofNat partitionCount }, ?_, ?_⟩
    · simp [hashRepartitionCodec, written]
    · simp [hashRepartitionCodec, read, UInt64.toNat_ofNat_of_lt' encodable]
  | roundRobinBatch _ => cases encodable
  | unknownPartitioning _ => cases encodable

theorem tryDecode_tryEncode (lawful : proto.Lawful) {node : ExecutionPlan Schema Expr}
    (encodable : node.Encodable) :
    (tryEncode proto node >>= fun message => tryDecode proto message node.children) =
      .ok node.withoutWorkDir := by
  cases node with
  | shuffleWriter jobId stageId plan workDir partitioning =>
    obtain ⟨stage, fits⟩ := encodable
    obtain ⟨wire, written, read⟩ :=
      Codec.roundTrips_iff.mp (hashRepartition_roundTrips proto lawful plan.schema).option
        partitioning fits
    simp [tryEncode, tryDecode, written, read, ExecutionPlan.children, ExecutionPlan.withoutWorkDir,
      UInt32.toNat_ofNat_of_lt' stage]
  | shuffleReader stageId partition schema =>
    obtain ⟨stage, fits⟩ := encodable
    obtain ⟨wire, written, read⟩ :=
      Codec.roundTrips_iff.mp readerPartition_roundTrips.list partition fits
    obtain ⟨schemaWire, schemaWritten, schemaRead⟩ :=
      Codec.roundTrips_iff.mp lawful.schema schema trivial
    simp [DataFusionProto.schemaCodec] at schemaWritten schemaRead
    simp [tryEncode, tryDecode, written, read, schemaWritten, schemaRead,
      DataFusionProto.convertRequired, ExecutionPlan.withoutWorkDir, UInt32.toNat_ofNat_of_lt' stage]
  | unresolvedShuffle stageId schema outputPartitionCount =>
    obtain ⟨stage, count⟩ := encodable
    obtain ⟨schemaWire, schemaWritten, schemaRead⟩ :=
      Codec.roundTrips_iff.mp lawful.schema schema trivial
    simp [DataFusionProto.schemaCodec] at schemaWritten schemaRead
    simp [tryEncode, tryDecode, schemaWritten, schemaRead, DataFusionProto.convertRequired,
      ExecutionPlan.withoutWorkDir, UInt32.toNat_ofNat_of_lt' stage, UInt32.toNat_ofNat_of_lt' count]
  | coalescePartitions _ => cases encodable
  | sortPreservingMerge _ => cases encodable
  | repartition _ _ => cases encodable
  | windowAgg _ _ => cases encodable
  | operator _ _ _ _ => cases encodable

/-- A `datafusion-proto` that writes schemas and expressions as themselves. -/
def DataFusionProto.identity (Schema Expr : Type) : DataFusionProto Schema Expr Schema Expr :=
  { schemaToProto := .ok, schemaOfProto := .ok, serializePhysicalExpr := .ok,
    parsePhysicalExpr := fun expr _ => .ok expr }

theorem DataFusionProto.identity_lawful : (DataFusionProto.identity Schema Expr).Lawful :=
  ⟨fun _ _ => rfl, fun _ _ _ => rfl⟩

/-- A reader of stage 2 with two partitions, the first read from one location
with one unknown statistic, the second from none. -/
def sampleReader : ExecutionPlan String Nat :=
  .shuffleReader 2 [[⟨0, ⟨"job", 1, 0⟩, ⟨"executor-1"⟩, ⟨some 10, some 1, none⟩, "/shuffle/1/0"⟩], []]
    "schema"

theorem sampleReader_roundTrip :
    (DataFusionProto.identity String Nat).Lawful ∧ sampleReader.Encodable ∧
      (tryEncode (DataFusionProto.identity String Nat) sampleReader >>= fun message =>
        tryDecode (DataFusionProto.identity String Nat) message sampleReader.children) =
        .ok sampleReader.withoutWorkDir :=
  have encodable : sampleReader.Encodable := by
    simp [sampleReader, ExecutionPlan.Encodable, PartitionLocation.Fits, PartitionStats.Fits,
      UInt32.size]
  ⟨DataFusionProto.identity_lawful, encodable,
    tryDecode_tryEncode _ DataFusionProto.identity_lawful encodable⟩

end Ballista
