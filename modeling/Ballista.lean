import Ballista.Lib.Table
import Ballista.Lib.StateExcept
import Ballista.Lib.Interleaving
import Ballista.Core.Serde
import Ballista.Executor.Tasks
import Ballista.Scheduler.Stage
import Ballista.Scheduler.Graph
import Ballista.Scheduler.UpdateTaskStatus
import Ballista.Scheduler.UpdatePhases
import Ballista.Scheduler.StatusFrame
import Ballista.Scheduler.ExecutorLost
import Ballista.Scheduler.Builder
import Ballista.Scheduler.Run
import Ballista.Scheduler.StatusReports
import Ballista.Scheduler.FailedJob
import Ballista.Scheduler.TaskManager
import Ballista.Cluster.Slots
import Ballista.Scheduler.StageKeys
import Ballista.Scheduler.LostExecutorScan
import Ballista.Cache.Driver
import Ballista.Core.Codec
import Ballista.Scheduler.Planner
import Ballista.Scheduler.QueryStages
import Ballista.Scheduler.JobGraph
import Ballista.Scheduler.LostExecutorReset
import Ballista.Scheduler.StageFrame
import Ballista.Scheduler.RerunSchedule
import Ballista.Scheduler.StageRetry
import Ballista.Core.ConsistentHash
import Ballista.Executor.Registry
import Ballista.Cache.Lru
import Ballista.Cluster.Bind
import Ballista.Cluster.ConsistentHashBind
import Ballista.Cluster.Waiting
import Ballista.Cluster.BindSlots
import Ballista.Cluster.BindRuns
import Ballista.Lib.Grouping
import Ballista.Cluster.BindFrame
import Ballista.Cluster.InMemory
import Ballista.Scheduler.ReviveOffers
import Ballista.Cluster.HashSlots
import Ballista.Scheduler.ActiveJobs
import Ballista.Scheduler.EventLoop
import Ballista.Core.Config
