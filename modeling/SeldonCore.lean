import SeldonCore.Agent.Types
import SeldonCore.Agent.Store
import SeldonCore.Agent.Sync
import SeldonCore.Agent.System
import SeldonCore.Agent.Registry
import SeldonCore.Agent.Lock
import SeldonCore.Agent.Race
import SeldonCore.Agent.Disconnect
import SeldonCore.Agent.Sequential
import SeldonCore.Dataflow.Kotlin
import SeldonCore.Dataflow.Sources
import SeldonCore.Dataflow.Transformers
import SeldonCore.Dataflow.PipelineSubscriber
import SeldonCore.Dataflow.Topics
import SeldonCore.Dataflow.Retry
import SeldonCore.Dataflow.AppId
import SeldonCore.Cli.Infer
