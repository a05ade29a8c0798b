import Mathlib.Data.List.AList

/-! # Data of the agent server

Registry keys, the replica states of the model store and the messages of the agent
protocol, as `server.go` reads and writes them. The store lies outside the server;
its values are given here as the store interface hands them over.
-/

namespace SeldonCore.Agent

/-- Go's `uint32(r)` on an `int` replica index: the index modulo `2^32`. -/
def uint32 (r : Int) : UInt32 := UInt32.ofNat (r % 4294967296).toNat

/-- A replica's identity, the key of the registry `Server.agents`. -/
structure ServerKey where
  serverName : String
  replicaIdx : UInt32
  deriving DecidableEq, Repr

/-- `store.ModelReplicaState`: every value `server.go` reads or writes. -/
inductive ModelReplicaState where
  | modelReplicaStateUnknown
  | loadRequested
  | loading
  | loaded
  | loadFailed
  | unloadRequested
  | unloading
  | unloaded
  deriving DecidableEq, Repr

/-- What the store records for one replica of one version. -/
structure ReplicaStatus where
  state : ModelReplicaState
  reason : String
  deriving DecidableEq, Repr

/-- Modelled from the spec: one version of a model as `GetModel` hands it over. The
replica table is a map from replica index to status; `entries` is its iteration order. -/
structure ModelVersion where
  /-- `Key()`, and the model that `GetModel()` puts into a command. -/
  name : String
  version : UInt32
  server : String
  replicas : AList (fun _ : Int => ReplicaStatus)

/-- Modelled from the spec: `GetReplicaForState`, the replicas whose recorded state is
`state`, in the table's iteration order. -/
def ModelVersion.getReplicaForState (mv : ModelVersion) (state : ModelReplicaState) :
    List Int :=
  (mv.replicas.entries.filter fun e => e.2.state = state).map Sigma.fst

/-- Modelled from the spec: what `GetModel` returns for a model it holds. -/
structure ModelSnapshot where
  name : String
  versions : List ModelVersion

/-- Modelled from the spec: `GetLatest`, the newest version, the last one tracked. -/
def ModelSnapshot.getLatest (m : ModelSnapshot) : Option ModelVersion :=
  m.versions.getLast?

inductive ModelOperation where
  | loadModel
  | unloadModel
  deriving DecidableEq, Repr

/-- `pb.ModelVersion` inside a command: the model, by its name, and the version. -/
structure ModelVersionRef where
  model : String
  version : UInt32
  deriving DecidableEq, Repr

/-- `pb.ModelOperationMessage`, a command sent down a replica's stream. -/
structure ModelOperationMessage where
  operation : ModelOperation
  modelVersion : ModelVersionRef
  deriving DecidableEq, Repr

/-- `pb.ModelEventMessage_Event`; `other` stands for every further wire value. -/
inductive ModelEvent where
  | loaded
  | unloaded
  | loadFailed
  | loadFailMemory
  | other (value : Int)
  deriving DecidableEq, Repr

structure ModelEventMessage where
  serverName : String
  replicaIdx : UInt32
  modelName : String
  modelVersion : UInt32
  event : ModelEvent
  message : String
  availableMemoryBytes : UInt64
  deriving DecidableEq, Repr

/-- `pb.AgentSubscribeRequest`; the replica config is passed on to the store only. -/
structure AgentSubscribeRequest where
  serverName : String
  replicaIdx : UInt32
  deriving DecidableEq, Repr

/-- The registry key a subscribe request installs. -/
def AgentSubscribeRequest.key (r : AgentSubscribeRequest) : ServerKey :=
  ⟨r.serverName, r.replicaIdx⟩

/-- `AgentSubscriber`: the handler's `finished` channel and its stream, each named by
the connection that owns it. -/
structure AgentSubscriber where
  finished : Nat
  stream : Nat
  deriving DecidableEq, Repr

abbrev Agents := ServerKey → Option AgentSubscriber

end SeldonCore.Agent
