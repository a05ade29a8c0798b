import SeldonCore.Agent.Types
import Mathlib.Logic.Function.Basic

/-! # The model store as the agent server uses it

The store is a collaborator of the server, outside `server.go`. It is modelled from the
spec's interface: `GetModel` returns a snapshot or nothing, `UpdateModelState` writes the
given state with no expected prior state, and `AddServerReplica`/`RemoveServerReplica`
change the set of server replicas.
-/

namespace SeldonCore.Agent

/-- Record `status` for replica `r` of the version, replacing what it held. -/
def ModelVersion.setReplica (mv : ModelVersion) (r : Int) (status : ReplicaStatus) :
    ModelVersion :=
  { mv with replicas := mv.replicas.insert r status }

/-- Modelled from the spec: the part of the store the agent server reads and writes. -/
structure Store where
  models : String → Option ModelSnapshot
  serverReplicas : ServerKey → Bool

namespace Store

/-- Modelled from the spec: `GetModel`. -/
def getModel (st : Store) (name : String) : Option ModelSnapshot :=
  st.models name

/-- The version `version` of model `key`, the first one the store lists. -/
def findVersion (st : Store) (key : String) (version : UInt32) : Option ModelVersion :=
  (st.models key).bind fun m => m.versions.find? fun mv => mv.version = version

/-- What the store records for replica `replicaIdx` of a version. -/
def replicaStatus (st : Store) (key : String) (version : UInt32) (replicaIdx : Int) :
    Option ReplicaStatus :=
  (st.findVersion key version).bind fun mv => mv.replicas.lookup replicaIdx

/-- Modelled from the spec: `UpdateModelState` writes `state` for the replica of every
version numbered `version` of model `key`, whatever it held before. The memory figure
it also takes is bookkeeping of the server's capacity, left out here. -/
def updateModelState (st : Store) (key : String) (version : UInt32) (replicaIdx : Int)
    (state : ModelReplicaState) (reason : String) : Store :=
  { st with
    models := Function.update st.models key <| (st.models key).map fun m =>
      { m with versions := m.versions.map fun mv =>
          if mv.version = version then mv.setReplica replicaIdx ⟨state, reason⟩ else mv } }

/-- Modelled from the spec: `AddServerReplica` records the subscribing replica. -/
def addServerReplica (st : Store) (k : ServerKey) : Store :=
  { st with serverReplicas := Function.update st.serverReplicas k true }

/-- Modelled from the spec: `RemoveServerReplica` forgets the replica. The model names it
returns are the store's own answer and are not computed here. -/
def removeServerReplica (st : Store) (k : ServerKey) : Store :=
  { st with serverReplicas := Function.update st.serverReplicas k false }

@[simp] theorem updateModelState_serverReplicas (st : Store) (key version r state reason) :
    (st.updateModelState key version r state reason).serverReplicas = st.serverReplicas :=
  rfl

@[simp] theorem replicaStatus_addServerReplica (st : Store) (k : ServerKey) :
    (st.addServerReplica k).replicaStatus = st.replicaStatus := rfl

@[simp] theorem replicaStatus_removeServerReplica (st : Store) (k : ServerKey) :
    (st.removeServerReplica k).replicaStatus = st.replicaStatus := rfl

end Store

end SeldonCore.Agent
