import SeldonCore.Agent.Store

/-! # `Server.Sync`, one reconciliation pass

`sync` is the pass as `server.go` writes it: a loop over the latest version's
`LoadRequested` replicas, then a loop over every version's `UnloadRequested` replicas,
each body ending early with `continue` on a missing connection or a failed call. Every
collaborator call gets its outcome from `outcome`, indexed by the number of calls made
before it, so any pattern of failures is one choice of `outcome`.

`syncTargets` says which replicas a pass commands, and `runTargets` what it does for each;
`sync_eq_runTargets` identifies the loops with that plan.
-/

namespace SeldonCore.Agent

/-- A call `Sync` makes to a stream or to the store. -/
inductive SyncCall where
  | send (stream : Nat) (msg : ModelOperationMessage)
  | updateModelState (key : String) (version : UInt32) (server : String) (replicaIdx : Int)
      (state : ModelReplicaState)
  deriving DecidableEq, Repr

/-- One body of `Sync`'s loops for replica `replicaIdx` of `mv`, followed by the rest of
the loop: look the replica up, send it `op`, and after a successful send record `next`. -/
def syncReplicas (agents : Agents) (mv : ModelVersion) (op : ModelOperation)
    (next : ModelReplicaState) (outcome : Nat → Bool) :
    List Int → List (SyncCall × Bool) → List (SyncCall × Bool)
  | [], log => log
  | replicaIdx :: rest, log =>
    match agents ⟨mv.server, uint32 replicaIdx⟩ with
    | none => syncReplicas agents mv op next outcome rest log
    | some as =>
      let send := SyncCall.send as.stream ⟨op, ⟨mv.name, mv.version⟩⟩
      if outcome log.length then
        let update := SyncCall.updateModelState mv.name mv.version mv.server replicaIdx next
        syncReplicas agents mv op next outcome rest
          (log ++ [(send, true), (update, outcome (log.length + 1))])
      else syncReplicas agents mv op next outcome rest (log ++ [(send, false)])

/-- `Server.Sync(modelName)` given what `GetModel` returned: the calls it makes, each with
its outcome. -/
def sync (agents : Agents) (model : Except String (Option ModelSnapshot))
    (outcome : Nat → Bool) : List (SyncCall × Bool) :=
  match model with
  | .error _ => []
  | .ok none => []
  | .ok (some model) =>
    let log := match model.getLatest with
      | none => []
      | some latest =>
        syncReplicas agents latest .loadModel .loading outcome
          (latest.getReplicaForState .loadRequested) []
    model.versions.foldl (fun log mv =>
      syncReplicas agents mv .unloadModel .unloading outcome
        (mv.getReplicaForState .unloadRequested) log) log

/-! ## The plan of a pass -/

/-- A replica a pass commands: the stream it found in the registry, the command, and the
store write that follows a successful send. -/
structure SyncTarget where
  stream : Nat
  operation : ModelOperation
  next : ModelReplicaState
  name : String
  version : UInt32
  server : String
  replicaIdx : Int
  deriving DecidableEq, Repr

namespace SyncTarget

def msg (t : SyncTarget) : ModelOperationMessage :=
  ⟨t.operation, ⟨t.name, t.version⟩⟩

def send (t : SyncTarget) : SyncCall :=
  .send t.stream t.msg

def update (t : SyncTarget) : SyncCall :=
  .updateModelState t.name t.version t.server t.replicaIdx t.next

end SyncTarget

/-- The replicas among `replicas` that have a registry entry, as targets. -/
def replicaTargets (agents : Agents) (mv : ModelVersion) (op : ModelOperation)
    (next : ModelReplicaState) (replicas : List Int) : List SyncTarget :=
  replicas.filterMap fun r =>
    (agents ⟨mv.server, uint32 r⟩).map fun as =>
      ⟨as.stream, op, next, mv.name, mv.version, mv.server, r⟩

/-- The connected `LoadRequested` replicas of the latest version. -/
def loadTargets (agents : Agents) (model : ModelSnapshot) : List SyncTarget :=
  match model.getLatest with
  | none => []
  | some latest =>
    replicaTargets agents latest .loadModel .loading (latest.getReplicaForState .loadRequested)

/-- The connected `UnloadRequested` replicas of every version. -/
def unloadTargets (agents : Agents) (model : ModelSnapshot) : List SyncTarget :=
  model.versions.flatMap fun mv =>
    replicaTargets agents mv .unloadModel .unloading (mv.getReplicaForState .unloadRequested)

/-- Every replica a pass over `model` commands, in order. -/
def syncTargets (agents : Agents) (model : ModelSnapshot) : List SyncTarget :=
  loadTargets agents model ++ unloadTargets agents model

/-- The calls for one target, appended to `log`. -/
def runTarget (outcome : Nat → Bool) (log : List (SyncCall × Bool)) (t : SyncTarget) :
    List (SyncCall × Bool) :=
  if outcome log.length then log ++ [(t.send, true), (t.update, outcome (log.length + 1))]
  else log ++ [(t.send, false)]

def runTargets (outcome : Nat → Bool) (targets : List SyncTarget)
    (log : List (SyncCall × Bool)) : List (SyncCall × Bool) :=
  targets.foldl (runTarget outcome) log

theorem replicaTargets_cons (agents : Agents) (mv : ModelVersion) (op : ModelOperation)
    (next : ModelReplicaState) (r : Int) (rest : List Int) :
    replicaTargets agents mv op next (r :: rest) =
      match agents ⟨mv.server, uint32 r⟩ with
      | none => replicaTargets agents mv op next rest
      | some as => ⟨as.stream, op, next, mv.name, mv.version, mv.server, r⟩ ::
          replicaTargets agents mv op next rest := by
  unfold replicaTargets
  cases h : agents ⟨mv.server, uint32 r⟩ <;> simp [List.filterMap_cons, h]

theorem runTargets_cons (outcome : Nat → Bool) (t : SyncTarget) (ts : List SyncTarget)
    (log : List (SyncCall × Bool)) :
    runTargets outcome (t :: ts) log = runTargets outcome ts (runTarget outcome log t) := rfl

theorem syncReplicas_eq_runTargets (agents : Agents) (mv : ModelVersion) (op : ModelOperation)
    (next : ModelReplicaState) (outcome : Nat → Bool) (replicas : List Int)
    (log : List (SyncCall × Bool)) :
    syncReplicas agents mv op next outcome replicas log =
      runTargets outcome (replicaTargets agents mv op next replicas) log := by
  induction replicas generalizing log with
  | nil => rfl
  | cons r rest ih =>
    cases h : agents ⟨mv.server, uint32 r⟩ with
    | none => simpa only [syncReplicas, replicaTargets_cons, h] using ih log
    | some as =>
      simp only [syncReplicas, replicaTargets_cons, h, runTargets_cons, runTarget]
      split <;> exact ih _

theorem runTargets_append (outcome : Nat → Bool) (ts ts' : List SyncTarget)
    (log : List (SyncCall × Bool)) :
    runTargets outcome (ts ++ ts') log = runTargets outcome ts' (runTargets outcome ts log) :=
  List.foldl_append _ _ _ _

/-- The loops of `Sync` carry out the plan `syncTargets`. -/
theorem sync_eq_runTargets (agents : Agents) (model : ModelSnapshot) (outcome : Nat → Bool) :
    sync agents (.ok (some model)) outcome = runTargets outcome (syncTargets agents model) [] := by
  have hvs : ∀ (vs : List ModelVersion) log,
      vs.foldl (fun log mv => syncReplicas agents mv .unloadModel .unloading outcome
        (mv.getReplicaForState .unloadRequested) log) log =
      runTargets outcome (vs.flatMap fun mv => replicaTargets agents mv .unloadModel .unloading
        (mv.getReplicaForState .unloadRequested)) log := by
    intro vs
    induction vs with
    | nil => intro log; rfl
    | cons mv vs ih =>
      intro log
      rw [List.foldl_cons, ih, syncReplicas_eq_runTargets, List.flatMap_cons, runTargets_append]
  simp only [sync, syncTargets, loadTargets, unloadTargets, runTargets_append, hvs]
  cases model.getLatest <;> simp [syncReplicas_eq_runTargets, runTargets]

/-! ## What a pass does for each target -/

/-- The calls `Sync` makes for one target: its send and, only after a successful send,
the store write. -/
def SyncBlock (t : SyncTarget) (calls : List (SyncCall × Bool)) : Prop :=
  calls = [(t.send, false)] ∨ ∃ ok, calls = [(t.send, true), (t.update, ok)]

theorem runTarget_block (outcome : Nat → Bool) (log : List (SyncCall × Bool))
    (t : SyncTarget) : ∃ calls, runTarget outcome log t = log ++ calls ∧ SyncBlock t calls := by
  unfold runTarget SyncBlock
  split
  · exact ⟨_, rfl, .inr ⟨_, rfl⟩⟩
  · exact ⟨_, rfl, .inl rfl⟩

theorem runTargets_blocks (outcome : Nat → Bool) (ts : List SyncTarget)
    (log : List (SyncCall × Bool)) :
    ∃ blocks, runTargets outcome ts log = log ++ blocks.flatten ∧
      List.Forall₂ SyncBlock ts blocks := by
  induction ts generalizing log with
  | nil => exact ⟨[], by simp [runTargets], .nil⟩
  | cons t ts ih =>
    obtain ⟨calls, hc, hb⟩ := runTarget_block outcome log t
    obtain ⟨blocks, hr, hf⟩ := ih (runTarget outcome log t)
    exact ⟨calls :: blocks, by rw [runTargets_cons, hr, hc]; simp, .cons hb hf⟩

theorem mem_replicaTargets {agents : Agents} {mv : ModelVersion} {op : ModelOperation}
    {next : ModelReplicaState} {replicas : List Int} {t : SyncTarget} :
    t ∈ replicaTargets agents mv op next replicas ↔ ∃ r ∈ replicas, ∃ as,
      agents ⟨mv.server, uint32 r⟩ = some as ∧
        t = ⟨as.stream, op, next, mv.name, mv.version, mv.server, r⟩ := by
  simp only [replicaTargets, List.mem_filterMap, Option.map_eq_some']
  constructor
  · rintro ⟨r, hr, as, has, rfl⟩; exact ⟨r, hr, as, has, rfl⟩
  · rintro ⟨r, hr, as, has, rfl⟩; exact ⟨r, hr, as, has, rfl⟩

/-- Only the latest version is loaded, and each command is followed by the state that
names it. -/
theorem syncTargets_operation {agents : Agents} {model : ModelSnapshot} {t : SyncTarget}
    (ht : t ∈ syncTargets agents model) :
    (t.operation = .loadModel ∧ t.next = .loading ∧ ∃ latest, model.getLatest = some latest ∧
        t.name = latest.name ∧ t.version = latest.version ∧ t.server = latest.server) ∨
      (t.operation = .unloadModel ∧ t.next = .unloading) := by
  rcases List.mem_append.mp ht with hl | hu
  · left
    unfold loadTargets at hl
    cases hlat : model.getLatest with
    | none => simp [hlat] at hl
    | some latest =>
      simp only [hlat] at hl
      obtain ⟨r, -, as, -, rfl⟩ := mem_replicaTargets.mp hl
      exact ⟨rfl, rfl, latest, rfl, rfl, rfl, rfl⟩
  · right
    obtain ⟨mv, -, hmv⟩ := List.mem_flatMap.mp hu
    obtain ⟨r, -, as, -, rfl⟩ := mem_replicaTargets.mp hmv
    exact ⟨rfl, rfl⟩

/-- Whatever the outcome of each send and each store write, a `Sync` pass makes, for each
target of `syncTargets` in turn, one send, followed by the store write of `Loading` or
`Unloading` exactly when that send succeeded, and no other call; only the latest version
is ever loaded. -/
theorem sync_commands_each_target_once (agents : Agents) (model : ModelSnapshot)
    (outcome : Nat → Bool) :
    (∃ blocks, sync agents (.ok (some model)) outcome = blocks.flatten ∧
      List.Forall₂ SyncBlock (syncTargets agents model) blocks) ∧
    ∀ t ∈ syncTargets agents model,
      (t.operation = .loadModel ∧ t.next = .loading ∧ ∃ latest, model.getLatest = some latest ∧
          t.name = latest.name ∧ t.version = latest.version ∧ t.server = latest.server) ∨
        (t.operation = .unloadModel ∧ t.next = .unloading) := by
  refine ⟨?_, fun t ht => syncTargets_operation ht⟩
  obtain ⟨blocks, h, hf⟩ := runTargets_blocks outcome (syncTargets agents model) []
  exact ⟨blocks, by rw [sync_eq_runTargets, h, List.nil_append], hf⟩

end SeldonCore.Agent
