import SeldonCore.Agent.Sync

/-! # The agent server among its connections, passes and reports

Every goroutine of `server.go` is a thread of `Sys`: one `Subscribe` handler per
connection, one `Sync` pass per event `ListenForSyncs` received, and `AgentEvent` calls
from the RPC layer. An `Action` is one atomic piece of one thread; `step` performs it, or
returns `none` when the thread is elsewhere or the lock is taken. Critical sections
under `Server.mutext` are single actions. A pass holds the read lock from its
`GetModel` to its return, and the three writer sections wait for no reader.

A pass looks its replicas up once, when it reads the model: the registry cannot change
while it holds the read lock (`agents_step_of_readers_pos`), so this is the code's lookup
inside the loops.
-/

namespace SeldonCore.Agent

/-- Where a `Subscribe` handler is. -/
inductive HandlerPc where
  /-- Its subscriber is in the registry; `syncMessage` is next. -/
  | registered
  /-- Blocked in the `select` loop. -/
  | active
  /-- Took the `ctx.Done()` branch and deleted the registry entry. -/
  | removing
  /-- Calls `Schedule` for each model `RemoveServerReplica` returned. -/
  | scheduling (modelsChanged : List String)
  /-- Returned `err` (`none` for `nil`). -/
  | returned (err : Option String)
  deriving DecidableEq, Repr

structure Handler where
  request : AgentSubscribeRequest
  pc : HandlerPc
  deriving DecidableEq, Repr

/-- A handler that has not yet observed its peer's disconnect nor returned. -/
def Handler.live (h : Handler) : Prop :=
  h.pc = .registered ∨ h.pc = .active

instance (h : Handler) : Decidable h.live :=
  inferInstanceAs (Decidable (_ ∨ _))

/-- Where a `Sync` pass is. -/
inductive PassPc where
  /-- Started by `ListenForSyncs`, before the read lock. -/
  | spawned
  /-- Holds the read lock; the send for the first target is next. -/
  | sending (todo : List SyncTarget)
  /-- The send for `t` succeeded; its `UpdateModelState` is next. -/
  | updating (t : SyncTarget) (todo : List SyncTarget)
  | done
  deriving DecidableEq, Repr

/-- A pass, with the plan it read from the store. -/
structure Pass where
  modelName : String
  plan : List SyncTarget
  pc : PassPc
  deriving DecidableEq, Repr

/-- A call to the store or the scheduler made by a `Subscribe` handler. -/
inductive Call where
  | addServerReplica (request : AgentSubscribeRequest) (err : Option String)
  | scheduleFailedModels (err : Option String)
  | removeServerReplica (serverName : String) (replicaIdx : Int) (ok : Bool)
  | schedule (modelName : String) (ok : Bool)
  deriving DecidableEq, Repr

/-- The server with its collaborators. Connection `c` is `handlers[c]`, its subscriber's
channel and stream are named `c`, and `streams c` is every command sent on that stream.
`registeredLast k` is a history variable: the connection that registered `k` last. -/
structure Sys where
  agents : Agents
  readers : Nat
  store : Store
  streams : Nat → List ModelOperationMessage
  handlers : List Handler
  passes : List Pass
  calls : List Call
  registeredLast : ServerKey → Option Nat

/-- The server as `NewAgentServer` builds it, beside a store. -/
def Sys.init (store : Store) : Sys :=
  ⟨fun _ => none, 0, store, fun _ => [], [], [], [], fun _ => none⟩

/-- `AgentEvent`'s switch from the reported event to the recorded state. -/
def eventState : ModelEvent → ModelReplicaState
  | .loaded => .loaded
  | .unloaded => .unloaded
  | .loadFailed | .loadFailMemory => .loadFailed
  | .other _ => .modelReplicaStateUnknown

/-- `AgentEvent`'s answer on a failed store write: `codes.Internal` with the store's
error. -/
inductive AgentEventError where
  | internal (message : String)
  deriving DecidableEq, Repr

/-- `Server.AgentEvent`: record the reported state; `stored` is the store's answer to the
write, and its error goes back to the replica. -/
def agentEvent (st : Store) (message : ModelEventMessage) (stored : Option String) :
    Store × Except AgentEventError Unit :=
  match stored with
  | none =>
    (st.updateModelState message.modelName message.modelVersion message.replicaIdx.toNat
      (eventState message.event) message.message, .ok ())
  | some err => (st, .error (.internal err))

inductive Action where
  | subscribe (request : AgentSubscribeRequest)
  | syncMessage (c : Nat) (added scheduled : Option String)
  | finish (c : Nat)
  | disconnect (c : Nat)
  | removeServerReplica (c : Nat) (modelsChanged : List String) (ok : Bool)
  | schedule (c : Nat) (ok : Bool)
  | listen (modelName : String)
  | syncStart (p : Nat) (err : Option String)
  | syncSend (p : Nat) (ok : Bool)
  | syncUpdate (p : Nat) (ok : Bool)
  | syncFinish (p : Nat)
  | agentEvent (message : ModelEventMessage) (stored : Option String)
  deriving DecidableEq, Repr

namespace Sys

/-- `Subscribe` up to its registration: a new connection whose subscriber replaces what
the registry held for the replica. -/
def register (s : Sys) (request : AgentSubscribeRequest) : Sys :=
  let c := s.handlers.length
  { s with
    agents := Function.update s.agents request.key (some ⟨c, c⟩)
    handlers := s.handlers ++ [⟨request, .registered⟩]
    registeredLast := Function.update s.registeredLast request.key (some c) }

/-- Where `Subscribe` goes after `syncMessage` answered `err`: it returns the error, or
enters its `select` loop. -/
def afterSyncMessage : Option String → HandlerPc
  | some err => .returned (some err)
  | none => .active

/-- `syncMessage`: `AddServerReplica`, then `ScheduleFailedModels` if it succeeded; the
handler returns the first error, and goes on to its `select` loop when there is none. -/
def syncMessage (s : Sys) (c : Nat) (request : AgentSubscribeRequest)
    (added scheduled : Option String) : Sys :=
  { s with
    store := if added = none then s.store.addServerReplica request.key else s.store
    calls := s.calls ++ .addServerReplica request added ::
      (if added = none then [.scheduleFailedModels scheduled] else [])
    handlers := s.handlers.set c ⟨request, afterSyncMessage (added.or scheduled)⟩ }

/-- The `<-fin` branch: return without touching the registry. -/
def finish (s : Sys) (c : Nat) (request : AgentSubscribeRequest) : Sys :=
  { s with handlers := s.handlers.set c ⟨request, .returned none⟩ }

/-- The `<-ctx.Done()` branch under the write lock: delete the replica's entry. -/
def disconnect (s : Sys) (c : Nat) (request : AgentSubscribeRequest) : Sys :=
  { s with
    agents := Function.update s.agents request.key none
    handlers := s.handlers.set c ⟨request, .removing⟩ }

/-- `RemoveServerReplica` for the disconnected replica; its error is only logged. -/
def removeServerReplica (s : Sys) (c : Nat) (request : AgentSubscribeRequest)
    (modelsChanged : List String) (ok : Bool) : Sys :=
  { s with
    store := if ok then s.store.removeServerReplica request.key else s.store
    calls := s.calls ++ [.removeServerReplica request.serverName request.replicaIdx.toNat ok]
    handlers := s.handlers.set c ⟨request, .scheduling modelsChanged⟩ }

/-- `Schedule` for the next changed model; its error is only logged. -/
def schedule (s : Sys) (c : Nat) (request : AgentSubscribeRequest) (modelName : String)
    (rest : List String) (ok : Bool) : Sys :=
  { s with
    calls := s.calls ++ [.schedule modelName ok]
    handlers := s.handlers.set c ⟨request, .scheduling rest⟩ }

/-- `ListenForSyncs` receives an event and starts `go s.Sync(modelName)`. -/
def listen (s : Sys) (modelName : String) : Sys :=
  { s with passes := s.passes ++ [⟨modelName, [], .spawned⟩] }

/-- What a pass plans when `GetModel` answers `err` and the store holds `model`: nothing
on an error or a missing model, else `syncTargets` over the registry. -/
def readPlan (agents : Agents) (err : Option String) (model : Option ModelSnapshot) :
    Option (List SyncTarget) :=
  match err with
  | none => model.map (syncTargets agents)
  | some _ => none

/-- The pass after `GetModel`: in its loops over the plan, or returned. -/
def startedPass (modelName : String) : Option (List SyncTarget) → Pass
  | some plan => ⟨modelName, plan, .sending plan⟩
  | none => ⟨modelName, [], .done⟩

/-- `Sync` takes the read lock and calls `GetModel`; on an error or a missing model it
returns at once, releasing the lock. -/
def syncStart (s : Sys) (p : Nat) (modelName : String) (err : Option String) : Sys :=
  let plan := readPlan s.agents err (s.store.getModel modelName)
  { s with
    readers := if plan.isSome then s.readers + 1 else s.readers
    passes := s.passes.set p (startedPass modelName plan) }

/-- `stream.Send` for target `t`; on success the pass goes on to record the new state. -/
def syncSend (s : Sys) (p : Nat) (modelName : String) (plan : List SyncTarget)
    (t : SyncTarget) (todo : List SyncTarget) (ok : Bool) : Sys :=
  { s with
    streams := if ok then Function.update s.streams t.stream (s.streams t.stream ++ [t.msg])
      else s.streams
    passes := s.passes.set p ⟨modelName, plan, if ok then .updating t todo else .sending todo⟩ }

/-- `UpdateModelState` after a successful send; its error is only logged. -/
def syncUpdate (s : Sys) (p : Nat) (modelName : String) (plan : List SyncTarget)
    (t : SyncTarget) (todo : List SyncTarget) (ok : Bool) : Sys :=
  { s with
    store := if ok then s.store.updateModelState t.name t.version t.replicaIdx t.next ""
      else s.store
    passes := s.passes.set p ⟨modelName, plan, .sending todo⟩ }

/-- The loops are over: `Sync` returns and releases the read lock. -/
def syncFinish (s : Sys) (p : Nat) (modelName : String) (plan : List SyncTarget) : Sys :=
  { s with readers := s.readers - 1, passes := s.passes.set p ⟨modelName, plan, .done⟩ }

def agentEvent (s : Sys) (message : ModelEventMessage) (stored : Option String) : Sys :=
  { s with store := (SeldonCore.Agent.agentEvent s.store message stored).1 }

end Sys

/-- One atomic action of one thread, when that thread is there and the lock allows it. -/
def step (s : Sys) : Action → Option Sys
  | .subscribe request => if s.readers = 0 then some (s.register request) else none
  | .syncMessage c added scheduled =>
    match s.handlers[c]? with
    | some ⟨request, .registered⟩ =>
      if s.readers = 0 then some (s.syncMessage c request added scheduled) else none
    | _ => none
  | .finish c =>
    match s.handlers[c]? with
    | some ⟨request, .active⟩ => some (s.finish c request)
    | _ => none
  | .disconnect c =>
    match s.handlers[c]? with
    | some ⟨request, .active⟩ => if s.readers = 0 then some (s.disconnect c request) else none
    | _ => none
  | .removeServerReplica c modelsChanged ok =>
    match s.handlers[c]? with
    | some ⟨request, .removing⟩ => some (s.removeServerReplica c request modelsChanged ok)
    | _ => none
  | .schedule c ok =>
    match s.handlers[c]? with
    | some ⟨request, .scheduling (m :: rest)⟩ => some (s.schedule c request m rest ok)
    | _ => none
  | .listen modelName => some (s.listen modelName)
  | .syncStart p err =>
    match s.passes[p]? with
    | some ⟨modelName, _, .spawned⟩ => some (s.syncStart p modelName err)
    | _ => none
  | .syncSend p ok =>
    match s.passes[p]? with
    | some ⟨modelName, plan, .sending (t :: todo)⟩ =>
      some (s.syncSend p modelName plan t todo ok)
    | _ => none
  | .syncUpdate p ok =>
    match s.passes[p]? with
    | some ⟨modelName, plan, .updating t todo⟩ => some (s.syncUpdate p modelName plan t todo ok)
    | _ => none
  | .syncFinish p =>
    match s.passes[p]? with
    | some ⟨modelName, plan, .sending []⟩ => some (s.syncFinish p modelName plan)
    | _ => none
  | .agentEvent message stored => some (s.agentEvent message stored)

/-- The states the server reaches from `NewAgentServer` over any store, through any
interleaving of its threads. -/
inductive Reachable : Sys → Prop where
  | init (store : Store) : Reachable (Sys.init store)
  | step {s s' : Sys} (a : Action) : Reachable s → step s a = some s' → Reachable s'

def run (s : Sys) : List Action → Option Sys
  | [] => some s
  | a :: as => (step s a).bind fun s' => run s' as

theorem reachable_of_run {s s' : Sys} {as : List Action} (hs : Reachable s)
    (h : run s as = some s') : Reachable s' := by
  induction as generalizing s with
  | nil => cases h; exact hs
  | cons a as ih =>
    obtain ⟨s₁, h₁, h₂⟩ := Option.bind_eq_some.mp h
    exact ih (hs.step a h₁) h₂

theorem run_append (s : Sys) (actions actions' : List Action) :
    run s (actions ++ actions') = (run s actions).bind fun s' => run s' actions' := by
  induction actions generalizing s with
  | nil => rfl
  | cons a actions ih =>
    simp only [List.cons_append, run]
    cases step s a with
    | none => rfl
    | some s₁ => exact ih s₁

end SeldonCore.Agent

namespace SeldonCore.Agent

/-! ## What one action does -/

section Inversion

variable {s s' : Sys}

theorem step_subscribe {request : AgentSubscribeRequest}
    (h : step s (.subscribe request) = some s') : s.readers = 0 ∧ s' = s.register request := by
  simp only [step] at h
  split at h
  · cases h; exact ⟨‹_›, rfl⟩
  · cases h

theorem step_syncMessage {c : Nat} {added scheduled : Option String}
    (h : step s (.syncMessage c added scheduled) = some s') :
    ∃ request, s.handlers[c]? = some ⟨request, .registered⟩ ∧ s.readers = 0 ∧
      s' = s.syncMessage c request added scheduled := by
  simp only [step] at h
  split at h
  · split at h
    · cases h; exact ⟨_, ‹_›, ‹_›, rfl⟩
    · cases h
  · cases h

theorem step_finish {c : Nat} (h : step s (.finish c) = some s') :
    ∃ request, s.handlers[c]? = some ⟨request, .active⟩ ∧ s' = s.finish c request := by
  simp only [step] at h
  split at h
  · cases h; exact ⟨_, ‹_›, rfl⟩
  · cases h

theorem step_disconnect {c : Nat} (h : step s (.disconnect c) = some s') :
    ∃ request, s.handlers[c]? = some ⟨request, .active⟩ ∧ s.readers = 0 ∧
      s' = s.disconnect c request := by
  simp only [step] at h
  split at h
  · split at h
    · cases h; exact ⟨_, ‹_›, ‹_›, rfl⟩
    · cases h
  · cases h

theorem step_removeServerReplica {c : Nat} {modelsChanged : List String} {ok : Bool}
    (h : step s (.removeServerReplica c modelsChanged ok) = some s') :
    ∃ request, s.handlers[c]? = some ⟨request, .removing⟩ ∧
      s' = s.removeServerReplica c request modelsChanged ok := by
  simp only [step] at h
  split at h
  · cases h; exact ⟨_, ‹_›, rfl⟩
  · cases h

theorem step_schedule {c : Nat} {ok : Bool} (h : step s (.schedule c ok) = some s') :
    ∃ request m rest, s.handlers[c]? = some ⟨request, .scheduling (m :: rest)⟩ ∧
      s' = s.schedule c request m rest ok := by
  simp only [step] at h
  split at h
  · cases h; exact ⟨_, _, _, ‹_›, rfl⟩
  · cases h

theorem step_listen {modelName : String} (h : step s (.listen modelName) = some s') :
    s' = s.listen modelName := by
  cases h; rfl

theorem step_syncStart {p : Nat} {err : Option String} (h : step s (.syncStart p err) = some s') :
    ∃ modelName plan, s.passes[p]? = some ⟨modelName, plan, .spawned⟩ ∧
      s' = s.syncStart p modelName err := by
  simp only [step] at h
  split at h
  · cases h; exact ⟨_, _, ‹_›, rfl⟩
  · cases h

theorem step_syncSend {p : Nat} {ok : Bool} (h : step s (.syncSend p ok) = some s') :
    ∃ modelName plan t todo, s.passes[p]? = some ⟨modelName, plan, .sending (t :: todo)⟩ ∧
      s' = s.syncSend p modelName plan t todo ok := by
  simp only [step] at h
  split at h
  · cases h; exact ⟨_, _, _, _, ‹_›, rfl⟩
  · cases h

theorem step_syncUpdate {p : Nat} {ok : Bool} (h : step s (.syncUpdate p ok) = some s') :
    ∃ modelName plan t todo, s.passes[p]? = some ⟨modelName, plan, .updating t todo⟩ ∧
      s' = s.syncUpdate p modelName plan t todo ok := by
  simp only [step] at h
  split at h
  · cases h; exact ⟨_, _, _, _, ‹_›, rfl⟩
  · cases h

theorem step_syncFinish {p : Nat} (h : step s (.syncFinish p) = some s') :
    ∃ modelName plan, s.passes[p]? = some ⟨modelName, plan, .sending []⟩ ∧
      s' = s.syncFinish p modelName plan := by
  simp only [step] at h
  split at h
  · cases h; exact ⟨_, _, ‹_›, rfl⟩
  · cases h

theorem step_agentEvent {message : ModelEventMessage} {stored : Option String}
    (h : step s (.agentEvent message stored) = some s') : s' = s.agentEvent message stored := by
  cases h; rfl

/-- Only a registration and a disconnect change the registry, and both wait for no
reader. -/
theorem agents_step {a : Action} (h : step s a = some s') :
    s'.agents = s.agents ∧ s'.registeredLast = s.registeredLast ∨
      s.readers = 0 ∧ ((∃ request, s' = s.register request) ∨
        ∃ c request, s' = s.disconnect c request) := by
  cases a with
  | subscribe => obtain ⟨hr, rfl⟩ := step_subscribe h; exact .inr ⟨hr, .inl ⟨_, rfl⟩⟩
  | disconnect =>
    obtain ⟨_, -, hr, rfl⟩ := step_disconnect h; exact .inr ⟨hr, .inr ⟨_, _, rfl⟩⟩
  | syncMessage => obtain ⟨_, -, -, rfl⟩ := step_syncMessage h; exact .inl ⟨rfl, rfl⟩
  | finish => obtain ⟨_, -, rfl⟩ := step_finish h; exact .inl ⟨rfl, rfl⟩
  | removeServerReplica => obtain ⟨_, -, rfl⟩ := step_removeServerReplica h; exact .inl ⟨rfl, rfl⟩
  | schedule => obtain ⟨_, _, _, -, rfl⟩ := step_schedule h; exact .inl ⟨rfl, rfl⟩
  | listen => obtain rfl := step_listen h; exact .inl ⟨rfl, rfl⟩
  | syncStart => obtain ⟨_, _, -, rfl⟩ := step_syncStart h; exact .inl ⟨rfl, rfl⟩
  | syncSend => obtain ⟨_, _, _, _, -, rfl⟩ := step_syncSend h; exact .inl ⟨rfl, rfl⟩
  | syncUpdate => obtain ⟨_, _, _, _, -, rfl⟩ := step_syncUpdate h; exact .inl ⟨rfl, rfl⟩
  | syncFinish => obtain ⟨_, _, -, rfl⟩ := step_syncFinish h; exact .inl ⟨rfl, rfl⟩
  | agentEvent => obtain rfl := step_agentEvent h; exact .inl ⟨rfl, rfl⟩

/-- What the pass actions do; every other action leaves the passes, the lock count and
the streams alone. -/
theorem passes_step {a : Action} (h : step s a = some s') :
    (s'.passes = s.passes ∧ s'.readers = s.readers ∧ s'.streams = s.streams) ∨
    (∃ m, s' = s.listen m) ∨
    (∃ p m plan err, s.passes[p]? = some ⟨m, plan, .spawned⟩ ∧ s' = s.syncStart p m err) ∨
    (∃ p m plan t todo ok, s.passes[p]? = some ⟨m, plan, .sending (t :: todo)⟩ ∧
      s' = s.syncSend p m plan t todo ok) ∨
    (∃ p m plan t todo ok, s.passes[p]? = some ⟨m, plan, .updating t todo⟩ ∧
      s' = s.syncUpdate p m plan t todo ok) ∨
    (∃ p m plan, s.passes[p]? = some ⟨m, plan, .sending []⟩ ∧ s' = s.syncFinish p m plan) := by
  cases a with
  | subscribe => obtain ⟨-, rfl⟩ := step_subscribe h; exact .inl ⟨rfl, rfl, rfl⟩
  | disconnect => obtain ⟨_, -, -, rfl⟩ := step_disconnect h; exact .inl ⟨rfl, rfl, rfl⟩
  | syncMessage => obtain ⟨_, -, -, rfl⟩ := step_syncMessage h; exact .inl ⟨rfl, rfl, rfl⟩
  | finish => obtain ⟨_, -, rfl⟩ := step_finish h; exact .inl ⟨rfl, rfl, rfl⟩
  | removeServerReplica =>
    obtain ⟨_, -, rfl⟩ := step_removeServerReplica h; exact .inl ⟨rfl, rfl, rfl⟩
  | schedule => obtain ⟨_, _, _, -, rfl⟩ := step_schedule h; exact .inl ⟨rfl, rfl, rfl⟩
  | agentEvent => obtain rfl := step_agentEvent h; exact .inl ⟨rfl, rfl, rfl⟩
  | listen => obtain rfl := step_listen h; exact .inr <| .inl ⟨_, rfl⟩
  | syncStart =>
    obtain ⟨_, _, hp, rfl⟩ := step_syncStart h; exact .inr <| .inr <| .inl ⟨_, _, _, _, hp, rfl⟩
  | syncSend =>
    obtain ⟨_, _, _, _, hp, rfl⟩ := step_syncSend h
    exact .inr <| .inr <| .inr <| .inl ⟨_, _, _, _, _, _, hp, rfl⟩
  | syncUpdate =>
    obtain ⟨_, _, _, _, hp, rfl⟩ := step_syncUpdate h
    exact .inr <| .inr <| .inr <| .inr <| .inl ⟨_, _, _, _, _, _, hp, rfl⟩
  | syncFinish =>
    obtain ⟨_, _, hp, rfl⟩ := step_syncFinish h
    exact .inr <| .inr <| .inr <| .inr <| .inr ⟨_, _, _, hp, rfl⟩

/-- While a pass holds the read lock the registry does not move. -/
theorem agents_step_of_readers_pos {a : Action} (h : step s a = some s') (hr : 0 < s.readers) :
    s'.agents = s.agents := by
  rcases agents_step h with h' | ⟨h0, -⟩
  · exact h'.1
  · omega

end Inversion

end SeldonCore.Agent
