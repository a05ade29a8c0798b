import SeldonCore.Agent.System

/-! # The registry across reconnects

`Subscribe` installs the new connection's subscriber under the replica's key, replacing
what was there, and the `ctx.Done()` branch deletes the key, whichever subscriber it
holds. So the registry entry for a key is always the latest registration's, but a
superseded connection that disconnects removes it while the newer one is live.
-/

namespace SeldonCore.Agent

/-- Every registry entry is the subscriber of the connection that registered its key
last, with its own channel and stream. -/
def RegistryInv (s : Sys) : Prop :=
  ∀ k as, s.agents k = some as → as.finished = as.stream ∧ s.registeredLast k = some as.stream

theorem registryInv_init (store : Store) : RegistryInv (Sys.init store) := by
  intro k as h; cases h

theorem registryInv_step {s s' : Sys} {a : Action} (hi : RegistryInv s)
    (h : step s a = some s') : RegistryInv s' := by
  intro k as hk
  rcases agents_step h with ⟨ha, hl⟩ | ⟨-, ⟨request, rfl⟩ | ⟨c, request, rfl⟩⟩
  · rw [ha] at hk; rw [hl]; exact hi k as hk
  · by_cases hkr : k = request.key
    · subst hkr
      simp only [Sys.register, Function.update_same, Option.some.injEq] at hk ⊢
      subst hk; exact ⟨rfl, rfl⟩
    · simp only [Sys.register, Function.update_noteq hkr] at hk ⊢
      exact hi k as hk
  · by_cases hkr : k = request.key
    · subst hkr; simp [Sys.disconnect] at hk
    · simp only [Sys.disconnect, Function.update_noteq hkr] at hk
      exact hi k as hk

theorem registryInv_of_reachable {s : Sys} (hs : Reachable s) : RegistryInv s := by
  induction hs with
  | init store => exact registryInv_init store
  | step a _ h ih => exact registryInv_step ih h

/-- In every reachable state an entry holds the stream of the connection that registered
its key last. A disconnect of any connection for the key, superseded or not, is enabled
once no pass holds the read lock and deletes the entry, whichever stream it holds; the
handler then calls `RemoveServerReplica` for the key. -/
theorem registry_entry_is_last_registration :
    (∀ s, Reachable s → ∀ k as, s.agents k = some as → s.registeredLast k = some as.stream) ∧
    (∀ s c request, s.handlers[c]? = some ⟨request, .active⟩ → s.readers = 0 →
      ∃ s', step s (.disconnect c) = some s' ∧ s'.agents request.key = none ∧
        ∀ modelsChanged ok, ∃ s'', step s' (.removeServerReplica c modelsChanged ok) = some s'' ∧
          s''.calls = s.calls ++
            [.removeServerReplica request.serverName request.replicaIdx.toNat ok] ∧
          (ok = true → s''.store.serverReplicas request.key = false)) := by
  refine ⟨fun s hs k as h => (registryInv_of_reachable hs k as h).2, ?_⟩
  intro s c request hc hr
  have hlen : c < s.handlers.length := (List.getElem?_eq_some_iff.mp hc).1
  refine ⟨s.disconnect c request, by simp [step, hc, hr], by simp [Sys.disconnect], ?_⟩
  intro modelsChanged ok
  refine ⟨(s.disconnect c request).removeServerReplica c request modelsChanged ok, ?_, rfl,
    fun hok => ?_⟩
  · simp [step, Sys.disconnect, List.getElem?_set_self hlen]
  · simp [Sys.removeServerReplica, hok, Store.removeServerReplica, Sys.disconnect]

/-! ## A reconnect before the old stream's death -/

/-- A store holding no model and no replica. -/
def emptyStore : Store := ⟨fun _ => none, fun _ => false⟩

/-- Replica `serverA:0` subscribes, subscribes again on a second connection, and then
the first connection's peer goes away. -/
def reconnectTrace : List Action :=
  [.subscribe ⟨"serverA", 0⟩, .syncMessage 0 none none,
   .subscribe ⟨"serverA", 0⟩, .syncMessage 1 none none,
   .disconnect 0, .removeServerReplica 0 [] true]

theorem reconnectTrace_run :
    (run (Sys.init emptyStore) reconnectTrace).map (fun s =>
      (s.agents ⟨"serverA", 0⟩, s.registeredLast ⟨"serverA", 0⟩, s.handlers[1]?,
        s.calls.getLast?)) =
      some (none, some 1, some ⟨⟨"serverA", 0⟩, .active⟩,
        some (.removeServerReplica "serverA" 0 true)) := by
  decide

/-- After `reconnectTrace` the newer connection is live and registered last, yet the
registry has no entry for its replica, and `RemoveServerReplica` ran for it. -/
theorem reconnect_loses_live_entry :
    ¬ ∀ s, Reachable s → ∀ k c h, s.registeredLast k = some c → s.handlers[c]? = some h →
      h.live → ∃ as, s.agents k = some as ∧ as.stream = c := by
  intro hkept
  obtain ⟨s, hrun, hs⟩ := Option.map_eq_some'.mp reconnectTrace_run
  simp only [Prod.mk.injEq] at hs
  obtain ⟨hk, hl, hh, -⟩ := hs
  obtain ⟨as, has, -⟩ := hkept s (reachable_of_run (.init emptyStore) hrun) ⟨"serverA", 0⟩ 1 _
    hl hh (.inr rfl)
  rw [hk] at has
  cases has

end SeldonCore.Agent

namespace SeldonCore.Agent

/-! ## A failed subscribe -/

end SeldonCore.Agent
