import SeldonCore.Agent.Lock

/-! # No command after a disconnect

The `ctx.Done()` branch of `Subscribe` deletes the replica's registry entry under the write
lock, so it waits until no pass is in its loops, and the entry it deletes is the only one
naming the connection's stream (`EntryInv`). Every later pass plans from the registry. So
once a handler has seen its peer disconnect, no pass sends on its stream again, whatever
the interleaving (`no_send_after_disconnect`).
-/

namespace SeldonCore.Agent

/-- A handler that took the `ctx.Done()` branch. -/
def HandlerPc.disconnected : HandlerPc → Bool
  | .removing | .scheduling _ => true
  | _ => false

@[simp] theorem afterSyncMessage_disconnected (err : Option String) :
    (Sys.afterSyncMessage err).disconnected = false := by
  cases err <;> rfl

/-- Every registry entry names the stream of a connection whose handler subscribed for the
entry's key and has not taken the `ctx.Done()` branch. -/
def EntryInv (s : Sys) : Prop :=
  ∀ k as, s.agents k = some as →
    ∃ h, s.handlers[as.stream]? = some h ∧ h.request.key = k ∧ h.pc.disconnected = false

theorem stream_ne_of_disconnected {s : Sys} (hi : EntryInv s) {c : Nat} {hd : Handler}
    (hc : s.handlers[c]? = some hd) (hdis : hd.pc.disconnected = true) :
    ∀ k as, s.agents k = some as → as.stream ≠ c := by
  rintro k as hk rfl
  obtain ⟨h, hh, -, hnd⟩ := hi k as hk
  rw [hc] at hh
  cases hh
  simp [hdis] at hnd

/-- Setting handler `c` to one with the same request, disconnected only if the old one
was, keeps `EntryInv` when the registry stands still. -/
theorem entryInv_set {s s' : Sys} (hi : EntryInv s) {c : Nat} {h x : Handler}
    (hc : s.handlers[c]? = some h) (ha : s'.agents = s.agents)
    (hh : s'.handlers = s.handlers.set c x) (hreq : x.request = h.request)
    (hpc : x.pc.disconnected = true → h.pc.disconnected = true) : EntryInv s' := by
  intro k as hk
  rw [ha] at hk
  obtain ⟨h0, h0c, h0k, h0d⟩ := hi k as hk
  rw [hh]
  by_cases hs : as.stream = c
  · rw [hs, hc] at h0c
    cases h0c
    refine ⟨x, by rw [hs]; exact List.getElem?_set_self (List.getElem?_eq_some_iff.mp hc).1,
      hreq ▸ h0k, ?_⟩
    cases hx : x.pc.disconnected
    · rfl
    · simp [hpc hx] at h0d
  · exact ⟨h0, by rw [List.getElem?_set_ne (Ne.symm hs)]; exact h0c, h0k, h0d⟩

theorem entryInv_step {s s' : Sys} {a : Action} (hi : EntryInv s) (h : step s a = some s') :
    EntryInv s' := by
  cases a with
  | subscribe request =>
    obtain ⟨-, rfl⟩ := step_subscribe h
    intro k as hk
    by_cases hkr : k = request.key
    · subst hkr
      simp only [Sys.register, Function.update_same, Option.some.injEq] at hk
      subst hk
      exact ⟨_, List.getElem?_concat_length _ _, rfl, rfl⟩
    · simp only [Sys.register, Function.update_noteq hkr] at hk
      obtain ⟨h0, h0c, h0k, h0d⟩ := hi k as hk
      refine ⟨h0, ?_, h0k, h0d⟩
      rw [Sys.register, List.getElem?_append_left (List.getElem?_eq_some_iff.mp h0c).1]
      exact h0c
  | syncMessage c added scheduled =>
    obtain ⟨request, hc, -, rfl⟩ := step_syncMessage h
    exact entryInv_set hi hc rfl rfl rfl (by simp)
  | finish c =>
    obtain ⟨request, hc, rfl⟩ := step_finish h
    exact entryInv_set hi hc rfl rfl rfl (by simp [HandlerPc.disconnected])
  | disconnect c =>
    obtain ⟨request, hc, -, rfl⟩ := step_disconnect h
    intro k as hk
    by_cases hkr : k = request.key
    · subst hkr; simp [Sys.disconnect] at hk
    · simp only [Sys.disconnect, Function.update_noteq hkr] at hk
      obtain ⟨h0, h0c, h0k, h0d⟩ := hi k as hk
      have hs : as.stream ≠ c := by
        rintro rfl
        rw [hc] at h0c
        cases h0c
        exact hkr h0k.symm
      exact ⟨h0, by rw [Sys.disconnect, List.getElem?_set_ne (Ne.symm hs)]; exact h0c, h0k, h0d⟩
  | removeServerReplica c modelsChanged ok =>
    obtain ⟨request, hc, rfl⟩ := step_removeServerReplica h
    exact entryInv_set hi hc rfl rfl rfl fun _ => rfl
  | schedule c ok =>
    obtain ⟨request, m, rest, hc, rfl⟩ := step_schedule h
    exact entryInv_set hi hc rfl rfl rfl fun _ => rfl
  | listen => obtain rfl := step_listen h; exact hi
  | syncStart => obtain ⟨_, _, -, rfl⟩ := step_syncStart h; exact hi
  | syncSend => obtain ⟨_, _, _, _, -, rfl⟩ := step_syncSend h; exact hi
  | syncUpdate => obtain ⟨_, _, _, _, -, rfl⟩ := step_syncUpdate h; exact hi
  | syncFinish => obtain ⟨_, _, -, rfl⟩ := step_syncFinish h; exact hi
  | agentEvent => obtain rfl := step_agentEvent h; exact hi

theorem entryInv_of_reachable {s : Sys} (hs : Reachable s) : EntryInv s := by
  induction hs with
  | init store => intro k as h; cases h
  | step a _ h ih => exact entryInv_step ih h

/-! ## A disconnected handler and its stream -/

theorem disconnected_set {handlers : List Handler} {c c' : Nat} {hd y x : Handler}
    (hc : handlers[c]? = some hd) (hdis : hd.pc.disconnected = true)
    (hc' : handlers[c']? = some y) (hx : y.pc.disconnected = true → x.pc.disconnected = true) :
    ∃ hd', (handlers.set c' x)[c]? = some hd' ∧ hd'.pc.disconnected = true := by
  by_cases he : c' = c
  · subst he
    rw [hc] at hc'
    cases hc'
    exact ⟨x, List.getElem?_set_self (List.getElem?_eq_some_iff.mp hc).1, hx hdis⟩
  · exact ⟨hd, by rw [List.getElem?_set_ne he]; exact hc, hdis⟩

/-- A handler that took the `ctx.Done()` branch stays in it. -/
theorem disconnected_step {s s' : Sys} {a : Action} (h : step s a = some s') {c : Nat}
    {hd : Handler} (hc : s.handlers[c]? = some hd) (hdis : hd.pc.disconnected = true) :
    ∃ hd', s'.handlers[c]? = some hd' ∧ hd'.pc.disconnected = true := by
  cases a with
  | subscribe request =>
    obtain ⟨-, rfl⟩ := step_subscribe h
    refine ⟨hd, ?_, hdis⟩
    rw [Sys.register, List.getElem?_append_left (List.getElem?_eq_some_iff.mp hc).1]
    exact hc
  | syncMessage c' =>
    obtain ⟨_, hc', -, rfl⟩ := step_syncMessage h
    exact disconnected_set hc hdis hc' (by simp [HandlerPc.disconnected])
  | finish c' =>
    obtain ⟨_, hc', rfl⟩ := step_finish h
    exact disconnected_set hc hdis hc' (by simp [HandlerPc.disconnected])
  | disconnect c' =>
    obtain ⟨_, hc', -, rfl⟩ := step_disconnect h
    exact disconnected_set hc hdis hc' (by simp [HandlerPc.disconnected])
  | removeServerReplica c' =>
    obtain ⟨_, hc', rfl⟩ := step_removeServerReplica h
    exact disconnected_set hc hdis hc' fun _ => rfl
  | schedule c' =>
    obtain ⟨_, _, _, hc', rfl⟩ := step_schedule h
    exact disconnected_set hc hdis hc' fun _ => rfl
  | listen => obtain rfl := step_listen h; exact ⟨hd, hc, hdis⟩
  | syncStart => obtain ⟨_, _, -, rfl⟩ := step_syncStart h; exact ⟨hd, hc, hdis⟩
  | syncSend => obtain ⟨_, _, _, _, -, rfl⟩ := step_syncSend h; exact ⟨hd, hc, hdis⟩
  | syncUpdate => obtain ⟨_, _, _, _, -, rfl⟩ := step_syncUpdate h; exact ⟨hd, hc, hdis⟩
  | syncFinish => obtain ⟨_, _, -, rfl⟩ := step_syncFinish h; exact ⟨hd, hc, hdis⟩
  | agentEvent => obtain rfl := step_agentEvent h; exact ⟨hd, hc, hdis⟩

/-- A step from a reachable state sends nothing on the stream of a connection whose
handler took the `ctx.Done()` branch: a send goes to the next target of a running pass,
which the registry still holds, and the registry names no such stream. -/
theorem streams_step_of_disconnected {s s' : Sys} {a : Action} (hs : Reachable s)
    (h : step s a = some s') {c : Nat} {hd : Handler} (hc : s.handlers[c]? = some hd)
    (hdis : hd.pc.disconnected = true) : s'.streams c = s.streams c := by
  rcases passes_step h with ⟨-, -, hst⟩ | ⟨_, rfl⟩ | ⟨_, _, _, _, -, rfl⟩ |
    ⟨p, m, plan, t, todo, ok, hp, rfl⟩ | ⟨_, _, _, _, _, _, -, rfl⟩ | ⟨_, _, _, -, rfl⟩
  · exact congrFun hst c
  · rfl
  · rfl
  · have hreg := (passInvs_of_reachable hs).2.2 _ (List.getElem?_mem hp) t
      (by simp [Pass.todo])
    have hne := stream_ne_of_disconnected (entryInv_of_reachable hs) hc hdis _ _ hreg
    cases ok
    · rfl
    · exact Function.update_noteq (Ne.symm hne) _ _
  · rfl
  · rfl

/-- Once the handler of connection `c` has seen its peer disconnect, no interleaving of the
server's threads sends another command on its stream, and no registry entry names it. -/
theorem no_send_after_disconnect {s : Sys} (hs : Reachable s) {c : Nat} {hd : Handler}
    (hc : s.handlers[c]? = some hd) (hdis : hd.pc.disconnected = true)
    {actions : List Action} {s' : Sys} (hrun : run s actions = some s') :
    s'.streams c = s.streams c ∧ ∀ k as, s'.agents k = some as → as.stream ≠ c := by
  induction actions generalizing s hd with
  | nil =>
    cases hrun
    exact ⟨rfl, stream_ne_of_disconnected (entryInv_of_reachable hs) hc hdis⟩
  | cons a actions ih =>
    obtain ⟨s₁, h₁, h₂⟩ := Option.bind_eq_some.mp hrun
    obtain ⟨hd₁, hc₁, hdis₁⟩ := disconnected_step h₁ hc hdis
    obtain ⟨hst, hent⟩ := ih (hs.step a h₁) hc₁ hdis₁ h₂
    exact ⟨hst.trans (streams_step_of_disconnected hs h₁ hc hdis), hent⟩

/-- Replica `serverA:0` connects and disconnects, then reconnects on a new connection, and
a pass for `iris` sends its load: the command goes to the new stream, none to the old. -/
theorem no_send_after_disconnect_reconnect :
    ∃ s s', run (Sys.init irisStore)
        [.subscribe ⟨"serverA", 0⟩, .syncMessage 0 none none, .disconnect 0] = some s ∧
      run s [.subscribe ⟨"serverA", 0⟩, .syncMessage 1 none none, .listen "iris",
        .syncStart 0 none, .syncSend 0 true] = some s' ∧
      s'.streams 1 = [⟨.loadModel, ⟨"iris", 1⟩⟩] ∧
      (s'.streams 0 = s.streams 0 ∧ ∀ k as, s'.agents k = some as → as.stream ≠ 0) := by
  have h1 : (run (Sys.init irisStore)
      [.subscribe ⟨"serverA", 0⟩, .syncMessage 0 none none, .disconnect 0]).map
        (fun s => s.handlers[0]?) = some (some ⟨⟨"serverA", 0⟩, .removing⟩) := by decide
  obtain ⟨s, hrun1, hc⟩ := Option.map_eq_some'.mp h1
  have h2 : (run (Sys.init irisStore)
      ([.subscribe ⟨"serverA", 0⟩, .syncMessage 0 none none, .disconnect 0] ++
        [.subscribe ⟨"serverA", 0⟩, .syncMessage 1 none none, .listen "iris",
          .syncStart 0 none, .syncSend 0 true])).map (fun s => s.streams 1) =
      some [⟨.loadModel, ⟨"iris", 1⟩⟩] := by decide
  rw [run_append, hrun1, Option.some_bind] at h2
  obtain ⟨s', hrun2, hs1⟩ := Option.map_eq_some'.mp h2
  exact ⟨s, s', hrun1, hrun2, hs1,
    no_send_after_disconnect (reachable_of_run (.init irisStore) hrun1) hc rfl hrun2⟩

end SeldonCore.Agent
