import SeldonCore.Agent.Lock

/-! # A pass run alone is `Sync`

`sync` reads `Server.Sync` top to bottom, as one function; `step` cuts the same pass into
atomic actions so that the other goroutines can run between them. With nothing run in
between the two agree: the actions of a pass, one for each call of `sync`'s log with that
call's outcome, run to the end whatever the outcomes, make exactly the sends and store
writes the log records, and give back the read lock (`run_pass_alone`).
-/

namespace SeldonCore.Agent

/-- The action of pass `p` that makes a call of `Sync`'s log, with its outcome. -/
def SyncCall.action (p : Nat) : SyncCall × Bool → Action
  | (.send _ _, ok) => .syncSend p ok
  | (.updateModelState .., ok) => .syncUpdate p ok

namespace Sys

/-- What a call of the log does: a successful send puts the command on its stream, a
successful write records the state in the store, and a failed call changes nothing. -/
def applyCall (s : Sys) : SyncCall × Bool → Sys
  | (.send stream msg, true) =>
    { s with streams := Function.update s.streams stream (s.streams stream ++ [msg]) }
  | (.updateModelState key version _ replicaIdx state, true) =>
    { s with store := s.store.updateModelState key version replicaIdx state "" }
  | (_, false) => s

/-- The calls touch neither the lock nor the passes. -/
theorem foldl_applyCall_with (calls : List (SyncCall × Bool)) (s : Sys) (readers : Nat)
    (passes : List Pass) :
    calls.foldl applyCall { s with readers := readers, passes := passes } =
      { calls.foldl applyCall s with readers := readers, passes := passes } := by
  induction calls generalizing s with
  | nil => rfl
  | cons c calls ih =>
    rw [List.foldl_cons, List.foldl_cons, ← ih]
    obtain ⟨_ | _, _ | _⟩ := c <;> rfl

@[simp] theorem readers_foldl_applyCall (calls : List (SyncCall × Bool)) (s : Sys) :
    (calls.foldl applyCall s).readers = s.readers := by
  induction calls generalizing s with
  | nil => rfl
  | cons c calls ih =>
    rw [List.foldl_cons, ih]
    obtain ⟨_ | _, _ | _⟩ := c <;> rfl

end Sys

theorem set_eq_self_of_getElem? {α : Type} {l : List α} {i : Nat} {a : α}
    (h : l[i]? = some a) : l.set i a = l :=
  List.ext_getElem? fun j => by
    by_cases hij : i = j
    · subst hij; rw [h, List.getElem?_set_self (List.getElem?_eq_some_iff.mp h).1]
    · rw [List.getElem?_set_ne hij]

variable {s : Sys} {p : Nat} {m : String} {plan : List SyncTarget}

/-- The actions of one target's calls move pass `p` past the target and do what the
calls say. -/
theorem run_runTarget {t : SyncTarget} {todo : List SyncTarget}
    (hp : s.passes[p]? = some ⟨m, plan, .sending (t :: todo)⟩) (outcome : Nat → Bool)
    (log : List (SyncCall × Bool)) :
    ∃ calls, runTarget outcome log t = log ++ calls ∧
      run s (calls.map (SyncCall.action p)) = some
        { calls.foldl Sys.applyCall s with passes := s.passes.set p ⟨m, plan, .sending todo⟩ } := by
  have hlt := (List.getElem?_eq_some_iff.mp hp).1
  unfold runTarget
  split
  · refine ⟨_, rfl, ?_⟩
    cases outcome (log.length + 1) <;>
      simp [run, SyncCall.action, SyncTarget.send, SyncTarget.update, step, hp, hlt,
        Sys.syncSend, Sys.syncUpdate, Sys.applyCall]
  · refine ⟨_, rfl, ?_⟩
    simp [run, SyncCall.action, SyncTarget.send, step, hp, Sys.syncSend, Sys.applyCall, *]

/-- The actions of the calls for targets `ts` move pass `p` past them and do what the
calls say. -/
theorem run_runTargets (outcome : Nat → Bool) (todo : List SyncTarget) :
    ∀ (ts : List SyncTarget) {s : Sys} (log : List (SyncCall × Bool)),
      s.passes[p]? = some ⟨m, plan, .sending (ts ++ todo)⟩ →
      ∃ calls, runTargets outcome ts log = log ++ calls ∧
        run s (calls.map (SyncCall.action p)) = some
          { calls.foldl Sys.applyCall s with passes := s.passes.set p ⟨m, plan, .sending todo⟩ }
  | [], s, log, hp => by
    rw [List.nil_append] at hp
    exact ⟨[], by simp [runTargets], by simp [run, set_eq_self_of_getElem? hp]⟩
  | t :: ts, s, log, hp => by
    rw [List.cons_append] at hp
    obtain ⟨calls₁, h₁, hrun₁⟩ := run_runTarget hp outcome log
    have hp₁ : ({ calls₁.foldl Sys.applyCall s with
        passes := s.passes.set p ⟨m, plan, .sending (ts ++ todo)⟩ } : Sys).passes[p]? =
          some ⟨m, plan, .sending (ts ++ todo)⟩ :=
      List.getElem?_set_self (List.getElem?_eq_some_iff.mp hp).1
    obtain ⟨calls₂, h₂, hrun₂⟩ := run_runTargets outcome todo ts (log ++ calls₁) hp₁
    refine ⟨calls₁ ++ calls₂, by rw [runTargets_cons, h₁, h₂, List.append_assoc], ?_⟩
    rw [List.map_append, run_append, hrun₁, Option.some_bind, hrun₂]
    simp only [Sys.foldl_applyCall_with, List.foldl_append, List.set_set,
      Sys.readers_foldl_applyCall]

/-- Run with no other thread in between, the pass `p` over model `m` is `Sync` on the model
it reads: whatever the outcomes of its calls, the actions for the calls of `sync`'s log
run to the end, make the sends and store writes of the log and nothing else, release the
read lock and leave the pass done with the plan of the registry. -/
theorem run_pass_alone (hp : s.passes[p]? = some ⟨m, plan, .spawned⟩) {model : ModelSnapshot}
    (hm : s.store.getModel m = some model) (outcome : Nat → Bool) :
    run s (.syncStart p none ::
        ((sync s.agents (.ok (some model)) outcome).map (SyncCall.action p) ++ [.syncFinish p])) =
      some { (sync s.agents (.ok (some model)) outcome).foldl Sys.applyCall s with
        passes := s.passes.set p ⟨m, syncTargets s.agents model, .done⟩ } := by
  have hlt := (List.getElem?_eq_some_iff.mp hp).1
  have hstart : step s (.syncStart p none) = some (s.syncStart p m none) := by simp [step, hp]
  have hp₀ : (s.syncStart p m none).passes[p]? =
      some ⟨m, syncTargets s.agents model, .sending (syncTargets s.agents model ++ [])⟩ := by
    simp [Sys.syncStart, Sys.readPlan, hm, Sys.startedPass, hlt]
  obtain ⟨calls, hcalls, hrun⟩ := run_runTargets outcome [] _ [] hp₀
  rw [List.nil_append] at hcalls
  rw [sync_eq_runTargets, hcalls, run, hstart, Option.some_bind, run_append, hrun,
    Option.some_bind]
  simp [run, step, Sys.syncStart, Sys.syncFinish, Sys.readPlan, hm, Sys.startedPass, hlt,
    Sys.foldl_applyCall_with]

/-- Replica `serverA:0` connects and an event for `iris` starts a pass; run alone with
every call succeeding, the pass is `Sync` on the model the store holds. -/
theorem run_pass_alone_iris :
    ∃ s model, run (Sys.init irisStore)
        [.subscribe ⟨"serverA", 0⟩, .syncMessage 0 none none, .listen "iris"] = some s ∧
      (s.passes[0]? = some ⟨"iris", [], .spawned⟩ ∧ s.store.getModel "iris" = some model ∧
        run s (.syncStart 0 none :: ((sync s.agents (.ok (some model)) fun _ => true).map
            (SyncCall.action 0) ++ [.syncFinish 0])) =
          some { (sync s.agents (.ok (some model)) fun _ => true).foldl Sys.applyCall s with
            passes := s.passes.set 0 ⟨"iris", syncTargets s.agents model, .done⟩ }) := by
  have h : (run (Sys.init irisStore)
      [.subscribe ⟨"serverA", 0⟩, .syncMessage 0 none none, .listen "iris"]).map
        (fun s => (s.passes[0]?, (s.store.getModel "iris").isSome)) =
      some (some ⟨"iris", [], .spawned⟩, true) := by decide
  obtain ⟨s, hrun, hs⟩ := Option.map_eq_some'.mp h
  obtain ⟨hp, hm⟩ := Prod.mk.inj hs
  obtain ⟨model, hmodel⟩ := Option.isSome_iff_exists.mp hm
  exact ⟨s, model, hrun, hp, hmodel, run_pass_alone hp hmodel _⟩

end SeldonCore.Agent
