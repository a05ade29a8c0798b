import SeldonCore.Agent.Registry
import Mathlib.Algebra.Order.BigOperators.Group.List
import Mathlib.Algebra.Order.Ring.Nat

/-! # The read lock and the plans of the passes

`Sync` holds the read lock of `Server.mutext` from `GetModel` to its return, and every
registry write waits for the lock to be free. The lock count is the number of passes in
their loops (`lockInv_of_reachable`), so while a pass runs the registry stands still, and
the stream a pass planned for a replica is the one its loop would look up
(`plan_matches_registry`).
-/

namespace SeldonCore.Agent

/-- A pass between its `GetModel` and its return, holding the read lock. -/
def PassPc.running : PassPc → Bool
  | .sending _ | .updating _ _ => true
  | _ => false

@[simp] theorem PassPc.running_spawned : PassPc.spawned.running = false := rfl
@[simp] theorem PassPc.running_sending (todo : List SyncTarget) :
    (PassPc.sending todo).running = true := rfl
@[simp] theorem PassPc.running_updating (t : SyncTarget) (todo : List SyncTarget) :
    (PassPc.updating t todo).running = true := rfl
@[simp] theorem PassPc.running_done : PassPc.done.running = false := rfl

/-- The targets a pass has yet to send. -/
def Pass.todo (p : Pass) : List SyncTarget :=
  match p.pc with
  | .sending todo | .updating _ todo => todo
  | _ => []

theorem Pass.todo_eq_nil_of_not_running {p : Pass} (h : p.pc.running = false) : p.todo = [] := by
  unfold Pass.todo
  split <;> simp_all [PassPc.running]

theorem sum_map_set_add {α : Type} (f : α → Nat) (l : List α) (p : Nat) (x y : α)
    (h : l[p]? = some y) : ((l.set p x).map f).sum + f y = (l.map f).sum + f x := by
  induction l generalizing p with
  | nil => simp at h
  | cons z l ih =>
    cases p with
    | zero =>
      simp only [List.getElem?_cons_zero, Option.some.injEq] at h
      subst h; simp only [List.set_cons_zero, List.map_cons, List.sum_cons]; omega
    | succ p =>
      simp only [List.getElem?_cons_succ] at h
      have := ih p h
      simp only [List.set_cons_succ, List.map_cons, List.sum_cons]; omega

/-- Every target of a plan is a registry entry's stream. -/
theorem syncTargets_registered {agents : Agents} {model : ModelSnapshot} {t : SyncTarget}
    (ht : t ∈ syncTargets agents model) :
    ∃ as, agents ⟨t.server, uint32 t.replicaIdx⟩ = some as ∧ as.stream = t.stream := by
  rcases List.mem_append.mp ht with hl | hu
  · unfold loadTargets at hl
    cases hlat : model.getLatest with
    | none => simp [hlat] at hl
    | some latest =>
      simp only [hlat] at hl
      obtain ⟨r, -, as, has, rfl⟩ := mem_replicaTargets.mp hl
      exact ⟨as, has, rfl⟩
  · obtain ⟨mv, -, hmv⟩ := List.mem_flatMap.mp hu
    obtain ⟨r, -, as, has, rfl⟩ := mem_replicaTargets.mp hmv
    exact ⟨as, has, rfl⟩

/-! ## The lock count -/

/-- The read-lock count is the number of running passes, and a pass not yet started has
planned nothing. -/
def LockInv (s : Sys) : Prop :=
  s.readers = (s.passes.map fun q => if q.pc.running then 1 else 0).sum ∧
    ∀ q ∈ s.passes, q.pc = .spawned → q.plan = []

theorem lockInv_init (store : Store) : LockInv (Sys.init store) :=
  ⟨rfl, fun _ h => by cases h⟩

/-- Replacing a pass by one that is started, or that planned nothing, keeps every pass not
yet started without a plan. -/
theorem spawned_plan_set {passes : List Pass} {p : Nat} {x : Pass}
    (hw : ∀ q ∈ passes, q.pc = .spawned → q.plan = []) (hx : x.pc = .spawned → x.plan = []) :
    ∀ q ∈ passes.set p x, q.pc = .spawned → q.plan = [] := fun q hq =>
  (List.mem_or_eq_of_mem_set hq).elim (hw q) fun he => he ▸ hx

theorem lockInv_step {s s' : Sys} {a : Action} (hi : LockInv s) (h : step s a = some s') :
    LockInv s' := by
  obtain ⟨hr, hw⟩ := hi
  rcases passes_step h with ⟨hp, hr', -⟩ | ⟨m, rfl⟩ | ⟨p, m, plan, err, hp, rfl⟩ |
    ⟨p, m, plan, t, todo, ok, hp, rfl⟩ | ⟨p, m, plan, t, todo, ok, hp, rfl⟩ | ⟨p, m, plan, hp, rfl⟩
  · exact ⟨by rw [hr', hp, hr], hp ▸ hw⟩
  · refine ⟨by simp [Sys.listen, hr], fun q hq hs => ?_⟩
    rcases List.mem_append.mp hq with hq | hq
    · exact hw q hq hs
    · simp_all
  · have hsum := sum_map_set_add (fun q => if q.pc.running then 1 else 0) s.passes p
      (Sys.startedPass m (Sys.readPlan s.agents err (s.store.getModel m))) _ hp
    refine ⟨?_, spawned_plan_set hw ?_⟩
    · show (if (Sys.readPlan s.agents err (s.store.getModel m)).isSome then s.readers + 1
        else s.readers) = ((s.passes.set p _).map _).sum
      revert hsum
      cases Sys.readPlan s.agents err (s.store.getModel m) <;>
        simp [Sys.startedPass, hr] <;> omega
    · cases Sys.readPlan s.agents err (s.store.getModel m) <;> simp [Sys.startedPass]
  · have hsum := sum_map_set_add (fun q => if q.pc.running then 1 else 0) s.passes p
      ⟨m, plan, if ok then .updating t todo else .sending todo⟩ _ hp
    refine ⟨?_, spawned_plan_set hw (by cases ok <;> simp)⟩
    simp only [Sys.syncSend]; cases ok <;> simp_all
  · have hsum := sum_map_set_add (fun q => if q.pc.running then 1 else 0) s.passes p
      ⟨m, plan, .sending todo⟩ _ hp
    exact ⟨by simp_all [Sys.syncUpdate], spawned_plan_set hw (by simp)⟩
  · have hsum := sum_map_set_add (fun q => if q.pc.running then 1 else 0) s.passes p
      ⟨m, plan, .done⟩ _ hp
    refine ⟨?_, spawned_plan_set hw (by simp)⟩
    simp_all [Sys.syncFinish]; omega

theorem lockInv_of_reachable {s : Sys} (hs : Reachable s) : LockInv s := by
  induction hs with
  | init store => exact lockInv_init store
  | step a _ h ih => exact lockInv_step ih h

/-- With no reader, no pass has a target left. -/
theorem todo_eq_nil_of_readers_zero {s : Sys} (hi : LockInv s) (h0 : s.readers = 0) :
    ∀ q ∈ s.passes, q.todo = [] := by
  intro q hq
  apply Pass.todo_eq_nil_of_not_running
  have hle := List.le_sum_of_mem
    (List.mem_map_of_mem (fun q : Pass => if q.pc.running then (1 : Nat) else 0) hq)
  rw [← hi.1, h0] at hle
  cases h : q.pc.running <;> simp_all

/-! ## The plans against the registry -/

/-- Every target a pass has yet to send names the subscriber the registry holds for its
replica. -/
def PlanInv (s : Sys) : Prop :=
  ∀ q ∈ s.passes, ∀ t ∈ q.todo,
    s.agents ⟨t.server, uint32 t.replicaIdx⟩ = some ⟨t.stream, t.stream⟩

theorem readPlan_registered {s : Sys} (hreg : RegistryInv s) {err : Option String}
    {model : Option ModelSnapshot} {plan : List SyncTarget}
    (h : Sys.readPlan s.agents err model = some plan) :
    ∀ t ∈ plan, s.agents ⟨t.server, uint32 t.replicaIdx⟩ = some ⟨t.stream, t.stream⟩ := by
  intro t ht
  cases err with
  | some _ => cases h
  | none =>
    obtain ⟨model, -, rfl⟩ := Option.map_eq_some'.mp h
    obtain ⟨as, has, hst⟩ := syncTargets_registered ht
    have hf := (hreg _ as has).1
    rw [has]
    cases as
    simp_all

/-- Replacing a pass by one whose targets all satisfy `P` keeps every pass's targets
satisfying `P`. -/
theorem todo_set {passes : List Pass} {p : Nat} {x : Pass} {P : SyncTarget → Prop}
    (hw : ∀ q ∈ passes, ∀ t ∈ q.todo, P t) (hx : ∀ t ∈ x.todo, P t) :
    ∀ q ∈ passes.set p x, ∀ t ∈ q.todo, P t := fun q hq =>
  (List.mem_or_eq_of_mem_set hq).elim (hw q) fun he => he ▸ hx

theorem planInv_step {s s' : Sys} {a : Action} (hreg : RegistryInv s) (hl : LockInv s)
    (hi : PlanInv s) (h : step s a = some s') : PlanInv s' := by
  rcases agents_step h with ⟨ha, -⟩ | ⟨h0, ⟨_, rfl⟩ | ⟨_, _, rfl⟩⟩
  · unfold PlanInv; rw [ha]
    rcases passes_step h with ⟨hp, -, -⟩ | ⟨m, rfl⟩ | ⟨p, m, plan, err, hp, rfl⟩ |
      ⟨p, m, plan, t', todo, ok, hp, rfl⟩ | ⟨p, m, plan, t', todo, ok, hp, rfl⟩ |
      ⟨p, m, plan, hp, rfl⟩
    · exact hp ▸ hi
    · intro q hq
      rcases List.mem_append.mp hq with hq | hq
      · exact hi q hq
      · simp_all [Pass.todo]
    · refine todo_set hi ?_
      cases hplan : Sys.readPlan s.agents err (s.store.getModel m) with
      | none => simp [Sys.startedPass, Pass.todo]
      | some plan => exact readPlan_registered hreg hplan
    · have hold := hi _ (List.getElem?_mem hp)
      refine todo_set hi fun t ht => hold t ?_
      cases ok <;> simp_all [Pass.todo]
    · have hold := hi _ (List.getElem?_mem hp)
      exact todo_set hi fun t ht => hold t (by simpa [Pass.todo] using ht)
    · exact todo_set hi (by simp [Pass.todo])
  all_goals
    intro q hq t ht
    rw [todo_eq_nil_of_readers_zero hl h0 q hq] at ht
    cases ht

/-- The server's threads keep the registry, the lock count and the plans consistent. -/
theorem passInvs_of_reachable {s : Sys} (hs : Reachable s) :
    RegistryInv s ∧ LockInv s ∧ PlanInv s := by
  induction hs with
  | init store => exact ⟨registryInv_init store, lockInv_init store, fun _ h => by cases h⟩
  | step a _ h ih =>
    exact ⟨registryInv_step ih.1 h, lockInv_step ih.2.1 h, planInv_step ih.1 ih.2.1 ih.2.2 h⟩

/-- In every reachable state, each target a running pass has yet to send still has the
registry entry the pass read: the lookup the code makes inside its loops finds the
stream the pass planned. -/
theorem plan_matches_registry {s : Sys} (hs : Reachable s) :
    ∀ q ∈ s.passes, ∀ t ∈ q.todo,
      s.agents ⟨t.server, uint32 t.replicaIdx⟩ = some ⟨t.stream, t.stream⟩ :=
  (passInvs_of_reachable hs).2.2

/-- The spec's scenario: model `iris` has version 1 on `serverA` with replica 0
`LoadRequested`. -/
def irisStore : Store :=
  ⟨fun name => if name = "iris" then
      some ⟨"iris", [⟨"iris", 1, "serverA", (∅ : AList _).insert 0 ⟨.loadRequested, ""⟩⟩]⟩
    else none,
    fun _ => false⟩

/-- Replica `serverA:0` connects and a pass for `iris` plans its load: the loop will find
the stream it planned. -/
theorem plan_matches_registry_iris :
    ∃ s, run (Sys.init irisStore)
        [.subscribe ⟨"serverA", 0⟩, .syncMessage 0 none none, .listen "iris", .syncStart 0 none] =
        some s ∧
      s.passes.map Pass.todo = [[⟨0, .loadModel, .loading, "iris", 1, "serverA", 0⟩]] ∧
      ∀ q ∈ s.passes, ∀ t ∈ q.todo,
        s.agents ⟨t.server, uint32 t.replicaIdx⟩ = some ⟨t.stream, t.stream⟩ := by
  have h : (run (Sys.init irisStore)
      [.subscribe ⟨"serverA", 0⟩, .syncMessage 0 none none, .listen "iris", .syncStart 0 none]).map
        (fun s => s.passes.map Pass.todo) =
      some [[⟨0, .loadModel, .loading, "iris", 1, "serverA", 0⟩]] := by decide
  obtain ⟨s, hrun, hs⟩ := Option.map_eq_some'.mp h
  exact ⟨s, hrun, hs, plan_matches_registry (reachable_of_run (.init irisStore) hrun)⟩

end SeldonCore.Agent
