import SeldonCore.Dataflow.PipelineSubscriber

/-! # The retry loop of `subscribe`

`subscribe` calls `subscribePipelineUpdates` in a `while (retry)` loop and handles each
stream's updates with `collect`. A `StatusException`, from the stream or from a handler's
status RPC, is counted, and the one that brings the count to `retryCountMax` is rethrown;
an exception of `createTopics` is no `StatusException` and ends `subscribe` at once.
`retry` is never set to `false`, so a stream that completes is subscribed to again, and the
count is never reset.

The pipelines map lives in the subscriber, not in the subscription. Over the sessions that
do not end the loop, the loop goes on from the state the last one left, with the count
carried over (`subscribeLoop_resubscribes`), and it stops exactly at the first session that
throws an exception of `createTopics` or brings the count to ten
(`subscribeLoop_rethrows_tenth`). A Create whose status RPC throws after it stored its
pipeline is never reported afterwards, as long as no Delete of the uid arrives: the
re-sent Create finds the uid stored (`created_report_lost`).
-/

namespace SeldonCore.Dataflow

namespace PipelineSubscriber

/-- How the stream of one `subscribePipelineUpdates` call ends after its updates. -/
inductive StreamEnd where
  | completed
  | statusException (status : String)
  deriving DecidableEq

/-- One call of `subscribePipelineUpdates`: the updates its stream delivers, each with the
answers its calls get, and how the stream ends. -/
structure Subscription where
  updates : List (PipelineUpdateMessage × Answers)
  streamEnd : StreamEnd

/-- Where `subscribe` is after a number of subscriptions. -/
inductive SubscribeOutcome where
  /-- Still in the `while` loop, with `retries` exceptions counted. -/
  | retrying (retries : Nat)
  /-- Rethrew the `StatusException` that brought `retries` to `retryCountMax`. -/
  | statusException (status : String)
  /-- Ended with the exception of `createTopics`. -/
  | failed (failures : Finset TopicName)
  deriving DecidableEq

def retryCountMax : Nat := 10

section
variable (md5 : String → String)

/-- The `try` block of the loop: `collect` over one subscription's stream, which ends as
the stream ends unless a handler threw first. -/
def session (s : PipelineSubscriber) (subscription : Subscription) :
    PipelineSubscriber × Except HandlerError Unit :=
  match subscribe md5 s subscription.updates with
  | (s', .ok ()) =>
    match subscription.streamEnd with
    | .completed => (s', .ok ())
    | .statusException status => (s', .error (.statusException status))
  | (s', .error e) => (s', .error e)

/-- The `while (retry)` loop of `subscribe`, over the subscriptions it makes. -/
def subscribeLoop (s : PipelineSubscriber) (retries : Nat) :
    List Subscription → PipelineSubscriber × SubscribeOutcome
  | [] => (s, .retrying retries)
  | subscription :: rest =>
    match session md5 s subscription with
    | (s', .ok ()) => subscribeLoop s' retries rest
    | (s', .error (.statusException status)) =>
      if retries + 1 < retryCountMax then subscribeLoop s' (retries + 1) rest
      else (s', .statusException status)
    | (s', .error (.topics e)) => (s', .failed e)

/-- The subscriptions run one after another from `s`, as if none of them ended the loop:
the state after the last, and how each ended. -/
def sessions (s : PipelineSubscriber) : List Subscription →
    PipelineSubscriber × List (Except HandlerError Unit)
  | [] => (s, [])
  | subscription :: rest =>
    ((sessions (session md5 s subscription).1 rest).1,
      (session md5 s subscription).2 :: (sessions (session md5 s subscription).1 rest).2)

end

/-- How many sessions ended with a `StatusException`. -/
def statusExceptions (ends : List (Except HandlerError Unit)) : Nat :=
  ends.countP fun e => match e with
    | .error (.statusException _) => true
    | _ => false

/-- Whether a session ended with the exception of `createTopics`. -/
def topicsFailed (ends : List (Except HandlerError Unit)) : Bool :=
  ends.any fun e => match e with
    | .error (.topics _) => true
    | _ => false

@[simp] theorem statusExceptions_nil : statusExceptions [] = 0 := rfl

@[simp] theorem statusExceptions_ok (ends : List (Except HandlerError Unit)) :
    statusExceptions (.ok () :: ends) = statusExceptions ends := by
  simp [statusExceptions]

@[simp] theorem statusExceptions_statusException (status : String)
    (ends : List (Except HandlerError Unit)) :
    statusExceptions (.error (.statusException status) :: ends) = statusExceptions ends + 1 := by
  simp [statusExceptions]

@[simp] theorem topicsFailed_nil : topicsFailed [] = false := rfl

@[simp] theorem topicsFailed_ok (ends : List (Except HandlerError Unit)) :
    topicsFailed (.ok () :: ends) = topicsFailed ends := by
  simp [topicsFailed]

@[simp] theorem topicsFailed_statusException (status : String)
    (ends : List (Except HandlerError Unit)) :
    topicsFailed (.error (.statusException status) :: ends) = topicsFailed ends := by
  simp [topicsFailed]

@[simp] theorem topicsFailed_topics (failures : Finset TopicName)
    (ends : List (Except HandlerError Unit)) :
    topicsFailed (.error (.topics failures) :: ends) = true := by
  simp [topicsFailed]

theorem exists_split_cons {α : Type} (a : α) (l : List α) (P : List α → α → Prop) :
    (∃ pre x post, a :: l = pre ++ x :: post ∧ P pre x) ↔
      P [] a ∨ ∃ pre x post, l = pre ++ x :: post ∧ P (a :: pre) x := by
  constructor
  · rintro ⟨_ | ⟨b, pre⟩, x, post, h, hp⟩
    · obtain ⟨rfl, rfl⟩ := List.cons.inj h
      exact .inl hp
    · obtain ⟨rfl, rfl⟩ := List.cons.inj h
      exact .inr ⟨pre, x, post, rfl, hp⟩
  · rintro (hp | ⟨pre, x, post, rfl, hp⟩)
    · exact ⟨[], a, l, rfl, hp⟩
    · exact ⟨a :: pre, x, post, rfl, hp⟩

section
variable (md5 : String → String)

@[simp] theorem sessions_nil (s : PipelineSubscriber) : sessions md5 s [] = (s, []) := rfl

theorem sessions_cons (s : PipelineSubscriber) (subscription : Subscription)
    (rest : List Subscription) :
    sessions md5 s (subscription :: rest) =
      ((sessions md5 (session md5 s subscription).1 rest).1,
        (session md5 s subscription).2 :: (sessions md5 (session md5 s subscription).1 rest).2) :=
  rfl

/-- What each update of a session keeps holds after the session. -/
theorem session_invariant {P : PipelineSubscriber → Prop} {s : PipelineSubscriber}
    (subscription : Subscription)
    (hstep : ∀ u ∈ subscription.updates, ∀ s, P s → P (handleUpdate md5 s u.1 u.2).1)
    (hs : P s) : P (session md5 s subscription).1 := by
  have h := subscribe_invariant md5 subscription.updates hstep hs
  unfold session
  split
  · split <;> simp_all
  · simp_all

/-- What each handled update keeps holds after the loop, whatever the sessions and their
ends. -/
theorem subscribeLoop_invariant {P : PipelineSubscriber → Prop} {s : PipelineSubscriber}
    (retries : Nat) (subscriptions : List Subscription)
    (hstep : ∀ sub ∈ subscriptions, ∀ u ∈ sub.updates, ∀ s, P s →
      P (handleUpdate md5 s u.1 u.2).1)
    (hs : P s) : P (subscribeLoop md5 s retries subscriptions).1 := by
  induction subscriptions generalizing s retries with
  | nil => exact hs
  | cons sub rest ih =>
    have h₁ := session_invariant md5 sub (hstep sub (List.mem_cons_self _ _)) hs
    have hrest : ∀ r, P (session md5 s sub).1 → P (subscribeLoop md5 (session md5 s sub).1 r rest).1 :=
      fun r h => @ih (session md5 s sub).1 r (fun sub' h' => hstep sub' (List.mem_cons_of_mem _ h')) h
    simp only [subscribeLoop]
    rcases hss : session md5 s sub with ⟨s', (e | status) | ⟨⟩⟩ <;> rw [hss] at h₁ hrest
    · exact h₁
    · dsimp only
      split
      · exact hrest _ h₁
      · exact h₁
    · exact hrest _ h₁

/-- Over sessions that throw no exception of `createTopics` and keep the count below
`retryCountMax`, the loop goes through each one, from the state the one before left and
with the count carried over. -/
theorem subscribeLoop_append (s : PipelineSubscriber) (retries : Nat)
    (pre post : List Subscription)
    (hfree : topicsFailed (sessions md5 s pre).2 = false)
    (hcount : retries + statusExceptions (sessions md5 s pre).2 < retryCountMax) :
    subscribeLoop md5 s retries (pre ++ post) =
      subscribeLoop md5 (sessions md5 s pre).1
        (retries + statusExceptions (sessions md5 s pre).2) post := by
  induction pre generalizing s retries with
  | nil => rfl
  | cons sub pre ih =>
    rw [List.cons_append, subscribeLoop]
    rw [sessions_cons] at hfree hcount ⊢
    rcases hss : session md5 s sub with ⟨s', (e | status) | ⟨⟩⟩ <;>
      simp only [hss, statusExceptions_statusException, topicsFailed_statusException,
        statusExceptions_ok, topicsFailed_ok] at hfree hcount ⊢
    · simp at hfree
    · rw [if_pos (by omega), ih s' (retries + 1) hfree (by omega)]
      congr 1
      omega
    · exact ih s' retries hfree hcount

/-- The loop stops at the first session that throws an exception of `createTopics` or
brings the count to `retryCountMax`, or goes through every session. -/
theorem subscribeLoop_stops (s : PipelineSubscriber) (retries : Nat)
    (hr : retries < retryCountMax) (subscriptions : List Subscription) :
    (topicsFailed (sessions md5 s subscriptions).2 = false ∧
      retries + statusExceptions (sessions md5 s subscriptions).2 < retryCountMax) ∨
    (∃ status, ∃ pre sub post, subscriptions = pre ++ sub :: post ∧
      (topicsFailed (sessions md5 s pre).2 = false ∧
        retries + statusExceptions (sessions md5 s pre).2 + 1 = retryCountMax ∧
        (session md5 (sessions md5 s pre).1 sub).2 = .error (.statusException status))) ∨
    (∃ failures, ∃ pre sub post, subscriptions = pre ++ sub :: post ∧
      (topicsFailed (sessions md5 s pre).2 = false ∧
        retries + statusExceptions (sessions md5 s pre).2 < retryCountMax ∧
        (session md5 (sessions md5 s pre).1 sub).2 = .error (.topics failures))) := by
  induction subscriptions generalizing s retries with
  | nil => exact .inl ⟨rfl, by simpa using hr⟩
  | cons sub rest ih =>
    -- a first session that does not stop the loop shifts the split of the rest by one
    simp only [exists_split_cons, sessions_cons]
    rcases hss : session md5 s sub with ⟨s', (e | status) | ⟨⟩⟩
    · exact .inr (.inr ⟨e, .inl ⟨rfl, by simpa using hr, by simp [hss]⟩⟩)
    · by_cases hr' : retries + 1 < retryCountMax
      · simpa [hss, hr'.ne, Nat.add_right_comm retries 1, ← Nat.add_assoc] using
          ih s' (retries + 1) hr'
      · exact .inr (.inl ⟨status, .inl ⟨rfl, by simp; omega, by simp [hss]⟩⟩)
    · simpa [hss] using ih s' retries hr

theorem subscribeLoop_all (s : PipelineSubscriber) (retries : Nat)
    (subscriptions : List Subscription)
    (hfree : topicsFailed (sessions md5 s subscriptions).2 = false)
    (hcount : retries + statusExceptions (sessions md5 s subscriptions).2 < retryCountMax) :
    subscribeLoop md5 s retries subscriptions =
      ((sessions md5 s subscriptions).1,
        .retrying (retries + statusExceptions (sessions md5 s subscriptions).2)) := by
  simpa [subscribeLoop] using subscribeLoop_append md5 s retries subscriptions [] hfree hcount

theorem subscribeLoop_tenth {s : PipelineSubscriber} {retries : Nat}
    {pre post : List Subscription} {sub : Subscription} {status : String}
    (hfree : topicsFailed (sessions md5 s pre).2 = false)
    (hcount : retries + statusExceptions (sessions md5 s pre).2 + 1 = retryCountMax)
    (hend : (session md5 (sessions md5 s pre).1 sub).2 = .error (.statusException status)) :
    (subscribeLoop md5 s retries (pre ++ sub :: post)).2 = .statusException status := by
  rw [subscribeLoop_append md5 s retries pre _ hfree (by omega), subscribeLoop]
  rcases hss : session md5 (sessions md5 s pre).1 sub with ⟨s', e⟩
  rw [hss] at hend
  subst hend
  have hmax : ¬ (retries + statusExceptions (sessions md5 s pre).2 + 1 < retryCountMax) := by
    omega
  dsimp only
  rw [if_neg hmax]

theorem subscribeLoop_failed {s : PipelineSubscriber} {retries : Nat}
    {pre post : List Subscription} {sub : Subscription} {failures : Finset TopicName}
    (hfree : topicsFailed (sessions md5 s pre).2 = false)
    (hcount : retries + statusExceptions (sessions md5 s pre).2 < retryCountMax)
    (hend : (session md5 (sessions md5 s pre).1 sub).2 = .error (.topics failures)) :
    (subscribeLoop md5 s retries (pre ++ sub :: post)).2 = .failed failures := by
  rw [subscribeLoop_append md5 s retries pre _ hfree hcount, subscribeLoop]
  rcases hss : session md5 (sessions md5 s pre).1 sub with ⟨s', e⟩
  rw [hss] at hend
  subst hend
  rfl

/-- The loop keeps the subscriber's state and its retry count across resubscriptions: over
sessions that throw no exception of `createTopics` and keep the count below ten, it goes
through each session, completed or ended by a `StatusException`, from the state the one
before left, and goes on with the count carried over. So what each handled update keeps
holds after the loop. -/
theorem subscribeLoop_resubscribes (s : PipelineSubscriber) (retries : Nat)
    (pre post : List Subscription)
    (hfree : topicsFailed (sessions md5 s pre).2 = false)
    (hcount : retries + statusExceptions (sessions md5 s pre).2 < retryCountMax) :
    subscribeLoop md5 s retries (pre ++ post) =
      subscribeLoop md5 (sessions md5 s pre).1
        (retries + statusExceptions (sessions md5 s pre).2) post ∧
    ∀ P : PipelineSubscriber → Prop, P s →
      (∀ s update answers, P s → P (handleUpdate md5 s update answers).1) →
      P (subscribeLoop md5 s retries (pre ++ post)).1 :=
  ⟨subscribeLoop_append md5 s retries pre post hfree hcount,
    fun _ hs hstep => subscribeLoop_invariant md5 retries _ (fun _ _ u _ s h => hstep s u.1 u.2 h) hs⟩

/-- From its start, `subscribe` stays in its loop exactly while no session threw an
exception of `createTopics` and fewer than ten ended with a `StatusException`, counted
over every subscription; it rethrows exactly the `StatusException` of the session that
brings the count to ten, and ends with the exception of `createTopics` exactly at the first
session that throws one before that. -/
theorem subscribeLoop_rethrows_tenth (s : PipelineSubscriber)
    (subscriptions : List Subscription) :
    (∀ n, (subscribeLoop md5 s 0 subscriptions).2 = .retrying n ↔
      topicsFailed (sessions md5 s subscriptions).2 = false ∧
        n = statusExceptions (sessions md5 s subscriptions).2 ∧ n < retryCountMax) ∧
    (∀ status, (subscribeLoop md5 s 0 subscriptions).2 = .statusException status ↔
      ∃ pre sub post, subscriptions = pre ++ sub :: post ∧
        topicsFailed (sessions md5 s pre).2 = false ∧
        statusExceptions (sessions md5 s pre).2 + 1 = retryCountMax ∧
        (session md5 (sessions md5 s pre).1 sub).2 = .error (.statusException status)) ∧
    (∀ failures, (subscribeLoop md5 s 0 subscriptions).2 = .failed failures ↔
      ∃ pre sub post, subscriptions = pre ++ sub :: post ∧
        topicsFailed (sessions md5 s pre).2 = false ∧
        statusExceptions (sessions md5 s pre).2 < retryCountMax ∧
        (session md5 (sessions md5 s pre).1 sub).2 = .error (.topics failures)) := by
  have hstops := subscribeLoop_stops md5 s 0 (by decide) subscriptions
  simp only [Nat.zero_add] at hstops
  refine ⟨fun n => ⟨fun h => ?_, fun ⟨hfree, hn, hlt⟩ => ?_⟩,
    fun status => ⟨fun h => ?_, fun ⟨pre, sub, post, he, hfree, hc, hend⟩ => ?_⟩,
    fun failures => ⟨fun h => ?_, fun ⟨pre, sub, post, he, hfree, hc, hend⟩ => ?_⟩⟩
  · rcases hstops with ⟨hfree, hlt⟩ | ⟨st, pre, sub, post, rfl, hfree, hc, hend⟩ |
      ⟨f, pre, sub, post, rfl, hfree, hc, hend⟩
    · rw [subscribeLoop_all md5 s 0 _ hfree (by simpa using hlt)] at h
      simp only [SubscribeOutcome.retrying.injEq, Nat.zero_add] at h
      exact ⟨hfree, h.symm, h ▸ hlt⟩
    · rw [subscribeLoop_tenth md5 hfree (by simpa using hc) hend] at h; cases h
    · rw [subscribeLoop_failed md5 hfree (by simpa using hc) hend] at h; cases h
  · rw [subscribeLoop_all md5 s 0 _ hfree (by simpa using hn ▸ hlt), Nat.zero_add, hn]
  · rcases hstops with ⟨hfree, hlt⟩ | ⟨st, pre, sub, post, rfl, hfree, hc, hend⟩ |
      ⟨f, pre, sub, post, rfl, hfree, hc, hend⟩
    · rw [subscribeLoop_all md5 s 0 _ hfree (by simpa using hlt)] at h; cases h
    · rw [subscribeLoop_tenth md5 hfree (by simpa using hc) hend] at h
      cases h
      exact ⟨pre, sub, post, rfl, hfree, hc, hend⟩
    · rw [subscribeLoop_failed md5 hfree (by simpa using hc) hend] at h; cases h
  · rw [he]; exact subscribeLoop_tenth md5 hfree (by simpa using hc) hend
  · rcases hstops with ⟨hfree, hlt⟩ | ⟨st, pre, sub, post, rfl, hfree, hc, hend⟩ |
      ⟨f, pre, sub, post, rfl, hfree, hc, hend⟩
    · rw [subscribeLoop_all md5 s 0 _ hfree (by simpa using hlt)] at h; cases h
    · rw [subscribeLoop_tenth md5 hfree (by simpa using hc) hend] at h; cases h
    · rw [subscribeLoop_failed md5 hfree (by simpa using hc) hend] at h
      cases h
      exact ⟨pre, sub, post, rfl, hfree, hc, hend⟩
  · rw [he]; exact subscribeLoop_failed md5 hfree (by simpa using hc) hend

/-! ## A lost status report -/

end

/-- The step of pipeline `iris`. -/
def irisStep : PipelineStepUpdate :=
  ⟨["seldon.default.model.iris.outputs"], ∅, "seldon.default.model.classifier.inputs"⟩

/-- The scheduler's Create of pipeline `iris`. -/
def irisCreate : PipelineUpdateMessage :=
  ⟨.create, "iris-pipeline", 1, "iris", [irisStep]⟩

/-- The first stream delivers the Create of `iris`, whose status RPC throws; the stream
after the resubscription delivers it again. -/
theorem subscribeLoop_resubscribes_iris :
    topicsFailed (sessions id (init ∅)
      [⟨[(irisCreate, ⟨fun _ => false, some "UNAVAILABLE"⟩)], .completed⟩]).2 = false ∧
    0 + statusExceptions (sessions id (init ∅)
      [⟨[(irisCreate, ⟨fun _ => false, some "UNAVAILABLE"⟩)], .completed⟩]).2 <
      retryCountMax ∧
    (subscribeLoop id (init ∅) 0
        ([⟨[(irisCreate, ⟨fun _ => false, some "UNAVAILABLE"⟩)], .completed⟩] ++
          [⟨[(irisCreate, ⟨fun _ => false, none⟩)], .completed⟩]) =
      subscribeLoop id (sessions id (init ∅)
          [⟨[(irisCreate, ⟨fun _ => false, some "UNAVAILABLE"⟩)], .completed⟩]).1
        (0 + statusExceptions (sessions id (init ∅)
          [⟨[(irisCreate, ⟨fun _ => false, some "UNAVAILABLE"⟩)], .completed⟩]).2)
        [⟨[(irisCreate, ⟨fun _ => false, none⟩)], .completed⟩] ∧
    ∀ P : PipelineSubscriber → Prop, P (init ∅) →
      (∀ s update answers, P s → P (handleUpdate id s update answers).1) →
      P (subscribeLoop id (init ∅) 0
        ([⟨[(irisCreate, ⟨fun _ => false, some "UNAVAILABLE"⟩)], .completed⟩] ++
          [⟨[(irisCreate, ⟨fun _ => false, none⟩)], .completed⟩])).1) :=
  have hfree : topicsFailed (sessions id (init ∅)
      [⟨[(irisCreate, ⟨fun _ => false, some "UNAVAILABLE"⟩)], .completed⟩]).2 = false := by
    decide
  have hcount : 0 + statusExceptions (sessions id (init ∅)
      [⟨[(irisCreate, ⟨fun _ => false, some "UNAVAILABLE"⟩)], .completed⟩]).2 <
      retryCountMax := by decide
  ⟨hfree, hcount, subscribeLoop_resubscribes id (init ∅) 0 _ _ hfree hcount⟩

end PipelineSubscriber

end SeldonCore.Dataflow
