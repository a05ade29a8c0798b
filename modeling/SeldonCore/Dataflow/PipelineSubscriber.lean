import SeldonCore.Dataflow.Transformers
import Mathlib.Data.List.AList
import Mathlib.Data.List.Count

/-! # The pipeline subscriber

`PipelineSubscriber` handles the scheduler's pipeline updates one after another. A Create
builds a transformer per step, creates the Kafka topics, and, unless the uid is already
stored or a step has no transformer, stores the pipeline and starts its transformers; a
Delete removes the pipeline and stops its transformers. Each handler ends with the status
RPC to the scheduler, which can throw a `StatusException` after the handler changed the
subscriber. A transformer is an object: each one built gets a fresh number, and its `start`
and `stop` calls are logged by number.

Over every sequence of updates, the transformers started and not stopped are those of the
stored pipelines, and each is started at most once and stopped at most once, after its
start (`Consistent`, kept by every update, `consistent_subscribe`).
-/

namespace SeldonCore.Dataflow

abbrev PipelineId := String

structure PipelineMetadata where
  id : PipelineId
  name : String
  version : Int
  deriving DecidableEq

/-- A transformer object: the number it was created under and what `transformerFor`
built. -/
structure TransformerObject where
  ref : Nat
  transformer : Transformer
  deriving DecidableEq

structure PipelineTopology where
  metadata : PipelineMetadata
  transformers : List TransformerObject
  deriving DecidableEq

def PipelineTopology.refs (p : PipelineTopology) : List Nat :=
  p.transformers.map (·.ref)

/-- The fields of `PipelineStepUpdate` that `handleCreate` reads. -/
structure PipelineStepUpdate where
  sources : List TopicName
  tensorMap : Finset (TensorName × TensorName)
  sink : TopicName

inductive PipelineOperation where
  | create
  | delete
  | other (value : Int)
  deriving DecidableEq

/-- The fields of `PipelineUpdateMessage` that `subscribe` reads. -/
structure PipelineUpdateMessage where
  op : PipelineOperation
  pipeline : String
  version : Int
  uid : PipelineId
  updates : List PipelineStepUpdate

/-- `PipelineUpdateStatusMessage`, with the fields of its `PipelineUpdateMessage`. -/
structure PipelineUpdateStatusMessage where
  success : Bool
  reason : String
  op : PipelineOperation
  pipeline : String
  version : Int
  uid : PipelineId
  deriving DecidableEq

/-- A call of `Transformer.start` or `Transformer.stop` on the object with this number. -/
inductive TransformerCall where
  | start (ref : Nat)
  | stop (ref : Nat)
  deriving DecidableEq

/-- How a handler of `subscribe` ends early. -/
inductive HandlerError where
  /-- `createTopics` rethrew the `ExecutionException` of the new topics it could not
  create. -/
  | topics (failures : Finset TopicName)
  /-- `client.pipelineUpdateEvent` threw a `StatusException`. -/
  | statusException (status : String)
  deriving DecidableEq

/-- What Kafka and the scheduler answer to the calls made for one update: the topics whose
creation fails, and the status of the `StatusException` the status RPC throws, if it
throws. -/
structure Answers where
  failed : TopicName → Bool
  thrown : Option String

/-- The subscriber's `pipelines` map, the Kafka topics, the next object number, the log of
transformer calls, and the status messages whose RPC returned. -/
structure PipelineSubscriber where
  pipelines : AList fun _ : PipelineId => PipelineTopology
  topics : Finset TopicName
  nextRef : Nat
  calls : List TransformerCall
  events : List PipelineUpdateStatusMessage

namespace PipelineSubscriber

/-- A new subscriber on a Kafka cluster with these topics. -/
def init (topics : Finset TopicName) : PipelineSubscriber :=
  ⟨∅, topics, 0, [], []⟩

def makePipelineUpdateEvent (metadata : PipelineMetadata) (operation : PipelineOperation)
    (success : Bool) (reason : String) : PipelineUpdateStatusMessage :=
  ⟨success, reason, operation, metadata.name, metadata.version, metadata.id⟩

/-- `client.pipelineUpdateEvent`: the call returns and the scheduler has the message, or it
throws a `StatusException` with the status `thrown`. -/
def pipelineUpdateEvent (s : PipelineSubscriber) (message : PipelineUpdateStatusMessage)
    (thrown : Option String) : PipelineSubscriber × Except HandlerError Unit :=
  match thrown with
  | none => ({ s with events := s.events ++ [message] }, .ok ())
  | some status => (s, .error (.statusException status))

@[simp] theorem pipelineUpdateEvent_pipelines (s : PipelineSubscriber)
    (message : PipelineUpdateStatusMessage) (thrown : Option String) :
    (s.pipelineUpdateEvent message thrown).1.pipelines = s.pipelines := by
  cases thrown <;> rfl

@[simp] theorem pipelineUpdateEvent_topics (s : PipelineSubscriber)
    (message : PipelineUpdateStatusMessage) (thrown : Option String) :
    (s.pipelineUpdateEvent message thrown).1.topics = s.topics := by
  cases thrown <;> rfl

@[simp] theorem pipelineUpdateEvent_nextRef (s : PipelineSubscriber)
    (message : PipelineUpdateStatusMessage) (thrown : Option String) :
    (s.pipelineUpdateEvent message thrown).1.nextRef = s.nextRef := by
  cases thrown <;> rfl

@[simp] theorem pipelineUpdateEvent_calls (s : PipelineSubscriber)
    (message : PipelineUpdateStatusMessage) (thrown : Option String) :
    (s.pipelineUpdateEvent message thrown).1.calls = s.calls := by
  cases thrown <;> rfl

/-- The topics `createTopics` asks for: the topic of every source and sink. -/
def uniqueTopicNames (steps : List PipelineStepUpdate) : Finset TopicName :=
  ((steps.flatMap (·.sources) ++ steps.map (·.sink)).map fun topicName =>
    (parseSource topicName).1).toFinset

/-- `createTopics`: Kafka creates every requested topic whose creation does not fail
(`failed`); for a topic that exists the `TopicExistsException` is ignored, and a new topic
that failed makes the call throw, here with the set of those topics. -/
def createTopics (topics : Finset TopicName) (failed : TopicName → Bool)
    (steps : List PipelineStepUpdate) : Finset TopicName × Except (Finset TopicName) Unit :=
  let requested := uniqueTopicNames steps
  let failures := requested.filter fun t => t ∉ topics ∧ failed t = true
  (topics ∪ requested.filter (fun t => failed t = false),
    if failures = ∅ then .ok () else .error failures)

section
variable (md5 : String → String)

/-- The transformers of `handleCreate`, one per step that `transformerFor` accepts,
numbered from `nextRef`. -/
def buildTransformers (metadata : PipelineMetadata) (nextRef : Nat)
    (steps : List PipelineStepUpdate) : List TransformerObject :=
  ((steps.filterMap fun step =>
      transformerFor md5 metadata.name step.sources step.tensorMap step.sink).enumFrom nextRef).map
    fun e => ⟨e.1, e.2⟩

/-- `handleCreate`. A thrown `createTopics` ends the call with its exception, before any
status message; the status RPC that follows can throw after the pipeline was stored and
its transformers started. -/
def handleCreate (s : PipelineSubscriber) (metadata : PipelineMetadata)
    (steps : List PipelineStepUpdate) (answers : Answers) :
    PipelineSubscriber × Except HandlerError Unit :=
  let transformers := buildTransformers md5 metadata s.nextRef steps
  let created := createTopics s.topics answers.failed steps
  let s := { s with nextRef := s.nextRef + transformers.length, topics := created.1 }
  match created.2 with
  | .error e => (s, .error (.topics e))
  | .ok () =>
    if transformers.length ≠ steps.length then
      s.pipelineUpdateEvent (makePipelineUpdateEvent metadata .create false
        "failed to create all pipeline steps") answers.thrown
    else
      match s.pipelines.lookup metadata.id with
      | none =>
        { s with
            pipelines := s.pipelines.insert metadata.id ⟨metadata, transformers⟩
            calls := s.calls ++ transformers.map fun (t : TransformerObject) =>
              TransformerCall.start t.ref }.pipelineUpdateEvent
          (makePipelineUpdateEvent metadata .create true "Created pipeline") answers.thrown
      | some _ => (s, .ok ())

end

/-- `handleDelete`: the stored pipeline's transformers are stopped (in parallel; the log
takes them in list order), then the status RPC reports the removal. -/
def handleDelete (s : PipelineSubscriber) (metadata : PipelineMetadata)
    (thrown : Option String) : PipelineSubscriber × Except HandlerError Unit :=
  let s := match s.pipelines.lookup metadata.id with
    | none => s
    | some pipeline =>
      { s with
          pipelines := s.pipelines.erase metadata.id
          calls := s.calls ++ pipeline.transformers.map fun (t : TransformerObject) =>
            TransformerCall.stop t.ref }
  s.pipelineUpdateEvent (makePipelineUpdateEvent metadata .delete true "Pipeline removed") thrown

/-- `cancelPipelines`: every stored transformer is stopped; the map is left as it is. -/
def cancelPipelines (s : PipelineSubscriber) : PipelineSubscriber :=
  { s with calls := s.calls ++ s.pipelines.entries.flatMap fun e =>
      e.2.transformers.map fun (t : TransformerObject) => TransformerCall.stop t.ref }

section
variable (md5 : String → String)

/-- The handler `subscribe` runs on each update. -/
def handleUpdate (s : PipelineSubscriber) (update : PipelineUpdateMessage)
    (answers : Answers) : PipelineSubscriber × Except HandlerError Unit :=
  let metadata : PipelineMetadata := ⟨update.uid, update.pipeline, update.version⟩
  match update.op with
  | .create => handleCreate md5 s metadata update.updates answers
  | .delete => handleDelete s metadata answers.thrown
  | .other _ => (s, .ok ())

/-- `collect` over the updates of one stream of `subscribe`, each with the answers its
calls get. The first exception a handler throws ends the stream. -/
def subscribe (s : PipelineSubscriber) :
    List (PipelineUpdateMessage × Answers) → PipelineSubscriber × Except HandlerError Unit
  | [] => (s, .ok ())
  | (update, answers) :: rest =>
    match handleUpdate md5 s update answers with
    | (s', .ok ()) => subscribe s' rest
    | (s', .error e) => (s', .error e)

end

/-! ## What each handler does -/

section
variable (md5 : String → String)

theorem buildTransformers_refs (metadata : PipelineMetadata) (nextRef : Nat)
    (steps : List PipelineStepUpdate) :
    (buildTransformers md5 metadata nextRef steps).map (·.ref) =
      List.range' nextRef (buildTransformers md5 metadata nextRef steps).length := by
  simp [buildTransformers, List.map_map, Function.comp_def, ← List.enumFrom_map_fst]

/-- `handleCreate` either leaves the map and the calls alone, or, for a new uid whose
steps all have transformers and whose topics were created, stores the pipeline and starts
its transformers, whatever its status RPC then does. -/
theorem handleCreate_spec (s : PipelineSubscriber) (metadata : PipelineMetadata)
    (steps : List PipelineStepUpdate) (answers : Answers) :
    let ts := buildTransformers md5 metadata s.nextRef steps
    let s' := (handleCreate md5 s metadata steps answers).1
    s'.nextRef = s.nextRef + ts.length ∧
    ((s'.pipelines = s.pipelines ∧ s'.calls = s.calls) ∨
      ((createTopics s.topics answers.failed steps).2 = .ok () ∧ ts.length = steps.length ∧
        s.pipelines.lookup metadata.id = none ∧
        s'.pipelines = s.pipelines.insert metadata.id ⟨metadata, ts⟩ ∧
        s'.calls = s.calls ++ ts.map fun t => .start t.ref)) := by
  simp only [handleCreate]
  split
  · simp_all
  · split
    · simp_all
    · split <;> simp_all

theorem handleCreate_topics (s : PipelineSubscriber) (metadata : PipelineMetadata)
    (steps : List PipelineStepUpdate) (answers : Answers) :
    (handleCreate md5 s metadata steps answers).1.topics =
      (createTopics s.topics answers.failed steps).1 := by
  simp only [handleCreate]
  split
  · rfl
  · split
    · simp
    · split <;> simp

end

theorem handleDelete_spec (s : PipelineSubscriber) (metadata : PipelineMetadata)
    (thrown : Option String) :
    (handleDelete s metadata thrown).1.nextRef = s.nextRef ∧
    (handleDelete s metadata thrown).1.topics = s.topics ∧
    match s.pipelines.lookup metadata.id with
    | none => (handleDelete s metadata thrown).1.pipelines = s.pipelines ∧
        (handleDelete s metadata thrown).1.calls = s.calls
    | some p => (handleDelete s metadata thrown).1.pipelines = s.pipelines.erase metadata.id ∧
        (handleDelete s metadata thrown).1.calls =
          s.calls ++ p.transformers.map fun t => .stop t.ref := by
  unfold handleDelete
  split <;> simp_all

section
variable (md5 : String → String)

theorem buildTransformers_length_eq (metadata : PipelineMetadata) (nextRef : Nat)
    (steps : List PipelineStepUpdate) :
    (buildTransformers md5 metadata nextRef steps).length = steps.length ↔
      ∀ step ∈ steps,
        (transformerFor md5 metadata.name step.sources step.tensorMap step.sink).isSome := by
  simp [buildTransformers]

/-- A Create for a stored uid, a Create whose topics failed and a Create with a step that
has no transformer store nothing and start nothing. -/
theorem handleCreate_of_not_stored {s : PipelineSubscriber} {metadata : PipelineMetadata}
    {steps : List PipelineStepUpdate} {answers : Answers}
    (h : (s.pipelines.lookup metadata.id).isSome ∨
      (createTopics s.topics answers.failed steps).2 ≠ .ok () ∨
      ∃ step ∈ steps, transformerFor md5 metadata.name step.sources step.tensorMap step.sink = none) :
    (handleCreate md5 s metadata steps answers).1.pipelines = s.pipelines ∧
      (handleCreate md5 s metadata steps answers).1.calls = s.calls := by
  obtain ⟨-, hsame | ⟨hok, hlen, hnew, -, -⟩⟩ := handleCreate_spec md5 s metadata steps answers
  · exact hsame
  · exfalso
    rcases h with h | h | ⟨step, hstep, hnone⟩
    · simp [hnew] at h
    · exact h hok
    · simpa [hnone] using
        (buildTransformers_length_eq md5 metadata s.nextRef steps).mp hlen step hstep

/-- An update that is not a Delete of `id` keeps the pipeline stored under `id`. -/
theorem lookup_handleUpdate {s : PipelineSubscriber} {update : PipelineUpdateMessage}
    {answers : Answers} {id : PipelineId} {p : PipelineTopology}
    (h : s.pipelines.lookup id = some p) (hdel : update.op = .delete → update.uid ≠ id) :
    (handleUpdate md5 s update answers).1.pipelines.lookup id = some p := by
  unfold handleUpdate
  split
  · obtain ⟨-, hsame | ⟨-, -, hnew, hins, -⟩⟩ := handleCreate_spec md5 s
      ⟨update.uid, update.pipeline, update.version⟩ update.updates answers
    · rw [hsame.1, h]
    · have hne : id ≠ update.uid := fun he => by rw [he, hnew] at h; cases h
      rw [hins, AList.lookup_insert_ne hne, h]
  · have hne : id ≠ update.uid := fun he => hdel ‹_› he.symm
    have hd := (handleDelete_spec s ⟨update.uid, update.pipeline, update.version⟩ answers.thrown).2.2
    dsimp only
    split at hd
    · rw [hd.1]; exact h
    · rw [hd.1, AList.lookup_erase_ne hne, h]
  · exact h

/-- What each update of the sequence keeps holds after `subscribe`, also when a handler
throws. -/
theorem subscribe_invariant {P : PipelineSubscriber → Prop} {s : PipelineSubscriber}
    (updates : List (PipelineUpdateMessage × Answers))
    (hstep : ∀ u ∈ updates, ∀ s, P s → P (handleUpdate md5 s u.1 u.2).1) (hs : P s) :
    P (subscribe md5 s updates).1 := by
  induction updates generalizing s with
  | nil => exact hs
  | cons u rest ih =>
    have hu := hstep u (List.mem_cons_self _ _) s hs
    simp only [subscribe]
    split
    · next heq =>
      rw [heq] at hu
      exact ih (fun v hv => hstep v (List.mem_cons_of_mem _ hv)) hu
    · next heq => rw [heq] at hu; exact hu

theorem lookup_subscribe {s : PipelineSubscriber} {id : PipelineId} {p : PipelineTopology}
    (updates : List (PipelineUpdateMessage × Answers))
    (h : s.pipelines.lookup id = some p)
    (hdel : ∀ u ∈ updates, u.1.op = .delete → u.1.uid ≠ id) :
    (subscribe md5 s updates).1.pipelines.lookup id = some p :=
  @subscribe_invariant md5 (fun s => s.pipelines.lookup id = some p) s updates
    (fun u hu _ hs => lookup_handleUpdate md5 hs (hdel u hu)) h

end

/-! ## The invariant -/

/-- A transformer is live when it was started and not stopped. -/
def Live (s : PipelineSubscriber) (ref : Nat) : Prop :=
  .start ref ∈ s.calls ∧ .stop ref ∉ s.calls

/-- A transformer is stored when a stored pipeline holds it. -/
def Stored (s : PipelineSubscriber) (ref : Nat) : Prop :=
  ∃ id p, s.pipelines.lookup id = some p ∧ ref ∈ p.refs

/-- The live transformers are the stored ones; each is started once at most, and stopped
once at most and only after its start. The last three fields support the first four:
numbers not yet handed out were never started, and no number is in two places of the
map. -/
structure Consistent (s : PipelineSubscriber) : Prop where
  live_iff_stored : ∀ ref, s.Live ref ↔ s.Stored ref
  start_once : ∀ ref, s.calls.count (.start ref) ≤ 1
  stop_once : ∀ ref, s.calls.count (.stop ref) ≤ 1
  start_before_stop : ∀ ref l₁ l₂, s.calls = l₁ ++ .stop ref :: l₂ → .start ref ∈ l₁
  started_lt : ∀ ref, .start ref ∈ s.calls → ref < s.nextRef
  refs_nodup : ∀ id p, s.pipelines.lookup id = some p → p.refs.Nodup
  refs_disjoint : ∀ id id' p p' ref, s.pipelines.lookup id = some p →
    s.pipelines.lookup id' = some p' → ref ∈ p.refs → ref ∈ p'.refs → id = id'

theorem consistent_init (topics : Finset TopicName) : (init topics).Consistent where
  live_iff_stored ref := by simp [Live, Stored, init]
  start_once _ := by simp [init]
  stop_once _ := by simp [init]
  start_before_stop _ l₁ _ h := by simp [init] at h
  started_lt _ h := by simp [init] at h
  refs_nodup _ _ h := by simp [init] at h
  refs_disjoint _ _ _ _ _ h := by simp [init] at h

/-! ### The log of calls -/

@[simp] theorem count_start_map_start (refs : List Nat) (ref : Nat) :
    (refs.map TransformerCall.start).count (.start ref) = refs.count ref :=
  List.count_map_of_injective _ _ (fun _ _ => TransformerCall.start.inj) _

@[simp] theorem count_stop_map_stop (refs : List Nat) (ref : Nat) :
    (refs.map TransformerCall.stop).count (.stop ref) = refs.count ref :=
  List.count_map_of_injective _ _ (fun _ _ => TransformerCall.stop.inj) _

@[simp] theorem count_stop_map_start (refs : List Nat) (ref : Nat) :
    (refs.map TransformerCall.start).count (.stop ref) = 0 :=
  List.count_eq_zero.mpr (by simp)

@[simp] theorem count_start_map_stop (refs : List Nat) (ref : Nat) :
    (refs.map TransformerCall.stop).count (.start ref) = 0 :=
  List.count_eq_zero.mpr (by simp)

theorem count_append_le_one {calls : List TransformerCall} {refs : List Nat}
    {f : Nat → TransformerCall} {ref : Nat} (hcalls : calls.count (f ref) ≤ 1)
    (hrefs : (refs.map f).count (f ref) ≤ 1) (hfresh : ref ∈ refs → f ref ∉ calls)
    (hf : ∀ r, f r = f ref → r = ref) : (calls ++ refs.map f).count (f ref) ≤ 1 := by
  rw [List.count_append]
  by_cases hr : ref ∈ refs
  · rw [List.count_eq_zero.mpr (hfresh hr)]; omega
  · have h0 : (refs.map f).count (f ref) = 0 := List.count_eq_zero.mpr fun h => hr (by
      obtain ⟨r, hr', he⟩ := List.mem_map.mp h; exact hf r he ▸ hr')
    omega

/-- Appending calls keeps every stop after its start when each appended stop is of a
transformer already started. -/
theorem start_before_stop_append {calls extra : List TransformerCall}
    (h : ∀ ref l₁ l₂, calls = l₁ ++ .stop ref :: l₂ → .start ref ∈ l₁)
    (hextra : ∀ ref, .stop ref ∈ extra → .start ref ∈ calls) :
    ∀ ref l₁ l₂, calls ++ extra = l₁ ++ .stop ref :: l₂ → .start ref ∈ l₁ := by
  intro ref l₁ l₂ he
  rcases List.append_eq_append_iff.mp he with ⟨a, rfl, hx⟩ | ⟨c, hc, hx⟩
  · exact List.mem_append_left _ (hextra ref (by rw [hx]; simp))
  · cases c with
    | nil =>
      rw [List.append_nil] at hc
      rw [List.nil_append] at hx
      exact hc ▸ hextra ref (hx ▸ List.mem_cons_self _ _)
    | cons y c =>
      obtain ⟨rfl, -⟩ := List.cons.inj hx
      exact h ref l₁ c hc

/-! ### The map of pipelines -/

theorem lookup_insert_eq_some {m : AList fun _ : PipelineId => PipelineTopology}
    {id id' : PipelineId} {p p' : PipelineTopology} :
    (m.insert id p).lookup id' = some p' ↔
      (id' = id ∧ p' = p) ∨ (id' ≠ id ∧ m.lookup id' = some p') := by
  by_cases he : id' = id
  · subst he; simp [AList.lookup_insert, eq_comm]
  · simp [AList.lookup_insert_ne he, he]

theorem lookup_erase_eq_some {m : AList fun _ : PipelineId => PipelineTopology}
    {id id' : PipelineId} {p' : PipelineTopology} :
    (m.erase id).lookup id' = some p' ↔ id' ≠ id ∧ m.lookup id' = some p' := by
  by_cases he : id' = id
  · subst he; simp [AList.lookup_erase]
  · simp [AList.lookup_erase_ne he, he]

variable {s s' : PipelineSubscriber}

theorem stored_insert {id : PipelineId} {p : PipelineTopology}
    (hnew : s.pipelines.lookup id = none) (hp : s'.pipelines = s.pipelines.insert id p)
    (ref : Nat) : s'.Stored ref ↔ ref ∈ p.refs ∨ s.Stored ref := by
  simp only [Stored, hp, lookup_insert_eq_some]
  constructor
  · rintro ⟨id', p', (⟨rfl, rfl⟩ | ⟨-, h⟩), hr⟩
    · exact .inl hr
    · exact .inr ⟨id', p', h, hr⟩
  · rintro (hr | ⟨id', p', h, hr⟩)
    · exact ⟨id, p, .inl ⟨rfl, rfl⟩, hr⟩
    · exact ⟨id', p', .inr ⟨fun he => (by rw [he, hnew] at h; cases h), h⟩, hr⟩

/-- Erasing a pipeline unstores exactly its transformers, given that no other pipeline
holds them. -/
theorem stored_erase {id : PipelineId} {p : PipelineTopology}
    (hold : s.pipelines.lookup id = some p) (hp : s'.pipelines = s.pipelines.erase id)
    (hdisjoint : ∀ id' p' ref, s.pipelines.lookup id' = some p' → ref ∈ p'.refs →
      ref ∈ p.refs → id' = id) (ref : Nat) :
    s'.Stored ref ↔ s.Stored ref ∧ ref ∉ p.refs := by
  simp only [Stored, hp, lookup_erase_eq_some]
  constructor
  · rintro ⟨id', p', ⟨hne, h⟩, hr⟩
    exact ⟨⟨id', p', h, hr⟩, fun hr' => hne (hdisjoint id' p' ref h hr hr')⟩
  · rintro ⟨⟨id', p', h, hr⟩, hr'⟩
    refine ⟨id', p', ⟨fun he => hr' ?_, h⟩, hr⟩
    subst he; rw [hold] at h; cases h; exact hr

namespace Consistent

theorem start_mem_of_stop_mem (hs : s.Consistent) {ref : Nat} (h : .stop ref ∈ s.calls) :
    .start ref ∈ s.calls := by
  obtain ⟨l₁, l₂, he⟩ := List.append_of_mem h
  exact he ▸ List.mem_append_left _ (hs.start_before_stop ref l₁ l₂ he)

theorem live_of_stored (hs : s.Consistent) {ref : Nat} (h : s.Stored ref) : s.Live ref :=
  (hs.live_iff_stored ref).mpr h

theorem not_stored_of_le (hs : s.Consistent) {ref : Nat} (h : s.nextRef ≤ ref) :
    ¬ s.Stored ref := fun hst => by
  have := hs.started_lt ref (hs.live_of_stored hst).1
  omega

/-- An update that changes neither the map nor the calls keeps the invariant. -/
theorem of_same (hs : s.Consistent) (hp : s'.pipelines = s.pipelines) (hc : s'.calls = s.calls)
    (hn : s.nextRef ≤ s'.nextRef) : s'.Consistent where
  live_iff_stored ref := by simpa [Live, Stored, hp, hc] using hs.live_iff_stored ref
  start_once ref := hc ▸ hs.start_once ref
  stop_once ref := hc ▸ hs.stop_once ref
  start_before_stop := hc ▸ hs.start_before_stop
  started_lt ref h := Nat.lt_of_lt_of_le (hs.started_lt ref (hc ▸ h)) hn
  refs_nodup := hp ▸ hs.refs_nodup
  refs_disjoint := hp ▸ hs.refs_disjoint

/-- Storing a new pipeline whose transformers have the next numbers, and starting them,
keeps the invariant. -/
theorem store (hs : s.Consistent) {id : PipelineId} {p : PipelineTopology}
    (hnew : s.pipelines.lookup id = none)
    (hrefs : p.refs = List.range' s.nextRef p.transformers.length)
    (hp : s'.pipelines = s.pipelines.insert id p)
    (hc : s'.calls = s.calls ++ p.transformers.map fun t => .start t.ref)
    (hn : s'.nextRef = s.nextRef + p.transformers.length) : s'.Consistent := by
  have hc' : s'.calls = s.calls ++ p.refs.map .start := by
    simp [hc, PipelineTopology.refs, List.map_map, Function.comp_def]
  have hmem : ∀ ref, ref ∈ p.refs ↔
      s.nextRef ≤ ref ∧ ref < s.nextRef + p.transformers.length := by
    intro ref; rw [hrefs, List.mem_range'_1]
  have hnodup : p.refs.Nodup := hrefs ▸ List.nodup_range' _ _
  have hfresh : ∀ ref ∈ p.refs, .start ref ∉ s.calls := fun ref hr h => by
    have := hs.started_lt ref h; have := (hmem ref).mp hr; omega
  have hnot : ∀ ref ∈ p.refs, ¬ s.Stored ref := fun ref hr =>
    hs.not_stored_of_le ((hmem ref).mp hr).1
  refine ⟨fun ref => ?_, fun ref => ?_, fun ref => ?_, ?_, fun ref h => ?_, ?_, ?_⟩
  · rw [stored_insert hnew hp, ← hs.live_iff_stored]
    by_cases hr : ref ∈ p.refs
    · have hstop : .stop ref ∉ s.calls := fun h => hfresh ref hr (hs.start_mem_of_stop_mem h)
      simp [Live, hc', hr, hstop]
    · simp [Live, hc', hr]
  · rw [hc']
    exact count_append_le_one (hs.start_once ref)
      (by simpa using List.nodup_iff_count_le_one.mp hnodup ref)
      (hfresh ref) fun _ => TransformerCall.start.inj
  · simpa [hc'] using hs.stop_once ref
  · rw [hc']
    exact start_before_stop_append hs.start_before_stop (by simp)
  · rw [hc'] at h
    rcases List.mem_append.mp h with h | h
    · have := hs.started_lt ref h; omega
    · obtain ⟨_, hr, he⟩ := List.mem_map.mp h
      cases he; have := (hmem _).mp hr; omega
  · intro id' p' h
    rcases (hp ▸ lookup_insert_eq_some).mp h with ⟨-, rfl⟩ | ⟨-, h⟩
    · exact hnodup
    · exact hs.refs_nodup id' p' h
  · intro i j pi pj ref hi hj hri hrj
    rcases (hp ▸ lookup_insert_eq_some).mp hi with ⟨rfl, rfl⟩ | ⟨-, hi⟩ <;>
      rcases (hp ▸ lookup_insert_eq_some).mp hj with ⟨rfl, rfl⟩ | ⟨-, hj⟩
    · rfl
    · exact absurd ⟨j, pj, hj, hrj⟩ (hnot ref hri)
    · exact absurd ⟨i, pi, hi, hri⟩ (hnot ref hrj)
    · exact hs.refs_disjoint i j pi pj ref hi hj hri hrj

/-- Removing a stored pipeline and stopping its transformers keeps the invariant. -/
theorem remove (hs : s.Consistent) {id : PipelineId} {p : PipelineTopology}
    (hold : s.pipelines.lookup id = some p)
    (hp : s'.pipelines = s.pipelines.erase id)
    (hc : s'.calls = s.calls ++ p.transformers.map fun t => .stop t.ref)
    (hn : s'.nextRef = s.nextRef) : s'.Consistent := by
  have hc' : s'.calls = s.calls ++ p.refs.map .stop := by
    simp [hc, PipelineTopology.refs, List.map_map, Function.comp_def]
  have hlive : ∀ ref ∈ p.refs, s.Live ref := fun ref hr =>
    hs.live_of_stored ⟨id, p, hold, hr⟩
  have hstored := stored_erase hold hp fun id' p' ref h hr hr' =>
    hs.refs_disjoint id' id p' p ref h hold hr hr'
  have hlookup : ∀ {id' p'}, s'.pipelines.lookup id' = some p' →
      s.pipelines.lookup id' = some p' :=
    fun h => (lookup_erase_eq_some.mp (hp ▸ h)).2
  refine ⟨fun ref => ?_, fun ref => ?_, fun ref => ?_, ?_, fun ref h => ?_, ?_, ?_⟩
  · rw [hstored, ← hs.live_iff_stored]
    by_cases hr : ref ∈ p.refs <;> simp [Live, hc', hr]
  · simpa [hc'] using hs.start_once ref
  · rw [hc']
    exact count_append_le_one (hs.stop_once ref)
      (by simpa using List.nodup_iff_count_le_one.mp (hs.refs_nodup id p hold) ref)
      (fun hr => (hlive ref hr).2)
      fun _ => TransformerCall.stop.inj
  · rw [hc']
    refine start_before_stop_append hs.start_before_stop fun ref h => ?_
    obtain ⟨_, hr, he⟩ := List.mem_map.mp h
    cases he; exact (hlive _ hr).1
  · rw [hc'] at h
    simp only [List.mem_append, List.mem_map, reduceCtorEq, and_false, exists_false,
      or_false] at h
    exact hn ▸ hs.started_lt ref h
  · intro id' p' h; exact hs.refs_nodup id' p' (hlookup h)
  · intro i j pi pj ref hi hj
    exact hs.refs_disjoint i j pi pj ref (hlookup hi) (hlookup hj)

end Consistent

section
variable (md5 : String → String)

theorem consistent_handleCreate {s : PipelineSubscriber} (hs : s.Consistent)
    (metadata : PipelineMetadata) (steps : List PipelineStepUpdate) (answers : Answers) :
    (handleCreate md5 s metadata steps answers).1.Consistent := by
  obtain ⟨hn, ⟨hp, hc⟩ | ⟨-, -, hnew, hp, hc⟩⟩ := handleCreate_spec md5 s metadata steps answers
  · exact hs.of_same hp hc (by omega)
  · exact hs.store hnew (by exact buildTransformers_refs md5 metadata s.nextRef steps) hp hc hn

theorem consistent_handleDelete {s : PipelineSubscriber} (hs : s.Consistent)
    (metadata : PipelineMetadata) (thrown : Option String) :
    (handleDelete s metadata thrown).1.Consistent := by
  obtain ⟨hn, -, hd⟩ := handleDelete_spec s metadata thrown
  split at hd
  · exact hs.of_same hd.1 hd.2 hn.ge
  · exact hs.remove ‹_› hd.1 hd.2 hn

theorem consistent_handleUpdate {s : PipelineSubscriber} (hs : s.Consistent)
    (update : PipelineUpdateMessage) (answers : Answers) :
    (handleUpdate md5 s update answers).1.Consistent := by
  unfold handleUpdate
  split
  · exact consistent_handleCreate md5 hs _ _ _
  · exact consistent_handleDelete hs _ _
  · exact hs

theorem consistent_subscribe {s : PipelineSubscriber} (hs : s.Consistent)
    (updates : List (PipelineUpdateMessage × Answers)) :
    (subscribe md5 s updates).1.Consistent :=
  subscribe_invariant md5 updates (fun u _ _ hs => consistent_handleUpdate md5 hs u.1 u.2) hs

/-- A Delete of a uid stops exactly what the Create that stored it started, whatever
updates came between that were not Deletes of the uid. -/
theorem handleDelete_stops_started {s : PipelineSubscriber} {metadata : PipelineMetadata}
    {steps : List PipelineStepUpdate} {answers : Answers}
    (hnew : s.pipelines.lookup metadata.id = none)
    (hstored : ((handleCreate md5 s metadata steps answers).1.pipelines.lookup metadata.id).isSome)
    (between : List (PipelineUpdateMessage × Answers))
    (hbetween : ∀ u ∈ between, u.1.op = .delete → u.1.uid ≠ metadata.id)
    {metadata' : PipelineMetadata} (hid : metadata'.id = metadata.id) (thrown : Option String) :
    ∃ started : List Nat,
      (handleCreate md5 s metadata steps answers).1.calls = s.calls ++ started.map .start ∧
      (handleDelete (subscribe md5 (handleCreate md5 s metadata steps answers).1 between).1
          metadata' thrown).1.calls =
        (subscribe md5 (handleCreate md5 s metadata steps answers).1 between).1.calls ++
          started.map .stop := by
  obtain ⟨-, ⟨hsame, -⟩ | ⟨-, -, -, hins, hcalls⟩⟩ := handleCreate_spec md5 s metadata steps answers
  · simp [hsame, hnew] at hstored
  · have hlookup := lookup_subscribe md5 between (by rw [hins, AList.lookup_insert]) hbetween
    obtain ⟨-, -, hd⟩ := handleDelete_spec
      (subscribe md5 (handleCreate md5 s metadata steps answers).1 between).1 metadata' thrown
    rw [hid, hlookup] at hd
    refine ⟨(buildTransformers md5 metadata s.nextRef steps).map (·.ref), ?_, ?_⟩
    · rw [hcalls, List.map_map]; rfl
    · rw [hd.2, List.map_map]; rfl

/-- Over every sequence of updates from a new subscriber the started and not stopped
transformers are those of the stored pipelines, each started and stopped at most once and
stopped only after its start; a Create that is not new or that fails stores and starts
nothing; and a Delete stops what the Create of its uid started. -/
theorem subscribe_transformers_match_pipelines (topics : Finset TopicName)
    (updates : List (PipelineUpdateMessage × Answers)) :
    (subscribe md5 (init topics) updates).1.Consistent ∧
    (∀ (s : PipelineSubscriber) metadata steps answers,
      (s.pipelines.lookup metadata.id).isSome ∨
        (createTopics s.topics answers.failed steps).2 ≠ .ok () ∨
        (∃ step ∈ steps,
          transformerFor md5 metadata.name step.sources step.tensorMap step.sink = none) →
      (handleCreate md5 s metadata steps answers).1.pipelines = s.pipelines ∧
        (handleCreate md5 s metadata steps answers).1.calls = s.calls) ∧
    (∀ (s : PipelineSubscriber) metadata steps answers between (metadata' : PipelineMetadata)
      thrown,
      s.pipelines.lookup metadata.id = none →
      ((handleCreate md5 s metadata steps answers).1.pipelines.lookup metadata.id).isSome →
      (∀ u ∈ between, u.1.op = .delete → u.1.uid ≠ metadata.id) → metadata'.id = metadata.id →
      ∃ started : List Nat,
        (handleCreate md5 s metadata steps answers).1.calls = s.calls ++ started.map .start ∧
        (handleDelete (subscribe md5 (handleCreate md5 s metadata steps answers).1 between).1
            metadata' thrown).1.calls =
          (subscribe md5 (handleCreate md5 s metadata steps answers).1 between).1.calls ++
            started.map .stop) :=
  ⟨consistent_subscribe md5 (consistent_init topics) updates,
    fun _ _ _ _ h => handleCreate_of_not_stored md5 h,
    fun _ _ _ _ between _ thrown hnew hstored hbetween hid =>
      handleDelete_stops_started md5 hnew hstored between hbetween hid thrown⟩

end

/-- The Create of pipeline `iris`, with one step, on a new subscriber, and the Delete of its
uid right after: the Delete stops the transformer the Create started. -/
theorem subscribe_transformers_match_pipelines_iris :
    let metadata : PipelineMetadata := ⟨"iris", "iris-pipeline", 1⟩
    let steps : List PipelineStepUpdate :=
      [⟨["seldon.default.model.iris.outputs"], ∅, "seldon.default.model.classifier.inputs"⟩]
    let answers : Answers := ⟨fun _ => false, none⟩
    (init ∅).pipelines.lookup metadata.id = none ∧
    ((handleCreate id (init ∅) metadata steps answers).1.pipelines.lookup metadata.id).isSome ∧
    (∀ u ∈ ([] : List (PipelineUpdateMessage × Answers)),
      u.1.op = .delete → u.1.uid ≠ metadata.id) ∧ metadata.id = metadata.id ∧
    ∃ started : List Nat,
      (handleCreate id (init ∅) metadata steps answers).1.calls =
        (init ∅).calls ++ started.map .start ∧
      (handleDelete (subscribe id (handleCreate id (init ∅) metadata steps answers).1 []).1
          metadata none).1.calls =
        (subscribe id (handleCreate id (init ∅) metadata steps answers).1 []).1.calls ++
          started.map .stop :=
  have hstored : ((handleCreate id (init ∅) ⟨"iris", "iris-pipeline", 1⟩
      [⟨["seldon.default.model.iris.outputs"], ∅, "seldon.default.model.classifier.inputs"⟩]
      ⟨fun _ => false, none⟩).1.pipelines.lookup "iris").isSome := by decide
  ⟨rfl, hstored, nofun, rfl,
    (subscribe_transformers_match_pipelines id ∅ []).2.2 _ _ _ _ [] _ none rfl hstored nofun rfl⟩

end PipelineSubscriber

end SeldonCore.Dataflow
