import SeldonCore.Dataflow.Sources
import Mathlib.Data.List.Basic

/-! # The transformer of a pipeline step

`transformerFor` picks a `Chainer` for a step that reads one topic and a `Joiner` for a
step that reads several, and names its Kafka Streams application by `nameFor`: the MD5
of the step's type, sources and sink joined by `:`. The pipeline name and the tensor map
are not hashed, so the same step in two pipelines gets the same application id
(`same_step_shares_app_id`); below the hash, the name tells steps apart by their sources
and sink alone (`nameInput_eq_iff`).

The MD5 digest of `java.security` is a parameter `md5`: every result holds for any
function in its place.
-/

namespace SeldonCore.Dataflow

/-- The Kafka Streams topologies of `transformerFor`, with the application id that
`withAppId` puts into their Kafka properties. -/
inductive Transformer where
  | chainer (appId : String) (inputTopic outputTopic : TopicName)
      (tensors : Option (Finset TensorName)) (pipelineName : String)
      (tensorRenaming : Finset (TensorName × TensorName))
  | joiner (appId : String) (inputTopics : Finset TopicName) (outputTopic : TopicName)
      (tensorsByTopic : Option (Finset (TopicName × Finset TensorName))) (pipelineName : String)
      (tensorRenaming : Finset (TensorName × TensorName))
  deriving DecidableEq

namespace Transformer

def appId : Transformer → String
  | chainer appId .. | joiner appId .. => appId

/-- The type that `nameFor` hashes: `"chainer"` or `"joiner"`. -/
def kind : Transformer → String
  | chainer .. => "chainer"
  | joiner .. => "joiner"

/-- The topics the transformer's stream reads. -/
def inputTopics : Transformer → Finset TopicName
  | chainer _ inputTopic .. => {inputTopic}
  | joiner _ inputTopics .. => inputTopics

def outputTopic : Transformer → TopicName
  | chainer _ _ outputTopic .. | joiner _ _ outputTopic .. => outputTopic

end Transformer

/-- The string that `nameFor` hashes: `"$type:${sources.joinToString(":")}:$sink"`. -/
def nameInput (sources : List TopicName) (sink : TopicName) (type : String) : String :=
  type ++ ":" ++ joinToString ":" sources ++ ":" ++ sink

section
variable (md5 : String → String)

def nameFor (sources : List TopicName) (sink : TopicName) (type : String) : String :=
  md5 (nameInput sources sink type)

/-- `transformerFor`; the base Kafka properties are not modelled beyond the application
id. -/
def transformerFor (pipelineName : String) (sources : List TopicName)
    (tensorMap : Finset (TensorName × TensorName)) (sink : TopicName) : Option Transformer :=
  match parseSources sources with
  | .empty => none
  | .single topicName =>
    some (.chainer (nameFor md5 sources sink "chainer") topicName sink none pipelineName tensorMap)
  | .singleSubset topicName tensors =>
    some (.chainer (nameFor md5 sources sink "chainer") topicName sink (some tensors) pipelineName
      tensorMap)
  | .many topicNames =>
    some (.joiner (nameFor md5 sources sink "joiner") topicNames sink none pipelineName tensorMap)
  | .manySubsets topicNames tensorsByTopic =>
    some (.joiner (nameFor md5 sources sink "joiner") topicNames sink (some tensorsByTopic)
      pipelineName tensorMap)

/-- The type `transformerFor` gives a projection. -/
def SourceProjection.kind : SourceProjection → String
  | .single _ | .singleSubset _ _ => "chainer"
  | _ => "joiner"

/-- The topics of a projection. -/
def SourceProjection.topics : SourceProjection → Finset TopicName
  | .empty => ∅
  | .single t | .singleSubset t _ => {t}
  | .many ts | .manySubsets ts _ => ts

/-- What `transformerFor` returns, through the projection: nothing for no sources, and
otherwise a transformer of the projection's type named by `nameFor`. -/
theorem transformerFor_spec (pipelineName : String) (sources : List TopicName)
    (tensorMap : Finset (TensorName × TensorName)) (sink : TopicName) :
    (transformerFor md5 pipelineName sources tensorMap sink).map
        (fun tr => (tr.kind, tr.appId)) =
      if parseSources sources = .empty then none
      else some ((parseSources sources).kind,
        nameFor md5 sources sink (parseSources sources).kind) := by
  unfold transformerFor
  split <;> simp_all [Transformer.kind, Transformer.appId, SourceProjection.kind]

theorem transformerFor_eq_some {pipelineName : String} {sources : List TopicName}
    {tensorMap : Finset (TensorName × TensorName)} {sink : TopicName} {tr : Transformer}
    (h : transformerFor md5 pipelineName sources tensorMap sink = some tr) :
    sources ≠ [] ∧ tr.kind = (parseSources sources).kind ∧
      tr.appId = nameFor md5 sources sink tr.kind := by
  have hs := transformerFor_spec md5 pipelineName sources tensorMap sink
  rw [h, Option.map_some'] at hs
  split at hs
  · cases hs
  · rename_i hne
    simp only [Option.some.injEq, Prod.mk.injEq] at hs
    exact ⟨fun h0 => hne (by rw [h0]; rfl), hs.1, hs.1 ▸ hs.2⟩

theorem transformerFor_kind (pipelineName : String) (sources : List TopicName)
    (tensorMap : Finset (TensorName × TensorName)) (sink : TopicName) :
    (transformerFor md5 pipelineName sources tensorMap sink).map Transformer.kind =
      if parseSources sources = .empty then none else some (parseSources sources).kind := by
  have h := congrArg (Option.map Prod.fst)
    (transformerFor_spec md5 pipelineName sources tensorMap sink)
  simpa only [Option.map_map, Function.comp_def, apply_ite (Option.map Prod.fst),
    Option.map_none', Option.map_some'] using h

end

/-! ## The projection reads a set -/

/-- `parseSources` is the projection by sets; with it, the projection and whether
`transformerFor` builds a `Chainer`, a `Joiner` or nothing depend on the sources only as
a set of names. -/
theorem parseSources_by_sets (sources : List TopicName) :
    (∀ p, parseSources sources = p ↔ ProjectionOfSets sources p) ∧
    ∀ sources', (∀ s, s ∈ sources' ↔ s ∈ sources) →
      parseSources sources' = parseSources sources ∧
      ∀ (md5 : String → String) pipelineName tensorMap sink pipelineName' tensorMap' sink',
        (transformerFor md5 pipelineName' sources' tensorMap' sink').map Transformer.kind =
          (transformerFor md5 pipelineName sources tensorMap sink).map Transformer.kind := by
  refine ⟨parseSources_eq_iff sources, fun sources' h => ⟨parseSources_congr h, ?_⟩⟩
  intro md5 pipelineName tensorMap sink pipelineName' tensorMap' sink'
  rw [transformerFor_kind, transformerFor_kind, parseSources_congr h]

/-! ## The topics a transformer reads -/

theorem ProjectionOfSets.topics_eq {sources : List TopicName} {p : SourceProjection}
    (h : ProjectionOfSets sources p) : p.topics = topicsOf sources := by
  cases h with
  | empty h0 => subst h0; rfl
  | single _ ht _ => exact ht.symm
  | singleSubset _ ht _ => exact ht.symm
  | many _ _ => rfl
  | manySubsets _ _ => rfl

/-- A transformer reads the topics of its step's sources. -/
theorem transformerFor_inputTopics {md5 : String → String} {pipelineName : String}
    {sources : List TopicName} {tensorMap : Finset (TensorName × TensorName)} {sink : TopicName}
    {tr : Transformer} (h : transformerFor md5 pipelineName sources tensorMap sink = some tr) :
    tr.inputTopics = topicsOf sources := by
  rw [← ((parseSources_eq_iff sources _).mp rfl).topics_eq]
  unfold transformerFor at h
  split at h <;> cases h <;> simp [Transformer.inputTopics, SourceProjection.topics, *]

/-- A transformer writes to its step's sink. -/
theorem transformerFor_outputTopic {md5 : String → String} {pipelineName : String}
    {sources : List TopicName} {tensorMap : Finset (TensorName × TensorName)} {sink : TopicName}
    {tr : Transformer} (h : transformerFor md5 pipelineName sources tensorMap sink = some tr) :
    tr.outputTopic = sink := by
  unfold transformerFor at h
  split at h <;> cases h <;> rfl

/-! ## Application ids -/

private theorem intercalate_cons_of_ne_nil {c : Char} {l : List (List Char)} (hl : l ≠ [])
    (a : List Char) : [c].intercalate (a :: l) = a ++ c :: [c].intercalate l := by
  obtain ⟨b, l, rfl⟩ := List.exists_cons_of_ne_nil hl
  simp [List.intercalate, List.intersperse_cons₂]

private theorem intercalate_append_singleton {c : Char} {l : List (List Char)} (hl : l ≠ [])
    (b : List Char) : [c].intercalate (l ++ [b]) = [c].intercalate l ++ c :: b := by
  induction l with
  | nil => exact absurd rfl hl
  | cons a l ih =>
    rcases eq_or_ne l [] with rfl | hne
    · simp [List.intercalate]
    · rw [List.cons_append, intercalate_cons_of_ne_nil (by simp), ih hne,
        intercalate_cons_of_ne_nil hne]
      simp

/-- Below the hash, a step's name is its type, sources and sink joined by `:`. -/
theorem nameInput_data {sources : List TopicName} (hs : sources ≠ []) (sink type : String) :
    (nameInput sources sink type).data =
      [':'].intercalate ((type :: sources ++ [sink]).map String.data) := by
  have hm : sources.map String.data ≠ [] := by simpa using hs
  simp only [List.map_append, List.map_cons, List.map_nil, List.cons_append]
  rw [intercalate_cons_of_ne_nil (by simp), intercalate_append_singleton hm]
  simp [nameInput, joinToString]

/-- With no `:` in the names, the hashed string gives back the type, sources and sink. -/
theorem nameInput_injective {sources sources' : List TopicName} {sink sink' type type' : String}
    (hs : sources ≠ []) (hs' : sources' ≠ [])
    (hcolon : ∀ x ∈ type :: type' :: sink :: sink' :: sources ++ sources', ':' ∉ x.data)
    (h : nameInput sources sink type = nameInput sources' sink' type') :
    type = type' ∧ sources = sources' ∧ sink = sink' := by
  have hsplit : (nameInput sources sink type).data.splitOn ':' =
      (nameInput sources' sink' type').data.splitOn ':' := by rw [h]
  have hx : ∀ x ∈ type :: sources ++ [sink], ':' ∉ x.data := fun x hx =>
    hcolon x (by simp only [List.cons_append, List.mem_cons, List.mem_append] at hx ⊢; tauto)
  have hx' : ∀ x ∈ type' :: sources' ++ [sink'], ':' ∉ x.data := fun x hx =>
    hcolon x (by simp only [List.cons_append, List.mem_cons, List.mem_append] at hx ⊢; tauto)
  rw [nameInput_data hs, nameInput_data hs',
    List.splitOn_intercalate _ ':' (List.forall_mem_map.mpr hx) (by simp),
    List.splitOn_intercalate _ ':' (List.forall_mem_map.mpr hx') (by simp)] at hsplit
  have hinj := List.map_injective_iff.mpr (fun _ _ => String.ext) hsplit
  simp only [List.cons_append, List.cons.injEq] at hinj
  obtain ⟨hsources, hsink⟩ := List.append_inj' hinj.2 rfl
  exact ⟨hinj.1, hsources, List.singleton_injective hsink⟩

/-- Two steps with transformers get the same hashed string exactly when they have the same
sources and sink; the pipeline name and the tensor map do not enter it. -/
theorem nameInput_eq_iff (md5 : String → String) {pipelineName pipelineName' : String}
    {sources sources' : List TopicName} {tensorMap tensorMap' : Finset (TensorName × TensorName)}
    {sink sink' : TopicName} {tr tr' : Transformer}
    (hcolon : ∀ x ∈ sink :: sink' :: sources ++ sources', ':' ∉ x.data)
    (h : transformerFor md5 pipelineName sources tensorMap sink = some tr)
    (h' : transformerFor md5 pipelineName' sources' tensorMap' sink' = some tr') :
    tr.appId = nameFor md5 sources sink tr.kind ∧ tr'.appId = nameFor md5 sources' sink' tr'.kind ∧
    (nameInput sources sink tr.kind = nameInput sources' sink' tr'.kind ↔
      sources = sources' ∧ sink = sink') := by
  obtain ⟨hs, hk, happ⟩ := transformerFor_eq_some md5 h
  obtain ⟨hs', hk', happ'⟩ := transformerFor_eq_some md5 h'
  have hkind : ∀ tr : Transformer, ':' ∉ tr.kind.data := by
    rintro (_ | _) <;> simp only [Transformer.kind] <;> decide
  refine ⟨happ, happ', fun hn => (nameInput_injective hs hs' (fun x hx => ?_) hn).2, ?_⟩
  · simp only [List.cons_append, List.mem_cons] at hx
    rcases hx with rfl | rfl | hx
    · exact hkind tr
    · exact hkind tr'
    · exact hcolon x (by simpa using hx)
  · rintro ⟨rfl, rfl⟩; rw [hk, hk']

theorem nameInput_eq_iff_two_sinks :
    ∃ tr tr', transformerFor id "p" ["a.outputs"] ∅ "b.inputs" = some tr ∧
      transformerFor id "q" ["a.outputs"] ∅ "c.inputs" = some tr' ∧
      tr.appId = nameFor id ["a.outputs"] "b.inputs" tr.kind ∧
      tr'.appId = nameFor id ["a.outputs"] "c.inputs" tr'.kind ∧
      (nameInput ["a.outputs"] "b.inputs" tr.kind = nameInput ["a.outputs"] "c.inputs" tr'.kind ↔
        ["a.outputs"] = ["a.outputs"] ∧ "b.inputs" = "c.inputs") :=
  ⟨_, _, rfl, rfl, nameInput_eq_iff id (by decide) rfl rfl⟩

/-- The same step in two pipelines: both get a transformer, and both transformers get the
same application id, whatever the hash. -/
theorem same_step_shares_app_id :
    ¬ ∀ (md5 : String → String) (pipelineName pipelineName' : String)
        (sources sources' : List TopicName)
        (tensorMap tensorMap' : Finset (TensorName × TensorName)) (sink sink' : TopicName)
        (tr tr' : Transformer),
      (∀ x ∈ sink :: sink' :: sources ++ sources', ':' ∉ x.data) →
      (pipelineName ≠ pipelineName' ∨ sources ≠ sources' ∨ sink ≠ sink') →
      transformerFor md5 pipelineName sources tensorMap sink = some tr →
      transformerFor md5 pipelineName' sources' tensorMap' sink' = some tr' →
      nameInput sources sink tr.kind ≠ nameInput sources' sink' tr'.kind ∧ tr.appId ≠ tr'.appId := by
  intro h
  exact (h id "iris-pipeline" "other-pipeline" ["seldon.default.model.iris.outputs"]
    ["seldon.default.model.iris.outputs"] ∅ ∅ "seldon.default.model.classifier.inputs"
    "seldon.default.model.classifier.inputs" _ _ (by decide) (.inl (by decide)) rfl rfl).2 rfl

end SeldonCore.Dataflow
