import SeldonCore.Dataflow.PipelineSubscriber

/-! # What the subscriber leaves in Kafka

Every Kafka topic that a stored transformer reads exists (`subscribe_inputs_exist`), and so
does the topic that `parseSource` gives its sink (`subscribe_sink_topics_exist`):
`createTopics` asks for both, and a pipeline is stored only after it returned.
-/

namespace SeldonCore.Dataflow

namespace PipelineSubscriber

/-! ## The topics of the stored transformers -/

theorem topicsOf_subset_uniqueTopicNames {steps : List PipelineStepUpdate}
    {step : PipelineStepUpdate} (h : step ∈ steps) :
    topicsOf step.sources ⊆ uniqueTopicNames steps := by
  intro t ht
  obtain ⟨src, hsrc, rfl⟩ := List.mem_map.mp (List.mem_toFinset.mp ht)
  simp only [uniqueTopicNames, List.mem_toFinset, List.mem_map, List.mem_append, List.mem_flatMap]
  exact ⟨src, .inl ⟨step, h, hsrc⟩, rfl⟩

theorem sink_mem_uniqueTopicNames {steps : List PipelineStepUpdate}
    {step : PipelineStepUpdate} (h : step ∈ steps) :
    (parseSource step.sink).1 ∈ uniqueTopicNames steps := by
  simp only [uniqueTopicNames, List.mem_toFinset, List.mem_map, List.mem_append]
  exact ⟨step.sink, .inr ⟨step, h, rfl⟩, rfl⟩

theorem createTopics_subset (topics : Finset TopicName) (failed : TopicName → Bool)
    (steps : List PipelineStepUpdate) : topics ⊆ (createTopics topics failed steps).1 :=
  Finset.subset_union_left

/-- When `createTopics` returns, every topic it asked for exists: the new ones were created
and the others were there. -/
theorem createTopics_ok {topics : Finset TopicName} {failed : TopicName → Bool}
    {steps : List PipelineStepUpdate} (h : (createTopics topics failed steps).2 = .ok ()) :
    uniqueTopicNames steps ⊆ (createTopics topics failed steps).1 := by
  intro t ht
  simp only [createTopics] at h ⊢
  split at h
  · have hnot := Finset.filter_eq_empty_iff.mp ‹_› ht
    by_cases hf : failed t = true
    · exact Finset.mem_union_left _ (by_contra fun hn => hnot ⟨hn, hf⟩)
    · exact Finset.mem_union_right _ (Finset.mem_filter.mpr ⟨ht, by simpa using hf⟩)
  · cases h

section
variable (md5 : String → String)

/-- Each built transformer is what `transformerFor` gives one of the steps. -/
theorem buildTransformers_mem {metadata : PipelineMetadata} {nextRef : Nat}
    {steps : List PipelineStepUpdate} {t : TransformerObject}
    (h : t ∈ buildTransformers md5 metadata nextRef steps) :
    ∃ step ∈ steps, transformerFor md5 metadata.name step.sources step.tensorMap step.sink =
      some t.transformer := by
  obtain ⟨e, he, rfl⟩ := List.mem_map.mp h
  exact List.mem_filterMap.mp (List.snd_mem_of_mem_enumFrom he)

/-- Every topic that `reads` gives a stored transformer exists. -/
def TopicsExist (reads : Transformer → Finset TopicName) (s : PipelineSubscriber) : Prop :=
  ∀ id p, s.pipelines.lookup id = some p → ∀ t ∈ p.transformers,
    reads t.transformer ⊆ s.topics

/-- Every topic a stored transformer reads exists. -/
def InputsExist (s : PipelineSubscriber) : Prop :=
  TopicsExist Transformer.inputTopics s

section Reads
variable {reads : Transformer → Finset TopicName}
  (hreads : ∀ steps, ∀ step ∈ steps, ∀ name tr,
    transformerFor md5 name step.sources step.tensorMap step.sink = some tr →
    reads tr ⊆ uniqueTopicNames steps)
include hreads

theorem topicsExist_handleCreate {s : PipelineSubscriber} (hs : TopicsExist reads s)
    (metadata : PipelineMetadata) (steps : List PipelineStepUpdate) (answers : Answers) :
    TopicsExist reads (handleCreate md5 s metadata steps answers).1 := by
  intro id p hp t ht
  rw [handleCreate_topics]
  obtain ⟨-, ⟨hsame, -⟩ | ⟨hok, -, -, hins, -⟩⟩ := handleCreate_spec md5 s metadata steps answers
  · rw [hsame] at hp
    exact (hs id p hp t ht).trans (createTopics_subset _ _ _)
  · rcases (hins ▸ lookup_insert_eq_some).mp hp with ⟨-, rfl⟩ | ⟨-, hp⟩
    · obtain ⟨step, hstep, htr⟩ := buildTransformers_mem md5 ht
      exact (hreads steps step hstep _ _ htr).trans (createTopics_ok hok)
    · exact (hs id p hp t ht).trans (createTopics_subset _ _ _)

omit hreads in
theorem topicsExist_handleDelete {s : PipelineSubscriber} (hs : TopicsExist reads s)
    (metadata : PipelineMetadata) (thrown : Option String) :
    TopicsExist reads (handleDelete s metadata thrown).1 := by
  intro id p hp t ht
  obtain ⟨-, htopics, hd⟩ := handleDelete_spec s metadata thrown
  rw [htopics]
  split at hd
  · rw [hd.1] at hp
    exact hs id p hp t ht
  · rw [hd.1] at hp
    exact hs id p (lookup_erase_eq_some.mp hp).2 t ht

/-- If each transformer's topics are among those its Create asks for, they exist after
every sequence of updates from a new subscriber. -/
theorem topicsExist_subscribe (topics : Finset TopicName)
    (updates : List (PipelineUpdateMessage × Answers)) :
    TopicsExist reads (subscribe md5 (init topics) updates).1 := by
  refine subscribe_invariant md5 updates (fun u _ s hs => ?_) (by simp [TopicsExist, init])
  unfold handleUpdate
  split
  · exact topicsExist_handleCreate md5 hreads hs _ _ _
  · exact topicsExist_handleDelete hs _ _
  · exact hs

end Reads

/-- Over every sequence of updates from a new subscriber, every topic that a stored
transformer reads exists in Kafka: it is the topic of one of its step's sources, and the
Create that stored the pipeline had `createTopics` return for all of them. -/
theorem subscribe_inputs_exist (topics : Finset TopicName)
    (updates : List (PipelineUpdateMessage × Answers)) :
    (subscribe md5 (init topics) updates).1.InputsExist :=
  topicsExist_subscribe md5 (fun _ _ hstep _ _ htr =>
    transformerFor_inputTopics htr ▸ topicsOf_subset_uniqueTopicNames hstep) topics updates

/-- Over every sequence of updates from a new subscriber, the topic that `parseSource` gives
the sink of a stored transformer exists; so the topic it writes to exists when the sink
ends in `.inputs` or `.outputs`. -/
theorem subscribe_sink_topics_exist (topics : Finset TopicName)
    (updates : List (PipelineUpdateMessage × Answers)) :
    let s := (subscribe md5 (init topics) updates).1
    ∀ id p, s.pipelines.lookup id = some p → ∀ t ∈ p.transformers,
      (parseSource t.transformer.outputTopic).1 ∈ s.topics ∧
      (substringAfterLast t.transformer.outputTopic '.' "" ∈ ["inputs", "outputs"] →
        t.transformer.outputTopic ∈ s.topics) := by
  intro s id p hp t ht
  have hsink : (parseSource t.transformer.outputTopic).1 ∈ s.topics := by
    refine Finset.singleton_subset_iff.mp (@topicsExist_subscribe md5
      (fun tr => {(parseSource tr.outputTopic).1}) ?_ topics updates id p hp t ht)
    intro _ _ hstep _ _ htr
    dsimp only
    rw [transformerFor_outputTopic htr, Finset.singleton_subset_iff]
    exact sink_mem_uniqueTopicNames hstep
  exact ⟨hsink, fun hkind => by rwa [parseSource_of_kind hkind] at hsink⟩

end

end PipelineSubscriber

end SeldonCore.Dataflow
