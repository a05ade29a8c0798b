import SeldonCore.Dataflow.Kotlin
import Mathlib.Data.Finset.Card

/-! # Source names and their projection

A pipeline step reads from source names `topic` or `topic.tensor`. `parseSource` splits a
name at its last dot, `parseSources` groups a step's sources by topic, and
`areTensorsFromSameTopic` answers whether they all name tensors of one topic. The
projection depends on the sources only through the set of topics and each topic's set
of tensors (`parseSources_spec`).
-/

namespace SeldonCore.Dataflow

abbrev TopicName := String
abbrev TensorName := String

/-- `parseSource`: the topic of a source name and, after its last `.`, the tensor it
names. -/
def parseSource (source : TopicName) : TopicName × Option TensorName :=
  let last := substringAfterLast source '.' ""
  if last = "" then (last, none)
  else if last = "inputs" ∨ last = "outputs" then (source, none)
  else (substringBeforeLast source '.', some last)

/-- A name with a tensor is its topic, a dot and the tensor, which is neither empty nor
dotted. -/
theorem parseSource_tensor {source t x : String} (h : parseSource source = (t, some x)) :
    x ≠ "" ∧ '.' ∉ x.data ∧ source = t ++ "." ++ x := by
  unfold parseSource substringAfterLast substringBeforeLast at h
  cases hi : lastIndexOf '.' source.data with
  | none => simp [hi] at h
  | some i =>
    simp only [hi] at h
    split at h
    · cases h
    · split at h
      · cases h
      · simp only [Prod.mk.injEq, Option.some.injEq] at h
        obtain ⟨rfl, rfl⟩ := h
        obtain ⟨hsplit, hnot⟩ := lastIndexOf_eq_some hi
        refine ⟨‹_›, hnot, String.ext ?_⟩
        simpa [String.data_append] using hsplit

theorem parseSource_tensor_iris :
    parseSource "iris.predict" = ("iris", some "predict") ∧
      ("predict" ≠ "" ∧ '.' ∉ "predict".data ∧ "iris.predict" = "iris" ++ "." ++ "predict") :=
  have h : parseSource "iris.predict" = ("iris", some "predict") := by decide
  ⟨h, parseSource_tensor h⟩

/-- A name with no dot loses its topic: `parseSource` returns the empty topic for it. -/
theorem parseSource_of_no_dot {source : String} (h : '.' ∉ source.data) :
    parseSource source = ("", none) := by
  simp [parseSource, substringAfterLast, lastIndexOf_eq_none.mpr h]

theorem parseSource_dotless_name : parseSource "iris" = ("", none) := by decide

/-- A name ending in `.inputs` or `.outputs` is a topic by itself. -/
theorem parseSource_of_kind {source : String}
    (h : substringAfterLast source '.' "" ∈ ["inputs", "outputs"]) :
    parseSource source = (source, none) := by
  simp only [List.mem_cons, List.mem_singleton, List.not_mem_nil, or_false] at h
  rcases h with h | h <;> simp [parseSource, h]

/-! ## Grouping by topic -/

structure TopicTensors where
  topicName : TopicName
  tensors : Finset TensorName
  deriving DecidableEq

inductive SourceProjection where
  | empty
  | single (topicName : TopicName)
  | singleSubset (topicName : TopicName) (tensors : Finset TensorName)
  | many (topicNames : Finset TopicName)
  | manySubsets (topicNames : Finset TopicName) (tensorMap : Finset (TopicName × Finset TensorName))
  deriving DecidableEq

/-- The local `topicsAndTensors` of `parseSources`: each topic with the set of its tensors,
topics in order of first appearance. -/
def topicsAndTensors (sources : List TopicName) : List TopicTensors :=
  (groupBy (sources.map parseSource)).map fun e => ⟨e.1, (e.2.filterMap id).toFinset⟩

/-- `parseSources`; the `when` on the size of `topicsAndTensors` is a match on its
shape. -/
def parseSources (sources : List TopicName) : SourceProjection :=
  match topicsAndTensors sources with
  | [] => .empty
  | [tt] => if tt.tensors = ∅ then .single tt.topicName else .singleSubset tt.topicName tt.tensors
  | tts =>
    if tts.all fun tt => tt.tensors = ∅ then .many (tts.map (·.topicName)).toFinset
    else .manySubsets (tts.map (·.topicName)).toFinset
      (toMap (tts.map fun tt => (tt.topicName, tt.tensors)))

def areTensorsFromSameTopic (sources : List TopicName) :
    Bool × (Finset TopicName × Finset TensorName) :=
  let topics := (sources.map parseSource).unzip.1.toFinset
  let tensors := ((sources.map parseSource).unzip.2.filterMap id).toFinset
  if tensors = ∅ ∨ topics.card > 1 then (false, (topics, ∅)) else (true, (topics, tensors))

/-! ## The projection by sets -/

/-- The topics of the sources. -/
def topicsOf (sources : List TopicName) : Finset TopicName :=
  (sources.map fun s => (parseSource s).1).toFinset

/-- The tensors the sources name for topic `t`. -/
def tensorsOf (sources : List TopicName) (t : TopicName) : Finset TensorName :=
  (sources.filterMap fun s => if (parseSource s).1 = t then (parseSource s).2 else none).toFinset

theorem filterMap_filter_parseSource (sources : List TopicName) (t : TopicName) :
    (((sources.map parseSource).filter (fun e => e.1 = t)).map Prod.snd).filterMap id =
      sources.filterMap fun s => if (parseSource s).1 = t then (parseSource s).2 else none := by
  induction sources with
  | nil => rfl
  | cons s rest ih =>
    by_cases h : (parseSource s).1 = t
    · cases hs : (parseSource s).2 <;> simp_all [List.filter_cons]
    · simp_all [List.filter_cons]

/-- `topicsAndTensors` lists each topic of `topicsOf` once, with `tensorsOf` it. -/
theorem topicsAndTensors_spec (sources : List TopicName) :
    ((topicsAndTensors sources).map (·.topicName)).Nodup ∧
    (∀ t, t ∈ (topicsAndTensors sources).map (·.topicName) ↔ t ∈ topicsOf sources) ∧
    ∀ tt ∈ topicsAndTensors sources, tt.tensors = tensorsOf sources tt.topicName := by
  have hg := groupBy_groups (sources.map parseSource)
  have hmap : (topicsAndTensors sources).map (·.topicName) =
      (groupBy (sources.map parseSource)).map Prod.fst := by
    simp [topicsAndTensors, Function.comp_def]
  refine ⟨hmap ▸ hg.nodup, fun t => ?_, fun tt htt => ?_⟩
  · rw [hmap, hg.keys]; simp [topicsOf]
  · obtain ⟨⟨k, vs⟩, he, rfl⟩ := List.mem_map.mp htt
    simp only [tensorsOf, hg.values k vs he, filterMap_filter_parseSource]

theorem topicsOf_eq_empty {sources : List TopicName} : topicsOf sources = ∅ ↔ sources = [] := by
  simp [topicsOf]

/-- `parseSources`, by the number of topics and by whether they name tensors. -/
theorem parseSources_spec (sources : List TopicName) :
    (sources = [] ∧ parseSources sources = .empty) ∨
    (∃ t, topicsOf sources = {t} ∧ parseSources sources =
      if tensorsOf sources t = ∅ then .single t else .singleSubset t (tensorsOf sources t)) ∨
    (2 ≤ (topicsOf sources).card ∧ parseSources sources =
      if ∀ t ∈ topicsOf sources, tensorsOf sources t = ∅ then .many (topicsOf sources)
      else .manySubsets (topicsOf sources)
        ((topicsOf sources).image fun t => (t, tensorsOf sources t))) := by
  obtain ⟨hnd, hkeys, htens⟩ := topicsAndTensors_spec sources
  have htopics : ((topicsAndTensors sources).map (·.topicName)).toFinset = topicsOf sources :=
    Finset.ext fun t => by rw [List.mem_toFinset, hkeys]
  have hcard : (topicsOf sources).card = (topicsAndTensors sources).length := by
    rw [← htopics, List.toFinset_card_of_nodup hnd, List.length_map]
  unfold parseSources
  generalize topicsAndTensors sources = tts at hnd htens htopics hcard ⊢
  match tts, hcard with
  | [], hcard => exact .inl ⟨topicsOf_eq_empty.mp (Finset.card_eq_zero.mp hcard), rfl⟩
  | [tt], _ =>
    have ht : topicsOf sources = {tt.topicName} := by rw [← htopics]; rfl
    refine .inr <| .inl ⟨tt.topicName, ht, ?_⟩
    rw [← htens tt (List.mem_singleton_self tt)]
  | tt :: tt' :: rest, hcard =>
    have h2 : 2 ≤ (topicsOf sources).card := by simp [hcard]
    have hall : ((tt :: tt' :: rest).all fun tt => tt.tensors = ∅) ↔
        ∀ t ∈ topicsOf sources, tensorsOf sources t = ∅ := by
      simp only [List.all_eq_true, decide_eq_true_eq, ← htopics, List.mem_toFinset,
        List.mem_map, forall_exists_index, and_imp, forall_apply_eq_imp_iff₂]
      exact forall₂_congr fun tt htt => by rw [htens tt htt]
    have hmap : toMap ((tt :: tt' :: rest).map fun tt => (tt.topicName, tt.tensors)) =
        (topicsOf sources).image fun t => (t, tensorsOf sources t) := by
      rw [toMap_of_nodup (by simpa [Function.comp_def] using hnd), ← htopics]
      ext e
      simp only [List.mem_toFinset, List.mem_map, Finset.mem_image]
      constructor
      · rintro ⟨tt, htt, rfl⟩; exact ⟨tt.topicName, ⟨tt, htt, rfl⟩, by rw [htens tt htt]⟩
      · rintro ⟨_, ⟨tt, htt, rfl⟩, rfl⟩; exact ⟨tt, htt, by rw [htens tt htt]⟩
    refine .inr <| .inr ⟨h2, ?_⟩
    by_cases hc : ∀ t ∈ topicsOf sources, tensorsOf sources t = ∅
    · simp only [if_pos (hall.mpr hc), if_pos hc, htopics]
    · simp only [if_neg (mt hall.mp hc), if_neg hc, htopics, hmap]

theorem parseSources_of_singleton {sources : List TopicName} {t : TopicName}
    (ht : topicsOf sources = {t}) : parseSources sources =
      if tensorsOf sources t = ∅ then .single t else .singleSubset t (tensorsOf sources t) := by
  rcases parseSources_spec sources with ⟨rfl, -⟩ | ⟨t', ht', h⟩ | ⟨h2, -⟩
  · exact absurd ht.symm (Finset.singleton_ne_empty t)
  · rwa [← Finset.singleton_inj.mp (ht'.symm.trans ht)]
  · simp [ht] at h2

theorem parseSources_of_two_le {sources : List TopicName} (h2 : 2 ≤ (topicsOf sources).card) :
    parseSources sources =
      if ∀ t ∈ topicsOf sources, tensorsOf sources t = ∅ then .many (topicsOf sources)
      else .manySubsets (topicsOf sources)
        ((topicsOf sources).image fun t => (t, tensorsOf sources t)) := by
  rcases parseSources_spec sources with ⟨rfl, -⟩ | ⟨t, ht, -⟩ | ⟨-, h⟩
  · simp [topicsOf] at h2
  · simp [ht] at h2
  · exact h

/-- The projection by sets, in the words of its specification: `Topics` is `topicsOf` and
`T t` is `tensorsOf`. -/
inductive ProjectionOfSets (sources : List TopicName) : SourceProjection → Prop
  | empty : sources = [] → ProjectionOfSets sources .empty
  | single (t : TopicName) : topicsOf sources = {t} → tensorsOf sources t = ∅ →
      ProjectionOfSets sources (.single t)
  | singleSubset (t : TopicName) : topicsOf sources = {t} → tensorsOf sources t ≠ ∅ →
      ProjectionOfSets sources (.singleSubset t (tensorsOf sources t))
  | many : 2 ≤ (topicsOf sources).card → (∀ t ∈ topicsOf sources, tensorsOf sources t = ∅) →
      ProjectionOfSets sources (.many (topicsOf sources))
  | manySubsets : 2 ≤ (topicsOf sources).card →
      ¬ (∀ t ∈ topicsOf sources, tensorsOf sources t = ∅) →
      ProjectionOfSets sources
        (.manySubsets (topicsOf sources) ((topicsOf sources).image fun t => (t, tensorsOf sources t)))

theorem parseSources_eq_iff (sources : List TopicName) (p : SourceProjection) :
    parseSources sources = p ↔ ProjectionOfSets sources p := by
  constructor
  · rintro rfl
    rcases parseSources_spec sources with ⟨h0, h⟩ | ⟨t, ht, h⟩ | ⟨h2, h⟩ <;> rw [h]
    · exact .empty h0
    · by_cases hT : tensorsOf sources t = ∅
      · rw [if_pos hT]; exact .single t ht hT
      · rw [if_neg hT]; exact .singleSubset t ht hT
    · by_cases hT : ∀ t ∈ topicsOf sources, tensorsOf sources t = ∅
      · rw [if_pos hT]; exact .many h2 hT
      · rw [if_neg hT]; exact .manySubsets h2 hT
  · rintro (h0 | ⟨t, ht, hT⟩ | ⟨t, ht, hT⟩ | ⟨h2, hT⟩ | ⟨h2, hT⟩)
    · subst h0; rfl
    · rw [parseSources_of_singleton ht, if_pos hT]
    · rw [parseSources_of_singleton ht, if_neg hT]
    · rw [parseSources_of_two_le h2, if_pos hT]
    · rw [parseSources_of_two_le h2, if_neg hT]

theorem parseSources_eq_empty {sources : List TopicName} :
    parseSources sources = .empty ↔ sources = [] := by
  rw [parseSources_eq_iff]
  constructor
  · rintro ⟨h⟩; exact h
  · rintro rfl; exact .empty rfl

theorem topicsOf_congr {sources sources' : List TopicName} (h : ∀ s, s ∈ sources ↔ s ∈ sources') :
    topicsOf sources = topicsOf sources' := by
  ext t; simp [topicsOf, h]

theorem tensorsOf_congr {sources sources' : List TopicName} (h : ∀ s, s ∈ sources ↔ s ∈ sources') :
    tensorsOf sources = tensorsOf sources' := by
  ext t x; simp [tensorsOf, h]

/-- `parseSources` reads its list only as a set of names. -/
theorem parseSources_congr {sources sources' : List TopicName}
    (h : ∀ s, s ∈ sources ↔ s ∈ sources') : parseSources sources = parseSources sources' := by
  rcases parseSources_spec sources' with ⟨rfl, h'⟩ | ⟨t, ht, h'⟩ | ⟨h2, h'⟩ <;> rw [h']
  · rw [List.eq_nil_iff_forall_not_mem.mpr fun s hs => List.not_mem_nil s ((h s).mp hs)]; rfl
  · rw [parseSources_of_singleton (topicsOf_congr h ▸ ht), tensorsOf_congr h]
  · rw [parseSources_of_two_le (topicsOf_congr h ▸ h2), topicsOf_congr h, tensorsOf_congr h]

/-! ## The same-topic test -/

/-- With one topic, the tensors of the topic are all the tensors the sources name. -/
theorem tensorsOf_of_singleton {sources : List TopicName} {t : TopicName}
    (ht : topicsOf sources = {t}) :
    tensorsOf sources t = (sources.filterMap fun s => (parseSource s).2).toFinset := by
  have hmem : ∀ s ∈ sources, (parseSource s).1 = t := fun s hs =>
    Finset.mem_singleton.mp (ht ▸ List.mem_toFinset.mpr (List.mem_map_of_mem _ hs))
  simp only [tensorsOf]
  congr 1
  exact List.filterMap_congr fun s hs => by rw [if_pos (hmem s hs)]

theorem areTensorsFromSameTopic_eq (sources : List TopicName) :
    areTensorsFromSameTopic sources =
      let tensors := (sources.filterMap fun s => (parseSource s).2).toFinset
      if tensors = ∅ ∨ (topicsOf sources).card > 1 then (false, (topicsOf sources, ∅))
      else (true, (topicsOf sources, tensors)) := by
  simp [areTensorsFromSameTopic, topicsOf, List.unzip_fst, List.unzip_snd, List.filterMap_map,
    Function.comp_def]

/-- `areTensorsFromSameTopic` succeeds exactly when `parseSources` finds one topic with a
subset of its tensors, and then returns that topic and subset. -/
theorem areTensorsFromSameTopic_iff_singleSubset (sources : List TopicName) :
    ((areTensorsFromSameTopic sources).1 = true ↔
      ∃ t tensors, parseSources sources = .singleSubset t tensors) ∧
    ∀ t tensors, parseSources sources = .singleSubset t tensors →
      areTensorsFromSameTopic sources = (true, ({t}, tensors)) := by
  rw [areTensorsFromSameTopic_eq]
  rcases parseSources_spec sources with ⟨rfl, h⟩ | ⟨t, ht, h⟩ | ⟨h2, h⟩ <;> rw [h]
  · simp
  · rw [← tensorsOf_of_singleton ht, ht, Finset.card_singleton]
    by_cases hT : tensorsOf sources t = ∅
    · simp [hT]
    · simp only [hT, if_false, false_or, gt_iff_lt, lt_self_iff_false, true_iff,
        SourceProjection.singleSubset.injEq]
      exact ⟨⟨t, _, rfl, rfl⟩, by rintro _ _ ⟨rfl, rfl⟩; rfl⟩
  · have h1 : (topicsOf sources).card > 1 := h2
    split <;> simp [h1]

end SeldonCore.Dataflow
