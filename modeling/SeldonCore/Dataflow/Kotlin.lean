import Mathlib.Data.Finset.Basic

/-! # The Kotlin library calls of the dataflow engine

Kotlin's string and collection functions that `PipelineSubscriber.kt` and its helpers
call, as the Kotlin standard library defines them. A Kotlin `Set` is a `Finset`, and a
`Map` is the set of its entries: both compare by their elements, as Kotlin's `equals`
does.
-/

namespace SeldonCore.Dataflow

/-- `lastIndexOf(c)` on the characters of a string; `none` stands for Kotlin's `-1`. -/
def lastIndexOf (c : Char) : List Char → Option Nat
  | [] => none
  | x :: xs =>
    match lastIndexOf c xs with
    | some i => some (i + 1)
    | none => if x = c then some 0 else none

/-- `substringAfterLast(delimiter, missingDelimiterValue)` for a one-character
delimiter. -/
def substringAfterLast (s : String) (delimiter : Char) (missingDelimiterValue : String) :
    String :=
  match lastIndexOf delimiter s.data with
  | none => missingDelimiterValue
  | some i => ⟨s.data.drop (i + 1)⟩

/-- `substringBeforeLast(delimiter)`, whose missing-delimiter value is the string. -/
def substringBeforeLast (s : String) (delimiter : Char) : String :=
  match lastIndexOf delimiter s.data with
  | none => s
  | some i => ⟨s.data.take i⟩

def joinToString (separator : String) (xs : List String) : String :=
  ⟨separator.data.intercalate (xs.map String.data)⟩

/-- `groupBy(keySelector, valueTransform)` on the selected pairs: each key with its values
in order, keys in the order they first appear (a `LinkedHashMap` filled by `getOrPut`
and `add`). -/
def groupBy {K V : Type} [DecidableEq K] (pairs : List (K × V)) : List (K × List V) :=
  pairs.foldl (fun acc kv =>
    if kv.1 ∈ acc.map Prod.fst then
      acc.map fun e => if e.1 = kv.1 then (e.1, e.2 ++ [kv.2]) else e
    else acc ++ [(kv.1, [kv.2])]) []

/-- `toMap()`: a later pair replaces an earlier one with the same key. -/
def toMap {K V : Type} [DecidableEq K] [DecidableEq V] : List (K × V) → Finset (K × V)
  | [] => ∅
  | kv :: rest => if kv.1 ∈ rest.map Prod.fst then toMap rest else insert kv (toMap rest)

theorem toMap_of_nodup {K V : Type} [DecidableEq K] [DecidableEq V] {pairs : List (K × V)}
    (h : (pairs.map Prod.fst).Nodup) : toMap pairs = pairs.toFinset := by
  induction pairs with
  | nil => rfl
  | cons kv rest ih =>
    obtain ⟨hk, hrest⟩ := List.nodup_cons.mp h
    simp [toMap, hk, ih hrest]

/-! ## `lastIndexOf` -/

theorem lastIndexOf_eq_none {c : Char} {l : List Char} : lastIndexOf c l = none ↔ c ∉ l := by
  induction l with
  | nil => simp [lastIndexOf]
  | cons x xs ih =>
    simp only [lastIndexOf, List.mem_cons, not_or]
    cases h : lastIndexOf c xs with
    | some i =>
      have hc : c ∈ xs := by_contra fun hc => by rw [ih.mpr hc] at h; cases h
      simp [hc]
    | none =>
      have hc : c ∉ xs := ih.mp h
      by_cases hx : x = c
      · subst hx; simp
      · simp [hx, hc, Ne.symm hx]

/-- A last occurrence splits the list around it, with no occurrence after it. -/
theorem lastIndexOf_eq_some {c : Char} {l : List Char} {i : Nat} (h : lastIndexOf c l = some i) :
    l = l.take i ++ c :: l.drop (i + 1) ∧ c ∉ l.drop (i + 1) := by
  induction l generalizing i with
  | nil => simp [lastIndexOf] at h
  | cons x xs ih =>
    simp only [lastIndexOf] at h
    cases hx : lastIndexOf c xs with
    | some j =>
      rw [hx] at h
      cases h
      obtain ⟨h1, h2⟩ := ih hx
      exact ⟨by simpa using h1, by simpa using h2⟩
    | none =>
      rw [hx] at h
      by_cases hxc : x = c
      · simp only [hxc, ite_true, Option.some.injEq] at h
        subst h hxc
        exact ⟨by simp, by simpa using lastIndexOf_eq_none.mp hx⟩
      · simp [hxc] at h

/-! ## `groupBy` -/

/-- A grouping of `pairs`: its keys are distinct, they are the keys of `pairs`, and each
key holds the values of its pairs in order. -/
structure Groups {K V : Type} [DecidableEq K] (pairs : List (K × V)) (groups : List (K × List V)) : Prop where
  nodup : (groups.map Prod.fst).Nodup
  keys : ∀ k, k ∈ groups.map Prod.fst ↔ k ∈ pairs.map Prod.fst
  values : ∀ k vs, (k, vs) ∈ groups → vs = (pairs.filter fun kv => kv.1 = k).map Prod.snd

section Grouping

variable {K V : Type} [DecidableEq K]

theorem groups_nil : Groups ([] : List (K × V)) [] :=
  ⟨List.nodup_nil, by simp, by simp⟩

/-- `add` to the group of a key already there keeps a grouping. -/
theorem Groups.add_of_mem {pairs : List (K × V)} {groups : List (K × List V)}
    (hg : Groups pairs groups) {kv : K × V} (hin : kv.1 ∈ groups.map Prod.fst) :
    Groups (pairs ++ [kv]) (groups.map fun e => if e.1 = kv.1 then (e.1, e.2 ++ [kv.2]) else e) := by
  have hkeys : (groups.map fun e => if e.1 = kv.1 then (e.1, e.2 ++ [kv.2]) else e).map
      Prod.fst = groups.map Prod.fst := by
    rw [List.map_map]; congr 1; funext e; simp only [Function.comp]; split <;> rfl
  refine ⟨hkeys ▸ hg.nodup, fun k => ?_, fun k vs hkv => ?_⟩
  · rw [hkeys, hg.keys, List.map_append, List.mem_append]
    constructor
    · exact .inl
    · rintro (h | h)
      · exact h
      · simp only [List.map_cons, List.map_nil, List.mem_singleton] at h
        exact h ▸ (hg.keys kv.1).mp hin
  · obtain ⟨e, he, heq⟩ := List.mem_map.mp hkv
    split at heq
    · cases heq
      rw [hg.values e.1 e.2 he]
      simp [‹e.1 = kv.1›, List.filter_append]
    · subst heq
      rw [hg.values k vs he]
      simp [List.filter_append, Ne.symm ‹_›]

/-- `getOrPut` of a new key, then `add`, keeps a grouping. -/
theorem Groups.add_of_not_mem {pairs : List (K × V)} {groups : List (K × List V)}
    (hg : Groups pairs groups) {kv : K × V} (hout : kv.1 ∉ groups.map Prod.fst) :
    Groups (pairs ++ [kv]) (groups ++ [(kv.1, [kv.2])]) := by
  refine ⟨?_, fun k => ?_, fun k vs hkv => ?_⟩
  · simpa [List.concat_eq_append] using hg.nodup.concat hout
  · simp [hg.keys]
  · rcases List.mem_append.mp hkv with hkv | hkv
    · have hk : k ≠ kv.1 := fun hk => hout (hk ▸ List.mem_map_of_mem Prod.fst hkv)
      rw [hg.values k vs hkv]
      simp [List.filter_append, Ne.symm hk]
    · simp only [List.mem_singleton, Prod.mk.injEq] at hkv
      obtain ⟨rfl, rfl⟩ := hkv
      rw [hg.keys] at hout
      have hnil : pairs.filter (fun e => e.1 = kv.1) = [] :=
        List.filter_eq_nil_iff.mpr fun e he h =>
          hout (List.mem_map.mpr ⟨e, he, of_decide_eq_true h⟩)
      simp [List.filter_append, hnil]

/-- One `getOrPut`/`add` keeps a grouping. -/
theorem Groups.add {pairs : List (K × V)} {groups : List (K × List V)} (hg : Groups pairs groups)
    (kv : K × V) :
    Groups (pairs ++ [kv]) (if kv.1 ∈ groups.map Prod.fst then
      groups.map fun e => if e.1 = kv.1 then (e.1, e.2 ++ [kv.2]) else e
    else groups ++ [(kv.1, [kv.2])]) := by
  split
  · exact hg.add_of_mem ‹_›
  · exact hg.add_of_not_mem ‹_›

/-- `groupBy` groups its pairs. -/
theorem groupBy_groups (pairs : List (K × V)) : Groups pairs (groupBy pairs) := by
  suffices h : ∀ (rest pre : List (K × V)) acc, Groups pre acc → Groups (pre ++ rest)
      (rest.foldl (fun acc kv => if kv.1 ∈ acc.map Prod.fst then
        acc.map fun e => if e.1 = kv.1 then (e.1, e.2 ++ [kv.2]) else e
      else acc ++ [(kv.1, [kv.2])]) acc) by
    simpa using h pairs [] [] groups_nil
  intro rest
  induction rest with
  | nil => intro pre acc hg; simpa using hg
  | cons kv rest ih =>
    intro pre acc hg
    simpa using ih (pre ++ [kv]) _ (hg.add kv)

end Grouping

end SeldonCore.Dataflow
