import Mathlib.Logic.Function.Basic
import Mathlib.Data.List.Basic

/-! # The inference client of the CLI

`InferenceClient` sends one request `iterations` times, over REST or gRPC. With a single
iteration it can show the response; with more it counts the responses by the model that
answered and prints the counts at the end. The first failing call ends the loop with its
error, and the counts have then grown by the models that answered before it
(`inferLoop_spec`, `summarize_counts`).

HTTP, gRPC and JSON are outside the model: the outcome of each exchange, and the JSON
decoding of the bodies, are parameters.
-/

namespace SeldonCore.Cli

inductive InferType where
  | inferModel
  | inferPipeline
  | inferExplainer
  deriving DecidableEq, Repr

def SeldonModelHeader : String := "seldon-model"

def SeldonPipelineHeader : String := "pipeline"

/-- The fields of `InferenceClient` that inference reads and writes; `counts` is the Go
map from model name to count. -/
structure InferenceClient where
  host : String
  port : Nat
  counts : String → Option Nat

def newInferenceClient (host : String) (port : Nat) : InferenceClient :=
  ⟨host, port, fun _ => none⟩

def InferenceClient.updateSummary (ic : InferenceClient) (modelName : String) :
    InferenceClient :=
  { ic with
    counts := Function.update ic.counts modelName <|
      match ic.counts modelName with
      | some count => some (count + 1)
      | none => some 1 }

/-- What the client writes to its output. -/
inductive Printed where
  | request (shown : String)
  | response (shown : String)
  | summary
  deriving DecidableEq, Repr

/-! ## REST -/

/-- The request `call` builds: target, path, headers and body. -/
structure HttpRequest where
  host : String
  port : Nat
  path : String
  headers : List (String × String)
  body : String
  deriving DecidableEq, Repr

/-- The status code and body `call` reads back. -/
structure HttpResponse where
  statusCode : Nat
  body : String
  deriving DecidableEq, Repr

/-- The headers `call` sets for each type of inference. -/
def callHeaders (resourceName : String) : InferType → List (String × String)
  | .inferModel => [("Content-Type", "application/json"), (SeldonModelHeader, resourceName)]
  | .inferPipeline =>
    [("Content-Type", "application/json"),
      (SeldonModelHeader, resourceName ++ "." ++ SeldonPipelineHeader)]
  | .inferExplainer => [("Content-Type", "application/json")]

/-- The `POST` of `call` to `getUrl(path)`. -/
def InferenceClient.request (ic : InferenceClient) (resourceName path : String) (data : String)
    (inferType : InferType) : HttpRequest :=
  ⟨ic.host, ic.port, path, callHeaders resourceName inferType, data⟩

/-- `call` once the round trip is over: its transport error, or the body of a `200`, the
`error` field of a `400`'s JSON body, and otherwise the body after `V2 server error: `. -/
def callResult (unmarshalError : String → Except String String)
    (roundTrip : Except String HttpResponse) : Except String String :=
  match roundTrip with
  | .error err => .error err
  | .ok response =>
    if response.statusCode = 200 then .ok response.body
    else if response.statusCode = 400 then
      match unmarshalError response.body with
      | .error err => .error err
      | .ok message => .error message
    else .error ("V2 server error: " ++ response.body)

/-! ## The loop -/

/-- The loop of `InferRest` and `InferGrpc`: each iteration's exchange gives what to show
and the model that answered, or the error that ends the loop. -/
def inferLoop (showResponse : Bool) (iterations : Int) :
    List (Except String (String × String)) → InferenceClient → List Printed →
      InferenceClient × List Printed × Except String Unit
  | [], ic, out => (ic, out, .ok ())
  | .error err :: _, ic, out => (ic, out, .error err)
  | .ok (shown, modelName) :: rest, ic, out =>
    if iterations = 1 then
      inferLoop showResponse iterations rest ic
        (if showResponse then out ++ [.response shown] else out)
    else inferLoop showResponse iterations rest (ic.updateSummary modelName) out

/-- The loop over `iterations` exchanges, then the counts when there was more than one
iteration. -/
def inferRun (ic : InferenceClient) (exchange : Nat → Except String (String × String))
    (showResponse : Bool) (iterations : Int) (out : List Printed) :
    InferenceClient × List Printed × Except String Unit :=
  match inferLoop showResponse iterations ((List.range iterations.toNat).map exchange) ic out with
  | (ic, out, .error err) => (ic, out, .error err)
  | (ic, out, .ok ()) => (ic, if iterations > 1 then out ++ [.summary] else out, .ok ())

section
variable (unmarshalError unmarshalResponse : String → Except String String)

/-- `InferRest`: `roundTrip i` is the server's answer to the request in iteration `i`, and
`unmarshalResponse` reads the answering model's name from a body. -/
def InferenceClient.inferRest (ic : InferenceClient) (resourceName data : String)
    (showRequest showResponse : Bool) (iterations : Int) (inferType : InferType)
    (roundTrip : Nat → HttpRequest → Except String HttpResponse) :
    InferenceClient × List Printed × Except String Unit :=
  let request := ic.request resourceName ("/v2/models/" ++ resourceName ++ "/infer") data inferType
  inferRun ic (fun i => (callResult unmarshalError (roundTrip i request)).bind fun res =>
      (unmarshalResponse res).map fun modelName => (res, modelName))
    showResponse iterations (if showRequest then [.request data] else [])

end

/-! ## gRPC -/

/-- The metadata `InferGrpc` appends to its context. -/
def grpcMetadata (resourceName : String) : InferType → List (String × String)
  | .inferModel => [(SeldonModelHeader, resourceName)]
  | .inferPipeline => [(SeldonPipelineHeader, resourceName)]
  | .inferExplainer => []

/-- A `ModelInfer` call: the request's model name and decoded payload, and the context's
metadata. -/
structure GrpcCall where
  modelName : String
  payload : String
  metadata : List (String × String)
  deriving DecidableEq, Repr

/-- `InferGrpc`: `unmarshalRequest` is `protojson.Unmarshal` of the data, `connection` the
outcome of `getConnection`, and `modelInfer i` the answer in iteration `i`, shown and with
the answering model's name. -/
def InferenceClient.inferGrpc (ic : InferenceClient) (resourceName data : String)
    (showRequest showResponse : Bool) (iterations : Int) (inferType : InferType)
    (unmarshalRequest : String → Except String String) (connection : Except String Unit)
    (modelInfer : Nat → GrpcCall → Except String (String × String)) :
    InferenceClient × List Printed × Except String Unit :=
  match unmarshalRequest data with
  | .error err => (ic, [], .error err)
  | .ok payload =>
    let out := if showRequest then [.request payload] else []
    match connection with
    | .error err => (ic, out, .error err)
    | .ok () =>
      inferRun ic (fun i => modelInfer i ⟨resourceName, payload, grpcMetadata resourceName inferType⟩)
        showResponse iterations out

/-- `Infer`: REST or gRPC by the mode's name. -/
def InferenceClient.infer (ic : InferenceClient) (modelName inferMode data : String)
    (showRequest showResponse : Bool) (iterations : Int) (inferType : InferType)
    (unmarshalError unmarshalResponse : String → Except String String)
    (roundTrip : Nat → HttpRequest → Except String HttpResponse)
    (unmarshalRequest : String → Except String String) (connection : Except String Unit)
    (modelInfer : Nat → GrpcCall → Except String (String × String)) :
    InferenceClient × List Printed × Except String Unit :=
  match inferMode with
  | "rest" => ic.inferRest unmarshalError unmarshalResponse modelName data showRequest
      showResponse iterations inferType roundTrip
  | "grpc" => ic.inferGrpc modelName data showRequest showResponse iterations inferType
      unmarshalRequest connection modelInfer
  | _ => (ic, [], .error "Unknown infer mode - needs to be grpc or rest")

/-! ## The counts -/

/-- The models that answered before the first error. -/
def answered : List (Except String (String × String)) → List String
  | [] => []
  | .error _ :: _ => []
  | .ok (_, modelName) :: rest => modelName :: answered rest

/-- The first error of the exchanges, if any. -/
def firstError : List (Except String (String × String)) → Except String Unit
  | [] => .ok ()
  | .error err :: _ => .error err
  | .ok _ :: rest => firstError rest

/-- `updateSummary` for each of `names` in turn. -/
def InferenceClient.summarize (ic : InferenceClient) (names : List String) : InferenceClient :=
  names.foldl InferenceClient.updateSummary ic

@[simp] theorem updateSummary_host (ic : InferenceClient) (m : String) :
    (ic.updateSummary m).host = ic.host := rfl

@[simp] theorem updateSummary_port (ic : InferenceClient) (m : String) :
    (ic.updateSummary m).port = ic.port := rfl

theorem updateSummary_counts (ic : InferenceClient) (modelName m : String) :
    (ic.updateSummary modelName).counts m =
      if m = modelName then some ((ic.counts m).getD 0 + 1) else ic.counts m := by
  by_cases h : m = modelName
  · subst h; cases hc : ic.counts m <;> simp [InferenceClient.updateSummary, hc]
  · simp [InferenceClient.updateSummary, h]

/-- After counting `names`, a model is present when it was or when it answered, and its
count has grown by the number of its answers. -/
theorem summarize_counts (ic : InferenceClient) (names : List String) (m : String) :
    (ic.summarize names).counts m =
      if m ∈ names then some ((ic.counts m).getD 0 + names.count m) else ic.counts m := by
  induction names generalizing ic with
  | nil => simp [InferenceClient.summarize]
  | cons n names ih =>
    simp only [InferenceClient.summarize, List.foldl_cons] at ih ⊢
    rw [ih, updateSummary_counts]
    by_cases hm : m = n
    · subst hm
      by_cases hin : m ∈ names
      · simp [hin, List.count_cons_self]; omega
      · simp [hin, List.count_eq_zero.mpr hin]
    · by_cases hin : m ∈ names <;> simp [hm, hin, List.count_cons, Ne.symm hm]

/-- The loop stops at the first error; with more than one iteration it counts the models
that answered before it, and with one it shows the answers and counts nothing. -/
theorem inferLoop_spec (showResponse : Bool) (iterations : Int)
    (exchanges : List (Except String (String × String))) (ic : InferenceClient)
    (out : List Printed) :
    (inferLoop showResponse iterations exchanges ic out).1 =
      (if iterations = 1 then ic else ic.summarize (answered exchanges)) ∧
    (inferLoop showResponse iterations exchanges ic out).2.2 = firstError exchanges ∧
    (iterations ≠ 1 → (inferLoop showResponse iterations exchanges ic out).2.1 = out) := by
  induction exchanges generalizing ic out with
  | nil => simp [inferLoop, answered, firstError, InferenceClient.summarize]
  | cons x rest ih =>
    rcases x with err | ⟨shown, modelName⟩
    · simp [inferLoop, answered, firstError, InferenceClient.summarize]
    · by_cases h1 : iterations = 1
      · simp only [inferLoop, if_pos h1, answered, firstError]
        exact ⟨by rw [(ih ic _).1, if_pos h1], (ih ic _).2.1, fun h => absurd h1 h⟩
      · simp only [inferLoop, if_neg h1, answered, firstError]
        exact ⟨by rw [(ih _ out).1, if_neg h1]; rfl, (ih _ out).2.1, (ih _ out).2.2⟩

theorem inferRun_spec (ic : InferenceClient) (exchange : Nat → Except String (String × String))
    (showResponse : Bool) (iterations : Int) (out : List Printed) :
    let exchanges := (List.range iterations.toNat).map exchange
    (inferRun ic exchange showResponse iterations out).1 =
      (if iterations = 1 then ic else ic.summarize (answered exchanges)) ∧
    (inferRun ic exchange showResponse iterations out).2.2 = firstError exchanges := by
  have h := inferLoop_spec showResponse iterations
    ((List.range iterations.toNat).map exchange) ic out
  unfold inferRun
  split <;> simp_all

theorem answered_append_of_ok {l₁ : List (Except String (String × String))}
    (h : ∀ x ∈ l₁, ∃ v, x = .ok v) (l₂ : List (Except String (String × String))) :
    answered (l₁ ++ l₂) = answered l₁ ++ answered l₂ ∧ firstError (l₁ ++ l₂) = firstError l₂ := by
  induction l₁ with
  | nil => simp [answered]
  | cons x l₁ ih =>
    obtain ⟨⟨shown, modelName⟩, rfl⟩ := h x (List.mem_cons_self _ _)
    obtain ⟨ha, hf⟩ := ih fun y hy => h y (List.mem_cons_of_mem _ hy)
    simp [answered, firstError, ha, hf]

/-- Exchanges that all answer: nothing stops the loop, and the answers are the models'. -/
theorem answered_map_of_ok {l : List Nat} {exchange : Nat → Except String (String × String)}
    {names : Nat → String} (h : ∀ i ∈ l, ∃ shown, exchange i = .ok (shown, names i)) :
    answered (l.map exchange) = l.map names ∧ firstError (l.map exchange) = .ok () := by
  induction l with
  | nil => simp [answered, firstError]
  | cons i l ih =>
    obtain ⟨shown, hi⟩ := h i (List.mem_cons_self _ _)
    obtain ⟨ha, hf⟩ := ih fun j hj => h j (List.mem_cons_of_mem _ hj)
    simp [answered, firstError, hi, ha, hf]

/-- With more than one iteration the loop prints nothing more: it counts the answers and
stops at the first error. -/
theorem inferLoop_of_ne_one {iterations : Int} (hne : iterations ≠ 1) (showResponse : Bool)
    (exchanges : List (Except String (String × String))) (ic : InferenceClient)
    (out : List Printed) :
    inferLoop showResponse iterations exchanges ic out =
      (ic.summarize (answered exchanges), out, firstError exchanges) := by
  obtain ⟨h1, h2, h3⟩ := inferLoop_spec showResponse iterations exchanges ic out
  rw [if_neg hne] at h1
  exact Prod.ext h1 (Prod.ext (h3 hne) h2)

/-- `n > 1` iterations that all answer: the counts grow by the answers and are printed. -/
theorem inferRun_of_answers (ic : InferenceClient) (exchange : Nat → Except String (String × String))
    (showResponse : Bool) {n : Nat} (hn : 1 < n) (out : List Printed) (names : Nat → String)
    (h : ∀ i < n, ∃ shown, exchange i = .ok (shown, names i)) :
    inferRun ic exchange showResponse n out =
      (ic.summarize ((List.range n).map names), out ++ [.summary], .ok ()) := by
  obtain ⟨ha, hf⟩ := answered_map_of_ok fun i hi => h i (List.mem_range.mp hi)
  simp only [inferRun, Int.toNat_ofNat, inferLoop_of_ne_one (by omega : (n : Int) ≠ 1), ha, hf]
  simp [show (n : Int) > 1 by omega]

/-- An exchange that fails after `j` answers ends the run with its error, the counts grown by
those answers and not printed. -/
theorem inferRun_of_failure (ic : InferenceClient) (exchange : Nat → Except String (String × String))
    (showResponse : Bool) {n j : Nat} (hn : 1 < n) (hj : j < n) (out : List Printed)
    (names : Nat → String) (h : ∀ i < j, ∃ shown, exchange i = .ok (shown, names i))
    {err : String} (hfail : exchange j = .error err) :
    inferRun ic exchange showResponse n out =
      (ic.summarize ((List.range j).map names), out, .error err) := by
  have hne : (n : Int) ≠ 1 := by omega
  obtain ⟨k, rfl⟩ : ∃ k, n = j + (k + 1) := ⟨n - j - 1, by omega⟩
  have hsplit : (List.range (j + (k + 1))).map exchange =
      (List.range j).map exchange ++ exchange j :: ((List.range k).map fun i => exchange (j + (i + 1))) := by
    simp [List.range_add, List.range_succ_eq_map, Function.comp_def]
  obtain ⟨ha, -⟩ := answered_map_of_ok fun i hi => h i (List.mem_range.mp hi)
  obtain ⟨ha', hf'⟩ := answered_append_of_ok
    (List.forall_mem_map.mpr fun i hi => let ⟨_, he⟩ := h i (List.mem_range.mp hi); ⟨_, he⟩)
    (exchange j :: ((List.range k).map fun i => exchange (j + (i + 1))))
  have hans : answered ((List.range (j + (k + 1))).map exchange) = (List.range j).map names := by
    rw [hsplit, ha', ha, hfail]; simp [answered]
  have herr : firstError ((List.range (j + (k + 1))).map exchange) = .error err := by
    rw [hsplit, hf', hfail]; rfl
  simp only [inferRun, Int.toNat_ofNat, inferLoop_of_ne_one hne, hans, herr]

section
variable (unmarshalError unmarshalResponse : String → Except String String)

/-- When each of `n > 1` iterations of `InferRest` gets a `200` whose body names the
answering model, the call succeeds, ends by printing the counts, and each model's count
has grown by its number of answers. -/
theorem inferRest_counts_answers (ic : InferenceClient) (resourceName data : String)
    (showRequest showResponse : Bool) {n : Nat} (hn : 1 < n) (inferType : InferType)
    (roundTrip : Nat → HttpRequest → Except String HttpResponse) (names : Nat → String)
    (hok : ∀ i < n, ∃ body, roundTrip i (ic.request resourceName
        ("/v2/models/" ++ resourceName ++ "/infer") data inferType) = .ok ⟨200, body⟩ ∧
      unmarshalResponse body = .ok (names i)) (m : String) :
    (ic.inferRest unmarshalError unmarshalResponse resourceName data showRequest showResponse n
        inferType roundTrip).2.2 = .ok () ∧
    (ic.inferRest unmarshalError unmarshalResponse resourceName data showRequest showResponse n
        inferType roundTrip).2.1.getLast? = some .summary ∧
    (ic.inferRest unmarshalError unmarshalResponse resourceName data showRequest showResponse n
        inferType roundTrip).1.counts m =
      if m ∈ (List.range n).map names then
        some ((ic.counts m).getD 0 + ((List.range n).map names).count m)
      else ic.counts m := by
  rw [InferenceClient.inferRest, inferRun_of_answers ic _ showResponse hn _ names fun i hi => ?_]
  · exact ⟨rfl, by simp, summarize_counts ic _ m⟩
  · obtain ⟨body, hrt, hname⟩ := hok i hi
    exact ⟨body, by simp [hrt, hname, callResult, Except.bind, Except.map]⟩

theorem inferRest_counts_answers_iris :
    ((newInferenceClient "localhost" 9000).inferRest (fun body => .ok body) (fun _ => .ok "iris")
        "iris" "{}" false false ((3 : Nat) : Int) .inferModel
        (fun _ _ => .ok ⟨200, "{}"⟩)).1.counts "iris" = some 3 := by
  rw [(inferRest_counts_answers (fun body => .ok body) (fun _ => .ok "iris")
    (newInferenceClient "localhost" 9000) "iris" "{}" false false (by decide : 1 < 3) .inferModel
    (fun _ _ => .ok ⟨200, "{}"⟩) (fun _ => "iris") (fun _ _ => ⟨"{}", rfl, rfl⟩) "iris").2.2]
  decide

/-- A failing call in iteration `j` of `n > 1` ends `InferRest` with the call's error: a
transport error, the `error` field of a `400`'s body, or `V2 server error: ` and the body.
The counts have grown by the answers before it, and are not printed. -/
theorem inferRest_stops_at_failure (ic : InferenceClient) (resourceName data : String)
    (showRequest showResponse : Bool) {n j : Nat} (hn : 1 < n) (hj : j < n)
    (inferType : InferType) (roundTrip : Nat → HttpRequest → Except String HttpResponse)
    (names : Nat → String)
    (hok : ∀ i < j, ∃ body, roundTrip i (ic.request resourceName
        ("/v2/models/" ++ resourceName ++ "/infer") data inferType) = .ok ⟨200, body⟩ ∧
      unmarshalResponse body = .ok (names i)) {err : String}
    (hfail : callResult unmarshalError (roundTrip j (ic.request resourceName
        ("/v2/models/" ++ resourceName ++ "/infer") data inferType)) = .error err) (m : String) :
    (ic.inferRest unmarshalError unmarshalResponse resourceName data showRequest showResponse n
        inferType roundTrip).2.2 = .error err ∧
    Printed.summary ∉ (ic.inferRest unmarshalError unmarshalResponse resourceName data
        showRequest showResponse n inferType roundTrip).2.1 ∧
    (ic.inferRest unmarshalError unmarshalResponse resourceName data showRequest showResponse n
        inferType roundTrip).1.counts m =
      if m ∈ (List.range j).map names then
        some ((ic.counts m).getD 0 + ((List.range j).map names).count m)
      else ic.counts m := by
  rw [InferenceClient.inferRest, inferRun_of_failure ic _ showResponse hn hj _ names
    (fun i hi => ?_) (show _ = Except.error err by simp [hfail, Except.bind])]
  · exact ⟨rfl, by cases showRequest <;> simp, summarize_counts ic _ m⟩
  · obtain ⟨body, hrt, hname⟩ := hok i hi
    exact ⟨body, by simp [hrt, hname, callResult, Except.bind, Except.map]⟩

/-- The second of three iterations meets a `500`. -/
theorem inferRest_stops_at_failure_overloaded :
    let answer : Nat → HttpRequest → Except String HttpResponse := fun i _ =>
      if i = 0 then .ok ⟨200, "{}"⟩ else .ok ⟨500, "overloaded"⟩
    ((newInferenceClient "localhost" 9000).inferRest (fun body => .ok body) (fun _ => .ok "iris")
        "iris" "{}" false false ((3 : Nat) : Int) .inferModel answer).2.2 =
      .error "V2 server error: overloaded" ∧
    ((newInferenceClient "localhost" 9000).inferRest (fun body => .ok body) (fun _ => .ok "iris")
        "iris" "{}" false false ((3 : Nat) : Int) .inferModel answer).1.counts "iris" = some 1 := by
  intro answer
  have h := inferRest_stops_at_failure (fun body => .ok body) (fun _ => .ok "iris")
    (newInferenceClient "localhost" 9000) "iris" "{}" false false (by decide : 1 < 3)
    (by decide : 1 < 3) .inferModel answer (fun _ => "iris")
    (fun i hi => ⟨"{}", by simp [answer, show i = 0 by omega], rfl⟩)
    (show _ = Except.error "V2 server error: overloaded" from rfl) "iris"
  exact ⟨h.1, by rw [h.2.2]; decide⟩

end

end SeldonCore.Cli