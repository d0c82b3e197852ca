import LlmGateway.Library.Keeping
import LlmGateway.Library.Runs
import LlmGateway.Services.Usage
import Mathlib.Data.Finset.Card

/-!
# The metrics of the requests

`services/prometheus_metrics.py`: what `record_usage` and `record_failure` add to the counters,
and the catalogue of the models that were served. The catalogue is capped, and the label of a
failure comes from it. The label of a success does not: once the catalogue is full, each further
name is a label of its own (`cardinality_iff`).

A counter is the list of its increments here. It refuses a negative one, and one that is too
large for a double.
-/

set_option autoImplicit false

namespace LlmGateway

open LlmGateway.Library

/-- One increment, with its labels. -/
inductive Sample where
  | request (provider model status : String)
  | tokens (provider direction : String) (amount : ℤ)
  | cost (provider : String) (amount : ℚ)
  | latency (provider : String) (seconds : ℚ)
deriving DecidableEq

/-- The `model` label of an increment of `llm_gateway_requests_total`. -/
def Sample.modelLabel? : Sample → Option String
  | .request _ model _ => some model
  | _ => none

/-- The state of the module: `_served_models` and the increments so far. -/
structure Metrics where
  servedModels : List String := []
  samples : List Sample := []
deriving DecidableEq

/-- The values of the label `model` that have been used. -/
def Metrics.labels (metrics : Metrics) : List String := metrics.samples.filterMap Sample.modelLabel?

namespace PrometheusMetrics

/-- `_safe`. -/
def safe (value : String) : String := if value = "" then "unknown" else value

/-- `_MAX_TRACKED_MODELS`. -/
def maxTrackedModels : ℕ := 50

/-- `_remember_model`, on the catalogue. -/
def rememberModel (model : String) (servedModels : List String) : List String :=
  if model ∈ servedModels ∨ maxTrackedModels ≤ servedModels.length then servedModels
  else servedModels ++ [model]

/-- `_model_label`. -/
def modelLabel (servedModels : List String) (model : String) : String :=
  if model = "" then "unknown" else if model ∈ servedModels then model else "unknown"

/-- `counter.labels(...).inc(amount)`, from what the counter makes of the amount. -/
def increment (counted : Except PyException Unit) (sample : Sample) :
    EStateM PyException Metrics Unit :=
  match counted with
  | .ok () => modify fun metrics => { metrics with samples := metrics.samples ++ [sample] }
  | .error exception => throw exception

/-- `record_usage`. -/
def recordUsage (record : UsageRecord) : EStateM PyException Metrics Unit := do
  let provider := safe record.provider
  let model := safe record.model
  modify fun metrics => { metrics with servedModels := rememberModel model metrics.servedModels }
  increment (incrementTokens 1) (.request provider model "ok")
  increment (incrementTokens record.inputTokens) (.tokens provider "input" record.inputTokens)
  increment (incrementTokens record.outputTokens) (.tokens provider "output" record.outputTokens)
  increment (incrementCost record.estimatedCost) (.cost provider record.estimatedCost)
  modify fun metrics =>
    { metrics with samples := metrics.samples ++ [.latency provider (record.latencyMs / 1000)] }

/-- `record_failure`. -/
def recordFailure (provider model errorType : String) : EStateM PyException Metrics Unit := do
  let metrics ← get
  increment (incrementTokens 1) (.request (safe provider) (modelLabel metrics.servedModels model)
    ("error:" ++ errorType))

end PrometheusMetrics

open PrometheusMetrics (safe maxTrackedModels rememberModel modelLabel increment)

/-- A call of the module. -/
inductive MetricsCall where
  | usage (record : UsageRecord)
  | failure (provider model errorType : String)

/-- **One step**: a call, whether it returns or raises. -/
def Metrics.step (metrics : Metrics) : MetricsCall → Option Metrics
  | .usage record => some (stateAfter (PrometheusMetrics.recordUsage record metrics))
  | .failure provider model errorType =>
      some (stateAfter (PrometheusMetrics.recordFailure provider model errorType metrics))

/-! ## What is promised -/

/-- **The label `model` stays bounded.** -/
structure Metrics.Bounded (metrics : Metrics) : Prop where
  count : metrics.labels.toFinset.card ≤ maxTrackedModels + 1
  served : ∀ label ∈ metrics.labels, label ≠ "unknown" → label ∈ metrics.servedModels
  earlier : ∀ before after provider model status,
    metrics.samples = before ++ .request provider model status :: after → status ≠ "ok" →
      model ≠ "unknown" → ∃ other, Sample.request other model "ok" ∈ before

/-- A success is recorded under a name that is in the catalogue, or finds room there. -/
def Catalogued (metrics : Metrics) (call : MetricsCall) (_ : Metrics) : Prop :=
  ∀ record, call = .usage record → safe record.model = "unknown" ∨
    safe record.model ∈ metrics.servedModels ∨ metrics.servedModels.length < maxTrackedModels

/-! ## The two calls -/

section Calls

variable {metrics : Metrics}

/-- A counter can grow by one. -/
theorem incrementTokens_one : incrementTokens 1 = .ok () :=
  incrementTokens_ok_iff.mpr (by decide +kernel)

theorem increment_apply {counted : Except PyException Unit} (grows : counted = .ok ())
    (sample : Sample) :
    increment counted sample metrics =
      .ok () { metrics with samples := metrics.samples ++ [sample] } := by
  rw [grows]
  rfl

/-- **How `record_usage` begins**: the name is remembered, and one request is counted. What follows
are the amounts. -/
theorem recordUsage_apply (record : UsageRecord) :
    PrometheusMetrics.recordUsage record metrics = (do
        increment (incrementTokens record.inputTokens)
          (.tokens (safe record.provider) "input" record.inputTokens)
        increment (incrementTokens record.outputTokens)
          (.tokens (safe record.provider) "output" record.outputTokens)
        increment (incrementCost record.estimatedCost)
          (.cost (safe record.provider) record.estimatedCost)
        modify fun metrics =>
          { metrics with
            samples := metrics.samples ++
              [.latency (safe record.provider) (record.latencyMs / 1000)] } :
        EStateM PyException Metrics Unit)
      { servedModels := rememberModel (safe record.model) metrics.servedModels
        samples := metrics.samples ++
          [.request (safe record.provider) (safe record.model) "ok"] } := by
  have remembered : (modify fun metrics : Metrics =>
      { metrics with servedModels := rememberModel (safe record.model) metrics.servedModels } :
        EStateM PyException Metrics PUnit) metrics = .ok ⟨⟩
      { metrics with servedModels := rememberModel (safe record.model) metrics.servedModels } := rfl
  unfold PrometheusMetrics.recordUsage
  rw [bind_of_ok remembered, bind_of_ok (increment_apply incrementTokens_one _)]

/-- The catalogue is as given, and the increments after some earlier ones are not counted as
requests. -/
def Extends (servedModels : List String) (earlier : List Sample) (metrics : Metrics) : Prop :=
  metrics.servedModels = servedModels ∧
    ∃ later, metrics.samples = earlier ++ later ∧ ∀ sample ∈ later, sample.modelLabel? = none

theorem keeps_increment {servedModels : List String} {earlier : List Sample} {sample : Sample}
    (silent : sample.modelLabel? = none) (counted : Except PyException Unit) :
    Keeps (Extends servedModels earlier) (increment counted sample) := by
  cases counted with
  | error exception => exact keeps_throw exception
  | ok => ?_
  refine keeps_modify ?_
  rintro metrics ⟨same, later, split, quiet⟩
  refine ⟨same, later ++ [sample], by rw [split, List.append_assoc], fun other member => ?_⟩
  rcases List.mem_append.mp member with old | new
  · exact quiet other old
  · obtain rfl := List.mem_singleton.mp new
    exact silent

/-- **What `record_usage` leaves**: the name is remembered, and one request is counted. -/
theorem recordUsage_state (record : UsageRecord) :
    Extends (rememberModel (safe record.model) metrics.servedModels)
      (metrics.samples ++ [.request (safe record.provider) (safe record.model) "ok"])
      (stateAfter (PrometheusMetrics.recordUsage record metrics)) := by
  rw [recordUsage_apply]
  refine ((keeps_increment rfl _).bind fun _ => (keeps_increment rfl _).bind fun _ =>
    (keeps_increment rfl _).bind fun _ => keeps_modify ?_) _
      ⟨rfl, [], (List.append_nil _).symm, by simp⟩
  rintro state ⟨same, later, split, quiet⟩
  refine ⟨same, later ++ [.latency (safe record.provider) (record.latencyMs / 1000)],
    by simp only [split, List.append_assoc], fun other member => ?_⟩
  rcases List.mem_append.mp member with old | new
  · exact quiet other old
  · obtain rfl := List.mem_singleton.mp new
    rfl

/-- **What `record_failure` leaves**: one more request is counted. -/
theorem recordFailure_state (provider model errorType : String) :
    stateAfter (PrometheusMetrics.recordFailure provider model errorType metrics) =
      { metrics with
        samples := metrics.samples ++ [.request (safe provider)
          (modelLabel metrics.servedModels model) ("error:" ++ errorType)] } := by
  have counted := @increment_apply metrics _ incrementTokens_one (.request (safe provider)
    (modelLabel metrics.servedModels model) ("error:" ++ errorType))
  change stateAfter (increment (incrementTokens 1) _ metrics) = _
  rw [counted]
  rfl

theorem increment_refused {counted : Except PyException Unit} {exception : PyException}
    (refused : counted = .error exception) (sample : Sample) :
    increment counted sample metrics = .error exception metrics := by
  rw [refused]
  rfl

theorem returns_of_raised (exception : PyException) (between : Metrics) :
    (∃ after, (EStateM.Result.error exception between : EStateM.Result PyException Metrics Unit) =
        .ok () after) ↔
      (Except.error exception : Except PyException Unit) = .ok () := by
  constructor
  · rintro ⟨after, same⟩
    cases same
  · intro same
    cases same

/-- Recording the usage of a request raises exactly when emitting its metrics does. -/
theorem recordUsage_returns (record : UsageRecord) :
    (∃ after, PrometheusMetrics.recordUsage record metrics = .ok () after) ↔
      emitMetric record = .ok () := by
  rw [recordUsage_apply, emitMetric]
  cases input : incrementTokens record.inputTokens with
  | error =>
      rw [bind_of_error (increment_refused rfl _)]
      exact returns_of_raised _ _
  | ok =>
      rw [bind_of_ok (increment_apply rfl _)]
      cases output : incrementTokens record.outputTokens with
      | error =>
          rw [bind_of_error (increment_refused rfl _)]
          exact returns_of_raised _ _
      | ok =>
          rw [bind_of_ok (increment_apply rfl _)]
          cases cost : incrementCost record.estimatedCost with
          | error =>
              rw [bind_of_error (increment_refused rfl _)]
              exact returns_of_raised _ _
          | ok =>
              rw [bind_of_ok (increment_apply rfl _)]
              exact ⟨fun _ => rfl, fun _ => ⟨_, rfl⟩⟩

end Calls

/-! ## Runs -/

/-- What every run of the module keeps: the catalogue is small, and each name in it was used by a
success. -/
structure Metrics.Tracked (metrics : Metrics) : Prop where
  capped : metrics.servedModels.length ≤ maxTrackedModels
  used : ∀ name ∈ metrics.servedModels, ∃ other, Sample.request other name "ok" ∈ metrics.samples
  earlier : ∀ before after provider model status,
    metrics.samples = before ++ .request provider model status :: after → status ≠ "ok" →
      model ≠ "unknown" → ∃ other, Sample.request other model "ok" ∈ before

section Runs

variable {metrics next : Metrics} {call : MetricsCall}

theorem mem_rememberModel {name model : String} {servedModels : List String}
    (member : name ∈ rememberModel model servedModels) : name ∈ servedModels ∨ name = model := by
  unfold rememberModel at member
  split_ifs at member
  · exact .inl member
  · simpa using member

theorem length_rememberModel {model : String} {servedModels : List String}
    (capped : servedModels.length ≤ maxTrackedModels) :
    (rememberModel model servedModels).length ≤ maxTrackedModels := by
  unfold rememberModel
  split_ifs with full
  · exact capped
  · rw [List.length_append, List.length_singleton]
    omega

/-- Where the request of a failure, or of a success, comes from in a longer list. -/
theorem split_append {samples later before after : List Sample} {sample : Sample}
    (split : samples ++ later = before ++ sample :: after) :
    (∃ rest, samples = before ++ sample :: rest) ∨ sample ∈ later ∧ samples <+: before := by
  rcases List.append_eq_append_iff.mp split with ⟨middle, rfl, inside⟩ | ⟨middle, rfl, inside⟩
  · exact .inr ⟨inside ▸ List.mem_append_right _ List.mem_cons_self, _, rfl⟩
  · cases middle with
    | nil => exact .inr ⟨by simp only [List.nil_append] at inside; exact inside ▸ List.mem_cons_self,
        by simp⟩
    | cons first rest =>
        obtain ⟨rfl, -⟩ := List.cons.inj inside
        exact .inl ⟨rest, rfl⟩

/-- What a call does, in one shape for both. -/
theorem step_samples (moved : metrics.step call = some next) :
    (∃ record later, call = .usage record ∧
      next.servedModels = rememberModel (safe record.model) metrics.servedModels ∧
        next.samples = metrics.samples ++
          .request (safe record.provider) (safe record.model) "ok" :: later ∧
          ∀ sample ∈ later, sample.modelLabel? = none) ∨
      ∃ provider model errorType, call = .failure provider model errorType ∧
        next.servedModels = metrics.servedModels ∧
          next.samples = metrics.samples ++ [.request (safe provider)
            (modelLabel metrics.servedModels model) ("error:" ++ errorType)] := by
  cases call with
  | usage record =>
      cases moved
      obtain ⟨same, later, split, quiet⟩ := @recordUsage_state metrics record
      exact .inl ⟨record, later, rfl, same, by rw [split]; simp, quiet⟩
  | failure provider model errorType =>
      cases moved
      rw [recordFailure_state]
      exact .inr ⟨provider, model, errorType, rfl, rfl, rfl⟩

/-- The label of a failure is `unknown`, or a name of the catalogue. -/
theorem modelLabel_cases (servedModels : List String) (model : String) :
    modelLabel servedModels model = "unknown" ∨ modelLabel servedModels model ∈ servedModels := by
  unfold modelLabel
  split_ifs with empty member
  · exact .inl rfl
  · exact .inr member
  · exact .inl rfl

theorem tracked_step (tracked : metrics.Tracked) (moved : metrics.step call = some next) :
    next.Tracked := by
  rcases step_samples moved with
    ⟨record, later, -, catalogue, samples, quiet⟩ | ⟨provider, model, errorType, -, catalogue, samples⟩
  · refine ⟨?_, fun name member => ?_, fun before after provider model status split failed known => ?_⟩
    · rw [catalogue]
      exact length_rememberModel tracked.capped
    · rw [samples]
      rw [catalogue] at member
      rcases mem_rememberModel member with old | rfl
      · obtain ⟨other, there⟩ := tracked.used name old
        exact ⟨other, List.mem_append_left _ there⟩
      · exact ⟨_, List.mem_append_right _ List.mem_cons_self⟩
    · rw [samples] at split
      rcases split_append split with ⟨rest, old⟩ | ⟨new, -⟩
      · exact tracked.earlier before rest provider model status old failed known
      · rcases List.mem_cons.mp new with same | silent
        · cases same
          exact absurd rfl failed
        · cases quiet _ silent
  · refine ⟨catalogue ▸ tracked.capped, fun name member => ?_,
      fun before after other label status split failed known => ?_⟩
    · obtain ⟨other, there⟩ := tracked.used name (catalogue ▸ member)
      exact ⟨other, samples ▸ List.mem_append_left _ there⟩
    · rw [samples] at split
      rcases split_append split with ⟨rest, old⟩ | ⟨new, whole⟩
      · exact tracked.earlier before rest other label status old failed known
      · cases List.mem_singleton.mp new
        rcases modelLabel_cases metrics.servedModels model with unknown | member
        · exact absurd unknown known
        · obtain ⟨first, there⟩ := tracked.used _ member
          exact ⟨first, whole.subset there⟩

theorem labels_of_samples {later : List Sample} (samples : next.samples = metrics.samples ++ later) :
    next.labels = metrics.labels ++ later.filterMap Sample.modelLabel? := by
  rw [Metrics.labels, samples, List.filterMap_append]
  rfl

theorem mem_rememberModel_self {model : String} {servedModels : List String} :
    model ∈ rememberModel model servedModels ↔
      model ∈ servedModels ∨ servedModels.length < maxTrackedModels := by
  unfold rememberModel
  split_ifs with full
  · constructor
    · exact .inl
    · rintro (member | room)
      · exact member
      · exact full.resolve_right (not_le.mpr room)
  · simp only [List.mem_append, List.mem_singleton, or_true, true_iff]
    exact .inr (not_le.mp (not_or.mp full).2)

theorem rememberModel_subset (model : String) (servedModels : List String) :
    servedModels ⊆ rememberModel model servedModels := by
  unfold rememberModel
  split_ifs
  · exact List.Subset.refl _
  · exact List.subset_append_left _ _

/-- The labels are names of the catalogue, or `unknown`. -/
def Metrics.Labelled (metrics : Metrics) : Prop :=
  ∀ label ∈ metrics.labels, label ≠ "unknown" → label ∈ metrics.servedModels

/-- **The labels stay in the catalogue exactly when the call is catalogued.** -/
theorem labelled_step (labelled : metrics.Labelled) (moved : metrics.step call = some next) :
    next.Labelled ↔ Catalogued metrics call next := by
  rcases step_samples moved with
    ⟨record, later, rfl, catalogue, samples, quiet⟩ | ⟨provider, model, errorType, rfl, catalogue, samples⟩
  · have labels : next.labels = metrics.labels ++ [safe record.model] := by
      rw [labels_of_samples samples, List.filterMap_cons, List.filterMap_eq_nil_iff.mpr quiet]
      rfl
    rw [Metrics.Labelled, labels, catalogue]
    constructor
    · intro kept other same
      cases same
      by_cases unknown : safe record.model = "unknown"
      · exact .inl unknown
      · exact .inr (mem_rememberModel_self.mp
          (kept _ (List.mem_append_right _ List.mem_cons_self) unknown))
    · intro catalogued label member known
      rcases List.mem_append.mp member with old | new
      · exact rememberModel_subset _ _ (labelled label old known)
      · obtain rfl := List.mem_singleton.mp new
        exact mem_rememberModel_self.mpr ((catalogued record rfl).resolve_left known)
  · have labels : next.labels = metrics.labels ++ [modelLabel metrics.servedModels model] :=
      labels_of_samples samples
    rw [Metrics.Labelled, labels, catalogue]
    refine ⟨fun _ => (fun other same => by cases same), fun _ => ?_⟩
    intro label member known
    rcases List.mem_append.mp member with old | new
    · exact labelled label old known
    · obtain rfl := List.mem_singleton.mp new
      exact (modelLabel_cases metrics.servedModels model).resolve_left known

/-- Labels from a small catalogue are few. -/
theorem card_labels (labelled : metrics.Labelled)
    (capped : metrics.servedModels.length ≤ maxTrackedModels) :
    metrics.labels.toFinset.card ≤ maxTrackedModels + 1 := by
  have among : metrics.labels.toFinset ⊆ insert "unknown" metrics.servedModels.toFinset := by
    intro label member
    by_cases unknown : label = "unknown"
    · exact unknown ▸ Finset.mem_insert_self _ _
    · exact Finset.mem_insert_of_mem
        (List.mem_toFinset.mpr (labelled label (List.mem_toFinset.mp member) unknown))
  calc metrics.labels.toFinset.card
      ≤ (insert "unknown" metrics.servedModels.toFinset).card := Finset.card_le_card among
    _ ≤ metrics.servedModels.toFinset.card + 1 := Finset.card_insert_le _ _
    _ ≤ metrics.servedModels.length + 1 := by
        have := List.toFinset_card_le metrics.servedModels
        omega
    _ ≤ maxTrackedModels + 1 := by omega

/-- **The cardinality of the metrics, exactly**: in every run of successes and failures, with any
names, the label `model` stays bounded in every state if and only if each success is recorded
under a name of the catalogue. -/
theorem cardinality_iff (calls : List MetricsCall) :
    Always Metrics.step Metrics.Bounded {} calls ↔ Throughout Metrics.step Catalogued {} calls := by
  have tracked : ∀ before after metrics, calls = before ++ after →
      run Metrics.step {} before = some metrics → metrics.Tracked := by
    intro before after metrics split reached
    refine invariant_of_step (P := Metrics.Tracked) ⟨by decide, by simp, by simp⟩ ?_ reached
    exact fun _ _ _ tracked moved => tracked_step tracked moved
  constructor
  · intro always
    exact throughout_of_always always fun metrics call next bounded later moved =>
      (labelled_step bounded.served moved).mp later.served
  · intro catalogued before after metrics split reached
    have now := tracked before after metrics split reached
    have labelled : metrics.Labelled := by
      refine invariant (P := Metrics.Labelled) ?_ ?_ (catalogued.of_split split) reached
      · simp [Metrics.Labelled, Metrics.labels]
      · exact fun _ _ _ labelled moved met => (labelled_step labelled moved).mpr met
    exact ⟨card_labels labelled now.capped, labelled, now.earlier⟩

end Runs

/-- Successes under this many names. -/
def manyModels (count : ℕ) : List MetricsCall :=
  (List.range count).map fun n =>
    .usage ⟨1, "ollama", "model-" ++ toString n, 1, 1, 10, 0⟩

/-- **A label for each name**: fifty-one successes use a label that is not in the catalogue. -/
theorem uncatalogued_label : ¬ Always Metrics.step Metrics.Bounded {} (manyModels 51) := by
  refine not_always_of_last
    (fun metrics => metrics.labels.any fun label =>
      label != "unknown" && !metrics.servedModels.contains label) ?_ (by decide +kernel)
  intro metrics found bounded
  obtain ⟨label, member, strange⟩ := List.any_eq_true.mp found
  simp only [Bool.and_eq_true, bne_iff_ne, Bool.not_eq_true', List.contains_eq_mem,
    decide_eq_false_iff_not] at strange
  exact strange.2 (bounded.served label member strange.1)

end LlmGateway
