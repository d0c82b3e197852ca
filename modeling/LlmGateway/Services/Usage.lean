import LlmGateway.Core.Exceptions
import LlmGateway.Library.Rounding
import LlmGateway.Models.Api
import LlmGateway.Models.Provider

/-!
# Usage records

The record of one request (`models/usage.py`), its cost and its metrics
(`services/metrics.py`), and the two background tasks that write a row of `usage_logs`
(`services/usage.py`). A task is named by the row it is going to write. Scheduling is what
counts here: whether the database accepts the row is another matter.

Emitting the metrics of a record fails on a negative amount, since a counter can only
grow, and on a count that is too large for a double, and it fails on nothing else
(`emitMetric_ok`). The counts of a response that do not make it fail are its `Billable` ones.
-/

set_option autoImplicit false

namespace LlmGateway

open LlmGateway.Library

/-- `UsageRecord`. -/
structure UsageRecord where
  virtualKeyId : ℤ
  provider : String
  model : String
  inputTokens : ℤ
  outputTokens : ℤ
  latencyMs : ℕ
  estimatedCost : ℚ
deriving DecidableEq

/-- `_ONE_MILLION`. -/
def oneMillion : ℚ := 1000000

/-- The cost of some tokens at a price per million. -/
def tokenCost (costPer1M : ℚ) (tokens : ℤ) : ℚ :=
  Decimal.div (Decimal.mul costPer1M tokens) oneMillion

/-- `build_usage_record`. -/
def buildUsageRecord (virtualKeyId : ℤ) (providerName : String) (pricing : ModelPricing)
    (model : String) (usage : Usage) (latencyMs : ℕ) : UsageRecord where
  virtualKeyId := virtualKeyId
  provider := providerName
  model := model
  inputTokens := usage.promptTokens
  outputTokens := usage.completionTokens
  latencyMs := latencyMs
  estimatedCost :=
    Decimal.add (tokenCost pricing.inputCostPer1M usage.promptTokens)
      (tokenCost pricing.outputCostPer1M usage.completionTokens)

/-- An integer that a Prometheus counter can grow by. -/
def FitsCounter (amount : ℤ) : Prop := 0 ≤ amount ∧ (Double.ofInt amount).isSome = true

instance : DecidablePred FitsCounter := fun amount =>
  inferInstanceAs (Decidable (0 ≤ amount ∧ (Double.ofInt amount).isSome = true))

/-- The counts that a record bills are ones that a counter can grow by. -/
structure Usage.Billable (usage : Usage) : Prop where
  prompt : FitsCounter usage.promptTokens
  completion : FitsCounter usage.completionTokens

instance (usage : Usage) : Decidable usage.Billable :=
  decidable_of_iff (FitsCounter usage.promptTokens ∧ FitsCounter usage.completionTokens)
    ⟨fun counts => ⟨counts.1, counts.2⟩, fun counts => ⟨counts.prompt, counts.completion⟩⟩

/-- `Counter.inc` of an integer: a counter only grows, and its value is a double. -/
def incrementTokens (amount : ℤ) : Except PyException Unit :=
  if amount < 0 then .error .valueError
  else if (Double.ofInt amount).isSome then .ok ()
  else .error (.other "OverflowError")

/-- `Counter.inc(float(cost))`. -/
def incrementCost (cost : ℚ) : Except PyException Unit :=
  if (Double.ofRat cost).isNegative then .error .valueError else .ok ()

/-- `emit_metric`: the counters of the input, of the output and of the cost. -/
def emitMetric (record : UsageRecord) : Except PyException Unit := do
  incrementTokens record.inputTokens
  incrementTokens record.outputTokens
  incrementCost record.estimatedCost

/-- A background task that writes one row of `usage_logs`: `persist_usage` a row of status
`ok`, `create_failed_usage_log` a row of status `error`. -/
inductive UsageTask where
  | persistUsage (record : UsageRecord)
  | createFailedUsageLog (virtualKeyId : ℤ) (provider model : String) (latencyMs : ℕ)
      (errorType : String)
deriving DecidableEq

/-- `record_failed_request`: it never raises. -/
def recordFailedRequest (virtualKeyId : ℤ) (model : String) (latencyMs : ℕ) (errorType : String) :
    UsageTask :=
  .createFailedUsageLog virtualKeyId "" model latencyMs errorType

/-- Emit the metrics of a record, then schedule its row. -/
def recordUsage (record : UsageRecord) : Except PyException UsageTask := do
  emitMetric record
  pure (.persistUsage record)

/-- The record of a request that no upstream call was made for. -/
def cacheRecord (virtualKeyId : ℤ) (response : ChatResponse) (latencyMs : ℕ) : UsageRecord :=
  buildUsageRecord virtualKeyId cacheProviderName {} response.model response.usage latencyMs

/-- `_record_cache_style_usage`, and `schedule_cached_stream_usage`. -/
def recordCacheStyleUsage (virtualKeyId : ℤ) (response : ChatResponse) (latencyMs : ℕ) :
    Except PyException UsageTask :=
  recordUsage (cacheRecord virtualKeyId response latencyMs)

/-! ## When a record can be emitted -/

theorem tokenCost_nonneg {costPer1M : ℚ} {tokens : ℤ} (price : 0 ≤ costPer1M)
    (count : 0 ≤ tokens) : 0 ≤ tokenCost costPer1M tokens :=
  Decimal.nonneg_div (Decimal.nonneg_mul price (by exact_mod_cast count)) (by norm_num [oneMillion])

@[simp] theorem tokenCost_free (tokens : ℤ) : tokenCost 0 tokens = 0 := by
  simp [tokenCost, Decimal.mul, Decimal.div]

/-- A record costs nothing without prices. -/
theorem cacheRecord_free (virtualKeyId : ℤ) (response : ChatResponse) (latencyMs : ℕ) :
    (cacheRecord virtualKeyId response latencyMs).estimatedCost = 0 := by
  simp [cacheRecord, buildUsageRecord, Decimal.add]

theorem incrementTokens_ok_iff {amount : ℤ} : incrementTokens amount = .ok () ↔ FitsCounter amount := by
  unfold incrementTokens FitsCounter
  split_ifs with negative fits
  · exact ⟨fun impossible => (nomatch impossible), fun grows => absurd negative (not_lt.mpr grows.1)⟩
  · exact ⟨fun _ => ⟨not_lt.mp negative, fits⟩, fun _ => rfl⟩
  · exact ⟨fun impossible => (nomatch impossible), fun grows => absurd grows.2 fits⟩

theorem emitMetric_ok_iff {record : UsageRecord} :
    emitMetric record = .ok () ↔ FitsCounter record.inputTokens ∧ FitsCounter record.outputTokens ∧
      (Double.ofRat record.estimatedCost).isNegative = false := by
  rw [← incrementTokens_ok_iff, ← incrementTokens_ok_iff, emitMetric]
  cases incrementTokens record.inputTokens with
  | error => exact ⟨fun impossible => (nomatch impossible), fun whole => (nomatch whole.1)⟩
  | ok =>
      cases incrementTokens record.outputTokens with
      | error => exact ⟨fun impossible => (nomatch impossible), fun whole => (nomatch whole.2.1)⟩
      | ok =>
          change incrementCost record.estimatedCost = .ok () ↔ _
          rw [incrementCost]
          split_ifs with negative
          · exact ⟨fun impossible => (nomatch impossible), fun whole =>
              Bool.false_ne_true (whole.2.2.symm.trans negative) |>.elim⟩
          · exact ⟨fun _ => ⟨rfl, rfl, Bool.eq_false_of_not_eq_true negative⟩, fun _ => rfl⟩

/-- A record of amounts that a counter can grow by is emitted. -/
theorem emitMetric_ok {record : UsageRecord} (input : FitsCounter record.inputTokens)
    (output : FitsCounter record.outputTokens) (cost : 0 ≤ record.estimatedCost) :
    emitMetric record = .ok () :=
  emitMetric_ok_iff.mpr ⟨input, output, Double.isNegative_ofRat cost⟩

/-- The counts of a record that is emitted can be billed. -/
theorem billable_of_emitMetric {virtualKeyId : ℤ} {providerName model : String} {pricing : ModelPricing}
    {usage : Usage} {latencyMs : ℕ}
    (emitted : emitMetric (buildUsageRecord virtualKeyId providerName pricing model usage latencyMs) =
      .ok ()) : usage.Billable := by
  obtain ⟨prompt, completion, -⟩ := emitMetric_ok_iff.mp emitted
  exact ⟨prompt, completion⟩

/-- What a counter raises. -/
def CounterError (exception : PyException) : Prop :=
  exception = .valueError ∨ exception = .other "OverflowError"

instance : DecidablePred CounterError := fun exception =>
  inferInstanceAs (Decidable (exception = .valueError ∨ exception = .other "OverflowError"))

theorem counterError_incrementTokens {amount : ℤ} {exception : PyException}
    (failed : incrementTokens amount = .error exception) : CounterError exception := by
  unfold incrementTokens at failed
  split_ifs at failed
  · cases failed; exact .inl rfl
  · cases failed; exact .inr rfl

/-- Emitting raises nothing but what a counter raises. -/
theorem counterError_emitMetric {record : UsageRecord} {exception : PyException}
    (failed : emitMetric record = .error exception) : CounterError exception := by
  unfold emitMetric at failed
  cases input : incrementTokens record.inputTokens with
  | error =>
      rw [input] at failed
      cases failed
      exact counterError_incrementTokens input
  | ok =>
      cases output : incrementTokens record.outputTokens with
      | error =>
          rw [input, output] at failed
          cases failed
          exact counterError_incrementTokens output
      | ok =>
          rw [input, output] at failed
          change incrementCost record.estimatedCost = _ at failed
          unfold incrementCost at failed
          split_ifs at failed
          cases failed
          exact .inl rfl

/-- At prices that are not negative a record is emitted exactly when its counts can be billed. -/
theorem emitMetric_priced {virtualKeyId : ℤ} {providerName model : String} {pricing : ModelPricing}
    {usage : Usage} {latencyMs : ℕ} (priced : pricing.NonNegative) :
    emitMetric (buildUsageRecord virtualKeyId providerName pricing model usage latencyMs) = .ok () ↔
      usage.Billable := by
  constructor
  · exact billable_of_emitMetric
  · intro counts
    exact emitMetric_ok counts.prompt counts.completion
      (Decimal.nonneg_add (tokenCost_nonneg priced.input counts.prompt.1)
        (tokenCost_nonneg priced.output counts.completion.1))

/-- A record that costs nothing is emitted exactly when its counts can be billed. -/
theorem emitMetric_cacheRecord {virtualKeyId : ℤ} {response : ChatResponse} {latencyMs : ℕ} :
    emitMetric (cacheRecord virtualKeyId response latencyMs) = .ok () ↔ response.usage.Billable := by
  constructor
  · exact billable_of_emitMetric
  · intro counts
    exact emitMetric_ok counts.prompt counts.completion
      (cacheRecord_free virtualKeyId response latencyMs).ge

/-- What is scheduled is the row of the record. -/
theorem recordUsage_eq_ok {record : UsageRecord} {task : UsageTask}
    (recorded : recordUsage record = .ok task) : task = .persistUsage record := by
  unfold recordUsage at recorded
  cases emitted : emitMetric record with
  | error exception => rw [emitted] at recorded; cases recorded
  | ok _ => rw [emitted] at recorded; cases recorded; rfl

end LlmGateway
