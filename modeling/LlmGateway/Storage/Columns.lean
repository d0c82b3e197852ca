import LlmGateway.Storage.Logs

/-!
# The columns of `usage_logs`

PostgreSQL refuses a row with a text that is longer than its column or holds the character NUL, with an
integer that has more than four bytes, or with an amount of more than six digits before the point
(`Database.write`). The names of the factory's providers are short, its prices are moderate, and so the
model, the two counts and the latency of a row decide whether it fits (`fits_persistUsage`,
`fits_recordFailedRequest`).
-/

set_option autoImplicit false

namespace LlmGateway

open LlmGateway.Library

/-! ## Columns -/

/-- `String(width)`. -/
def FitsString (width : ℕ) (text : String) : Prop := text.length ≤ width ∧ Char.ofNat 0 ∉ text.toList

instance (width : ℕ) (text : String) : Decidable (FitsString width text) :=
  inferInstanceAs (Decidable (_ ∧ _))

/-- `Integer`. -/
def FitsInteger (n : ℤ) : Prop := -2 ^ 31 ≤ n ∧ n < 2 ^ 31

instance : DecidablePred FitsInteger := fun _ => inferInstanceAs (Decidable (_ ∧ _))

/-- `Numeric(12, 6)`. -/
def FitsNumeric (amount : ℚ) : Prop := |amount| < 10 ^ 6

instance : DecidablePred FitsNumeric := fun amount => inferInstanceAs (Decidable (|amount| < 10 ^ 6))

/-- `String(64)`, `String(128)` and `String(64)`. -/
def providerWidth : ℕ := 64
def modelWidth : ℕ := 128
def errorTypeWidth : ℕ := 64

/-- The values of a row fit their columns. -/
structure UsageLog.Fits (row : UsageLog) : Prop where
  virtualKeyId : FitsInteger row.virtualKeyId
  provider : FitsString providerWidth row.provider
  model : FitsString modelWidth row.model
  inputTokens : FitsInteger row.inputTokens
  outputTokens : FitsInteger row.outputTokens
  latencyMs : FitsInteger row.latencyMs
  estimatedCost : FitsNumeric row.estimatedCost
  errorType : ∀ text, row.errorType = some text → FitsString errorTypeWidth text

theorem UsageLog.fits_iff (row : UsageLog) : row.Fits ↔
    FitsInteger row.virtualKeyId ∧ FitsString providerWidth row.provider ∧
      FitsString modelWidth row.model ∧ FitsInteger row.inputTokens ∧ FitsInteger row.outputTokens ∧
        FitsInteger row.latencyMs ∧ FitsNumeric row.estimatedCost ∧
          ∀ text ∈ row.errorType, FitsString errorTypeWidth text :=
  ⟨fun fits => ⟨fits.virtualKeyId, fits.provider, fits.model, fits.inputTokens, fits.outputTokens,
      fits.latencyMs, fits.estimatedCost, fits.errorType⟩,
    fun ⟨virtualKeyId, provider, model, inputTokens, outputTokens, latencyMs, estimatedCost, errorType⟩ =>
      ⟨virtualKeyId, provider, model, inputTokens, outputTokens, latencyMs, estimatedCost, errorType⟩⟩

instance (row : UsageLog) : Decidable row.Fits := decidable_of_iff' _ row.fits_iff

/-- The background task on a database that refuses rows that do not fit. What it raises is logged,
and the row is lost. -/
def Database.write (db : Database) (task : UsageTask) : Database :=
  if task.row.Fits then db.perform task else db

/-- **A row is stored** exactly if it fits. -/
theorem Database.write_stores_iff (db : Database) (task : UsageTask) :
    (db.write task).usageLogs = db.usageLogs ++ [task.row] ↔ task.row.Fits := by
  unfold write
  split_ifs with fits
  · exact iff_of_true (db.perform_row task) fits
  · exact iff_of_false (by simp) fits

/-! ## Providers -/

/-- Two hundred dollars for a million tokens. -/
def maxPrice : ℚ := 200

/-- Prices at which the cost of a request fits its column, if the counts fit theirs. -/
structure ModelPricing.Moderate (pricing : ModelPricing) : Prop extends pricing.NonNegative where
  input_le : pricing.inputCostPer1M ≤ maxPrice
  output_le : pricing.outputCostPer1M ≤ maxPrice

theorem moderate_free : ModelPricing.Moderate {} where
  input := le_rfl
  output := le_rfl
  input_le := by decide +kernel
  output_le := by decide +kernel

/-- A provider under whose name and at whose prices rows fit. -/
structure BaseProvider.Recordable (provider : BaseProvider) : Prop where
  named : FitsString providerWidth provider.config.name
  priced : ∀ model, (provider.config.pricingFor model).Moderate

def ProviderRegistry.Recordable (registry : ProviderRegistry) : Prop :=
  ∀ provider ∈ registry.all, provider.Recordable

/-- A pricing table without a price that is too high. -/
def pricedModerately (table : List (String × ModelPricing)) : Bool :=
  table.all fun entry =>
    decide (entry.2.inputCostPer1M ≤ maxPrice) && decide (entry.2.outputCostPer1M ≤ maxPrice)

theorem recordable_config {name baseUrl : String} {models : List String}
    {table : List (String × ModelPricing)} {adapter : Adapter} (named : FitsString providerWidth name)
    (priced : pricedAtLeastZero table = true) (moderate : pricedModerately table = true) :
    BaseProvider.Recordable ⟨config name baseUrl models table, adapter⟩ := by
  refine ⟨named, pricingFor_of_table moderate_free fun entry member => ?_⟩
  have nonneg := List.all_eq_true.mp priced entry member
  have bounded := List.all_eq_true.mp moderate entry member
  simp only [Bool.and_eq_true, decide_eq_true_eq] at nonneg bounded
  exact { input := nonneg.1, output := nonneg.2, input_le := bounded.1, output_le := bounded.2 }

/-- **The providers of the factory** are recordable, whatever the settings. -/
theorem buildRegistry_recordable (settings : Settings) : (buildRegistry settings).Recordable := by
  intro provider member
  have configured := ProviderRegistry.mem_ofProviders member
  simp only [configuredProviders, List.mem_append] at configured
  rcases configured with (((((openai | groq) | anthropic) | mistral) | gemini) | deepseek) | ollama
  · exact mem_enabled openai ▸ recordable_config (by decide) (by decide +kernel) (by decide +kernel)
  · exact mem_enabled groq ▸ recordable_config (by decide) (by decide +kernel) (by decide +kernel)
  · exact mem_enabled anthropic ▸ recordable_config (by decide) (by decide +kernel) (by decide +kernel)
  · exact mem_enabled mistral ▸ recordable_config (by decide) (by decide +kernel) (by decide +kernel)
  · exact mem_enabled gemini ▸ recordable_config (by decide) (by decide +kernel) (by decide +kernel)
  · exact mem_enabled deepseek ▸ recordable_config (by decide) (by decide +kernel) (by decide +kernel)
  · exact mem_enabled ollama ▸ recordable_config (by decide) (by decide +kernel) (by decide +kernel)

/-! ## Costs -/

theorem tokenCost_le {price : ℚ} {tokens : ℤ} (nonneg : 0 ≤ price) (moderate : price ≤ maxPrice)
    (counted : 0 ≤ tokens) (fits : FitsInteger tokens) : tokenCost price tokens ≤ 439000 := by
  have count : (0 : ℚ) ≤ tokens := by exact_mod_cast counted
  have below : (tokens : ℚ) ≤ 2 ^ 31 := by exact_mod_cast fits.2.le
  have product : price * tokens ≤ maxPrice * 2 ^ 31 :=
    mul_le_mul moderate below count (nonneg.trans moderate)
  have multiplied := Decimal.roundSignificant_le_mul (mul_nonneg nonneg count)
  have divided : Decimal.div (Decimal.mul price tokens) oneMillion ≤
      Decimal.mul price tokens / oneMillion * (101 / 100) :=
    Decimal.roundSignificant_le_mul
      (div_nonneg (Decimal.nonneg_mul nonneg count) (by norm_num [oneMillion]))
  rw [tokenCost]
  unfold oneMillion maxPrice at *
  unfold Decimal.mul at *
  linarith only [divided, multiplied, product]

/-- **The cost fits its column** at moderate prices, if the counts fit theirs. -/
theorem fitsNumeric_cost {virtualKeyId : ℤ} {providerName model : String} {pricing : ModelPricing}
    {usage : Usage} {latencyMs : ℕ} (priced : pricing.Moderate) (counts : usage.Billable)
    (prompt : FitsInteger usage.promptTokens) (completion : FitsInteger usage.completionTokens) :
    FitsNumeric (Decimal.column 6
      (buildUsageRecord virtualKeyId providerName pricing model usage latencyMs).estimatedCost) := by
  have input := tokenCost_nonneg priced.input counts.prompt.1
  have output := tokenCost_nonneg priced.output counts.completion.1
  have input_le := tokenCost_le priced.input priced.input_le counts.prompt.1 prompt
  have output_le := tokenCost_le priced.output priced.output_le counts.completion.1 completion
  have whole := Decimal.roundSignificant_le_mul (add_nonneg input output)
  have nonneg := Decimal.nonneg_add input output
  have near := abs_le.mp (Decimal.abs_column_sub_le 6
    (buildUsageRecord virtualKeyId providerName pricing model usage latencyMs).estimatedCost)
  change _ ≤ _ - Decimal.add _ _ ∧ _ - Decimal.add _ _ ≤ _ at near
  unfold Decimal.add at near nonneg
  rw [FitsNumeric, abs_lt]
  constructor
  · linarith only [near.1, nonneg]
  · linarith only [near.2, whole, input_le, output_le]

/-! ## Rows of the gateway -/

/-- What decides whether a row fits. -/
structure Logged where
  model : String
  inputTokens : ℤ := 0
  outputTokens : ℤ := 0
  latencyMs : ℕ

/-- The model has at most 128 characters and no NUL, and the counts and the latency fit four bytes. -/
@[mk_iff]
structure Logged.Fits (logged : Logged) : Prop where
  model : FitsString modelWidth logged.model
  inputTokens : FitsInteger logged.inputTokens
  outputTokens : FitsInteger logged.outputTokens
  latencyMs : FitsInteger logged.latencyMs

instance (logged : Logged) : Decidable logged.Fits := decidable_of_iff' _ logged.fits_iff

/-- **The row of a record** fits if and only if what it logs does. -/
theorem fits_persistUsage {virtualKeyId : ℤ} {providerName model : String} {pricing : ModelPricing}
    {usage : Usage} {latencyMs : ℕ} (key : FitsInteger virtualKeyId)
    (named : FitsString providerWidth providerName) (priced : pricing.Moderate) (counts : usage.Billable) :
    (UsageTask.persistUsage
        (buildUsageRecord virtualKeyId providerName pricing model usage latencyMs)).row.Fits ↔
      (Logged.mk model usage.promptTokens usage.completionTokens latencyMs).Fits := by
  constructor
  · exact fun fits => ⟨fits.model, fits.inputTokens, fits.outputTokens, fits.latencyMs⟩
  · rintro ⟨short, prompt, completion, quick⟩
    exact ⟨key, named, short, prompt, completion, quick,
      fitsNumeric_cost priced counts prompt completion, fun _ none => by cases none⟩

/-- **The row of a failed request**, too. -/
theorem fits_recordFailedRequest {virtualKeyId : ℤ} {model errorType : String} {latencyMs : ℕ}
    (key : FitsInteger virtualKeyId) (brief : FitsString errorTypeWidth errorType) :
    (recordFailedRequest virtualKeyId model latencyMs errorType).row.Fits ↔
      (Logged.mk model 0 0 latencyMs).Fits := by
  constructor
  · exact fun fits => ⟨fits.model, fits.inputTokens, fits.outputTokens, fits.latencyMs⟩
  · rintro ⟨short, prompt, completion, quick⟩
    refine ⟨key, (by decide : FitsString providerWidth ""), short, prompt, completion, quick,
      (by decide +kernel : FitsNumeric 0), ?_⟩
    rintro text same
    cases same
    exact brief

end LlmGateway
