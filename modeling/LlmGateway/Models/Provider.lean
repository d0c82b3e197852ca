import LlmGateway.Core.Config
import Mathlib.Data.List.Induction
import Mathlib.Data.List.Sort
import Mathlib.Algebra.Order.Ring.Rat

/-!
# Providers and their registry

The configuration of `models/provider.py`, the registry and the factory of
`providers/factory.py`, and the candidate selection of `services/router.py`.

A registry never holds two providers of one name. Whatever the settings, the providers of
`buildRegistry` are priced at zero or more and none of them bears the name of the cache
(`buildRegistry_admissible`).
-/

set_option autoImplicit false

namespace LlmGateway

/-! ## Configuration -/

/-- `ModelPricing`: USD per million tokens. -/
structure ModelPricing where
  inputCostPer1M : ℚ := 0
  outputCostPer1M : ℚ := 0
deriving DecidableEq

/-- No price is negative. -/
structure ModelPricing.NonNegative (pricing : ModelPricing) : Prop where
  input : 0 ≤ pricing.inputCostPer1M
  output : 0 ≤ pricing.outputCostPer1M

/-- `ProviderConfig`. -/
structure ProviderConfig where
  name : String
  baseUrl : String
  supportedModels : List String
  priority : ℤ := 0
  timeout : ℚ := 30
  modelPricing : List (String × ModelPricing) := []
deriving DecidableEq

/-- `pricing_for`: a model that is not configured costs nothing. -/
def ProviderConfig.pricingFor (config : ProviderConfig) (model : String) : ModelPricing :=
  (config.modelPricing.lookup model).getD {}

/-- The class of a provider's adapter. -/
inductive Adapter where
  | openai
  | mistral
  | anthropic
deriving DecidableEq

/-- A provider: its configuration and its adapter. -/
structure BaseProvider where
  config : ProviderConfig
  adapter : Adapter
deriving DecidableEq

/-! ## The registry -/

/-- Adding a provider to the dictionary of names: an old name keeps its place. -/
def registerProvider (provider : BaseProvider) : List BaseProvider → List BaseProvider
  | [] => [provider]
  | old :: rest =>
      if old.config.name = provider.config.name then provider :: rest
      else old :: registerProvider provider rest

theorem registerProvider_names (provider : BaseProvider) (providers : List BaseProvider) :
    ∀ name ∈ (registerProvider provider providers).map (·.config.name),
      name = provider.config.name ∨ name ∈ providers.map (·.config.name) := by
  induction providers with
  | nil => simp [registerProvider]
  | cons old rest ih =>
      intro name member
      rw [registerProvider] at member
      split_ifs at member with same
      · rcases List.mem_cons.mp member with rfl | later
        · exact .inl rfl
        · exact .inr (List.mem_cons_of_mem _ later)
      · rcases List.mem_cons.mp member with rfl | later
        · exact .inr List.mem_cons_self
        · exact (ih name later).imp_right (List.mem_cons_of_mem _)

theorem registerProvider_nodup (provider : BaseProvider) {providers : List BaseProvider}
    (distinct : (providers.map (·.config.name)).Nodup) :
    ((registerProvider provider providers).map (·.config.name)).Nodup := by
  induction providers with
  | nil => simp [registerProvider]
  | cons old rest ih =>
      obtain ⟨fresh, distinct⟩ := List.nodup_cons.mp distinct
      rw [registerProvider]
      split_ifs with same
      · change old.config.name ∉ _ at fresh
        rw [same] at fresh
        exact List.nodup_cons.mpr ⟨fresh, distinct⟩
      · refine List.nodup_cons.mpr ⟨fun member => ?_, ih distinct⟩
        exact (registerProvider_names provider rest _ member).elim same fresh

/-- Every registered provider was given. -/
theorem mem_registerProvider {provider other : BaseProvider} {providers : List BaseProvider}
    (member : other ∈ registerProvider provider providers) :
    other = provider ∨ other ∈ providers := by
  induction providers with
  | nil => simpa [registerProvider] using member
  | cons old rest ih =>
      rw [registerProvider] at member
      split_ifs at member with same
      · exact (List.mem_cons.mp member).imp_right (List.mem_cons_of_mem _)
      · rcases List.mem_cons.mp member with rfl | later
        · exact .inr List.mem_cons_self
        · exact (ih later).imp_right (List.mem_cons_of_mem _)

/-- `ProviderRegistry`: the providers in registration order, keyed by name. -/
structure ProviderRegistry where
  all : List BaseProvider
  distinct : (all.map (·.config.name)).Nodup

/-- `ProviderRegistry(providers)`: of two providers of one name the later one counts. -/
def ProviderRegistry.ofProviders (providers : List BaseProvider) : ProviderRegistry :=
  providers.foldl
    (fun registry provider =>
      ⟨registerProvider provider registry.all, registerProvider_nodup provider registry.distinct⟩)
    ⟨[], List.nodup_nil⟩

theorem ProviderRegistry.mem_ofProviders {provider : BaseProvider} {providers : List BaseProvider}
    (member : provider ∈ (ofProviders providers).all) : provider ∈ providers := by
  induction providers using List.reverseRecOn with
  | nil => simp [ofProviders] at member
  | append_singleton earlier last ih =>
      rw [ofProviders, List.foldl_append] at member
      rcases mem_registerProvider member with rfl | before
      · simp
      · exact List.mem_append_left _ (ih before)

/-! ## Candidate selection -/

/-- An empty list of supported models accepts every model. -/
def supports (model : String) (provider : BaseProvider) : Bool :=
  provider.config.supportedModels.isEmpty || provider.config.supportedModels.contains model

def byPriority (first second : BaseProvider) : Prop :=
  first.config.priority ≤ second.config.priority

instance : DecidableRel byPriority := fun first second =>
  inferInstanceAs (Decidable (first.config.priority ≤ second.config.priority))

/-- `select_providers`: the candidates by ascending priority, in registration order
among equals. -/
def selectProviders (registry : ProviderRegistry) (model : String) : List BaseProvider :=
  (registry.all.filter (supports model)).insertionSort byPriority

theorem mem_selectProviders {registry : ProviderRegistry} {model : String} {provider : BaseProvider} :
    provider ∈ selectProviders registry model ↔
      provider ∈ registry.all ∧ supports model provider = true := by
  rw [selectProviders, List.mem_insertionSort, List.mem_filter]

/-! ## The factory -/

/-- The provider name of rows that no upstream call was made for. -/
def cacheProviderName : String := "cache"

def openaiBaseUrl : String := "https://api.openai.com/v1"
def groqBaseUrl : String := "https://api.groq.com/openai/v1"
def anthropicBaseUrl : String := "https://api.anthropic.com"
def mistralBaseUrl : String := "https://api.mistral.ai/v1"
def geminiBaseUrl : String := "https://generativelanguage.googleapis.com/v1beta/openai"

def openaiPricing : List (String × ModelPricing) :=
  [("gpt-4o", ⟨5 / 2, 10⟩), ("gpt-4o-mini", ⟨15 / 100, 60 / 100⟩)]

def groqPricing : List (String × ModelPricing) :=
  [("llama-3.1-70b-versatile", ⟨59 / 100, 79 / 100⟩), ("llama-3.1-8b-instant", ⟨5 / 100, 8 / 100⟩)]

def anthropicPricing : List (String × ModelPricing) :=
  [("claude-3-5-sonnet-latest", ⟨3, 15⟩), ("claude-3-5-haiku-latest", ⟨80 / 100, 4⟩)]

def mistralPricing : List (String × ModelPricing) :=
  [("mistral-large-latest", ⟨50 / 100, 150 / 100⟩), ("mistral-small-latest", ⟨15 / 100, 60 / 100⟩)]

def geminiPricing : List (String × ModelPricing) :=
  [("gemini-2.0-flash", ⟨10 / 100, 40 / 100⟩), ("gemini-2.5-pro", ⟨125 / 100, 10⟩)]

def deepseekPricing : List (String × ModelPricing) :=
  [("deepseek-chat", ⟨27 / 100, 110 / 100⟩), ("deepseek-reasoner", ⟨55 / 100, 219 / 100⟩)]

/-- `_config`. -/
def config (name baseUrl : String) (supportedModels : List String)
    (modelPricing : List (String × ModelPricing)) : ProviderConfig :=
  { name, baseUrl, supportedModels, modelPricing }

/-- A setting counts as given when it is a nonempty text. -/
def given (key : Option String) : Bool := key.any fun text => !text.isEmpty

/-- A provider of the catalogue, if it is enabled. -/
def enabled (condition : Bool) (provider : BaseProvider) : List BaseProvider :=
  if condition then [provider] else []

/-- The providers that the settings enable, in the order of registration. -/
def configuredProviders (settings : Settings) : List BaseProvider :=
  enabled (given settings.openaiApiKey)
    ⟨config "openai" openaiBaseUrl ["gpt-4o", "gpt-4o-mini"] openaiPricing, .openai⟩ ++
  enabled (given settings.groqApiKey)
    ⟨config "groq" groqBaseUrl ["llama-3.1-70b-versatile", "llama-3.1-8b-instant"] groqPricing,
      .openai⟩ ++
  enabled (given settings.anthropicApiKey)
    ⟨config "anthropic" anthropicBaseUrl ["claude-3-5-sonnet-latest", "claude-3-5-haiku-latest"]
      anthropicPricing, .anthropic⟩ ++
  enabled (given settings.mistralApiKey)
    ⟨config "mistral" mistralBaseUrl ["mistral-large-latest", "mistral-small-latest"]
      mistralPricing, .mistral⟩ ++
  enabled (given settings.geminiApiKey)
    ⟨config "gemini" geminiBaseUrl ["gemini-2.0-flash", "gemini-2.5-pro"] geminiPricing, .openai⟩ ++
  enabled (given settings.deepseekApiKey)
    ⟨config "deepseek" settings.deepseekBaseUrl ["deepseek-chat", "deepseek-reasoner"]
      deepseekPricing, .openai⟩ ++
  enabled settings.ollamaEnabled
    ⟨config "ollama" settings.ollamaBaseUrl ["llama3.2"] [], .openai⟩

/-- `build_registry`. -/
def buildRegistry (settings : Settings) : ProviderRegistry :=
  .ofProviders (configuredProviders settings)

/-! ## What the factory promises -/

/-- A provider whose usage can be recorded under its own name: every price is zero or
more, and the name is not that of the cache. -/
structure BaseProvider.Admissible (provider : BaseProvider) : Prop where
  priced : ∀ model, (provider.config.pricingFor model).NonNegative
  named : provider.config.name ≠ cacheProviderName

/-- All providers of a registry are admissible. -/
def ProviderRegistry.Admissible (registry : ProviderRegistry) : Prop :=
  ∀ provider ∈ registry.all, provider.Admissible

/-- What holds of the prices of a table, and of no price, holds of those of every model. -/
theorem pricingFor_of_table {P : ModelPricing → Prop} {config : ProviderConfig} (free : P {})
    (table : ∀ entry ∈ config.modelPricing, P entry.2) (model : String) : P (config.pricingFor model) := by
  unfold ProviderConfig.pricingFor
  cases found : config.modelPricing.lookup model with
  | none => exact free
  | some pricing =>
      obtain ⟨before, after, split, -⟩ := List.lookup_eq_some_iff.mp found
      exact table (model, pricing) (by simp [split])

/-- A pricing table with no negative price. -/
def pricedAtLeastZero (table : List (String × ModelPricing)) : Bool :=
  table.all fun entry => decide (0 ≤ entry.2.inputCostPer1M) && decide (0 ≤ entry.2.outputCostPer1M)

theorem admissible_config {name baseUrl : String} {models : List String}
    {table : List (String × ModelPricing)} {adapter : Adapter}
    (priced : pricedAtLeastZero table = true) (named : name ≠ cacheProviderName) :
    BaseProvider.Admissible ⟨config name baseUrl models table, adapter⟩ := by
  refine ⟨pricingFor_of_table ⟨le_rfl, le_rfl⟩ fun entry member => ?_, named⟩
  have both := List.all_eq_true.mp priced entry member
  rw [Bool.and_eq_true, decide_eq_true_eq, decide_eq_true_eq] at both
  exact ⟨both.1, both.2⟩

theorem mem_enabled {condition : Bool} {provider other : BaseProvider}
    (member : other ∈ enabled condition provider) : other = provider := by
  unfold enabled at member
  split_ifs at member
  · exact List.mem_singleton.mp member
  · cases member

/-- **Every registry of the factory is admissible**, whatever the settings. -/
theorem buildRegistry_admissible (settings : Settings) : (buildRegistry settings).Admissible := by
  intro provider member
  have configured := ProviderRegistry.mem_ofProviders member
  simp only [configuredProviders, List.mem_append] at configured
  rcases configured with (((((openai | groq) | anthropic) | mistral) | gemini) | deepseek) | ollama
  · exact mem_enabled openai ▸ admissible_config (by decide +kernel) (by decide)
  · exact mem_enabled groq ▸ admissible_config (by decide +kernel) (by decide)
  · exact mem_enabled anthropic ▸ admissible_config (by decide +kernel) (by decide)
  · exact mem_enabled mistral ▸ admissible_config (by decide +kernel) (by decide)
  · exact mem_enabled gemini ▸ admissible_config (by decide +kernel) (by decide)
  · exact mem_enabled deepseek ▸ admissible_config (by decide +kernel) (by decide)
  · exact mem_enabled ollama ▸ admissible_config (by decide +kernel) (by decide)

end LlmGateway
