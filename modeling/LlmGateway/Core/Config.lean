import Mathlib.Data.Rat.Defs

/-!
# Settings

The part of `core/config.py` that the modelled code reads, with its defaults.
-/

set_option autoImplicit false

namespace LlmGateway

/-- `Settings`. -/
structure Settings where
  openaiApiKey : Option String := none
  anthropicApiKey : Option String := none
  mistralApiKey : Option String := none
  groqApiKey : Option String := none
  geminiApiKey : Option String := none
  deepseekApiKey : Option String := none
  deepseekBaseUrl : String := "https://api.deepseek.com/v1"
  ollamaEnabled : Bool := false
  ollamaBaseUrl : String := "http://localhost:11434/v1"
  ollamaApiKey : Option String := none
  cacheTtlSeconds : Int := 300
  rateLimitRequests : Int := 60
  rateLimitWindowSeconds : Int := 60
  rateLimitFailOpen : Bool := false
  globalSpendLimitUsd : Option ℚ := none
deriving DecidableEq

end LlmGateway
