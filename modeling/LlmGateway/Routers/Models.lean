import LlmGateway.Routers.Chat
import LlmGateway.Routers.Guards

/-!
# The model endpoints

`GET /v1/models` and `GET /v1/models/{model_id}` of `routers/models.py`, past the guards, and
`_reject_unknown_streaming_model` of `routers/chat.py`.

A model is listed for the providers that name it. A provider that names none serves every model; it
owns a model only where no provider names it.
-/

set_option autoImplicit false

namespace LlmGateway

open LlmGateway.Library

/-! ## The endpoints -/

/-- `_providers_by_priority`. -/
def providersByPriority (registry : ProviderRegistry) : List BaseProvider :=
  registry.all.insertionSort byPriority

/-- The metadata of a model; its `object` is `model` and its `created` is zero. -/
structure ModelEntry where
  id : String
  ownedBy : String
deriving DecidableEq

def ModelEntry.toJson (entry : ModelEntry) : Json :=
  .obj [("id", .str entry.id), ("object", .str "model"), ("created", .int 0),
    ("owned_by", .str entry.ownedBy)]

/-- `owned.setdefault(model, owner)`. -/
def setDefault (owned : List ModelEntry) (model owner : String) : List ModelEntry :=
  if (owned.map ModelEntry.id).contains model then owned else owned ++ [⟨model, owner⟩]

/-- One turn of the outer loop of `list_models`. -/
def ownModels (owned : List ModelEntry) (provider : BaseProvider) : List ModelEntry :=
  provider.config.supportedModels.foldl
    (fun owned model => setDefault owned model provider.config.name) owned

/-- The order of `sorted(owned.items())`: by the model, then by the owner. -/
def byItem (first second : ModelEntry) : Prop :=
  first.id < second.id ∨ first.id = second.id ∧ first.ownedBy ≤ second.ownedBy

instance : DecidableRel byItem := fun first second =>
  inferInstanceAs
    (Decidable (first.id < second.id ∨ first.id = second.id ∧ first.ownedBy ≤ second.ownedBy))

/-- `list_models`: the entries of its `data`. -/
def listModels (registry : ProviderRegistry) : List ModelEntry :=
  ((providersByPriority registry).foldl ownModels []).insertionSort byItem

/-- The loop of `get_model`: the owner that names the model, at which the loop breaks off, and the
owner that names none. -/
def scanOwners (modelId : String) : List BaseProvider → Option String → Option String × Option String
  | [], wildcardOwner => (none, wildcardOwner)
  | provider :: rest, wildcardOwner =>
      if provider.config.supportedModels.isEmpty then
        scanOwners modelId rest (wildcardOwner.or (some provider.config.name))
      else if provider.config.supportedModels.contains modelId then
        (some provider.config.name, wildcardOwner)
      else scanOwners modelId rest wildcardOwner

/-- `get_model`. -/
def getModel (registry : ProviderRegistry) (modelId : String) : Except HttpException ModelEntry :=
  match scanOwners modelId (providersByPriority registry) none with
  | (some owner, _) => .ok ⟨modelId, owner⟩
  | (none, some wildcardOwner) => .ok ⟨modelId, wildcardOwner⟩
  | (none, none) =>
      .error ⟨404, errorDetail ("model '" ++ modelId ++ "' not found") "model_not_found"⟩

/-- `_reject_unknown_streaming_model`: the failed request that it records, and the 404 that it
raises. -/
def rejectUnknownStreamingModel (body : ChatRequest) (registry : ProviderRegistry)
    (virtualKeyId : ℤ) (latencyMs : ℕ) : List UsageTask × Except HttpException Unit :=
  if registry.all.any (supports body.model) then ([], .ok ())
  else
    ([recordFailedRequest virtualKeyId body.model latencyMs "model_not_found"],
      .error ⟨404, errorDetail (unknownModelMessage body.model) "model_not_found"⟩)

end LlmGateway
