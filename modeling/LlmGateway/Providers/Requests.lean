import LlmGateway.Models.RoundTrip
import LlmGateway.Providers.Bodies
import LlmGateway.Routers.Guards
import LlmGateway.Services.Cache

/-!
# What is sent to a provider

The requests that the adapters of `providers/openai.py`, `providers/mistral.py` and
`providers/anthropic.py` hand to the HTTP client: the address, the headers with the request id of
`_with_request_id`, the JSON body and the timeout. An OpenAI-compatible host gets the dump of the
request, Anthropic a translation of it.

* The body for an OpenAI-compatible host is one that a gateway accepts, as the request itself
  (`forwarded_accepted`): gateways can be chained.
* The body for Anthropic says what the request asks (`question_of_anthropicPayload`), and says the same
  for two requests only if they ask the same.
* Two requests with one cache key are the same request to every provider (`upstream_of_cacheKey`), so an
  answer that is taken from the cache is an answer to what would have been asked.
-/

set_option autoImplicit false

namespace LlmGateway

open LlmGateway.Library

/-! ## Adapters with their keys -/

/-- The API key of an adapter: the OpenAI adapter can do without. -/
inductive Credential where
  | openai (apiKey : Option String)
  | mistral (apiKey : String)
  | anthropic (apiKey : String)
deriving DecidableEq

def Credential.adapter : Credential → Adapter
  | .openai _ => .openai
  | .mistral _ => .mistral
  | .anthropic _ => .anthropic

/-- A provider object, with the key that its constructor was given. -/
structure ProviderClient where
  config : ProviderConfig
  credential : Credential
deriving DecidableEq

namespace ProviderClient

def provider (client : ProviderClient) : BaseProvider := ⟨client.config, client.credential.adapter⟩

end ProviderClient

/-- `DEFAULT_BASE_URL` of the module of an adapter. -/
def Adapter.defaultBaseUrl : Adapter → String
  | .openai => openaiBaseUrl
  | .mistral => mistralBaseUrl
  | .anthropic => anthropicBaseUrl

/-- `text.rstrip("/")`. -/
def rstripSlash (text : String) : String :=
  String.ofList (text.toList.reverse.dropWhile (· == '/')).reverse

/-- `self.base_url`. -/
def ProviderClient.baseUrl (client : ProviderClient) : String :=
  rstripSlash (if client.config.baseUrl.isEmpty then client.credential.adapter.defaultBaseUrl
    else client.config.baseUrl)

/-- Where chat completions are asked for. -/
def Adapter.path : Adapter → String
  | .openai | .mistral => "/chat/completions"
  | .anthropic => "/v1/messages"

def anthropicVersion : String := "2023-06-01"

def authorization (apiKey : String) : List (String × String) := [("Authorization", "Bearer " ++ apiKey)]

/-- The headers of an adapter. -/
def Credential.headers : Credential → List (String × String)
  | .openai apiKey => ((apiKey.filter fun key => !key.isEmpty).map authorization).getD []
  | .mistral apiKey => authorization apiKey
  | .anthropic apiKey => [("x-api-key", apiKey), ("anthropic-version", anthropicVersion)]

def requestIdHeader : String := "X-Request-ID"

/-- `_with_request_id`. -/
def withRequestId (requestId : Option String) (headers : List (String × String)) :
    List (String × String) :=
  match requestId.filter fun text => !text.isEmpty with
  | some text =>
      if (headers.map Prod.fst).contains requestIdHeader then headers
      else headers ++ [(requestIdHeader, text)]
  | none => headers

/-! ## Bodies -/

/-- The payload of `chat_completion` for an OpenAI-compatible host. -/
def openaiPayload (request : ChatRequest) : JsonDict := request.dumped

/-- `{"include_usage": True}`. -/
def streamOptions : KeyedJson :=
  ⟨.obj [("include_usage", .bool true)], by simp [Json.Keyed, Json.KeyedMembers]⟩

/-- The payload of `stream_chat_completion` for an OpenAI-compatible host. -/
def openaiStreamPayload (request : ChatRequest) : JsonDict :=
  (request.dumped.assign "stream" ⟨.bool true, trivial⟩).assign "stream_options" streamOptions

/-- `DEFAULT_MAX_TOKENS`. -/
def anthropicDefaultMaxTokens : ℤ := 4096

/-- `"\n".join(m.content for m in messages if m.role == "system")`. -/
def systemText (messages : List ChatMessage) : String :=
  "\n".intercalate ((messages.filter fun message => message.role == .system).map ChatMessage.content)

/-- `system`, where it is not the empty text. -/
def systemOf (request : ChatRequest) : Option String :=
  (some (systemText request.messages)).filter fun text => !text.isEmpty

/-- The messages that are not of the system. -/
def conversation (messages : List ChatMessage) : List ChatMessage :=
  messages.filter fun message => message.role != .system

/-- `max_tokens or DEFAULT_MAX_TOKENS`. -/
def anthropicMaxTokens (maxTokens : Option ℤ) : ℤ :=
  match maxTokens with
  | some count => if count = 0 then anthropicDefaultMaxTokens else count
  | none => anthropicDefaultMaxTokens

/-- The members that are always there. -/
def anthropicMembers (request : ChatRequest) (stream : Bool) : List (String × Json) :=
  [("model", .str request.model),
    ("messages", .arr ((conversation request.messages).map ChatMessage.toJson)),
    ("max_tokens", .int (anthropicMaxTokens request.maxTokens)),
    ("temperature", .float request.temperature),
    ("stream", .bool stream)]

theorem keyed_anthropicMembers (request : ChatRequest) (stream : Bool) :
    (Json.obj (anthropicMembers request stream)).Keyed := by
  refine ⟨?_, trivial, ?_, trivial, trivial, trivial, trivial⟩
  · change ["model", "messages", "max_tokens", "temperature", "stream"].Nodup
    decide
  · simpa only [Json.Keyed] using keyedItems_messages (conversation request.messages)

/-- `if value is not None: payload[key] = value`. -/
def JsonDict.assignSome (dict : JsonDict) (key : String) (value : Option KeyedJson) : JsonDict :=
  match value with
  | some value => dict.assign key value
  | none => dict

/-- `stop_sequences`: a single sequence becomes a list. -/
def stopSequences (stop : Stop) : KeyedJson :=
  ⟨.arr (stop.sequences.map .str), by simpa only [Json.Keyed] using keyedItems_str stop.sequences⟩

/-- The payload of the Anthropic adapter, in both modes. -/
def anthropicPayload (request : ChatRequest) (stream : Bool) : JsonDict :=
  let payload : JsonDict := ⟨anthropicMembers request stream, keyed_anthropicMembers request stream⟩
  let payload := payload.assignSome "system" ((systemOf request).map fun text => ⟨.str text, trivial⟩)
  let payload := payload.assignSome "top_p" (request.topP.map fun number => ⟨.float number, trivial⟩)
  payload.assignSome "stop_sequences" (request.stop.map stopSequences)

/-! ## Requests to the HTTP client -/

/-- The arguments of a POST. -/
structure UpstreamRequest where
  url : String
  headers : List (String × String)
  payload : JsonDict
  timeoutSeconds : ℚ

namespace ProviderClient

variable (client : ProviderClient) (requestId : Option String)

/-- A POST of an adapter. -/
def post (payload : JsonDict) : UpstreamRequest where
  url := client.baseUrl ++ client.credential.adapter.path
  headers := withRequestId requestId client.credential.headers
  payload := payload
  timeoutSeconds := client.config.timeout

/-- What `chat_completion` sends. -/
def chatCompletion (request : ChatRequest) : UpstreamRequest :=
  client.post requestId <|
    match client.credential with
    | .openai _ | .mistral _ => openaiPayload request
    | .anthropic _ => anthropicPayload request request.stream

/-- What `stream_chat_completion` sends. -/
def streamChatCompletion (request : ChatRequest) : UpstreamRequest :=
  client.post requestId <|
    match client.credential with
    | .openai _ | .mistral _ => openaiStreamPayload request
    | .anthropic _ => anthropicPayload request true

end ProviderClient

/-! ## The factory -/

/-- A provider whose key is a setting. -/
def keyedClient (key : Option String) (config : ProviderConfig) (credential : String → Credential) :
    List ProviderClient :=
  match key.filter fun text => !text.isEmpty with
  | some text => [⟨config, credential text⟩]
  | none => []

/-- The providers that `build_registry` makes, in the order of registration. -/
def configuredClients (settings : Settings) : List ProviderClient :=
  keyedClient settings.openaiApiKey
    (config "openai" openaiBaseUrl ["gpt-4o", "gpt-4o-mini"] openaiPricing)
    (fun key => .openai (some key)) ++
  keyedClient settings.groqApiKey
    (config "groq" groqBaseUrl ["llama-3.1-70b-versatile", "llama-3.1-8b-instant"] groqPricing)
    (fun key => .openai (some key)) ++
  keyedClient settings.anthropicApiKey
    (config "anthropic" anthropicBaseUrl ["claude-3-5-sonnet-latest", "claude-3-5-haiku-latest"]
      anthropicPricing) .anthropic ++
  keyedClient settings.mistralApiKey
    (config "mistral" mistralBaseUrl ["mistral-large-latest", "mistral-small-latest"] mistralPricing)
    .mistral ++
  keyedClient settings.geminiApiKey
    (config "gemini" geminiBaseUrl ["gemini-2.0-flash", "gemini-2.5-pro"] geminiPricing)
    (fun key => .openai (some key)) ++
  keyedClient settings.deepseekApiKey
    (config "deepseek" settings.deepseekBaseUrl ["deepseek-chat", "deepseek-reasoner"] deepseekPricing)
    (fun key => .openai (some key)) ++
  if settings.ollamaEnabled then
    [⟨config "ollama" settings.ollamaBaseUrl ["llama3.2"] [], .openai settings.ollamaApiKey⟩]
  else []

theorem map_provider_keyedClient {key : Option String} {config : ProviderConfig}
    {credential : String → Credential} {adapter : Adapter}
    (same : ∀ text, (credential text).adapter = adapter) :
    (keyedClient key config credential).map ProviderClient.provider =
      enabled (given key) ⟨config, adapter⟩ := by
  unfold keyedClient enabled given
  cases key with
  | none => rfl
  | some text =>
      rw [Option.filter_some, Option.any_some]
      cases text.isEmpty with
      | true => rfl
      | false => exact congrArg (fun adapter => [(⟨config, adapter⟩ : BaseProvider)]) (same text)

/-- The providers of the registry are the configured ones, without their keys. -/
theorem configuredClients_provider (settings : Settings) :
    (configuredClients settings).map ProviderClient.provider = configuredProviders settings := by
  have openai : ∀ key config, (keyedClient key config fun text => .openai (some text)).map
      ProviderClient.provider = enabled (given key) ⟨config, .openai⟩ :=
    fun _ _ => map_provider_keyedClient fun _ => rfl
  have anthropic : ∀ key config, (keyedClient key config .anthropic).map ProviderClient.provider =
      enabled (given key) ⟨config, .anthropic⟩ := fun _ _ => map_provider_keyedClient fun _ => rfl
  have mistral : ∀ key config, (keyedClient key config .mistral).map ProviderClient.provider =
      enabled (given key) ⟨config, .mistral⟩ := fun _ _ => map_provider_keyedClient fun _ => rfl
  unfold configuredClients configuredProviders
  simp only [List.map_append, openai, anthropic, mistral]
  unfold enabled
  cases settings.ollamaEnabled <;> rfl

/-! ## A gateway behind a gateway -/

/-- What `_enforce_max_tokens` lets through is a request that validation could have accepted. -/
theorem ChatRequest.Checked.enforced {numbers : NumberFields} {request sent : ChatRequest} {limit : ℤ}
    (checked : request.Checked numbers)
    (ceiling : numbers.int maxTokensBounds (.int limit) = .ok limit)
    (enforced : enforceMaxTokens limit request = .ok sent) : sent.Checked numbers := by
  rcases enforceMaxTokens_eq_ok.mp enforced with ⟨count, given, -, rfl⟩ | ⟨-, rfl⟩
  · exact checked
  · refine { checked with maxTokens := ?_, asks := ?_ }
    · rintro number same
      obtain rfl := Option.some.inj same
      exact ceiling
    · have asks := checked.asks
      unfold requireUserMessage at asks ⊢
      split_ifs at asks ⊢
      rfl

/-- The body of a POST to an OpenAI-compatible host has the fields of the request. -/
theorem carries_openaiStreamPayload (request : ChatRequest) :
    (openaiStreamPayload request).Carries { request with stream := true } :=
  request.carries_dumped.streaming.assign (by decide) streamOptions

/-- **Gateways can be chained.** What a gateway accepted and sends on to an OpenAI-compatible host, a
gateway there accepts as the same request, and with a ceiling that is no lower it lets it through. The
ceiling here has to be a number of tokens that a request may ask for, which the settings do not check. -/
theorem forwarded_accepted {numbers : NumberFields} (stable : numbers.Stable) {limit ceiling : ℤ}
    (valid : numbers.int maxTokensBounds (.int limit) = .ok limit) (below : limit ≤ ceiling)
    {body : JsonDict} {request sent : ChatRequest}
    (accepted : ChatRequest.modelValidate numbers body = .accepted request)
    (enforced : enforceMaxTokens limit request = .ok sent) (client : ProviderClient)
    (compatible : client.credential.adapter ≠ .anthropic) (requestId : Option String) :
    ChatRequest.modelValidate numbers (client.chatCompletion requestId sent).payload = .accepted sent ∧
      ChatRequest.modelValidate numbers (client.streamChatCompletion requestId sent).payload =
        .accepted { sent with stream := true } ∧
      enforceMaxTokens ceiling sent = .ok sent ∧
      enforceMaxTokens ceiling { sent with stream := true } = .ok { sent with stream := true } := by
  have checked : sent.Checked numbers :=
    (checked_of_modelValidate stable accepted).enforced valid enforced
  obtain ⟨count, given, low⟩ : ∃ count, sent.maxTokens = some count ∧ count ≤ limit :=
    enforceMaxTokens_bounded enforced
  refine ⟨?_, ?_, ?_, ?_⟩
  · refine modelValidate_of_carries stable checked ?_
    cases kind : client.credential with
    | openai apiKey | mistral apiKey =>
        simp only [ProviderClient.chatCompletion, kind, ProviderClient.post]
        exact sent.carries_dumped
    | anthropic apiKey => exact absurd (by rw [kind]; rfl) compatible
  · refine modelValidate_of_carries stable checked.streaming ?_
    cases kind : client.credential with
    | openai apiKey | mistral apiKey =>
        simp only [ProviderClient.streamChatCompletion, kind, ProviderClient.post]
        exact carries_openaiStreamPayload sent
    | anthropic apiKey => exact absurd (by rw [kind]; rfl) compatible
  · exact enforceMaxTokens_eq_ok.mpr (.inl ⟨count, given, le_trans low below, rfl⟩)
  · exact enforceMaxTokens_eq_ok.mpr (.inl ⟨count, given, le_trans low below, rfl⟩)

/-- A body without `max_tokens`, and the request that it is read as. -/
def plainBody : JsonDict where
  members :=
    [("model", .str "gpt-4o"),
      ("messages", .arr
        [.obj [("role", .str "system"), ("content", .str "be brief")],
          .obj [("role", .str "user"), ("content", .str "what now")]]),
      ("stop", .str "END")]
  keyed := by simp [Json.Keyed, Json.KeyedMembers, Json.KeyedItems]

def plainRequest : ChatRequest where
  model := "gpt-4o"
  messages := [⟨.system, "be brief", by decide⟩, ⟨.user, "what now", by decide⟩]
  temperature := defaultTemperature
  stop := some (.one "END")

def hostedClient : ProviderClient :=
  ⟨config "openai" openaiBaseUrl ["gpt-4o"] openaiPricing, .openai (some "sk-demo")⟩

theorem plainBody_accepted : ChatRequest.modelValidate plainNumbers plainBody = .accepted plainRequest :=
  rfl

/-- The theorem about this body, two gateways and their ceilings. -/
theorem forwarded_accepted_plain :
    let sent := { plainRequest with maxTokens := some 4096 }
    ChatRequest.modelValidate plainNumbers (hostedClient.chatCompletion none sent).payload =
        .accepted sent ∧
      ChatRequest.modelValidate plainNumbers (hostedClient.streamChatCompletion none sent).payload =
        .accepted { sent with stream := true } ∧
      enforceMaxTokens 8192 sent = .ok sent ∧
      enforceMaxTokens 8192 { sent with stream := true } = .ok { sent with stream := true } :=
  forwarded_accepted plainNumbers_stable (rfl : plainNumbers.int maxTokensBounds (.int 4096) = .ok 4096)
    (by decide) plainBody_accepted rfl hostedClient (by decide) none

/-! ## What Anthropic is asked -/

/-- **A question to a model**, whatever format it is put in: who speaks for the system, the other turns
in their order, and how the answer is to be drawn. -/
structure Question where
  model : String
  system : String
  turns : List ChatMessage
  maxTokens : ℤ
  temperature : JsonFloat
  topP : Option JsonFloat
  stops : Option (List String)

/-- The question that a request asks of Anthropic. Its penalties, seed, user and response format have no
place in it. -/
def ChatRequest.question (request : ChatRequest) : Question where
  model := request.model
  system := systemText request.messages
  turns := conversation request.messages
  maxTokens := anthropicMaxTokens request.maxTokens
  temperature := request.temperature
  topP := request.topP
  stops := request.stop.map Stop.sequences

def asFloat : Json → Option JsonFloat
  | .float value => some value
  | _ => none

/-- The value of a member that may be missing. -/
def optionalMember {α : Type} (read : Json → Option α) : Option Json → Option (Option α)
  | none => some none
  | some value => (read value).map some

/-- The question of a body in the format of the Messages API. -/
def Question.ofPayload (payload : JsonDict) : Option Question := do
  let member := fun name => Json.lookup name payload.members
  let model ← asStr (← member "model")
  let system ← optionalMember asStr (member "system")
  let turns ← (← asArr (← member "messages")).mapM ChatMessage.ofJson
  let maxTokens ← asInt (← member "max_tokens")
  let temperature ← asFloat (← member "temperature")
  let topP ← optionalMember asFloat (member "top_p")
  let stops ← optionalMember (fun value => (asArr value).bind fun items => items.mapM asStr)
    (member "stop_sequences")
  some { model, system := system.getD "", turns, maxTokens, temperature, topP, stops }

theorem lookup_assignSome (dict : JsonDict) (key name : String) (value : Option KeyedJson) :
    Json.lookup name (dict.assignSome key value).members =
      if key = name then (value.map Subtype.val).or (Json.lookup name dict.members)
      else Json.lookup name dict.members := by
  cases value with
  | none =>
      change Json.lookup name dict.members = _
      split <;> rfl
  | some value =>
      change Json.lookup name (Json.assign key value.val dict.members) = _
      rw [Json.lookup_assign]
      split <;> rfl

/-- The members of the payload, by their names. -/
theorem lookup_anthropicPayload (request : ChatRequest) (stream : Bool) (name : String) :
    Json.lookup name (anthropicPayload request stream).members =
      if "stop_sequences" = name then request.stop.map fun stop => (stopSequences stop).val
      else if "top_p" = name then request.topP.map .float
      else if "system" = name then (systemOf request).map .str
      else Json.lookup name (anthropicMembers request stream) := by
  have fresh : ∀ name ∈ ["stop_sequences", "top_p", "system"],
      Json.lookup name (anthropicMembers request stream) = none := by
    intro name listed
    simp only [List.mem_cons, List.not_mem_nil, or_false] at listed
    rcases listed with rfl | rfl | rfl <;> simp [anthropicMembers, Json.lookup]
  unfold anthropicPayload
  simp only [lookup_assignSome, Option.map_map]
  by_cases stops : "stop_sequences" = name
  · subst stops
    simp [fresh, Function.comp_def]
  · by_cases topP : "top_p" = name
    · subst topP
      simp [fresh, Function.comp_def]
    · by_cases system : "system" = name
      · subst system
        simp [fresh, Function.comp_def]
      · simp only [stops, topP, system, if_false]

theorem mapM_message (messages : List ChatMessage) :
    messages.mapM (ChatMessage.ofJson ∘ ChatMessage.toJson) = some messages := by
  induction messages with
  | nil => rfl
  | cons message rest ih => simp [ChatMessage.ofJson_toJson, ih]

theorem mapM_asStr (texts : List String) : texts.mapM (asStr ∘ Json.str) = some texts := by
  induction texts with
  | nil => rfl
  | cons text rest ih => simp [asStr, ih]

theorem optionalMember_map {α : Type} {read : Json → Option α} (encode : α → Json)
    (reads : ∀ a, read (encode a) = some a) (given : Option α) :
    optionalMember read (given.map encode) = some given := by
  cases given with
  | none => rfl
  | some a => exact congrArg (Option.map some) (reads a)

/-- **The payload says what the request asks**, in both modes. -/
theorem question_of_anthropicPayload (request : ChatRequest) (stream : Bool) :
    Question.ofPayload (anthropicPayload request stream) = some request.question := by
  have system : optionalMember asStr ((systemOf request).map .str) = some (systemOf request) :=
    optionalMember_map .str (fun _ => rfl) _
  have topP : optionalMember asFloat (request.topP.map .float) = some request.topP :=
    optionalMember_map .float (fun _ => rfl) _
  have stops : optionalMember (fun value => (asArr value).bind fun items => items.mapM asStr)
      (request.stop.map fun stop => (stopSequences stop).val) = some (request.stop.map Stop.sequences) := by
    have through : (request.stop.map fun stop => (stopSequences stop).val) =
        (request.stop.map Stop.sequences).map fun sequences => .arr (sequences.map .str) := by
      rw [Option.map_map]
      rfl
    rw [through]
    refine optionalMember_map _ (fun sequences => ?_) _
    change (sequences.map Json.str).mapM asStr = some sequences
    rw [List.mapM_map, mapM_asStr]
  have said : ((conversation request.messages).map ChatMessage.toJson).mapM ChatMessage.ofJson =
      some (conversation request.messages) := by
    rw [List.mapM_map, mapM_message]
  have text : (systemOf request).getD "" = systemText request.messages := by
    unfold systemOf
    rw [Option.filter_some]
    split
    · rfl
    · rename_i blank
      have empty : systemText request.messages = "" := by simpa using blank
      exact empty.symm
  unfold Question.ofPayload
  simp only [lookup_anthropicPayload, String.reduceEq, if_true, if_false, system, topP, stops]
  simp only [anthropicMembers, Json.lookup, String.reduceEq, if_true, if_false, asStr, asArr, asInt,
    asFloat, Option.bind_eq_bind, Option.bind_some, said, text]
  rfl

/-- The payload depends on the question and the mode only. -/
theorem anthropicPayload_of_question {first second : ChatRequest} (same : first.question = second.question)
    (stream : Bool) : anthropicPayload first stream = anthropicPayload second stream := by
  have model := congrArg Question.model same
  have system := congrArg Question.system same
  have said := congrArg Question.turns same
  have maxTokens := congrArg Question.maxTokens same
  have temperature := congrArg Question.temperature same
  have topP := congrArg Question.topP same
  have stops := congrArg Question.stops same
  simp only [ChatRequest.question] at model system said maxTokens temperature topP stops
  have spoken : systemOf first = systemOf second := by
    unfold systemOf
    rw [system]
  have listed : first.stop.map stopSequences = second.stop.map stopSequences := by
    have through : ∀ stop : Option Stop, stop.map stopSequences = (stop.map Stop.sequences).map
        fun sequences =>
          ⟨.arr (sequences.map .str), by simpa only [Json.Keyed] using keyedItems_str sequences⟩ := by
      intro stop
      cases stop <;> rfl
    rw [through, through, stops]
  unfold anthropicPayload
  simp only [anthropicMembers, model, spoken, said, maxTokens, temperature, topP, listed]

/-- A question that the Messages API can answer: some turn of the user, none of the system, and up to
four stop sequences, none of them empty. -/
structure Question.Answerable (question : Question) : Prop where
  asks : ∃ message ∈ question.turns, message.role = .user
  spoken : ∀ message ∈ question.turns, message.role ≠ .system
  stops : ∀ sequences, question.stops = some sequences →
    1 ≤ sequences.length ∧ sequences.length ≤ 4 ∧ ∀ sequence ∈ sequences, sequence ≠ ""

theorem ChatRequest.WellFormed.answerable {request : ChatRequest} (formed : request.WellFormed) :
    request.question.Answerable := by
  refine ⟨?_, ?_, ?_⟩
  · obtain ⟨message, member, user⟩ := formed.asks
    exact ⟨message, List.mem_filter.mpr ⟨member, by simp [user]⟩, user⟩
  · intro message member
    have kept := (List.mem_filter.mp member).2
    simpa using kept
  · intro sequences same
    obtain ⟨stop, given, rfl⟩ := Option.map_eq_some_iff.mp same
    exact formed.stops stop given

/-- **The translation to Anthropic keeps the meaning** of every accepted request: its payload asks what
the request asks, which is a question that can be answered, and two requests get one payload exactly when
they ask the same in the same mode. -/
theorem anthropic_translation_faithful {numbers : NumberFields} {body : JsonDict} {request : ChatRequest}
    (accepted : ChatRequest.modelValidate numbers body = .accepted request) (stream : Bool) :
    Question.ofPayload (anthropicPayload request stream) = some request.question ∧
      request.question.Answerable ∧
      ∀ other stream', anthropicPayload request stream = anthropicPayload other stream' ↔
        request.question = other.question ∧ stream = stream' := by
  refine ⟨question_of_anthropicPayload request stream, (wellFormed_of_modelValidate accepted).answerable,
    fun other stream' => ⟨fun same => ?_, ?_⟩⟩
  · constructor
    · have asked := question_of_anthropicPayload request stream
      rw [same, question_of_anthropicPayload other stream'] at asked
      exact (Option.some.inj asked).symm
    · have flag := congrArg (fun payload => Json.lookup "stream" payload.members) same
      simpa [lookup_anthropicPayload, anthropicMembers, Json.lookup] using flag
  · rintro ⟨same, rfl⟩
    exact anthropicPayload_of_question same stream

/-- The theorem about the same body. -/
theorem anthropic_translation_faithful_plain :
    Question.ofPayload (anthropicPayload plainRequest true) = some plainRequest.question ∧
      plainRequest.question.Answerable ∧
      ∀ other stream', anthropicPayload plainRequest true = anthropicPayload other stream' ↔
        plainRequest.question = other.question ∧ true = stream' :=
  anthropic_translation_faithful plainBody_accepted true

/-! ## Cache keys and payloads -/

/-- The value of a field, up to the order of members. -/
theorem field_of_same {first second : ChatRequest} (same : Json.Same first.modelDump second.modelDump)
    {name : String} {value other : Option Json} (member : (name, value) ∈ first.fields)
    (also : (name, other) ∈ second.fields) : value.map Json.sortKeys = other.map Json.sortKeys := by
  have found := (Json.same_iff_lookup first.keyed_modelDump.1 second.keyed_modelDump.1).mp same name
  rwa [lookup_present first.fields_nodup member, lookup_present second.fields_nodup also] at found

theorem Role.toString_injective {first second : Role} (same : first.toString = second.toString) :
    first = second := by
  have read := congrArg Role.ofString same
  rwa [Role.ofString_toString, Role.ofString_toString, Option.some.injEq] at read

/-- A written message tells what was written, in whatever order its members are. -/
theorem message_of_same {first second : ChatMessage} (same : Json.Same first.toJson second.toJson) :
    first = second := by
  have found := (Json.same_iff_lookup first.keyed_toJson.1 second.keyed_toJson.1).mp same
  have role := found "role"
  have content := found "content"
  simp [Json.lookup, Json.sortKeys] at role content
  obtain ⟨firstRole, firstContent, _⟩ := first
  obtain ⟨secondRole, secondContent, _⟩ := second
  obtain rfl := Role.toString_injective role
  obtain rfl : firstContent = secondContent := content
  rfl

theorem messages_of_sorted {first second : List ChatMessage}
    (same : Json.sortItems (first.map ChatMessage.toJson) = Json.sortItems (second.map ChatMessage.toJson)) :
    first = second := by
  induction first generalizing second with
  | nil =>
      cases second with
      | nil => rfl
      | cons message rest => simp [Json.sortItems] at same
  | cons message rest ih =>
      cases second with
      | nil => simp [Json.sortItems] at same
      | cons other others =>
          simp only [List.map_cons, Json.sortItems, List.cons.injEq] at same
          obtain rfl := message_of_same same.1
          rw [ih same.2]

theorem sortItems_str (texts : List String) : Json.sortItems (texts.map Json.str) = texts.map Json.str := by
  induction texts with
  | nil => rfl
  | cons text rest ih => simp [Json.sortItems, Json.sortKeys, ih]

/-- So does a written `stop`. -/
theorem stop_of_same {first second : Stop} (same : Json.Same first.toJson second.toJson) :
    first = second := by
  cases first <;> cases second <;>
    simp [Json.Same, Stop.toJson, Json.sortKeys, sortItems_str] at same
  · rw [same]
  · rw [(List.map_injective_iff.mpr fun _ _ equal => Json.str.inj equal) same]

/-- **Requests with the same dump ask the same.** -/
theorem question_of_same {first second : ChatRequest}
    (same : Json.Same first.modelDump second.modelDump) : first.question = second.question := by
  have model : first.model = second.model := by
    have equal := @field_of_same first second same "model" (some (.str first.model))
      (some (.str second.model)) (by simp [ChatRequest.fields]) (by simp [ChatRequest.fields])
    simpa [Json.sortKeys] using equal
  have messages : first.messages = second.messages := by
    have equal := @field_of_same first second same "messages"
      (some (.arr (first.messages.map ChatMessage.toJson)))
      (some (.arr (second.messages.map ChatMessage.toJson)))
      (by simp [ChatRequest.fields]) (by simp [ChatRequest.fields])
    simp only [Option.map_some, Json.sortKeys, Option.some.injEq, Json.arr.injEq] at equal
    exact messages_of_sorted equal
  have temperature : first.temperature = second.temperature := by
    have equal := @field_of_same first second same "temperature" (some (.float first.temperature))
      (some (.float second.temperature)) (by simp [ChatRequest.fields]) (by simp [ChatRequest.fields])
    simpa [Json.sortKeys] using equal
  have topP : first.topP = second.topP := by
    have equal := @field_of_same first second same "top_p" (first.topP.map .float)
      (second.topP.map .float) (by simp [ChatRequest.fields]) (by simp [ChatRequest.fields])
    cases one : first.topP <;> cases two : second.topP <;> simp_all [Json.sortKeys]
  have maxTokens : first.maxTokens = second.maxTokens := by
    have equal := @field_of_same first second same "max_tokens" (first.maxTokens.map .int)
      (second.maxTokens.map .int) (by simp [ChatRequest.fields]) (by simp [ChatRequest.fields])
    cases one : first.maxTokens <;> cases two : second.maxTokens <;> simp_all [Json.sortKeys]
  have stop : first.stop = second.stop := by
    have equal := @field_of_same first second same "stop" (first.stop.map Stop.toJson)
      (second.stop.map Stop.toJson) (by simp [ChatRequest.fields]) (by simp [ChatRequest.fields])
    cases one : first.stop with
    | none =>
        cases two : second.stop with
        | none => rfl
        | some other => simp [one, two] at equal
    | some given =>
        cases two : second.stop with
        | none => simp [one, two] at equal
        | some other =>
            simp only [one, two, Option.map_some, Option.some.injEq] at equal
            rw [stop_of_same equal]
  simp only [ChatRequest.question, model, messages, temperature, topP, maxTokens, stop]

/-- The headers besides the request id, which is the gateway request's own. -/
def UpstreamRequest.lastingHeaders (request : UpstreamRequest) : List (String × String) :=
  request.headers.filter fun header => header.1 != requestIdHeader

theorem withRequestId_lasting (requestId : Option String) (headers : List (String × String)) :
    (withRequestId requestId headers).filter (fun header => header.1 != requestIdHeader) =
      headers.filter fun header => header.1 != requestIdHeader := by
  unfold withRequestId
  split
  · split_ifs
    · rfl
    · simp
  · rfl

/-- The same POST, up to the request id and the order of the members in the objects of the body. -/
structure UpstreamRequest.Same (first second : UpstreamRequest) : Prop where
  url : first.url = second.url
  headers : first.lastingHeaders = second.lastingHeaders
  payload : Json.Same (.obj first.payload.members) (.obj second.payload.members)
  timeoutSeconds : first.timeoutSeconds = second.timeoutSeconds

theorem ProviderClient.post_same {client : ProviderClient} {firstId secondId : Option String}
    {first second : JsonDict} :
    (client.post firstId first).Same (client.post secondId second) ↔
      Json.Same (.obj first.members) (.obj second.members) := by
  constructor
  · exact fun same => same.payload
  · intro same
    have headers : (client.post firstId first).lastingHeaders =
        (client.post secondId second).lastingHeaders :=
      (withRequestId_lasting _ _).trans (withRequestId_lasting _ _).symm
    exact ⟨rfl, headers, same, rfl⟩

theorem same_openaiStreamPayload {first second : ChatRequest}
    (same : Json.Same first.modelDump second.modelDump) :
    Json.Same (.obj (openaiStreamPayload first).members) (.obj (openaiStreamPayload second).members) := by
  have streamed := Json.same_assign first.keyed_modelDump.1 second.keyed_modelDump.1 same "stream"
    (Json.Same.refl (.bool true))
  exact Json.same_assign (Json.nodup_assign first.keyed_modelDump.1)
    (Json.nodup_assign second.keyed_modelDump.1) streamed "stream_options"
    (Json.Same.refl streamOptions.val)

/-- **One cache key, one request to every provider.** Where SHA-256 does not collide on their bodies,
two requests of one namespace that share a cache key are sent to each provider as the same POST, in both
modes, whatever their request ids and the order of the members in `response_format`. For an
OpenAI-compatible host nothing else is: the requests that it would get as the same POST share a cache
key. -/
theorem upstream_of_cacheKey (env : Environment) (first second : ChatRequest) (space : Option Namespace)
    (collisionFree : env.sha256 (cacheKeyBody first space) = env.sha256 (cacheKeyBody second space) →
      cacheKeyBody first space = cacheKeyBody second space)
    (client : ProviderClient) (firstId secondId : Option String) :
    (buildCacheKey env first space = buildCacheKey env second space →
      (client.chatCompletion firstId first).Same (client.chatCompletion secondId second) ∧
        (client.streamChatCompletion firstId first).Same
          (client.streamChatCompletion secondId second)) ∧
      (client.credential.adapter ≠ .anthropic →
        (client.chatCompletion firstId first).Same (client.chatCompletion secondId second) →
          buildCacheKey env first space = buildCacheKey env second space) := by
  constructor
  · intro equal
    obtain ⟨-, same⟩ := same_of_buildCacheKey collisionFree equal
    have asked := question_of_same same
    have stream := ChatRequest.stream_of_same same
    unfold ProviderClient.chatCompletion ProviderClient.streamChatCompletion
    rw [ProviderClient.post_same, ProviderClient.post_same]
    cases client.credential with
    | openai apiKey | mistral apiKey => exact ⟨same, same_openaiStreamPayload same⟩
    | anthropic apiKey =>
        simp only [stream, anthropicPayload_of_question asked]
        exact ⟨Json.Same.refl _, Json.Same.refl _⟩
  · intro compatible sent
    have same : Json.Same first.modelDump second.modelDump := by
      unfold ProviderClient.chatCompletion at sent
      rw [ProviderClient.post_same] at sent
      cases kind : client.credential with
      | openai apiKey | mistral apiKey =>
          rw [kind] at sent
          exact sent
      | anthropic apiKey => exact absurd (by rw [kind]; rfl) compatible
    rw [buildCacheKey, buildCacheKey, cacheKeyBody_of_same space same]

/-- A `response_format`, and the same one in another order. -/
def schemaFormat : JsonDict where
  members := [("type", .str "json_schema"), ("json_schema", .obj [])]
  keyed := by simp [Json.Keyed, Json.KeyedMembers]

def schemaFormat' : JsonDict where
  members := [("json_schema", .obj []), ("type", .str "json_schema")]
  keyed := by simp [Json.Keyed, Json.KeyedMembers]

/-- The theorem about two requests that differ in this order only. -/
theorem upstream_of_cacheKey_formats :
    let first := { demoRequest false with responseFormat := some schemaFormat }
    let second := { demoRequest false with responseFormat := some schemaFormat' }
    (buildCacheKey demoEnvironment first (some (.int 1)) =
        buildCacheKey demoEnvironment second (some (.int 1)) →
      (hostedClient.chatCompletion (some "one") first).Same
          (hostedClient.chatCompletion (some "two") second) ∧
        (hostedClient.streamChatCompletion (some "one") first).Same
          (hostedClient.streamChatCompletion (some "two") second)) ∧
      (hostedClient.credential.adapter ≠ .anthropic →
        (hostedClient.chatCompletion (some "one") first).Same
            (hostedClient.chatCompletion (some "two") second) →
          buildCacheKey demoEnvironment first (some (.int 1)) =
            buildCacheKey demoEnvironment second (some (.int 1))) :=
  upstream_of_cacheKey demoEnvironment { demoRequest false with responseFormat := some schemaFormat }
    { demoRequest false with responseFormat := some schemaFormat' } (some (.int 1))
    (fun _ => by decide +kernel) hostedClient (some "one") (some "two")

end LlmGateway
