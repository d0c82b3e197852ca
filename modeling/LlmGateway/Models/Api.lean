import LlmGateway.Library.Json.RoundTrip

/-!
# Request and response schemas

The models of `models/api.py`. A `ChatMessage` carries the bound on its content, and a
`response_format` is a dictionary, so no two of its members have one name.

* `ChatRequest.modelDump` is `model_dump(exclude_none=True)`.
* `Usage.clamped` is what the validator of the token counts does to integers.
* `ChatResponse.toJson` and `ChatResponse.ofJson` are the JSON form of a response;
  `ofJson_toJson` says that nothing is lost between them.
-/

set_option autoImplicit false

namespace LlmGateway

open LlmGateway.Library (Json JsonFloat)

/-! ## Messages -/

inductive Role where
  | system
  | user
  | assistant
deriving DecidableEq

namespace Role

def toString : Role → String
  | system => "system"
  | user => "user"
  | assistant => "assistant"

def ofString (text : String) : Option Role :=
  if text = "system" then some system
  else if text = "user" then some user
  else if text = "assistant" then some assistant
  else none

theorem ofString_toString (role : Role) : ofString role.toString = some role := by
  cases role <;> decide

end Role

/-- The bound on the content of a message. -/
def maxContentLength : ℕ := 50000

/-- `ChatMessage`. -/
structure ChatMessage where
  role : Role
  content : String
  bounded : content.length ≤ maxContentLength
deriving DecidableEq

/-! ## Requests -/

/-- `stop`: one sequence or several. -/
inductive Stop where
  | one (sequence : String)
  | many (sequences : List String)
deriving DecidableEq

/-- A dictionary with JSON values. -/
structure JsonDict where
  members : List (String × Json)
  keyed : (Json.obj members).Keyed

/-- `ChatRequest`. -/
structure ChatRequest where
  model : String
  messages : List ChatMessage
  temperature : JsonFloat
  topP : Option JsonFloat := none
  frequencyPenalty : Option JsonFloat := none
  presencePenalty : Option JsonFloat := none
  maxTokens : Option ℤ := none
  stop : Option Stop := none
  seed : Option ℤ := none
  user : Option String := none
  responseFormat : Option JsonDict := none
  stream : Bool := false

def ChatMessage.toJson (message : ChatMessage) : Json :=
  .obj [("role", .str message.role.toString), ("content", .str message.content)]

def Stop.toJson : Stop → Json
  | .one sequence => .str sequence
  | .many sequences => .arr (sequences.map Json.str)

namespace ChatRequest

/-- The fields in the order of the class; a field that is `None` has no value. -/
def fields (request : ChatRequest) : List (String × Option Json) :=
  [("model", some (.str request.model)),
    ("messages", some (.arr (request.messages.map ChatMessage.toJson))),
    ("temperature", some (.float request.temperature)),
    ("top_p", request.topP.map .float),
    ("frequency_penalty", request.frequencyPenalty.map .float),
    ("presence_penalty", request.presencePenalty.map .float),
    ("max_tokens", request.maxTokens.map .int),
    ("stop", request.stop.map Stop.toJson),
    ("seed", request.seed.map .int),
    ("user", request.user.map .str),
    ("response_format", request.responseFormat.map fun format => .obj format.members),
    ("stream", some (.bool request.stream))]

/-- The member of a field, unless it is excluded. -/
def present (field : String × Option Json) : Option (String × Json) :=
  field.2.map fun value => (field.1, value)

/-- `model_dump(exclude_none=True)`. -/
def modelDump (request : ChatRequest) : Json := .obj (request.fields.filterMap present)

end ChatRequest

/-! ### A dumped request has no name twice -/

theorem ChatRequest.fields_names (request : ChatRequest) : request.fields.map Prod.fst =
    ["model", "messages", "temperature", "top_p", "frequency_penalty", "presence_penalty",
      "max_tokens", "stop", "seed", "user", "response_format", "stream"] := rfl

theorem filterMap_present_sublist (fields : List (String × Option Json)) :
    ((fields.filterMap ChatRequest.present).map Prod.fst).Sublist (fields.map Prod.fst) := by
  induction fields with
  | nil => exact List.Sublist.slnil
  | cons field rest ih =>
      obtain ⟨name, value⟩ := field
      cases value with
      | none => exact ih.cons name
      | some value => exact ih.cons_cons name

theorem keyedItems_str (sequences : List String) : Json.KeyedItems (sequences.map Json.str) := by
  induction sequences with
  | nil => trivial
  | cons sequence rest ih => exact ⟨trivial, ih⟩

theorem ChatMessage.keyed_toJson (message : ChatMessage) : message.toJson.Keyed := by
  simp [toJson, Json.Keyed, Json.KeyedMembers]

theorem keyedItems_messages (messages : List ChatMessage) :
    Json.KeyedItems (messages.map ChatMessage.toJson) := by
  induction messages with
  | nil => trivial
  | cons message rest ih => exact ⟨message.keyed_toJson, ih⟩

theorem Stop.keyed_toJson (stop : Stop) : stop.toJson.Keyed := by
  cases stop with
  | one sequence => trivial
  | many sequences => simpa only [toJson, Json.Keyed] using keyedItems_str sequences

theorem ChatRequest.keyed_fields (request : ChatRequest) {name : String} {value : Json}
    (member : (name, some value) ∈ request.fields) : value.Keyed := by
  simp only [fields, List.mem_cons, Prod.mk.injEq, Option.some.injEq, List.not_mem_nil,
    or_false] at member
  rcases member with ⟨-, rfl⟩ | ⟨-, rfl⟩ | ⟨-, rfl⟩ | ⟨-, given⟩ | ⟨-, given⟩ | ⟨-, given⟩ |
    ⟨-, given⟩ | ⟨-, given⟩ | ⟨-, given⟩ | ⟨-, given⟩ | ⟨-, given⟩ | ⟨-, rfl⟩
  · trivial
  · simpa only [Json.Keyed] using keyedItems_messages request.messages
  · trivial
  all_goals first | trivial | obtain ⟨inner, -, rfl⟩ := Option.map_eq_some_iff.mp given.symm
  all_goals first | trivial | exact Stop.keyed_toJson inner | exact inner.keyed

/-- A dumped request is a dictionary at every level. -/
theorem ChatRequest.keyed_modelDump (request : ChatRequest) : request.modelDump.Keyed := by
  refine ⟨?_, (Json.keyedMembers_iff _).mpr ?_⟩
  · refine (filterMap_present_sublist request.fields).nodup ?_
    rw [request.fields_names]
    decide
  · intro member included
    obtain ⟨⟨name, value⟩, field, shown⟩ := List.mem_filterMap.mp included
    obtain ⟨value, rfl, rfl⟩ := Option.map_eq_some_iff.mp shown
    exact request.keyed_fields field

/-- The dump tells whether the request is a streaming one. -/
theorem ChatRequest.stream_of_same {first second : ChatRequest}
    (same : Json.Same first.modelDump second.modelDump) : first.stream = second.stream := by
  have member : ("stream", Json.bool first.stream) ∈ first.fields.filterMap present :=
    List.mem_filterMap.mpr ⟨("stream", some (.bool first.stream)), by simp [fields], rfl⟩
  obtain ⟨other, there, equal⟩ := Json.Same.member same member
  obtain ⟨⟨name, value⟩, field, shown⟩ := List.mem_filterMap.mp there
  obtain ⟨value, rfl, pair⟩ := Option.map_eq_some_iff.mp shown
  obtain ⟨rfl, rfl⟩ := Prod.mk.inj pair
  simp [fields] at field
  subst field
  simpa [Json.Same, Json.sortKeys] using equal

/-! ## Responses -/

inductive FinishReason where
  | stop
  | length
  | contentFilter
deriving DecidableEq

namespace FinishReason

def toString : FinishReason → String
  | stop => "stop"
  | length => "length"
  | contentFilter => "content_filter"

def ofString (text : String) : Option FinishReason :=
  if text = "stop" then some stop
  else if text = "length" then some length
  else if text = "content_filter" then some contentFilter
  else none

theorem ofString_toString (reason : FinishReason) : ofString reason.toString = some reason := by
  cases reason <;> decide

end FinishReason

/-- `ChatResponseChoice`. -/
structure ChatResponseChoice where
  index : ℤ := 0
  message : ChatMessage
  finishReason : FinishReason := .stop
deriving DecidableEq

/-- `Usage`. -/
structure Usage where
  promptTokens : ℤ := 0
  completionTokens : ℤ := 0
  totalTokens : ℤ := 0
deriving DecidableEq

namespace Usage

/-- `Usage(...)` of three integers: `_never_negative` replaces a negative one by zero. -/
def clamped (promptTokens completionTokens totalTokens : ℤ) : Usage :=
  ⟨max promptTokens 0, max completionTokens 0, max totalTokens 0⟩

end Usage

/-- `ChatResponse`. Its `object` has one possible value and is only in the JSON form. -/
structure ChatResponse where
  id : String
  created : ℤ
  model : String
  choices : List ChatResponseChoice
  usage : Usage
deriving DecidableEq

/-! ## The JSON form of a response -/

def ChatResponseChoice.toJson (choice : ChatResponseChoice) : Json :=
  .obj [("index", .int choice.index), ("message", choice.message.toJson),
    ("finish_reason", .str choice.finishReason.toString)]

def Usage.toJson (usage : Usage) : Json :=
  .obj [("prompt_tokens", .int usage.promptTokens),
    ("completion_tokens", .int usage.completionTokens), ("total_tokens", .int usage.totalTokens)]

def ChatResponse.toJson (response : ChatResponse) : Json :=
  .obj [("id", .str response.id), ("object", .str "chat.completion"),
    ("created", .int response.created), ("model", .str response.model),
    ("choices", .arr (response.choices.map ChatResponseChoice.toJson)),
    ("usage", response.usage.toJson)]

def asInt : Json → Option ℤ
  | .int value => some value
  | _ => none

def asStr : Json → Option String
  | .str value => some value
  | _ => none

def asArr : Json → Option (List Json)
  | .arr items => some items
  | _ => none

def asObj : Json → Option (List (String × Json))
  | .obj members => some members
  | _ => none

def ChatMessage.ofJson (value : Json) : Option ChatMessage := do
  let members ← asObj value
  let role ← Role.ofString (← asStr (← Json.lookup "role" members))
  let content ← asStr (← Json.lookup "content" members)
  if bounded : content.length ≤ maxContentLength then some ⟨role, content, bounded⟩ else none

def ChatResponseChoice.ofJson (value : Json) : Option ChatResponseChoice := do
  let members ← asObj value
  let index ← asInt (← Json.lookup "index" members)
  let message ← ChatMessage.ofJson (← Json.lookup "message" members)
  let finishReason ← FinishReason.ofString (← asStr (← Json.lookup "finish_reason" members))
  some ⟨index, message, finishReason⟩

def Usage.ofJson (value : Json) : Option Usage := do
  let members ← asObj value
  let promptTokens ← asInt (← Json.lookup "prompt_tokens" members)
  let completionTokens ← asInt (← Json.lookup "completion_tokens" members)
  let totalTokens ← asInt (← Json.lookup "total_tokens" members)
  some ⟨promptTokens, completionTokens, totalTokens⟩

/-- The response a JSON form stands for. It accepts only what `toJson` produces. -/
def ChatResponse.ofJson (value : Json) : Option ChatResponse := do
  let members ← asObj value
  let id ← asStr (← Json.lookup "id" members)
  let created ← asInt (← Json.lookup "created" members)
  let model ← asStr (← Json.lookup "model" members)
  let choices ← (← asArr (← Json.lookup "choices" members)).mapM ChatResponseChoice.ofJson
  let usage ← Usage.ofJson (← Json.lookup "usage" members)
  some ⟨id, created, model, choices, usage⟩

theorem ChatMessage.ofJson_toJson (message : ChatMessage) :
    ChatMessage.ofJson message.toJson = some message := by
  simp [ofJson, toJson, asObj, asStr, Json.lookup, Role.ofString_toString, message.bounded]

theorem ChatResponseChoice.ofJson_toJson (choice : ChatResponseChoice) :
    ChatResponseChoice.ofJson choice.toJson = some choice := by
  simp [ofJson, toJson, asObj, asStr, asInt, Json.lookup, ChatMessage.ofJson_toJson,
    FinishReason.ofString_toString]

theorem Usage.ofJson_toJson (usage : Usage) : Usage.ofJson usage.toJson = some usage := rfl

theorem mapM_ofJson_toJson (choices : List ChatResponseChoice) :
    choices.mapM (ChatResponseChoice.ofJson ∘ ChatResponseChoice.toJson) = some choices := by
  induction choices with
  | nil => rfl
  | cons choice rest ih => simp [ChatResponseChoice.ofJson_toJson, ih]

/-- A response is read back from its JSON form. -/
theorem ChatResponse.ofJson_toJson (response : ChatResponse) :
    ChatResponse.ofJson response.toJson = some response := by
  change (List.mapM ChatResponseChoice.ofJson (response.choices.map ChatResponseChoice.toJson)).bind
    (fun choices => some ⟨response.id, response.created, response.model, choices, response.usage⟩) =
      some response
  rw [List.mapM_map, mapM_ofJson_toJson]
  rfl

theorem keyedItems_choices (choices : List ChatResponseChoice) :
    Json.KeyedItems (choices.map ChatResponseChoice.toJson) := by
  induction choices with
  | nil => trivial
  | cons choice rest ih =>
      refine ⟨?_, ih⟩
      simp [ChatResponseChoice.toJson, ChatMessage.toJson, Json.Keyed, Json.KeyedMembers]

theorem ChatResponse.keyed_toJson (response : ChatResponse) : response.toJson.Keyed := by
  simp [toJson, Usage.toJson, Json.Keyed, Json.KeyedMembers, keyedItems_choices]

end LlmGateway
