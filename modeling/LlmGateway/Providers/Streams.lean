import LlmGateway.Services.Streaming

/-!
# Stream adapters

`stream_chat_completion` of the three adapters, as transducers from the lines of an
upstream to the lines that the adapter yields. The OpenAI and the Mistral adapter pass the
data lines on; the Anthropic adapter translates events and makes up the end of the
stream when the upstream sent none.

An adapter pulls one line of its upstream after the other until it has one to yield
(`Adapter.next`). `Relay` is an adapter in the middle of an upstream.
-/

set_option autoImplicit false

namespace LlmGateway

open LlmGateway.Library (Interpreter Json)
open LlmGateway.Library.PythonText

/-- A line of an upstream, and the second at which it is read. -/
structure UpstreamLine where
  text : String
  created : ℤ
deriving DecidableEq

/-- How the lines of an upstream end: the body was read to its end, the transport failed,
or something else was raised. -/
inductive UpstreamEnd where
  | exhausted
  | failed (error : ProviderError)
  | crashed (name : String)
deriving DecidableEq

/-- An upstream: its lines and its end. -/
structure Upstream where
  lines : List UpstreamLine
  ending : UpstreamEnd
deriving DecidableEq

/-- What an iterator of stream lines does when it is asked for the next one. -/
inductive StreamEvent where
  | line (text : String)
  | exhausted
  | providerError (error : ProviderError)
  | exception (exception : PyException)
deriving DecidableEq

/-! ## The Anthropic events -/

/-- The local variables of the translation. -/
structure AnthropicState where
  chunkId : Json := .str ""
  model : Json
  inputTokens : ℤ := 0
  doneSent : Bool := false

/-- `int(value)` of a JSON value. -/
def intOfJson : Json → Except PyException ℤ
  | .int n => .ok n
  | .bool b => .ok (if b then 1 else 0)
  | .str text =>
      match intOfText text.toList with
      | some n => .ok n
      | none => .error .valueError
  | .broken _ => .error .valueError
  | .float value =>
      match intOfFloat value, value with
      | some n, _ => .ok n
      | none, .nan => .error .valueError
      | none, _ => .error (.other "OverflowError")
  | .null | .arr _ | .obj _ => .error .typeError

/-- `_STOP_REASON_MAP.get(reason, "stop")`. A list or a dictionary cannot be a key. -/
def stopReason : Json → Except PyException FinishReason
  | .str text =>
      if text = "end_turn" then .ok .stop
      else if text = "stop_sequence" then .ok .stop
      else if text = "max_tokens" then .ok .length
      else .ok .stop
  | .arr _ | .obj _ => .error .typeError
  | _ => .ok .stop

/-- The value of a `type` member is the given text. -/
def isType (value : Json) (name : String) : Bool :=
  match value with
  | .str text => text == name
  | _ => false

/-- The event of a line, unless the line has none. -/
def anthropicEvent (python : Interpreter) (text : String) : Except PyException (Option Json) :=
  if dataMark.isPrefixOf text.toList then
    tryLoads python (String.ofList (strip (text.toList.drop 6)))
  else .ok none

/-- `message_start`: the identity of the answer and its input tokens. -/
def messageStart (state : AnthropicState) (created : ℤ) (event : Json) :
    Except PyException (AnthropicState × Option String) := do
  let message ← dictGetD event "message" (.obj [])
  let chunkId ← dictGetD message "id" state.chunkId
  let model ← dictGetD message "model" state.model
  let usage := orElse (← dictGet message "usage") (← dictGet event "usage")
  let inputTokens ←
    match usage with
    | .obj members => intOfJson (← dictGetD (.obj members) "input_tokens" (.int state.inputTokens))
    | _ => pure state.inputTokens
  pure ({ state with chunkId, model, inputTokens },
    some (sseChunk created chunkId model (.str "assistant")))

/-- `content_block_delta`: a piece of text, if it is one. In its chunk the text stands four levels
deep, which `json.dumps` refuses if it is nested itself and the levels do not fit. -/
def contentBlockDelta (python : Interpreter) (state : AnthropicState) (created : ℤ) (event : Json) :
    Except PyException (AnthropicState × Option String) := do
  let delta ← dictGetD event "delta" (.obj [])
  if isType (← dictGet delta "type") "text_delta" then
    let text ← dictGetD delta "text" (.str "")
    if python.nesting < text.depth + 4 then .error (.other "RecursionError")
    else pure (state, some (sseChunk created state.chunkId state.model .null text))
  else pure (state, none)

/-- The output tokens that an event states. -/
def outputTokens (event : Json) : Except PyException ℤ := do
  match ← dictGet event "usage" with
  | .obj members => intOfJson (← dictGetD (.obj members) "output_tokens" (.int 0))
  | _ => pure 0

/-- `message_delta`: why the answer ended, and the output tokens. `json.dumps` refuses a total that
has too many digits. -/
def messageDelta (state : AnthropicState) (created : ℤ) (event : Json) :
    Except PyException (AnthropicState × Option String) := do
  let reason ← stopReason
    (← dictGetD (← dictGetD event "delta" (.obj [])) "stop_reason" (.str ""))
  let completionTokens ← outputTokens event
  if maxStrDigits < Json.intDigits (state.inputTokens + completionTokens) then .error .valueError
  else pure (state, some (sseChunk created state.chunkId state.model .null .null
    (.str reason.toString) (some (usageJson state.inputTokens completionTokens
      (state.inputTokens + completionTokens)))))

/-- One event of the upstream. Any other type is passed over. -/
def anthropicTranslate (python : Interpreter) (state : AnthropicState) (created : ℤ) (event : Json) :
    Except PyException (AnthropicState × Option String) := do
  let type ← dictGet event "type"
  if isType type "message_start" then messageStart state created event
  else if isType type "content_block_delta" then contentBlockDelta python state created event
  else if isType type "message_delta" then messageDelta state created event
  else if isType type "message_stop" then pure ({ state with doneSent := true }, some doneLine)
  else pure (state, none)

/-- One line of the upstream. -/
def anthropicLine (python : Interpreter) (state : AnthropicState) (line : UpstreamLine) :
    Except PyException (AnthropicState × Option String) :=
  match anthropicEvent python line.text with
  | .error exception => .error exception
  | .ok none => .ok (state, none)
  | .ok (some event) => anthropicTranslate python state line.created event

/-! ## Adapters -/

/-- The passthrough of the OpenAI and the Mistral adapter. -/
def passLine (line : UpstreamLine) : Option String :=
  if dataMark.isPrefixOf line.text.toList then some (line.text ++ "\n\n") else none

/-- An adapter in the middle of an upstream. The translation state is that of the
Anthropic adapter; the other adapters have none. -/
structure Relay where
  adapter : Adapter
  state : AnthropicState
  upstream : Upstream

/-- `provider.stream_chat_completion(request)`, before its first line. -/
def Relay.start (adapter : Adapter) (model : String) (upstream : Upstream) : Relay :=
  ⟨adapter, { model := .str model }, upstream⟩

/-- What the adapter makes of one line. -/
def Adapter.readLine (adapter : Adapter) (python : Interpreter) (state : AnthropicState)
    (line : UpstreamLine) : Except PyException (AnthropicState × Option String) :=
  match adapter with
  | .openai | .mistral => .ok (state, passLine line)
  | .anthropic => anthropicLine python state line

/-- What the adapter yields after the last line of its upstream. -/
def Adapter.closingLine (adapter : Adapter) (state : AnthropicState) : Option String :=
  match adapter with
  | .openai | .mistral => none
  | .anthropic => if state.doneSent then none else some doneLine

/-- Read lines until there is one to yield, or the end. A generator that has raised or
returned is exhausted. -/
def Adapter.next (adapter : Adapter) (python : Interpreter) (ending : UpstreamEnd) :
    AnthropicState → List UpstreamLine → StreamEvent × AnthropicState × Upstream
  | state, [] =>
      match ending with
      | .failed error => (.providerError error, state, ⟨[], .exhausted⟩)
      | .crashed name => (.exception (.other name), state, ⟨[], .exhausted⟩)
      | .exhausted =>
          match adapter.closingLine state with
          | some line => (.line line, { state with doneSent := true }, ⟨[], .exhausted⟩)
          | none => (.exhausted, state, ⟨[], .exhausted⟩)
  | state, line :: rest =>
      match adapter.readLine python state line with
      | .error exception => (.exception exception, state, ⟨[], .exhausted⟩)
      | .ok (state, some text) => (.line text, state, ⟨rest, ending⟩)
      | .ok (state, none) => adapter.next python ending state rest

/-- `iterator.__anext__()`. -/
def Relay.next (python : Interpreter) (relay : Relay) : StreamEvent × Relay :=
  let (event, state, upstream) := relay.adapter.next python relay.upstream.ending relay.state
    relay.upstream.lines
  (event, { relay with state, upstream })

end LlmGateway
