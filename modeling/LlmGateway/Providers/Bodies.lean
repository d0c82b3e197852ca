import LlmGateway.Library.Pydantic
import LlmGateway.Providers.Streams

/-!
# Answers of the providers

What `chat_completion` of the adapters makes of the JSON body of an answer. The OpenAI and the
Mistral adapter validate it as a `ChatResponse` (`ChatResponse.modelValidate`), the Anthropic
adapter builds one from it (`buildResponse`). Both end in the fields of `Usage`, whose validator
replaces a negative count by zero, if it is an integer: it runs before the field reads texts
and floats as integers.

Whether an answer can be billed is the subject of `LlmGateway.Spending.Counts`.
-/

set_option autoImplicit false

namespace LlmGateway

open LlmGateway.Library

/-! ## Python on decoded values -/

/-- `value[key]` of a text key. -/
def getItem (value : Json) (key : String) : Except PyException Json :=
  match value with
  | .obj members =>
      match Json.lookup key members with
      | some item => .ok item
      | none => .error .keyError
  | _ => .error .typeError

/-- What `for item in value` goes through. -/
def iterate : Json → Except PyException (List Json)
  | .arr items => .ok items
  | .obj members => .ok (members.map fun member => .str member.1)
  | .str text => .ok (text.toList.map fun c => .str (String.singleton c))
  | .broken text => .ok (text.map fun point => .ofText [point])
  | .null | .bool _ | .int _ | .float _ => .error .typeError

/-- `first + second`. -/
def pyAdd (first second : PyValue) : Except PyException PyValue :=
  match first, second with
  | .str text, .str other => .ok (.str (text ++ other))
  | .str _, .broken | .broken, .str _ | .broken, .broken => .ok .broken
  | .list, .list => .ok .list
  | .float value, .float other => .ok (.float (value.add other))
  | .float value, other =>
      match other.integer with
      | none => .error .typeError
      | some n =>
          match Double.ofInt n with
          | none => .error (.other "OverflowError")
          | some converted => .ok (.float (value.add converted))
  | value, .float other =>
      match value.integer with
      | none => .error .typeError
      | some n =>
          match Double.ofInt n with
          | none => .error (.other "OverflowError")
          | some converted => .ok (.float (converted.add other))
  | value, other =>
      match value.integer, other.integer with
      | some m, some n => .ok (.int (m + n))
      | _, _ => .error .typeError

/-! ## Validation -/

/-- `_never_negative`. -/
def neverNegative : PyValue → PyValue
  | .int value => if value < 0 then .int 0 else .int value
  | value => value

/-- One field of `Usage`; without a value it is zero. -/
def countOf (field : IntField) : Option PyValue → Option ℤ
  | none => some 0
  | some value => field.read (neverNegative value)

/-- `Usage(...)` of the values that are given; nothing is a `ValidationError`. -/
def Usage.validate (field : IntField) (prompt completion total : Option PyValue) : Option Usage := do
  let promptTokens ← countOf field prompt
  let completionTokens ← countOf field completion
  let totalTokens ← countOf field total
  some ⟨promptTokens, completionTokens, totalTokens⟩

/-- A field with a default. -/
def withDefault {α : Type} (default : α) (read : Json → Option α) : Option Json → Option α
  | none => some default
  | some value => read value

/-- The value of a member, as a field of a model is given it. -/
def memberValue (name : String) (members : List (String × Json)) : Option PyValue :=
  (Json.lookup name members).map .ofJson

def Usage.modelValidate (field : IntField) (value : Json) : Option Usage := do
  let members ← asObj value
  Usage.validate field (memberValue "prompt_tokens" members)
    (memberValue "completion_tokens" members) (memberValue "total_tokens" members)

def ChatResponseChoice.modelValidate (field : IntField) (value : Json) :
    Option ChatResponseChoice := do
  let members ← asObj value
  let index ← withDefault 0 (fun value => field.read (.ofJson value)) (Json.lookup "index" members)
  let message ← ChatMessage.ofJson (← Json.lookup "message" members)
  let finishReason ← withDefault .stop (fun value => (asStr value).bind FinishReason.ofString)
    (Json.lookup "finish_reason" members)
  some ⟨index, message, finishReason⟩

/-- `ChatResponse.model_validate`; nothing is a `ValidationError`. -/
def ChatResponse.modelValidate (field : IntField) (value : Json) : Option ChatResponse := do
  let members ← asObj value
  let id ← asStr (← Json.lookup "id" members)
  let object ← withDefault "chat.completion" asStr (Json.lookup "object" members)
  let created ← field.read (.ofJson (← Json.lookup "created" members))
  let model ← asStr (← Json.lookup "model" members)
  let choices ← (← asArr (← Json.lookup "choices" members)).mapM
    (ChatResponseChoice.modelValidate field)
  let usage ← Usage.modelValidate field (← Json.lookup "usage" members)
  if object = "chat.completion" then some ⟨id, created, model, choices, usage⟩ else none

/-! ## Adapters -/

/-- A model that is not valid: a `ValidationError` is a `ValueError`. -/
def validated {α : Type} (value : Option α) : Except PyException α :=
  match value with
  | some result => .ok result
  | none => .error .valueError

/-- The text of the first block of type `text`. -/
def firstText : List Json → Except PyException Json
  | [] => .ok (.str "")
  | block :: rest => do
      if isType (← dictGet block "type") "text" then getItem block "text" else firstText rest

/-- `_build_response` of the Anthropic adapter. -/
def buildResponse (field : IntField) (created : ℤ) (data : Json) : Except PyException ChatResponse := do
  let text ← firstText (← iterate (← getItem data "content"))
  let usage ← getItem data "usage"
  let id ← getItem data "id"
  let model ← getItem data "model"
  let content ← validated (asStr text)
  if bounded : content.length ≤ maxContentLength then
    let finishReason ← stopReason (← dictGetD data "stop_reason" (.str ""))
    let input := PyValue.ofJson (← getItem usage "input_tokens")
    let output := PyValue.ofJson (← getItem usage "output_tokens")
    let total ← pyAdd input output
    let usage ← validated (Usage.validate field (some input) (some output) (some total))
    let id ← validated (asStr id)
    let model ← validated (asStr model)
    pure
      { id, created, model
        choices := [{ message := ⟨.assistant, content, bounded⟩, finishReason }]
        usage }
  else .error .valueError

/-- The response that an adapter makes of the body of an answer. -/
def Adapter.parse (adapter : Adapter) (field : IntField) (created : ℤ) (body : Json) :
    Except PyException ChatResponse :=
  match adapter with
  | .openai | .mistral => validated (ChatResponse.modelValidate field body)
  | .anthropic => buildResponse field created body

/-- `response.json()`. -/
def responseJson (python : Interpreter) (raw : String) : Except PyException Json :=
  match python.loads raw with
  | .ok body => .ok body
  | .error .invalid => .error .valueError
  | .error .tooDeep => .error (.other "RecursionError")

/-- `_parse_response`; the text of an exception is a parameter. -/
def BaseProvider.parseResponse (provider : BaseProvider) (python : Interpreter) (field : IntField)
    (text : PyException → String) (created : ℤ) (raw : String) : Except PyException ChatResponse :=
  let unparseable (exception : PyException) : PyException :=
    .providerError ⟨.generic, "Provider '" ++ provider.config.name ++
      "' returned an unparseable response: " ++ text exception, provider.config.name⟩
  match (responseJson python raw).bind (provider.adapter.parse field created) with
  | .error .valueError => .error (unparseable .valueError)
  | .error .keyError => .error (unparseable .keyError)
  | result => result

end LlmGateway
