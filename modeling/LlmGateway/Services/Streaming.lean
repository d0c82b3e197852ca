import LlmGateway.Library.Interpreter
import LlmGateway.Services.Fallback
import LlmGateway.Services.Usage

/-!
# Streamed chunks

The parts of `services/streaming.py` that look into a line or build one: the usage of a
line, the accumulator that rebuilds a response from the relayed lines, and the lines that
replay a cached response.

A chunk is any JSON value, and Python looks into it without checking its shape. What that
raises on an unexpected shape is part of the model: `get` on anything but a dictionary is
an `AttributeError`, and so on. A payload that is nested too deeply is a `RecursionError`, which
the readers of a line do not catch.
-/

set_option autoImplicit false

namespace LlmGateway

open LlmGateway.Library (CodePoint Interpreter Json codePoints scalarText)
open LlmGateway.Library.PythonText

/-! ## Python on JSON values -/

/-- The truth value of a JSON value. -/
def truthy : Json → Bool
  | .null => false
  | .bool value => value
  | .int value => value != 0
  | .float value => !value.isZero
  | .str value => value != ""
  | .broken text => !text.isEmpty
  | .arr items => !items.isEmpty
  | .obj members => !members.isEmpty

/-- `first or second`. -/
def orElse (first second : Json) : Json := if truthy first then first else second

/-- `value.get(key)`; a missing key is `None`. -/
def dictGet (value : Json) (key : String) : Except PyException Json :=
  match value with
  | .obj members => .ok ((Json.lookup key members).getD .null)
  | _ => .error .attributeError

/-- `value.get(key, default)`. -/
def dictGetD (value : Json) (key : String) (default : Json) : Except PyException Json :=
  match value with
  | .obj members => .ok ((Json.lookup key members).getD default)
  | _ => .error .attributeError

/-- `value[0]` of a value that is true. A text has its first character there. -/
def firstItem : Json → Except PyException Json
  | .arr (item :: _) => .ok item
  | .arr [] => .error .indexError
  | .str text =>
      match text.toList with
      | c :: _ => .ok (.str (String.singleton c))
      | [] => .error .indexError
  | .broken (point :: _) => .ok (.ofText [point])
  | .broken [] => .error .indexError
  | .obj _ => .error .keyError
  | .null | .bool _ | .int _ | .float _ => .error .typeError

/-- `_to_int`. A boolean is an integer. -/
def toInt (value : Json) (default : ℤ) : Except PyException ℤ :=
  match value with
  | .int n => .ok n
  | .bool b => .ok (if b then 1 else 0)
  | .str text =>
      if allDigits (lstrip '-' text.toList) then
        match intOfText text.toList with
        | some n => .ok n
        | none => .error .valueError
      else .ok default
  | _ => .ok default

/-! ## Lines -/

/-- The six characters in front of a payload. -/
def dataMark : List Char := ['d', 'a', 't', 'a', ':', ' ']

/-- The payload that ends a stream. -/
def doneMark : List Char := ['[', 'D', 'O', 'N', 'E', ']']

/-- The payload of a line, unless it has none or ends the stream. -/
def payload (line : String) : Option (List Char) :=
  let text := strip line.toList
  if dataMark.isPrefixOf text then
    let content := strip (text.drop 6)
    if content.isEmpty || content == doneMark then none else some content
  else none

/-- `json.loads` under `except ValueError`: a text that is no JSON has no value. -/
def tryLoads (python : Interpreter) (text : String) : Except PyException (Option Json) :=
  match python.loads text with
  | .ok value => .ok (some value)
  | .error .invalid => .ok none
  | .error .tooDeep => .error (.other "RecursionError")

theorem tryLoads_eq_some {python : Interpreter} {text : String} {value : Json}
    (loaded : tryLoads python text = .ok (some value)) : python.loads text = .ok value := by
  unfold tryLoads at loaded
  split at loaded
  · rename_i same
    cases loaded
    exact same
  · cases loaded
  · cases loaded

/-- The chunk of a line, unless its payload is no JSON. -/
def lineChunk (python : Interpreter) (line : String) : Except PyException (Option Json) :=
  match payload line with
  | none => .ok none
  | some content => tryLoads python (String.ofList content)

/-- The counts of a `usage` object; the third one falls back to what the other two give. -/
def readUsage (members : Json) (prompt completion : ℤ) (total : ℤ → ℤ → ℤ) :
    Except PyException Usage := do
  let prompt ← toInt (← dictGet members "prompt_tokens") prompt
  let completion ← toInt (← dictGet members "completion_tokens") completion
  let total ← toInt (← dictGet members "total_tokens") (total prompt completion)
  pure (.clamped prompt completion total)

/-- A chunk with a `usage` object updates the counts. -/
def chunkUsage (chunk : Json) (current : Usage) : Except PyException Usage := do
  match ← dictGet chunk "usage" with
  | .obj members =>
      readUsage (.obj members) current.promptTokens current.completionTokens (· + ·)
  | _ => pure current

/-- `capture_usage`. -/
def captureUsage (python : Interpreter) (line : String) (current : Usage) : Except PyException Usage :=
  match lineChunk python line with
  | .error exception => .error exception
  | .ok none => .ok current
  | .ok (some chunk) => chunkUsage chunk current

/-! ## The accumulator -/

/-- `ChunkAccumulator`. What a chunk says about `id`, `model` and `finish_reason` is taken
over whatever its type. -/
structure ChunkAccumulator where
  id : Json := .str ""
  model : Json := .str ""
  content : List CodePoint := []
  finishReason : Json := .str "stop"
  usage : Usage := {}
  sawAnyChunk : Bool := false

namespace ChunkAccumulator

/-- A statement that may raise, in the middle of an update. -/
def check {α : Type} (value : Except PyException α) : EStateM PyException ChunkAccumulator α :=
  fun accumulator =>
    match value with
    | .ok result => .ok result accumulator
    | .error exception => .error exception accumulator

/-- `self.content += content`. -/
def addContent (content : Json) : EStateM PyException ChunkAccumulator Unit :=
  match content with
  | .str text =>
      modify fun accumulator => { accumulator with content := accumulator.content ++ codePoints text }
  | .broken text =>
      modify fun accumulator => { accumulator with content := accumulator.content ++ text }
  | _ => throw .typeError

/-- The first choice of a chunk. -/
def feedChoice (choice : Json) : EStateM PyException ChunkAccumulator Unit := do
  let delta ← check (dictGet choice "delta")
  let content ← check (dictGet (orElse delta (.obj [])) "content")
  if truthy content then addContent content
  let finishReason ← check (dictGet choice "finish_reason")
  if truthy finishReason then modify fun accumulator => { accumulator with finishReason }

/-- The `usage` of a chunk. -/
def feedUsage (usage : Json) : EStateM PyException ChunkAccumulator Unit := do
  match usage with
  | .obj members =>
      let current := (← get).usage
      let usage ← check (readUsage (.obj members) current.promptTokens current.completionTokens
        fun _ _ => current.totalTokens)
      modify fun accumulator => { accumulator with usage }
  | _ => pure ()

/-- `feed` of a line whose payload is JSON. -/
def feedChunk (chunk : Json) : EStateM PyException ChunkAccumulator Unit := do
  modify fun accumulator => { accumulator with sawAnyChunk := true }
  let id ← check (dictGet chunk "id")
  modify fun accumulator => { accumulator with id := orElse id accumulator.id }
  let model ← check (dictGet chunk "model")
  modify fun accumulator => { accumulator with model := orElse model accumulator.model }
  let choices ← check (dictGet chunk "choices")
  if truthy choices then feedChoice (← check (firstItem choices))
  feedUsage (← check (dictGet chunk "usage"))

/-- `feed`. An exception leaves the updates made before it. -/
def feed (python : Interpreter) (line : String) : EStateM PyException ChunkAccumulator Unit :=
  match lineChunk python line with
  | .error exception => throw exception
  | .ok none => pure ()
  | .ok (some chunk) => feedChunk chunk

/-- `to_response`; the construction of a `ChatResponse` checks the types and the bound, and that
no surrogate stands in a text. -/
def toResponse (accumulator : ChunkAccumulator) (created : ℤ) : Except PyException ChatResponse :=
  match orElse accumulator.id (.str "chatcmpl-cached"), accumulator.model,
      accumulator.finishReason with
  | .str id, .str model, .str reason =>
      match FinishReason.ofString reason, scalarText accumulator.content with
      | some finishReason, some content =>
          if bounded : content.length ≤ maxContentLength then
            .ok
              { id, created, model
                choices := [{ message := ⟨.assistant, content, bounded⟩, finishReason }]
                usage := accumulator.usage }
          else .error .valueError
      | _, _ => .error .valueError
  | _, _, _ => .error .valueError

end ChunkAccumulator

/-- Reading the state, and updating it. -/
theorem get_bind_apply {ε σ α : Type} (next : σ → EStateM ε σ α) (state : σ) :
    (get >>= next) state = next state state := rfl

theorem modify_apply {ε σ : Type} (update : σ → σ) (state : σ) :
    (modify update : EStateM ε σ PUnit) state = .ok ⟨⟩ (update state) := rfl

/-- What `feed` does with a `usage` object. -/
theorem feedUsage_obj (members : List (String × Json)) (accumulator : ChunkAccumulator) :
    ChunkAccumulator.feedUsage (.obj members) accumulator =
      match readUsage (.obj members) accumulator.usage.promptTokens
          accumulator.usage.completionTokens fun _ _ => accumulator.usage.totalTokens with
      | .ok usage => .ok () { accumulator with usage }
      | .error exception => .error exception accumulator := by
  cases read : readUsage (.obj members) accumulator.usage.promptTokens
      accumulator.usage.completionTokens fun _ _ => accumulator.usage.totalTokens with
  | error exception =>
      rw [ChunkAccumulator.feedUsage, get_bind_apply]
      simp [bind, EStateM.bind, ChunkAccumulator.check, read]
  | ok usage =>
      rw [ChunkAccumulator.feedUsage, get_bind_apply]
      simp [bind, EStateM.bind, ChunkAccumulator.check, read, modify_apply]

/-! ## Events -/

/-- The line of an event. -/
def eventLine (payload : String) : String := "data: " ++ payload ++ "\n\n"

/-- The counts of an event. -/
def usageJson (promptTokens completionTokens totalTokens : ℤ) : Json :=
  .obj [("prompt_tokens", .int promptTokens), ("completion_tokens", .int completionTokens),
    ("total_tokens", .int totalTokens)]

/-- `_sse_chunk`, and `_chunk` of the Anthropic adapter; a field that is `None` is
`null` here. -/
def sseChunk (created : ℤ) (chunkId model : Json) (role content finishReason : Json := .null)
    (usage : Option Json := none) : String :=
  let delta : List (String × Json) :=
    (match role with | .null => [] | _ => [("role", role)]) ++
      (match content with | .null => [] | _ => [("content", content)])
  let payload : List (String × Json) :=
    [("id", chunkId), ("object", .str "chat.completion.chunk"), ("created", .int created),
      ("model", model),
      ("choices",
        .arr [.obj [("index", .int 0), ("delta", .obj delta), ("finish_reason", finishReason)]])] ++
      usage.toList.map fun counts => ("usage", counts)
  eventLine (Json.dumps .spaced (.obj payload))

/-- The event that ends a stream. -/
def doneLine : String := eventLine "[DONE]"

/-- `synthesize_cached_stream`; the clock is read once for each chunk. A response without
choices has no first one. -/
def synthesizeCachedStream (response : ChatResponse) (created : ℕ → ℤ) :
    Except PyException (List String) :=
  match response.choices with
  | [] => .error .indexError
  | choice :: _ =>
      .ok
        [sseChunk (created 0) (.str response.id) (.str response.model) (.str "assistant"),
          sseChunk (created 1) (.str response.id) (.str response.model) .null
            (.str choice.message.content),
          sseChunk (created 2) (.str response.id) (.str response.model) .null .null
            (.str choice.finishReason.toString)
            (some (usageJson response.usage.promptTokens response.usage.completionTokens
              response.usage.totalTokens)),
          doneLine]

/-! ## Usage of a stream -/

/-- The record of a stream that was relayed to its end. -/
def streamRecord (virtualKeyId : ℤ) (provider : BaseProvider) (model : String) (usage : Usage)
    (latencyMs : ℕ) : UsageRecord :=
  buildUsageRecord virtualKeyId provider.config.name (provider.config.pricingFor model) model usage
    latencyMs

/-- `schedule_stream_usage`. -/
def scheduleStreamUsage (virtualKeyId : ℤ) (provider : BaseProvider) (model : String)
    (usage : Usage) (latencyMs : ℕ) : Except PyException UsageTask :=
  recordUsage (streamRecord virtualKeyId provider model usage latencyMs)

/-- `schedule_cached_stream_usage`. -/
def scheduleCachedStreamUsage (virtualKeyId : ℤ) (response : ChatResponse) (latencyMs : ℕ) :
    Except PyException UsageTask :=
  recordCacheStyleUsage virtualKeyId response latencyMs

end LlmGateway
