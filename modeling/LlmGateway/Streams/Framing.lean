import LlmGateway.Library.EventStream
import LlmGateway.Library.Keeping
import LlmGateway.Streams.Session

/-!
# Framing of the events

Everything `_stream_response` yields is one event: `data: `, a payload on one line and a blank
line. A payload is the text of a JSON object, `[DONE]`, or what an OpenAI-compatible upstream sent
on a data line. So no text that a model, a client or an error message contributes can end an
event early or begin another one.

`sse_framing` says so for every run. It takes over from the HTTP client that a line of an
upstream has no line break.
-/

set_option autoImplicit false

namespace LlmGateway

open LlmGateway.Library

/-! ## Payloads -/

/-- No line of the upstreams has a line break. -/
def LinesClean (upstreams : ℕ → Upstream) : Prop :=
  ∀ k, ∀ line ∈ (upstreams k).lines, OneLine line.text.toList

/-- What a payload is made of. -/
inductive Payload (upstreams : ℕ → Upstream) (payload : String) : Prop
  | done (same : payload = "[DONE]")
  | passed {k : ℕ} {line : UpstreamLine} (read : line ∈ (upstreams k).lines)
      (data : line.text = "data: " ++ payload)
  | built {object : Json} (printed : payload = Json.dumps .spaced object)
      (parses : Json.parse payload = some object)

/-- The event of a payload. -/
def IsEvent (upstreams : ℕ → Upstream) (text : String) : Prop :=
  ∃ payload, text = eventLine payload ∧ OneLine payload.toList ∧ Payload upstreams payload

/-- What a session has yielded is a list of events, and a client receives their payloads one
for one. -/
def StreamSession.Framed (upstreams : ℕ → Upstream) (s : StreamSession) : Prop :=
  ∃ payloads : List String, s.output = payloads.map eventLine ∧
    (∀ payload ∈ payloads, OneLine payload.toList ∧ Payload upstreams payload) ∧
      EventStream.received (String.join s.output).toList = payloads.map String.toList

/-- The text is the event of a JSON object, and parses as that object. -/
structure Encodes (text : String) (object : Json) : Prop where
  event : text = eventLine (Json.dumps .spaced object)
  oneLine : OneLine (Json.dumps .spaced object).toList
  parses : Json.parse (Json.dumps .spaced object) = some object

/-! ## Objects -/

/-- A member with a value that may be left out. -/
def stated (name : String) (value : Json) : List (String × Json) :=
  match value with
  | .null => []
  | _ => [(name, value)]

/-- The object of `_sse_chunk` and `_chunk`. -/
def chunkObject (created : ℤ) (chunkId model role content finishReason : Json)
    (usage : Option Json) : Json :=
  .obj ([("id", chunkId), ("object", .str "chat.completion.chunk"), ("created", .int created),
      ("model", model),
      ("choices",
        .arr [.obj [("index", .int 0),
          ("delta", .obj (stated "role" role ++ stated "content" content)),
          ("finish_reason", finishReason)]])] ++
    usage.toList.map fun counts => ("usage", counts))

/-- The object of `_sse_error`. -/
def errorObject (message errorType : String) (attemptedProviders : Option (List String))
    (retryAfter requestId : Option String) : Json :=
  .obj [("error",
    .obj ([("message", .str message), ("type", .str errorType)] ++
      (attemptedProviders.toList.map fun names => ("attempted_providers", .arr (names.map .str))) ++
      (retryAfter.toList.map fun text => ("retry_after", .str text)) ++
      ((requestId.filter fun text => !text.isEmpty).toList.map
        fun text => ("request_id", .str text))))]

theorem encodes_of_keyed {object : Json} (keyed : object.Keyed) :
    Encodes (eventLine (Json.dumps .spaced object)) object where
  event := rfl
  oneLine := by
    rw [Json.dumps, String.toList_ofList]
    exact (Json.printable_print Json.Style.onLine_spaced object).oneLine
  parses := Json.parse_dumps .spaced keyed

/-- An object whose names are some of a list without repetition. -/
theorem keyed_obj {members : List (String × Json)} (names : List String) (nodup : names.Nodup)
    (sublist : (members.map Prod.fst).Sublist names) (values : ∀ member ∈ members, member.2.Keyed) :
    (Json.obj members).Keyed :=
  ⟨sublist.nodup nodup, (Json.keyedMembers_iff members).mpr values⟩

theorem stated_names (name : String) (value : Json) :
    ((stated name value).map Prod.fst).Sublist [name] := by
  cases value <;> simp [stated]

theorem stated_values {name : String} {value : Json} (keyed : value.Keyed) :
    ∀ member ∈ stated name value, member.2.Keyed := by
  intro member there
  have same : member = (name, value) := by
    cases value with
    | null => exact absurd there List.not_mem_nil
    | _ => exact List.mem_singleton.mp there
  rw [same]
  exact keyed

theorem optional_names {α : Type} (name : String) (value : Option α) (encode : α → Json) :
    ((value.toList.map fun given => (name, encode given)).map Prod.fst).Sublist [name] := by
  cases value <;> simp

theorem optional_values {α : Type} {name : String} {value : Option α} {encode : α → Json}
    (keyed : ∀ given, value = some given → (encode given).Keyed) :
    ∀ member ∈ value.toList.map fun given => (name, encode given), member.2.Keyed := by
  intro member there
  obtain ⟨given, listed, rfl⟩ := List.mem_map.mp there
  exact keyed given (Option.mem_toList.mp listed)

theorem keyed_chunkObject {created : ℤ} {chunkId model role content finishReason : Json}
    {usage : Option Json} (identified : chunkId.Keyed) (named : model.Keyed) (roled : role.Keyed)
    (filled : content.Keyed) (ended : finishReason.Keyed)
    (counted : ∀ counts, usage = some counts → counts.Keyed) :
    (chunkObject created chunkId model role content finishReason usage).Keyed := by
  have delta : (Json.obj (stated "role" role ++ stated "content" content)).Keyed := by
    refine keyed_obj ["role", "content"] (by decide) ?_ ?_
    · rw [List.map_append]
      exact (stated_names _ _).append (stated_names _ _)
    · exact List.forall_mem_append.mpr ⟨stated_values roled, stated_values filled⟩
  have choice : (Json.obj [("index", .int 0),
      ("delta", .obj (stated "role" role ++ stated "content" content)),
      ("finish_reason", finishReason)]).Keyed :=
    ⟨by simp, trivial, delta, ended, trivial⟩
  refine keyed_obj ["id", "object", "created", "model", "choices", "usage"] (by decide) ?_ ?_
  · rw [List.map_append]
    exact (List.Sublist.refl _).append (optional_names "usage" usage fun counts => counts)
  · refine List.forall_mem_append.mpr ⟨?_, optional_values counted⟩
    intro member there
    simp only [List.mem_cons, List.not_mem_nil, or_false] at there
    rcases there with rfl | rfl | rfl | rfl | rfl
    · exact identified
    · trivial
    · trivial
    · exact named
    · exact ⟨choice, trivial⟩

/-- **A chunk** is read back as the object that it was built from. -/
theorem encodes_sseChunk {created : ℤ} {chunkId model role content finishReason : Json}
    {usage : Option Json} (identified : chunkId.Keyed) (named : model.Keyed) (roled : role.Keyed)
    (filled : content.Keyed) (ended : finishReason.Keyed)
    (counted : ∀ counts, usage = some counts → counts.Keyed) :
    Encodes (sseChunk created chunkId model role content finishReason usage)
      (chunkObject created chunkId model role content finishReason usage) :=
  encodes_of_keyed (keyed_chunkObject identified named roled filled ended counted)

theorem keyed_errorObject (message errorType : String) (attemptedProviders : Option (List String))
    (retryAfter requestId : Option String) :
    (errorObject message errorType attemptedProviders retryAfter requestId).Keyed := by
  have body : (Json.obj ([("message", .str message), ("type", .str errorType)] ++
      (attemptedProviders.toList.map fun names => ("attempted_providers", .arr (names.map .str))) ++
      (retryAfter.toList.map fun text => ("retry_after", .str text)) ++
      ((requestId.filter fun text => !text.isEmpty).toList.map
        fun text => ("request_id", .str text)))).Keyed := by
    refine keyed_obj ["message", "type", "attempted_providers", "retry_after", "request_id"]
      (by decide) ?_ ?_
    · simp only [List.map_append]
      exact (((List.Sublist.refl ["message", "type"]).append (optional_names _ _ _)).append
        (optional_names _ _ _)).append (optional_names _ _ _)
    · simp only [List.forall_mem_append]
      refine ⟨⟨⟨?_, optional_values fun names _ => ?_⟩, optional_values fun _ _ => trivial⟩,
        optional_values fun _ _ => trivial⟩
      · simp [Json.Keyed]
      · exact keyedItems_str names
  exact ⟨by simp, body, trivial⟩

/-- **An error** is read back as the object that it was built from. -/
theorem encodes_sseError (message errorType : String) (attemptedProviders : Option (List String))
    (retryAfter requestId : Option String) :
    Encodes (sseError message errorType attemptedProviders retryAfter requestId)
      (errorObject message errorType attemptedProviders retryAfter requestId) :=
  encodes_of_keyed (keyed_errorObject message errorType attemptedProviders retryAfter requestId)

/-! ## Events -/

section Events

variable {upstreams : ℕ → Upstream}

theorem isEvent_of_encodes {text : String} {object : Json} (encodes : Encodes text object) :
    IsEvent upstreams text :=
  ⟨_, encodes.event, encodes.oneLine, .built rfl encodes.parses⟩

theorem isEvent_doneLine : IsEvent upstreams doneLine :=
  ⟨"[DONE]", rfl, ⟨by decide, by decide⟩, .done rfl⟩

/-- A data line of an upstream is passed on as one event. -/
theorem isEvent_passLine (clean : LinesClean upstreams) {k : ℕ} {line : UpstreamLine}
    (read : line ∈ (upstreams k).lines) {text : String} (passed : passLine line = some text) :
    IsEvent upstreams text := by
  unfold passLine at passed
  split at passed
  · rename_i marked
    obtain ⟨rest, split⟩ := List.isPrefixOf_iff_prefix.mp marked
    have data : line.text = "data: " ++ String.ofList rest := by
      rw [← String.toList_inj, ← split]
      simp only [String.toList_append, String.toList_ofList]
      rfl
    refine ⟨String.ofList rest, ?_, ?_, .passed read data⟩
    · rw [← Option.some.inj passed, data]
      rfl
    · have line := clean k line read
      rw [data, String.toList_append] at line
      exact line.of_append
  · cases passed

end Events

/-! ## Adapters -/

/-- What the Anthropic adapter remembers can be encoded. -/
structure AnthropicState.Keyed (state : AnthropicState) : Prop where
  chunkId : state.chunkId.Keyed
  model : state.model.Keyed

section Adapters

theorem keyed_dictGetD {value default result : Json} {key : String} (keyed : value.Keyed)
    (fallback : default.Keyed) (read : dictGetD value key default = .ok result) : result.Keyed := by
  cases value with
  | obj members =>
      cases read
      cases found : Json.lookup key members with
      | none => exact fallback
      | some item => exact Json.keyed_lookup keyed.2 found
  | _ => cases read

/-- What the Anthropic adapter makes of an event can be encoded. -/
def Translates (result : AnthropicState × Option String) : Prop :=
  result.1.Keyed ∧ ∀ text, result.2 = some text → text = doneLine ∨ ∃ object, Encodes text object

variable {state : AnthropicState} {created : ℤ} {event : Json}
  {result : AnthropicState × Option String}

theorem translates_messageStart (known : state.Keyed) (keyed : event.Keyed)
    (translated : messageStart state created event = .ok result) : Translates result := by
  unfold messageStart at translated
  obtain ⟨message, read, translated⟩ := bind_eq_ok.mp translated
  have body := keyed_dictGetD keyed (by simp [Json.Keyed, Json.KeyedMembers]) read
  obtain ⟨chunkId, identified, translated⟩ := bind_eq_ok.mp translated
  obtain ⟨model, named, translated⟩ := bind_eq_ok.mp translated
  have identity := keyed_dictGetD body known.chunkId identified
  have name := keyed_dictGetD body known.model named
  obtain ⟨first, -, translated⟩ := bind_eq_ok.mp translated
  obtain ⟨second, -, translated⟩ := bind_eq_ok.mp translated
  have built (inputTokens : ℤ) : Translates ({ state with chunkId, model, inputTokens },
      some (sseChunk created chunkId model (.str "assistant"))) := by
    refine ⟨⟨identity, name⟩, fun text same => .inr ?_⟩
    cases same
    exact ⟨_, encodes_sseChunk identity name trivial trivial trivial (by simp)⟩
  dsimp only at translated
  split at translated
  · obtain ⟨value, -, translated⟩ := bind_eq_ok.mp translated
    obtain ⟨inputTokens, -, translated⟩ := bind_eq_ok.mp translated
    cases translated
    exact built inputTokens
  · cases translated
    exact built state.inputTokens

theorem translates_contentBlockDelta {python : Interpreter} (known : state.Keyed) (keyed : event.Keyed)
    (translated : contentBlockDelta python state created event = .ok result) : Translates result := by
  unfold contentBlockDelta at translated
  obtain ⟨delta, read, translated⟩ := bind_eq_ok.mp translated
  have body := keyed_dictGetD keyed (by simp [Json.Keyed, Json.KeyedMembers]) read
  obtain ⟨type, -, translated⟩ := bind_eq_ok.mp translated
  split at translated
  · obtain ⟨piece, filled, translated⟩ := bind_eq_ok.mp translated
    have content := keyed_dictGetD body (by simp [Json.Keyed]) filled
    split_ifs at translated
    cases translated
    refine ⟨known, fun text same => .inr ?_⟩
    cases same
    exact ⟨_, encodes_sseChunk known.chunkId known.model trivial content trivial (by simp)⟩
  · cases translated
    exact ⟨known, fun text same => by cases same⟩

theorem translates_messageDelta (known : state.Keyed)
    (translated : messageDelta state created event = .ok result) : Translates result := by
  unfold messageDelta at translated
  obtain ⟨delta, -, translated⟩ := bind_eq_ok.mp translated
  obtain ⟨reasonValue, -, translated⟩ := bind_eq_ok.mp translated
  obtain ⟨reason, -, translated⟩ := bind_eq_ok.mp translated
  have built (outputTokens : ℤ) : Translates (state,
      some (sseChunk created state.chunkId state.model .null .null (.str reason.toString)
        (some (usageJson state.inputTokens outputTokens (state.inputTokens + outputTokens))))) := by
    refine ⟨known, fun text same => .inr ?_⟩
    cases same
    refine ⟨_, encodes_sseChunk known.chunkId known.model trivial trivial trivial ?_⟩
    intro counts same
    cases same
    simp [usageJson, Json.Keyed, Json.KeyedMembers]
  obtain ⟨completionTokens, -, translated⟩ := bind_eq_ok.mp translated
  split_ifs at translated
  cases translated
  exact built completionTokens

theorem translates_anthropicLine {python : Interpreter} {line : UpstreamLine} (known : state.Keyed)
    (translated : anthropicLine python state line = .ok result) : Translates result := by
  unfold anthropicLine at translated
  split at translated
  · cases translated
  · cases translated
    exact ⟨known, fun text same => by cases same⟩
  · rename_i event there
    have keyed : event.Keyed := by
      unfold anthropicEvent at there
      split at there
      · exact Interpreter.keyed_loads (tryLoads_eq_some there)
      · cases there
    unfold anthropicTranslate at translated
    obtain ⟨type, -, translated⟩ := bind_eq_ok.mp translated
    split at translated
    · exact translates_messageStart known keyed translated
    · split at translated
      · exact translates_contentBlockDelta known keyed translated
      · split at translated
        · exact translates_messageDelta known translated
        · split at translated
          · cases translated
            exact ⟨⟨known.chunkId, known.model⟩, fun text same => .inl (Option.some.inj same).symm⟩
          · cases translated
            exact ⟨known, fun text same => by cases same⟩

end Adapters

/-! ## Iterators -/

/-- An iterator in the middle of one of the upstreams. -/
structure Relay.Serves (upstreams : ℕ → Upstream) (relay : Relay) : Prop where
  known : relay.state.Keyed
  lines : ∃ k, ∀ line ∈ relay.upstream.lines, line ∈ (upstreams k).lines

section Iterators

variable {upstreams : ℕ → Upstream} (clean : LinesClean upstreams)
include clean

/-- One line of an upstream gives at most one event. -/
theorem readLine_serves {python : Interpreter} {adapter : Adapter} {state : AnthropicState} {k : ℕ}
    {line : UpstreamLine} {result : AnthropicState × Option String} (known : state.Keyed)
    (there : line ∈ (upstreams k).lines) (read : adapter.readLine python state line = .ok result) :
    result.1.Keyed ∧ ∀ text, result.2 = some text → IsEvent upstreams text := by
  cases adapter with
  | openai | mistral =>
      cases read
      exact ⟨known, fun text passed => isEvent_passLine clean there passed⟩
  | anthropic =>
      obtain ⟨after, texts⟩ := translates_anthropicLine known read
      refine ⟨after, fun text same => ?_⟩
      rcases texts text same with rfl | ⟨object, encodes⟩
      · exact isEvent_doneLine
      · exact isEvent_of_encodes encodes

/-- The iterator yields events, and stays in its upstream. -/
theorem next_serves (python : Interpreter) (adapter : Adapter) (ending : UpstreamEnd) {k : ℕ}
    (lines : List UpstreamLine) (state : AnthropicState) (known : state.Keyed)
    (listed : ∀ line ∈ lines, line ∈ (upstreams k).lines) :
    (∀ text, (adapter.next python ending state lines).1 = .line text → IsEvent upstreams text) ∧
      (adapter.next python ending state lines).2.1.Keyed ∧
        ∀ line ∈ (adapter.next python ending state lines).2.2.lines, line ∈ (upstreams k).lines := by
  induction lines generalizing state with
  | nil =>
      simp only [Adapter.next]
      cases ending with
      | exhausted =>
          dsimp only
          split
          · rename_i line closing
            refine ⟨fun text same => ?_, ⟨known.chunkId, known.model⟩, by simp⟩
            have done : line = doneLine := by
              unfold Adapter.closingLine at closing
              cases adapter with
              | openai | mistral => cases closing
              | anthropic =>
                  dsimp only at closing
                  split at closing <;> cases closing
                  rfl
            cases same
            rw [done]
            exact isEvent_doneLine
          · exact ⟨fun text same => (by cases same), known, by simp⟩
      | failed error | crashed name => exact ⟨fun text same => (by cases same), known, by simp⟩
  | cons line rest ih =>
      obtain ⟨there, others⟩ := List.forall_mem_cons.mp listed
      simp only [Adapter.next]
      split
      · exact ⟨fun text same => (by cases same), known, by simp⟩
      · rename_i after text read
        obtain ⟨keyed, event⟩ := readLine_serves clean known there read
        refine ⟨fun other same => ?_, keyed, others⟩
        cases same
        exact event text rfl
      · rename_i after read
        exact ih after (readLine_serves clean known there read).1 others

theorem relay_next_serves (python : Interpreter) {relay : Relay} (serves : relay.Serves upstreams) :
    (∀ text, (relay.next python).1 = .line text → IsEvent upstreams text) ∧
      (relay.next python).2.Serves upstreams := by
  obtain ⟨k, listed⟩ := serves.lines
  obtain ⟨events, known, lines⟩ := next_serves clean python relay.adapter relay.upstream.ending
    relay.upstream.lines relay.state serves.known listed
  exact ⟨events, known, k, lines⟩

end Iterators

theorem serves_start (upstreams : ℕ → Upstream) (adapter : Adapter) (model : String) (k : ℕ) :
    (Relay.start adapter model (upstreams k)).Serves upstreams where
  known := ⟨trivial, trivial⟩
  lines := ⟨k, fun _ member => member⟩

/-! ## Turns -/

/-- Where the text that a turn yields comes from. -/
inductive Emits (call : StreamCall) (clock : StreamClock) (input : StreamInput) (text : String) : Prop
  | replayed {rest : List String} (point : call.point = .replay (text :: rest))
  | hit {cached : ChatResponse} {lines : List String}
      (replay : synthesizeCachedStream cached clock.created = .ok lines) (member : text ∈ lines)
  | relayed (given : input = .event (.line text))
  | failed {message errorType : String} {attempted : Option (List String)}
      {retryAfter requestId : Option String}
      (error : text = sseError message errorType attempted retryAfter requestId)

section Turns

variable {env : Environment} {call : StreamCall} {clock : StreamClock} {input : StreamInput}
  {text : String}

theorem emits_tryNext {attempted : List String} {lastError : Option ProviderError}
    {candidates : List BaseProvider}
    (emitted : (call.tryNext clock attempted lastError candidates).emit = some text) :
    Emits call clock input text := by
  cases candidates with
  | cons next rest => cases emitted
  | nil =>
      simp only [StreamCall.tryNext, StreamCall.noProvider] at emitted
      split at emitted <;> cases emitted <;> exact .failed rfl

theorem emits_relayLine {provider : BaseProvider} {line : String}
    (emitted : (call.relayLine env provider line).emit = some text) : text = line := by
  simp only [StreamCall.relayLine] at emitted
  split at emitted
  · cases emitted
  · split at emitted <;> cases emitted
    rfl

theorem emits_hit {cached : ChatResponse} (emitted : (call.hit clock cached).emit = some text) :
    Emits call clock input text := by
  simp only [StreamCall.hit] at emitted
  split at emitted
  · cases emitted
  · cases emitted
  · rename_i line rest replay
    cases emitted
    exact .hit replay List.mem_cons_self

theorem emits_replayNext {rest : List String} (point : call.point = .replay rest)
    (emitted : (call.replayNext clock rest).emit = some text) : Emits call clock input text := by
  cases rest with
  | cons line rest =>
      cases emitted
      exact .replayed point
  | nil =>
      simp only [StreamCall.replayNext] at emitted
      split at emitted
      · cases emitted
      · split at emitted <;> cases emitted

theorem emits_succeed (emitted : (call.succeed env clock).emit = some text) : False := by
  simp only [StreamCall.succeed, StreamCall.closing] at emitted
  repeat' split at emitted
  all_goals cases emitted

theorem emits_providerFailed {error : ProviderError}
    (emitted : (call.providerFailed clock error).emit = some text) : Emits call clock input text := by
  simp only [StreamCall.providerFailed] at emitted
  split at emitted <;> cases emitted <;> exact .failed rfl

/-- **What a turn yields.** -/
theorem emits_of_resume {turn : StreamTurn} (resumed : call.resume env clock input = some turn)
    (emitted : turn.emit = some text) : Emits call clock input text := by
  cases input with
  | reply reply =>
      simp only [StreamCall.resume] at resumed
      split at resumed
      · split at resumed
        · split at resumed
          · cases resumed
            exact emits_hit emitted
          · cases resumed
            cases emitted
        · cases resumed
          exact emits_tryNext emitted
      · cases resumed
        exact emits_tryNext emitted
      · cases resumed
        cases emitted
      · cases resumed
  | event event =>
      simp only [StreamCall.resume] at resumed
      split at resumed
      · cases resumed
        cases event with
        | line line => exact .relayed (congrArg _ (congrArg _ (emits_relayLine emitted).symm))
        | exhausted => exact emits_tryNext emitted
        | providerError error => exact emits_tryNext emitted
        | exception exception => cases emitted
      · cases resumed
        cases event with
        | line line => exact .relayed (congrArg _ (congrArg _ (emits_relayLine emitted).symm))
        | exhausted => exact (emits_succeed emitted).elim
        | providerError error => exact emits_providerFailed emitted
        | exception exception => cases emitted
      · cases resumed
  | pull =>
      simp only [StreamCall.resume] at resumed
      split at resumed
      · rename_i rest point
        cases resumed
        exact emits_replayNext point emitted
      all_goals cases resumed
      all_goals cases emitted
  | stop =>
      simp only [StreamCall.resume] at resumed
      split at resumed <;> cases resumed
      cases emitted

/-- The lines that a replay still has to yield. -/
theorem replay_of_turns {turn : StreamTurn} {rest : List String}
    (turns : StreamTurns env call clock input turn) (point : turn.call.point = .replay rest) :
    (∃ line, call.point = .replay (line :: rest)) ∨
      ∃ cached line, synthesizeCachedStream cached clock.created = .ok (line :: rest) := by
  cases turns with
  | hit _ _ replay =>
      cases point
      exact .inr ⟨_, _, replay⟩
  | replay before =>
      cases point
      exact .inl ⟨_, before⟩
  | _ => cases point

end Turns

/-- **The lines of a replay** are events. -/
theorem isEvent_of_replay {upstreams : ℕ → Upstream} {cached : ChatResponse} {created : ℕ → ℤ}
    {lines : List String} (replay : synthesizeCachedStream cached created = .ok lines) :
    ∀ text ∈ lines, IsEvent upstreams text := by
  unfold synthesizeCachedStream at replay
  split at replay
  · cases replay
  · cases replay
    simp only [List.forall_mem_cons]
    refine ⟨?_, ?_, ?_, isEvent_doneLine, by simp⟩
    · exact isEvent_of_encodes (encodes_sseChunk trivial trivial trivial trivial trivial (by simp))
    · exact isEvent_of_encodes (encodes_sseChunk trivial trivial trivial trivial trivial (by simp))
    · refine isEvent_of_encodes (encodes_sseChunk trivial trivial trivial trivial trivial ?_)
      intro counts same
      cases same
      simp [usageJson, Json.Keyed, Json.KeyedMembers]

/-! ## Runs -/

/-- The iterator serves an upstream, and what has been yielded or is going to be replayed is a
list of events. -/
structure StreamSession.Safe (upstreams : ℕ → Upstream) (s : StreamSession) : Prop where
  relay : ∀ relay, s.relay = some relay → relay.Serves upstreams
  replay : ∀ rest, s.call.point = .replay rest → ∀ text ∈ rest, IsEvent upstreams text
  output : ∀ text ∈ s.output, IsEvent upstreams text

section Runs

variable {env : Environment} {upstreams : ℕ → Upstream} {s next : StreamSession}
  {action : StreamAction}

/-- What the generator is given by its iterator is an event. -/
theorem input_safe (clean : LinesClean upstreams) (safe : s.Safe upstreams) {input : StreamInput}
    {clock : StreamClock} {relay : Option Relay} (given : s.input env action = some (input, clock, relay)) :
    (∀ text, input = .event (.line text) → IsEvent upstreams text) ∧
      ∀ found, relay = some found → found.Serves upstreams := by
  cases action with
  | advance own =>
      obtain ⟨before, there, same⟩ := Option.map_eq_some_iff.mp given
      obtain ⟨events, serves⟩ := relay_next_serves clean env.python (safe.relay before there)
      cases same
      refine ⟨fun text line => events text (StreamInput.event.inj line), fun found there => ?_⟩
      cases there
      exact serves
  | reply | pull | stop =>
      cases given
      exact ⟨fun text line => (by cases line), safe.relay⟩

/-- **A step** keeps what is yielded in events. -/
theorem safe_step (clean : LinesClean upstreams) (safe : s.Safe upstreams)
    (moved : s.step env upstreams action = some next) : next.Safe upstreams := by
  obtain ⟨input, clock, relay, turn, given, resumed, rfl⟩ := turn_of_streamStep moved
  obtain ⟨events, serves⟩ := input_safe clean safe given
  refine ⟨fun found there => ?_, fun rest point => ?_, ?_⟩
  · rcases take_relay upstreams s relay turn there with kept | ⟨attempt, -, rfl⟩
    · exact serves found kept
    · exact serves_start upstreams _ _ _
  · rw [take_call] at point
    rcases replay_of_turns (streamTurns_of_resume resumed) point with
      ⟨line, before⟩ | ⟨cached, line, replay⟩
    · exact fun text member => safe.replay _ before text (List.mem_cons_of_mem _ member)
    · exact fun text member => isEvent_of_replay replay text (List.mem_cons_of_mem _ member)
  · rw [take_output]
    refine List.forall_mem_append.mpr ⟨safe.output, fun text member => ?_⟩
    cases emits_of_resume resumed (Option.mem_toList.mp member) with
    | replayed point => exact safe.replay _ point text List.mem_cons_self
    | hit replay member => exact isEvent_of_replay replay text member
    | relayed line => exact events text line
    | failed error =>
        rw [error]
        exact isEvent_of_encodes (encodes_sseError _ _ _ _ _)

theorem eventLine_toList (payload : String) :
    (eventLine payload).toList = EventStream.event payload.toList := by
  simp only [eventLine, String.toList_append]
  rfl

/-- A list of events is received payload by payload. -/
theorem StreamSession.Safe.framed (safe : s.Safe upstreams) : s.Framed upstreams := by
  have listed : ∀ texts : List String, (∀ text ∈ texts, IsEvent upstreams text) →
      ∃ payloads : List String, texts = payloads.map eventLine ∧
        ∀ payload ∈ payloads, OneLine payload.toList ∧ Payload upstreams payload := by
    intro texts
    induction texts with
    | nil => exact fun _ => ⟨[], rfl, by simp⟩
    | cons text rest ih =>
        intro events
        obtain ⟨⟨payload, same, line, made⟩, others⟩ := List.forall_mem_cons.mp events
        obtain ⟨payloads, rest_same, all⟩ := ih others
        refine ⟨payload :: payloads, ?_, List.forall_mem_cons.mpr ⟨⟨line, made⟩, all⟩⟩
        rw [same, rest_same]
        rfl
  obtain ⟨payloads, same, all⟩ := listed s.output safe.output
  refine ⟨payloads, same, all, ?_⟩
  have stream : (String.join s.output).toList =
      (payloads.map String.toList).flatMap EventStream.event := by
    rw [String.toList_join, same, List.flatMap_map, List.flatMap_map]
    exact List.flatMap_congr fun payload _ => eventLine_toList payload
  rw [stream]
  refine EventStream.received_stream fun text member => ?_
  obtain ⟨payload, there, rfl⟩ := List.mem_map.mp member
  exact (all payload there).1

end Runs

/-- **The framing of the stream**: in every run, whatever the texts that it is given contain, what
has been yielded is a list of events with one line each, and splitting it at the blank lines gives
their payloads one for one. Every chunk and every error is read back as the object that it was
built from. -/
theorem sse_framing (env : Environment) (upstreams : ℕ → Upstream) (clean : LinesClean upstreams)
    (request : ChatRequest) (registry : ProviderRegistry) (virtualKeyId : ℤ)
    (requestId : Option String) (actions : List StreamAction) :
    Always (StreamSession.step env upstreams) (StreamSession.Framed upstreams)
        (.init env request registry virtualKeyId requestId) actions ∧
      (∀ (created : ℤ) (chunkId model role content finishReason : Json) (usage : Option Json),
        chunkId.Keyed → model.Keyed → role.Keyed → content.Keyed → finishReason.Keyed →
          (∀ counts, usage = some counts → counts.Keyed) →
            Encodes (sseChunk created chunkId model role content finishReason usage)
              (chunkObject created chunkId model role content finishReason usage)) ∧
        ∀ (message errorType : String) (attempted : Option (List String))
          (retryAfter requestId : Option String),
            Encodes (sseError message errorType attempted retryAfter requestId)
              (errorObject message errorType attempted retryAfter requestId) := by
  refine ⟨fun before after state split reached => ?_, fun _ _ _ _ _ _ _ => encodes_sseChunk,
    encodes_sseError⟩
  refine StreamSession.Safe.framed
    (invariant_of_step (P := StreamSession.Safe upstreams) ?_ ?_ reached)
  · exact ⟨by simp [StreamSession.init], by simp [StreamSession.init, StreamCall.start],
      by simp [StreamSession.init]⟩
  · exact fun _ _ _ safe moved => safe_step clean safe moved

/-- An upstream whose answer contains line breaks, an event of its own and quotes. -/
def trickyUpstream : Upstream where
  lines :=
    [⟨"data: " ++ Json.dumps .spaced (chunkObject 0 (.str "chatcmpl-1") (.str "gpt-4o") .null
        (.str "a\n\ndata: [DONE]\n\n\"b\"\r\n") .null none), 0⟩,
      ⟨"", 0⟩, ⟨"data: [DONE]", 0⟩]
  ending := .exhausted

theorem oneLine_trickyUpstream : ∀ line ∈ trickyUpstream.lines, OneLine line.text.toList := by
  have chunk (value : Json) : OneLine ("data: " ++ Json.dumps .spaced value).toList := by
    have mark : OneLine "data: ".toList := by decide
    have body : OneLine (Json.dumps .spaced value).toList := by
      rw [Json.dumps, String.toList_ofList]
      exact (Json.printable_print Json.Style.onLine_spaced value).oneLine
    rw [String.toList_append]
    exact mark.append body
  refine List.forall_mem_cons.mpr ⟨chunk _, ?_⟩
  decide +kernel

/-- The steps that relay them: the cache has no entry, and the consumer asks for the second line. -/
def trickyRun : List StreamAction :=
  [.reply .nil ⟨0, fun _ => 0⟩, .advance ⟨0, fun _ => 0⟩, .pull ⟨0, fun _ => 0⟩,
    .advance ⟨0, fun _ => 0⟩]

/-- Its lines are relayed one by one, and what the gateway builds of such texts is read back. -/
theorem sse_framing_tricky :
    Always (StreamSession.step demoEnvironment fun _ => trickyUpstream)
        (StreamSession.Framed fun _ => trickyUpstream)
        (.init demoEnvironment (demoRequest true) (buildRegistry { openaiApiKey := some "sk-demo" }) 1
          none) trickyRun ∧
      Encodes (sseChunk 0 (.str "chatcmpl-1") (.str "gpt-4o") .null (.str "a\n\ndata: [DONE]\n\n"))
        (chunkObject 0 (.str "chatcmpl-1") (.str "gpt-4o") .null (.str "a\n\ndata: [DONE]\n\n") .null
          none) ∧
      Encodes (sseError "\r\n\r\n" "upstream_error" (some ["openai"]) none none)
        (errorObject "\r\n\r\n" "upstream_error" (some ["openai"]) none none) := by
  obtain ⟨framed, chunks, errors⟩ := sse_framing demoEnvironment (fun _ => trickyUpstream)
    (fun _ => oneLine_trickyUpstream) (demoRequest true)
    (buildRegistry { openaiApiKey := some "sk-demo" }) 1 none trickyRun
  exact ⟨framed, chunks _ _ _ _ _ _ _ trivial trivial trivial trivial trivial (by simp),
    errors _ _ _ _ _⟩

end LlmGateway
