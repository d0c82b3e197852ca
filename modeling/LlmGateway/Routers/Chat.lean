import LlmGateway.Providers.Streams
import LlmGateway.Services.Gateway

/-!
# The chat endpoint

`chat_completions` and `_stream_response` of `routers/chat.py`, past the guards.

* `failureRecords` and `answer` are what the endpoint does with the exception of
  `handle_chat_completion`.
* A call of `_stream_response` is a machine like a call of `handle_chat_completion`: a
  suspended generator (`StreamCall`) and the run up to its next suspension
  (`StreamCall.resume`). It is suspended at an `await` or at a `yield`. At a `yield` the
  consumer asks for the next line or stops.
-/

set_option autoImplicit false

namespace LlmGateway

open LlmGateway.Library (Json)
open LlmGateway.Library.Redis (Command Reply)

/-! ## Errors -/

/-- `_classify_upstream_error`: status, type, message and `Retry-After`. -/
def classifyUpstreamError (lastError : Option ProviderError) :
    ℕ × String × String × Option String :=
  match lastError with
  | none => (502, "upstream_error", "No provider available", none)
  | some error =>
      match error.kind with
      | .timeout => (504, "timeout_error", "Upstream provider timed out: " ++ error.message, none)
      | .auth => (502, "auth_error", "Upstream provider auth failed: " ++ error.message, none)
      | .rateLimited retryAfter =>
          (502, "rate_limit_error", "Upstream provider rate limited: " ++ error.message, retryAfter)
      | .generic => (502, "upstream_error", "Upstream provider error: " ++ error.message, none)

/-- The text for a model that no provider supports. -/
def unknownModelMessage (model : String) : String := "Model '" ++ model ++ "' does not exist"

/-! ## The non-streaming branch -/

/-- The response of the endpoint: a body, an error with its status, or an exception that
no handler of the endpoint takes. -/
inductive Answer where
  | body (response : ChatResponse)
  | error (status : ℕ) (type message : String) (attemptedProviders : Option (List String))
      (retryAfter : Option String)
  | unhandled (exception : PyException)
deriving DecidableEq

/-- What `chat_completions` answers when `handle_chat_completion` has ended. -/
def answer (request : ChatRequest) : Outcome → Answer
  | .returned response => .body response
  | .raised (.noProviderAvailable failure) =>
      if failure.attemptedProviders.isEmpty then
        .error 404 "model_not_found" (unknownModelMessage request.model) none none
      else
        let (status, type, message, retryAfter) := classifyUpstreamError failure.lastError
        .error status type message (some failure.attemptedProviders) retryAfter
  | .raised (.providerError error) =>
      .error 502 "upstream_error" ("Upstream provider error: " ++ error.message) none none
  | .raised exception => .unhandled exception

/-- The failed request that `chat_completions` records. -/
def failureRecords (request : ChatRequest) (virtualKeyId : ℤ) (latencyMs : ℕ) :
    Outcome → List UsageTask
  | .raised (.noProviderAvailable failure) =>
      if failure.attemptedProviders.isEmpty then
        [recordFailedRequest virtualKeyId request.model latencyMs "model_not_found"]
      else [recordFailedRequest virtualKeyId request.model latencyMs "upstream_error"]
  | .raised (.providerError _) =>
      [recordFailedRequest virtualKeyId request.model latencyMs "upstream_error"]
  | _ => []

/-- The tasks that a turn leaves behind, those of the endpoint included. -/
def Turn.tasks (turn : Turn) (latencyMs : ℕ) : List UsageTask :=
  turn.schedule ++
    match turn.call.point with
    | .done outcome => failureRecords turn.call.request turn.call.virtualKeyId latencyMs outcome
    | _ => []

/-! ## The streaming branch -/

/-- `_sse_error`. -/
def sseError (message errorType : String) (attemptedProviders : Option (List String))
    (retryAfter requestId : Option String) : String :=
  let body : List (String × Json) :=
    [("message", .str message), ("type", .str errorType)] ++
      (attemptedProviders.toList.map fun names => ("attempted_providers", .arr (names.map .str))) ++
      (retryAfter.toList.map fun text => ("retry_after", .str text)) ++
      ((requestId.filter fun text => !text.isEmpty).toList.map fun text => ("request_id", .str text))
  eventLine (Json.dumps .spaced (.obj [("error", .obj body)]))

/-- How `_stream_response` ends: it returns, its consumer stops it, or it raises. -/
inductive StreamEnding where
  | returned
  | stopped
  | raised (exception : PyException)
deriving DecidableEq

/-- Where a call of `_stream_response` is suspended.

* `cacheGet`, `discard`: `cache_service.get`;
* `replay`: at the `yield` of a replayed line, with the lines still to come;
* `connect`: awaiting the first line of a provider;
* `relay`: at the `yield` of a relayed line;
* `read`: awaiting the next line of the serving provider;
* `report`: at the `yield` of an error event;
* `cacheSet`: `cache_service.set`. -/
inductive StreamPoint where
  | cacheGet
  | discard
  | replay (rest : List String)
  | connect (attempt : Attempt)
  | relay
  | read
  | report
  | cacheSet
  | done (ending : StreamEnding)
deriving DecidableEq

/-- A call of `_stream_response`: its arguments, the request id that is bound to its
context, and its local variables. `written` is the response of the closing cache
write. -/
structure StreamCall where
  request : ChatRequest
  registry : ProviderRegistry
  virtualKeyId : ℤ
  requestId : Option String
  cached : Option ChatResponse := none
  servingProvider : Option BaseProvider := none
  usage : Usage := {}
  accumulator : ChunkAccumulator := {}
  success : Bool := false
  written : Option ChatResponse := none
  point : StreamPoint

/-- What makes a suspended generator go on: the reply of Redis, what the iterator of the
provider does, the consumer asking for a line, or the consumer stopping. -/
inductive StreamInput where
  | reply (reply : Reply)
  | event (event : StreamEvent)
  | pull
  | stop
deriving DecidableEq

/-- What the generator learns from the clock: the latency it reports, and the seconds it
reads one after the other. -/
structure StreamClock where
  latencyMs : ℕ
  created : ℕ → ℤ

/-- Where a generator stands after it went on: the line it yielded, the command it sent
and the tasks it scheduled. -/
structure StreamTurn where
  call : StreamCall
  emit : Option String := none
  send : Option Command := none
  schedule : List UsageTask := []

namespace StreamCall

variable (env : Environment) (call : StreamCall) (clock : StreamClock)

/-- `build_cache_key(request, namespace=virtual_key_id)`. -/
def cacheKey : String := buildCacheKey env call.request (some (.int call.virtualKeyId))

def finish (ending : StreamEnding) : StreamCall := { call with point := .done ending }

/-- A generator that has not started: it sends the read of its cache key. -/
def start (request : ChatRequest) (registry : ProviderRegistry) (virtualKeyId : ℤ)
    (requestId : Option String) : StreamCall :=
  { request, registry, virtualKeyId, requestId, point := .cacheGet }

/-- An error event, after the failed request was recorded. -/
def fail (message errorType : String) (recorded : String) (attemptedProviders : Option (List String))
    (retryAfter : Option String) : StreamTurn :=
  { call := { call with point := .report }
    emit := some (sseError message errorType attemptedProviders retryAfter call.requestId)
    schedule := [recordFailedRequest call.virtualKeyId call.request.model clock.latencyMs recorded] }

/-- `NoProviderAvailableError`, with the names that were attempted. -/
def noProvider (attempted : List String) (lastError : Option ProviderError) : StreamTurn :=
  if attempted.isEmpty then
    call.fail clock (unknownModelMessage call.request.model) "model_not_found" "model_not_found"
      none none
  else
    let (_, type, message, retryAfter) := classifyUpstreamError lastError
    call.fail clock message type "upstream_error" (some attempted) retryAfter

/-- The three branches for a provider error in the middle of a stream. -/
def providerFailed (error : ProviderError) : StreamTurn :=
  match error.kind with
  | .timeout =>
      call.fail clock ("Upstream provider timed out: " ++ error.message) "timeout_error"
        "timeout_error" none none
  | .rateLimited retryAfter =>
      call.fail clock ("Upstream provider rate limited: " ++ error.message) "rate_limit_error"
        "rate_limit_error" none retryAfter
  | .auth | .generic =>
      call.fail clock ("Upstream provider error: " ++ error.message) "upstream_error"
        "upstream_error" none none

/-- The next candidate, or `NoProviderAvailableError`. -/
def tryNext (attempted : List String) (lastError : Option ProviderError) :
    List BaseProvider → StreamTurn
  | next :: rest =>
      { call :=
          { call with
            point := .connect ⟨attempted ++ [next.config.name], lastError, next, rest⟩ } }
  | [] => call.noProvider clock attempted lastError

/-- A cache miss: the first candidate. -/
def miss : StreamTurn :=
  call.tryNext clock [] none (selectProviders call.registry call.request.model)

/-- A cache hit: the first line of the replay. -/
def hit (cached : ChatResponse) : StreamTurn :=
  let call := { call with cached := some cached }
  match synthesizeCachedStream cached clock.created with
  | .error exception => { call := call.finish (.raised exception) }
  | .ok [] => { call := call.finish .returned }
  | .ok (line :: rest) => { call := { call with point := .replay rest }, emit := some line }

/-- The consumer asks for the next line of a replay. -/
def replayNext (rest : List String) : StreamTurn :=
  match rest with
  | line :: rest => { call := { call with point := .replay rest }, emit := some line }
  | [] =>
      match call.cached with
      | none => { call := call.finish .returned }
      | some cached =>
          match scheduleCachedStreamUsage call.virtualKeyId cached clock.latencyMs with
          | .ok task => { call := call.finish .returned, schedule := [task] }
          | .error exception => { call := call.finish (.raised exception) }

/-- The body of the loop: a line of `provider` is looked at, then yielded. -/
def relayLine (provider : BaseProvider) (line : String) : StreamTurn :=
  let call := { call with servingProvider := some (call.servingProvider.getD provider) }
  match captureUsage env.python line call.usage with
  | .error exception => { call := call.finish (.raised exception) }
  | .ok usage =>
      match ChunkAccumulator.feed env.python line call.accumulator with
      | .error exception accumulator =>
          { call := { call with usage, accumulator }.finish (.raised exception) }
      | .ok _ accumulator =>
          { call := { call with usage, accumulator, point := .relay }, emit := some line }

/-- The closing cache write of a successful stream, if any chunk was seen. -/
def closing (schedule : List UsageTask) : StreamTurn :=
  if call.accumulator.sawAnyChunk then
    match call.accumulator.toResponse (clock.created 0) with
    | .error exception => { call := call.finish (.raised exception), schedule }
    | .ok response =>
        { call := { call with written := some response, point := .cacheSet }
          send := some (storeCommand env (call.cacheKey env) response)
          schedule }
  else { call := call.finish .returned, schedule }

/-- The loop has ended: `success = True`, then the `finally` block. -/
def succeed : StreamTurn :=
  let call := { call with success := true }
  match call.servingProvider with
  | none => call.closing env clock []
  | some provider =>
      match scheduleStreamUsage call.virtualKeyId provider call.request.model call.usage
          clock.latencyMs with
      | .error exception => { call := call.finish (.raised exception) }
      | .ok task => call.closing env clock [task]

/-- What the iterator of a provider does before its first line. -/
def connected (attempt : Attempt) : StreamEvent → StreamTurn
  | .line line => call.relayLine env attempt.current line
  | .exhausted => call.tryNext clock attempt.attempted attempt.lastError attempt.rest
  | .providerError error => call.tryNext clock attempt.attempted (some error) attempt.rest
  | .exception exception => { call := call.finish (.raised exception) }

/-- What the iterator of the serving provider does after its first line. -/
def readNext (provider : BaseProvider) : StreamEvent → StreamTurn
  | .line line => call.relayLine env provider line
  | .exhausted => call.succeed env clock
  | .providerError error => call.providerFailed clock error
  | .exception exception => { call := call.finish (.raised exception) }

/-- **One turn of a generator.** Nothing when the input is not what it is suspended at. -/
def resume : StreamInput → Option StreamTurn
  | .reply reply =>
      match call.point with
      | .cacheGet =>
          match reply with
          | .bulk raw =>
              match parseEntry env raw with
              | some cached => some (call.hit clock cached)
              | none =>
                  some
                    { call := { call with point := .discard }
                      send := some (.delete (call.cacheKey env)) }
          | _ => some (call.miss clock)
      | .discard => some (call.miss clock)
      | .cacheSet => some { call := call.finish .returned }
      | _ => none
  | .event event =>
      match call.point, call.servingProvider with
      | .connect attempt, _ => some (call.connected env clock attempt event)
      | .read, some provider => some (call.readNext env clock provider event)
      | _, _ => none
  | .pull =>
      match call.point with
      | .replay rest => some (call.replayNext clock rest)
      | .relay => some { call := { call with point := .read } }
      | .report => some { call := call.finish .returned }
      | _ => none
  | .stop =>
      match call.point with
      | .done _ => none
      | _ => some { call := call.finish .stopped }

end StreamCall

/-! ## What a turn of a generator can be -/

/-- The input with which a generator learns that the cache has nothing for it. -/
inductive StreamMisses (call : StreamCall) : StreamInput → Prop
  | read {reply : Reply} (point : call.point = .cacheGet) (absent : ∀ raw, reply ≠ .bulk raw) :
      StreamMisses call (.reply reply)
  | discarded {reply : Reply} (point : call.point = .discard) : StreamMisses call (.reply reply)

/-- The input with which a provider gives a line. -/
inductive Gains (call : StreamCall) (provider : BaseProvider) (line : String) : StreamInput → Prop
  | first {attempt : Attempt} (point : call.point = .connect attempt)
      (current : attempt.current = provider) : Gains call provider line (.event (.line line))
  | next (point : call.point = .read) (serving : call.servingProvider = some provider) :
      Gains call provider line (.event (.line line))

/-- The input with which a generator looks for another candidate; the exception of the
provider is the last error from now on. -/
inductive Seeks (call : StreamCall) (attempted : List String) (lastError : Option ProviderError)
    (candidates : List BaseProvider) : StreamInput → Prop
  | missed {input : StreamInput} (missed : StreamMisses call input) (start : attempted = [])
      (noError : lastError = none)
      (selected : selectProviders call.registry call.request.model = candidates) :
      Seeks call attempted lastError candidates input
  | empty {attempt : Attempt} (point : call.point = .connect attempt)
      (same : attempt.attempted = attempted) (kept : attempt.lastError = lastError)
      (rest : attempt.rest = candidates) :
      Seeks call attempted lastError candidates (.event .exhausted)
  | failed {attempt : Attempt} {error : ProviderError} (point : call.point = .connect attempt)
      (same : attempt.attempted = attempted) (last : lastError = some error)
      (rest : attempt.rest = candidates) :
      Seeks call attempted lastError candidates (.event (.providerError error))

/-- The generator while it handles a line of a provider. -/
def StreamCall.serving (call : StreamCall) (provider : BaseProvider) : StreamCall :=
  { call with servingProvider := some (call.servingProvider.getD provider) }

/-- **The turns of a generator**, one constructor for each thing that can happen. -/
inductive StreamTurns (env : Environment) (call : StreamCall) (clock : StreamClock) :
    StreamInput → StreamTurn → Prop
  | hit {raw : String} {cached : ChatResponse} {line : String} {rest : List String}
      (point : call.point = .cacheGet) (read : parseEntry env raw = some cached)
      (replay : synthesizeCachedStream cached clock.created = .ok (line :: rest)) :
      StreamTurns env call clock (.reply (.bulk raw))
        { call := { call with cached := some cached, point := .replay rest }, emit := some line }
  | hitCrash {raw : String} {cached : ChatResponse} {ending : StreamEnding}
      (point : call.point = .cacheGet) (read : parseEntry env raw = some cached)
      (empty : cached.choices = []) :
      StreamTurns env call clock (.reply (.bulk raw))
        { call := { call with cached := some cached }.finish ending }
  | unreadable {raw : String} (point : call.point = .cacheGet)
      (unread : parseEntry env raw = none) :
      StreamTurns env call clock (.reply (.bulk raw))
        { call := { call with point := .discard }, send := some (.delete (call.cacheKey env)) }
  | connect {input : StreamInput} {attempted : List String} {lastError : Option ProviderError}
      {next : BaseProvider} {rest : List BaseProvider}
      (seeks : Seeks call attempted lastError (next :: rest) input) :
      StreamTurns env call clock input
        { call := { call with
            point := .connect ⟨attempted ++ [next.config.name], lastError, next, rest⟩ } }
  | unavailable {input : StreamInput} {attempted : List String}
      {lastError : Option ProviderError} {event errorType : String}
      (seeks : Seeks call attempted lastError [] input) :
      StreamTurns env call clock input
        { call := { call with point := .report }, emit := some event,
          schedule := [recordFailedRequest call.virtualKeyId call.request.model clock.latencyMs
            errorType] }
  | replay {line : String} {rest : List String} (point : call.point = .replay (line :: rest)) :
      StreamTurns env call clock .pull
        { call := { call with point := .replay rest }, emit := some line }
  | replayed {cached : ChatResponse} (point : call.point = .replay [])
      (hit : call.cached = some cached)
      (emitted : emitMetric (cacheRecord call.virtualKeyId cached clock.latencyMs) = .ok ()) :
      StreamTurns env call clock .pull
        { call := call.finish .returned,
          schedule := [.persistUsage (cacheRecord call.virtualKeyId cached clock.latencyMs)] }
  | replayRefused {cached : ChatResponse} {exception : PyException} (point : call.point = .replay [])
      (hit : call.cached = some cached)
      (failed : emitMetric (cacheRecord call.virtualKeyId cached clock.latencyMs) = .error exception) :
      StreamTurns env call clock .pull { call := call.finish (.raised exception) }
  | replayLost (point : call.point = .replay []) (lost : call.cached = none) :
      StreamTurns env call clock .pull { call := call.finish .returned }
  | relay {provider : BaseProvider} {line : String} {input : StreamInput} {usage : Usage}
      {accumulator : ChunkAccumulator} (gains : Gains call provider line input)
      (captured : captureUsage env.python line call.usage = .ok usage)
      (fed : ChunkAccumulator.feed env.python line call.accumulator = .ok () accumulator) :
      StreamTurns env call clock input
        { call := { call.serving provider with usage, accumulator, point := .relay },
          emit := some line }
  | relayCrash {provider : BaseProvider} {line : String} {input : StreamInput} {usage : Usage}
      {accumulator : ChunkAccumulator} {exception : PyException}
      (gains : Gains call provider line input)
      (malformed : captureUsage env.python line call.usage = .error exception ∨
        ∃ after, ChunkAccumulator.feed env.python line call.accumulator = .error exception after) :
      StreamTurns env call clock input
        { call := { call.serving provider with usage, accumulator }.finish (.raised exception) }
  | crash {exception : PyException}
      (point : (∃ attempt, call.point = .connect attempt) ∨ call.point = .read) :
      StreamTurns env call clock (.event (.exception exception))
        { call := call.finish (.raised exception) }
  | interrupted {error : ProviderError} {event errorType : String} (point : call.point = .read) :
      StreamTurns env call clock (.event (.providerError error))
        { call := { call with point := .report }, emit := some event,
          schedule := [recordFailedRequest call.virtualKeyId call.request.model clock.latencyMs
            errorType] }
  | stored {provider : BaseProvider} {response : ChatResponse} (point : call.point = .read)
      (serving : call.servingProvider = some provider)
      (emitted : emitMetric (streamRecord call.virtualKeyId provider call.request.model call.usage
        clock.latencyMs) = .ok ())
      (seen : call.accumulator.sawAnyChunk = true)
      (built : call.accumulator.toResponse (clock.created 0) = .ok response) :
      StreamTurns env call clock (.event .exhausted)
        { call := { call with success := true, written := some response, point := .cacheSet },
          send := some (storeCommand env (call.cacheKey env) response),
          schedule := [.persistUsage (streamRecord call.virtualKeyId provider call.request.model
            call.usage clock.latencyMs)] }
  | ended {provider : BaseProvider} {ending : StreamEnding} (point : call.point = .read)
      (serving : call.servingProvider = some provider)
      (emitted : emitMetric (streamRecord call.virtualKeyId provider call.request.model call.usage
        clock.latencyMs) = .ok ())
      (unstored : call.accumulator.sawAnyChunk = false ∨
        ∃ exception, call.accumulator.toResponse (clock.created 0) = .error exception) :
      StreamTurns env call clock (.event .exhausted)
        { call := { call with success := true }.finish ending,
          schedule := [.persistUsage (streamRecord call.virtualKeyId provider call.request.model
            call.usage clock.latencyMs)] }
  | refused {provider : BaseProvider} {exception : PyException} (point : call.point = .read)
      (serving : call.servingProvider = some provider)
      (failed : emitMetric (streamRecord call.virtualKeyId provider call.request.model call.usage
        clock.latencyMs) = .error exception) :
      StreamTurns env call clock (.event .exhausted)
        { call := { call with success := true }.finish (.raised exception) }
  | pulled (point : call.point = .relay) :
      StreamTurns env call clock .pull { call := { call with point := .read } }
  | reported (point : call.point = .report) :
      StreamTurns env call clock .pull { call := call.finish .returned }
  | saved {reply : Reply} (point : call.point = .cacheSet) :
      StreamTurns env call clock (.reply reply) { call := call.finish .returned }
  | stopped (running : ∀ ending, call.point ≠ .done ending) :
      StreamTurns env call clock .stop { call := call.finish .stopped }

section Pieces

variable {env : Environment} {call : StreamCall} {clock : StreamClock} {input : StreamInput}

theorem streamTurns_tryNext {attempted : List String} {lastError : Option ProviderError}
    {candidates : List BaseProvider} (seeks : Seeks call attempted lastError candidates input) :
    StreamTurns env call clock input (call.tryNext clock attempted lastError candidates) := by
  cases candidates with
  | cons next rest => exact .connect seeks
  | nil =>
      simp only [StreamCall.tryNext, StreamCall.noProvider]
      split
      · exact .unavailable seeks
      · exact .unavailable seeks

theorem streamTurns_relayLine {provider : BaseProvider} {line : String}
    (gains : Gains call provider line input) :
    StreamTurns env call clock input (call.relayLine env provider line) := by
  simp only [StreamCall.relayLine]
  split
  · rename_i exception malformed
    have crash := @StreamTurns.relayCrash env call clock provider line input call.usage
      call.accumulator exception gains (.inl malformed)
    exact crash
  · rename_i usage captured
    split
    · rename_i exception accumulator malformed
      exact .relayCrash gains (.inr ⟨_, malformed⟩)
    · rename_i accumulator fed
      exact .relay gains captured fed

theorem streamTurns_hit {raw : String} {cached : ChatResponse} (point : call.point = .cacheGet)
    (read : parseEntry env raw = some cached) :
    StreamTurns env call clock (.reply (.bulk raw)) (call.hit clock cached) := by
  simp only [StreamCall.hit]
  split
  · rename_i exception failed
    refine .hitCrash point read ?_
    unfold synthesizeCachedStream at failed
    split at failed
    · assumption
    · cases failed
  · rename_i empty
    unfold synthesizeCachedStream at empty
    split at empty <;> cases empty
  · rename_i line rest replay
    exact .hit point read replay

theorem streamTurns_replayNext {rest : List String} (point : call.point = .replay rest) :
    StreamTurns env call clock .pull (call.replayNext clock rest) := by
  cases rest with
  | cons line rest => exact .replay point
  | nil =>
      simp only [StreamCall.replayNext]
      split
      · rename_i lost
        exact .replayLost point lost
      · rename_i cached hit
        simp only [scheduleCachedStreamUsage, recordCacheStyleUsage, recordUsage]
        rcases emitMetric_cases (cacheRecord call.virtualKeyId cached clock.latencyMs) with
          emitted | ⟨exception, failed⟩
        · rw [emitted]
          exact .replayed point hit emitted
        · rw [failed]
          exact .replayRefused point hit failed

theorem streamTurns_succeed {provider : BaseProvider} (point : call.point = .read)
    (serving : call.servingProvider = some provider) :
    StreamTurns env call clock (.event .exhausted) (call.succeed env clock) := by
  unfold StreamCall.succeed
  dsimp only
  split
  · rename_i lost
    rw [serving] at lost
    cases lost
  · rename_i served same
    obtain rfl : provider = served := Option.some.inj (serving.symm.trans same)
    simp only [scheduleStreamUsage, recordUsage]
    rcases emitMetric_cases (streamRecord call.virtualKeyId provider call.request.model call.usage
      clock.latencyMs) with emitted | ⟨exception, failed⟩
    · rw [emitted]
      simp only [StreamCall.closing, bind, Except.bind, pure, Except.pure]
      split
      · rename_i seen
        split
        · rename_i exception unbuilt
          exact .ended point serving emitted (.inr ⟨exception, unbuilt⟩)
        · rename_i response built
          exact .stored point serving emitted seen built
      · rename_i unseen
        exact .ended point serving emitted (.inl (Bool.eq_false_of_not_eq_true unseen))
    · rw [failed]
      exact .refused point serving failed

/-- **Nothing else happens**: every turn of a generator is one of the turns listed. -/
theorem streamTurns_of_resume {turn : StreamTurn}
    (resumed : call.resume env clock input = some turn) : StreamTurns env call clock input turn := by
  cases input with
  | reply reply =>
      simp only [StreamCall.resume] at resumed
      split at resumed
      · rename_i point
        split at resumed
        · split at resumed
          · rename_i cached read
            cases resumed
            exact streamTurns_hit point read
          · rename_i unread
            cases resumed
            exact .unreadable point unread
        · rename_i absent
          cases resumed
          exact streamTurns_tryNext (.missed (.read point fun raw same => absent raw same) rfl rfl rfl)
      · rename_i point
        cases resumed
        exact streamTurns_tryNext (.missed (.discarded point) rfl rfl rfl)
      · rename_i point
        cases resumed
        exact .saved point
      · cases resumed
  | event event =>
      simp only [StreamCall.resume] at resumed
      split at resumed
      · rename_i attempt point
        cases resumed
        cases event with
        | line line => exact streamTurns_relayLine (.first point rfl)
        | exhausted => exact streamTurns_tryNext (.empty point rfl rfl rfl)
        | providerError error => exact streamTurns_tryNext (.failed point rfl rfl rfl)
        | exception exception => exact .crash (.inl ⟨attempt, point⟩)
      · rename_i provider point serving
        cases resumed
        cases event with
        | line line => exact streamTurns_relayLine (.next point serving)
        | exhausted => exact streamTurns_succeed point serving
        | providerError error =>
            simp only [StreamCall.readNext, StreamCall.providerFailed]
            split <;> exact .interrupted point
        | exception exception => exact .crash (.inr point)
      · cases resumed
  | pull =>
      simp only [StreamCall.resume] at resumed
      split at resumed
      · rename_i rest point
        cases resumed
        exact streamTurns_replayNext point
      · rename_i point
        cases resumed
        exact .pulled point
      · rename_i point
        cases resumed
        exact .reported point
      · cases resumed
  | stop =>
      simp only [StreamCall.resume] at resumed
      split at resumed
      · cases resumed
      · rename_i running
        cases resumed
        exact .stopped running

end Pieces

end LlmGateway
