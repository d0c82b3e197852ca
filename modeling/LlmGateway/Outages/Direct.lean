import LlmGateway.Library.Runs
import LlmGateway.Streams.Session

/-!
# A provider call without the gateway's Redis

What a request would do if the gateway had no cache, no lock and no in-flight table: it calls its
candidates one after the other and records the usage of the one that serves it. Both
endpoints are compared with it when Redis is down.

* `directChat` is `execute_with_fallback` on what its providers answer, and the records.
* `StreamCall.direct` is the loop over `stream_chat_completion`, and the record. It
  rebuilds no response, because there is nowhere to put one.
-/

set_option autoImplicit false

namespace LlmGateway

open LlmGateway.Library

/-! ## Chats -/

/-- What `execute_with_fallback` has come to goes on with the next outcome. A chain that has
ended asks no further provider. -/
def chainStep (request : ChatRequest) : Attempt ⊕ ChainEnding → AttemptOutcome →
    Option (Attempt ⊕ ChainEnding)
  | .inl attempt, outcome => some (attempt.resume request outcome)
  | .inr _, _ => none

/-- The exception of an empty candidate list. -/
def noCandidate (model : String) : PyException :=
  .noProviderAvailable
    { message := noProviderMessage model "none"
      attemptedProviders := []
      lastError := none }

/-- What a chain that has ended means for its caller: the outcome and the records. -/
def directEnding (request : ChatRequest) (virtualKeyId : ℤ) (latencyMs : ℕ) :
    ChainEnding → Outcome × List UsageTask
  | .returned provider response =>
      match recordUsage (buildUsageRecord virtualKeyId provider.config.name
          (provider.config.pricingFor request.model) response.model response.usage latencyMs) with
      | .ok task => (.returned response, [task])
      | .error exception => (.raised exception, [])
  | .raised exception =>
      (.raised exception, failureRecords request virtualKeyId latencyMs (.raised exception))

/-- **A chat without Redis**, from what the providers answer one after the other. Nothing while
the chain has not ended. -/
def directChat (request : ChatRequest) (registry : ProviderRegistry) (virtualKeyId : ℤ)
    (latencyMs : ℕ) (outcomes : List AttemptOutcome) : Option (Outcome × List UsageTask) :=
  match selectProviders registry request.model with
  | [] =>
      some (directEnding request virtualKeyId latencyMs (.raised (noCandidate request.model)))
  | first :: rest =>
      match run (chainStep request) (.inl (.start first rest)) outcomes with
      | some (.inr ending) => some (directEnding request virtualKeyId latencyMs ending)
      | _ => none

/-! ## Streams -/

namespace StreamCall

variable (python : Interpreter) (call : StreamCall) (clock : StreamClock)

/-- A line of `provider`: its usage is taken, then it is yielded. -/
def directLine (provider : BaseProvider) (line : String) : StreamTurn :=
  let call := call.serving provider
  match captureUsage python line call.usage with
  | .error exception => { call := call.finish (.raised exception) }
  | .ok usage => { call := { call with usage, point := .relay }, emit := some line }

/-- The end of the stream: its usage is recorded. -/
def directEnd (provider : BaseProvider) : StreamTurn :=
  match scheduleStreamUsage call.virtualKeyId provider call.request.model call.usage
      clock.latencyMs with
  | .error exception => { call := call.finish (.raised exception) }
  | .ok task => { call := call.finish .returned, schedule := [task] }

/-- What the iterator of a provider does before its first line. -/
def directConnected (attempt : Attempt) : StreamEvent → StreamTurn
  | .line line => call.directLine python attempt.current line
  | .exhausted => call.tryNext clock attempt.attempted attempt.lastError attempt.rest
  | .providerError error => call.tryNext clock attempt.attempted (some error) attempt.rest
  | .exception exception => { call := call.finish (.raised exception) }

/-- What the iterator of the serving provider does after its first line. -/
def directRead (provider : BaseProvider) : StreamEvent → StreamTurn
  | .line line => call.directLine python provider line
  | .exhausted => call.directEnd clock provider
  | .providerError error => call.providerFailed clock error
  | .exception exception => { call := call.finish (.raised exception) }

/-- **One turn of a stream without Redis.** No reply is awaited. Closing a generator that has
ended does nothing. -/
def direct : StreamInput → Option StreamTurn
  | .reply _ => none
  | .event event =>
      match call.point, call.servingProvider with
      | .connect attempt, _ => some (call.directConnected python clock attempt event)
      | .read, some provider => some (call.directRead python clock provider event)
      | _, _ => none
  | .pull =>
      match call.point with
      | .relay => some { call := { call with point := .read } }
      | .report => some { call := call.finish .returned }
      | _ => none
  | .stop =>
      match call.point with
      | .done _ => some { call }
      | _ => some { call := call.finish .stopped }

end StreamCall

namespace StreamSession

variable (env : Environment) (upstreams : ℕ → Upstream)

/-- The first candidate has been asked for its first line. -/
def directInit (request : ChatRequest) (registry : ProviderRegistry) (virtualKeyId : ℤ)
    (requestId : Option String) (clock : StreamClock) : StreamSession :=
  let call := StreamCall.start request registry virtualKeyId requestId
  StreamSession.take upstreams { call } none (call.miss clock)

/-- **One step** of a session without Redis. -/
def directStep (s : StreamSession) (action : StreamAction) : Option StreamSession :=
  (s.input env action).bind fun (input, clock, relay) =>
    (s.call.direct env.python clock input).map (s.take upstreams relay)

end StreamSession

end LlmGateway
