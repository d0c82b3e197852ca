import LlmGateway.Engines.Malformed
import LlmGateway.Engines.Policy
import LlmGateway.Streams.Session

/-!
# What a client learns of its upstreams

`_post`, `_iter_sse_lines` and `_provider_error` of `providers/base.py`: an exchange with an upstream
over HTTP comes to a body, or to one of the exceptions of `httpx` that the adapters map to the
exceptions of the gateway (`HttpError`). A fallback engine keeps the last of them, and the endpoint
reports it.

* A chat is answered by the first candidate that does not fail, if the counters take the counts of its
  response. If all fail, the last one's failure is the error of the answer (`chat_settled`).
* The report names the failure by its status and its type, and a stream reports what a chat does
  (`failures_reported`).
-/

set_option autoImplicit false

namespace LlmGateway

open LlmGateway.Library

/-! ## Exchanges over HTTP -/

/-- A `RequestError` of `httpx`: a `TimeoutException`, or another one, by its text. -/
inductive TransportError where
  | timeout
  | other (text : String)
deriving DecidableEq

/-- What `_post` and `_iter_sse_lines` catch: a `RequestError`, or the `HTTPStatusError` of a reply with
its `retry-after` header. -/
inductive HttpError where
  | transport (error : TransportError)
  | status (code : ℕ) (retryAfter : Option String)
deriving DecidableEq

/-- A reply of an upstream, with whatever stands for its body. -/
structure HttpReply (β : Type) where
  status : ℕ
  retryAfter : Option String := none
  body : β

/-- `raise_for_status` passes the statuses of a success and no others. -/
def HttpReply.raiseForStatus {β : Type} (reply : HttpReply β) : Except HttpError β :=
  if 200 ≤ reply.status ∧ reply.status ≤ 299 then .ok reply.body
  else .error (.status reply.status reply.retryAfter)

/-- One exchange: the transport fails, or the upstream replies. -/
inductive Exchange (β : Type) where
  | raised (error : TransportError)
  | replied (reply : HttpReply β)

/-- The request and `raise_for_status`. -/
def Exchange.result {β : Type} : Exchange β → Except HttpError β
  | raised error => .error (.transport error)
  | replied reply => reply.raiseForStatus

/-- A body that is read line by line. The transport may fail in the middle of it. -/
structure LineBody where
  lines : List UpstreamLine
  failure : Option TransportError := none

namespace BaseProvider

variable (provider : BaseProvider) (seconds : ℚ → String)

/-- `_provider_error`; the text of a number of seconds is a parameter. -/
def providerError : HttpError → ProviderError
  | .transport .timeout =>
      ⟨.timeout, "Provider '" ++ provider.config.name ++ "' timed out after " ++
        seconds provider.config.timeout ++ "s", provider.config.name⟩
  | .status code retryAfter =>
      if code = 429 then
        ⟨.rateLimited retryAfter, "Provider '" ++ provider.config.name ++ "' rate limited (429)",
          provider.config.name⟩
      else if code = 401 then
        ⟨.auth, "Provider '" ++ provider.config.name ++ "' auth failed (401)", provider.config.name⟩
      else
        ⟨.generic, "Provider '" ++ provider.config.name ++ "' returned HTTP " ++ toString code,
          provider.config.name⟩
  | .transport (.other text) =>
      ⟨.generic, "Provider '" ++ provider.config.name ++ "' request failed: " ++ text,
        provider.config.name⟩

/-- `chat_completion`: `_post`, then `_parse_response`. -/
def chatOutcome (field : IntField) (text : PyException → String) (created : ℤ)
    (exchange : Exchange Decoded) : AttemptOutcome :=
  match exchange.result with
  | .error error => .providerError (provider.providerError seconds error)
  | .ok body => outcomeOf (provider.parseDecoded field text created body)

/-- `_iter_sse_lines`: what an adapter reads of a reply. -/
def upstream (exchange : Exchange LineBody) : Upstream :=
  match exchange.result with
  | .error error => ⟨[], .failed (provider.providerError seconds error)⟩
  | .ok body =>
      ⟨body.lines,
        match body.failure with
        | none => .exhausted
        | some error => .failed (provider.providerError seconds (.transport error))⟩

end BaseProvider

/-! ## Answers of chats -/

/-- How `handle_chat_completion` ends when its chain has ended: it records the usage of a response, and
the counters may refuse it. -/
def ChainEnding.outcome (virtualKeyId : ℤ) (model : String) (latencyMs : ℕ) : ChainEnding → Outcome
  | returned provider response =>
      match recordUsage (buildUsageRecord virtualKeyId provider.config.name
          (provider.config.pricingFor model) response.model response.usage latencyMs) with
      | .ok _ => .returned response
      | .error exception => .raised exception
  | raised exception => .raised exception

/-- The last step of a call ends it so. -/
theorem settle_outcome (call : ChatCall) (process : Process) (clock : Clock) (provider : BaseProvider)
    (response : ChatResponse) :
    (call.settle process clock provider response).call =
      call.finish ((ChainEnding.returned provider response).outcome call.virtualKeyId call.request.model
        clock.latencyMs) := by
  unfold ChatCall.settle ChainEnding.outcome
  dsimp only
  split <;> simp_all

/-- **What a chat comes to** by what its candidates do. -/
inductive Settled (request : ChatRequest) (virtualKeyId : ℤ) (latencyMs : ℕ)
    (outcome : BaseProvider → AttemptOutcome) (candidates : List BaseProvider) : Answer → Prop
  | unknown (none : candidates = []) :
      Settled request virtualKeyId latencyMs outcome candidates
        (.error 404 "model_not_found" (unknownModelMessage request.model) .none .none)
  | served {before after : List BaseProvider} {provider : BaseProvider}
      {errors : List ProviderError} {response : ChatResponse}
      (order : candidates = before ++ provider :: after)
      (failed : Failed .providerError outcome before errors)
      (answers : outcome provider = .answered response)
      (counted : emitMetric (buildUsageRecord virtualKeyId provider.config.name
        (provider.config.pricingFor request.model) response.model response.usage latencyMs) = .ok ()) :
      Settled request virtualKeyId latencyMs outcome candidates (.body response)
  | uncounted {before after : List BaseProvider} {provider : BaseProvider}
      {errors : List ProviderError} {response : ChatResponse} {exception : PyException}
      (order : candidates = before ++ provider :: after)
      (failed : Failed .providerError outcome before errors)
      (answers : outcome provider = .answered response)
      (refused : emitMetric (buildUsageRecord virtualKeyId provider.config.name
        (provider.config.pricingFor request.model) response.model response.usage latencyMs) =
          .error exception) :
      Settled request virtualKeyId latencyMs outcome candidates (.unhandled exception)
  | escaped {before after : List BaseProvider} {provider : BaseProvider}
      {errors : List ProviderError} {name : String}
      (order : candidates = before ++ provider :: after)
      (failed : Failed .providerError outcome before errors)
      (raises : outcome provider = .exception name) :
      Settled request virtualKeyId latencyMs outcome candidates (.unhandled (.other name))
  | unavailable {before : List BaseProvider} {last : BaseProvider} {errors : List ProviderError}
      {error : ProviderError} (order : candidates = before ++ [last])
      (failed : Failed .providerError outcome before errors)
      (fails : outcome last = .providerError error) :
      Settled request virtualKeyId latencyMs outcome candidates
        (.error (classifyUpstreamError (some error)).1 (classifyUpstreamError (some error)).2.1
          (classifyUpstreamError (some error)).2.2.1 (some (candidates.map (·.config.name)))
          (classifyUpstreamError (some error)).2.2.2)

section Chats

variable {request : ChatRequest} {virtualKeyId : ℤ} {latencyMs : ℕ}
  {outcome : BaseProvider → AttemptOutcome}

/-- The last error is that of the last candidate. -/
theorem Failed.getLast? {candidates : List BaseProvider} {errors : List ProviderError}
    (failed : Failed .providerError outcome candidates errors) :
    (candidates = [] ∧ errors = []) ∨
      ∃ before last others error, candidates = before ++ [last] ∧ errors = others ++ [error] ∧
        Failed .providerError outcome before others ∧ outcome last = .providerError error := by
  induction failed with
  | nil => exact .inl ⟨rfl, rfl⟩
  | @cons head error rest errors fails failed ih =>
      rcases ih with ⟨rfl, rfl⟩ | ⟨before, last, others, final, rfl, rfl, earlier, final_fails⟩
      · exact .inr ⟨[], head, [], error, rfl, rfl, .nil, fails⟩
      · exact .inr ⟨head :: before, last, error :: others, final, rfl, rfl, .cons fails earlier,
          final_fails⟩

/-- The endpoint reports the last error of a chain in which all candidates failed. -/
theorem settled_noProviderLeft {candidates : List BaseProvider} {errors : List ProviderError}
    (failed : Failed .providerError outcome candidates errors) :
    Settled request virtualKeyId latencyMs outcome candidates
      (answer request (.raised (.noProviderAvailable
        (noProviderLeft request (candidates.map (·.config.name)) errors.getLast?)))) := by
  rcases failed.getLast? with ⟨rfl, rfl⟩ | ⟨before, last, others, error, rfl, rfl, earlier, fails⟩
  · exact .unknown rfl
  · have named : ((before ++ [last]).map (·.config.name)).isEmpty = false := by simp
    simp only [answer, noProviderLeft, named, Bool.false_eq_true, if_false, List.getLast?_append,
      List.getLast?_singleton, Option.some_or]
    exact .unavailable rfl earlier fails

/-- The answer of a candidate settles a chat, one way or the other. -/
theorem settled_answered {candidates before after : List BaseProvider} {provider : BaseProvider}
    {errors : List ProviderError} {response : ChatResponse}
    (order : candidates = before ++ provider :: after)
    (failed : Failed .providerError outcome before errors)
    (answers : outcome provider = .answered response) :
    Settled request virtualKeyId latencyMs outcome candidates
      (answer request ((ChainEnding.returned provider response).outcome virtualKeyId request.model
        latencyMs)) := by
  cases emitted : emitMetric (buildUsageRecord virtualKeyId provider.config.name
      (provider.config.pricingFor request.model) response.model response.usage latencyMs) with
  | ok =>
      simp only [ChainEnding.outcome, recordUsage, emitted, bind, Except.bind, pure, Except.pure]
      exact .served order failed answers emitted
  | error exception =>
      have unhandled : answer request (.raised exception) = .unhandled exception := by
        rcases counterError_emitMetric emitted with rfl | rfl <;> rfl
      simp only [ChainEnding.outcome, recordUsage, emitted, bind, Except.bind, unhandled]
      exact .uncounted order failed answers emitted

/-- An engine is settled by the first candidate that does not fail, or by the failure of the last. -/
theorem engine_settled (request : ChatRequest) (virtualKeyId : ℤ) (latencyMs : ℕ)
    (outcome : BaseProvider → AttemptOutcome)
    (candidates : List BaseProvider) :
    ∃ contacted ending,
      ChatRuns request outcome (executeWithFallback request candidates) contacted ending ∧
        contacted <+: candidates ∧ Settled request virtualKeyId latencyMs outcome candidates
          (answer request (ending.outcome virtualKeyId request.model latencyMs)) := by
  rw [executeWithFallback_eq]
  rcases failed_or_settles AttemptOutcome.providerError outcome candidates with
    ⟨errors, failed⟩ | ⟨before, provider, after, errors, rfl, failed, settles⟩
  · have run := @ChatRuns.failed request outcome _ _ failed [] none [] [] _ (.ended _)
    rw [List.append_nil, List.nil_append, Option.or_none] at run
    exact ⟨_, _, run, List.prefix_rfl, settled_noProviderLeft failed⟩
  · cases came : outcome provider with
    | providerError error => exact absurd came (settles error)
    | answered response =>
        refine ⟨before ++ [provider], .returned provider response,
          ChatRuns.failed failed (.called ?_), ⟨after, by simp⟩,
          settled_answered rfl failed came⟩
        simp only [came, Attempt.resume]
        exact .ended _
    | exception name =>
        refine ⟨before ++ [provider], .raised (.other name),
          ChatRuns.failed failed (.called ?_), ⟨after, by simp⟩, .escaped rfl failed came⟩
        simp only [came, Attempt.resume]
        exact .ended _

end Chats

/-! ## Events of streams -/

/-- An upstream of a provider that fails before its adapter has made a line of it. -/
def FailsFirst (python : Interpreter) (provider : BaseProvider) (error : ProviderError)
    (upstream : Upstream) : Prop :=
  upstream.ending = .failed error ∧ ∀ line ∈ upstream.lines, provider.adapter.Silent python line

theorem next_failsFirst {python : Interpreter} {provider : BaseProvider} {error : ProviderError}
    {upstream : Upstream} (fails : FailsFirst python provider error upstream) (state : AnthropicState) :
    (provider.adapter.next python upstream.ending state upstream.lines).1 = .providerError error := by
  obtain ⟨lines, ending⟩ := upstream
  obtain ⟨rfl, silent⟩ := fails
  induction lines with
  | nil => rfl
  | cons line rest ih =>
      rw [Adapter.next, readLine_silent (silent line (List.mem_cons_self ..)) state]
      exact ih fun later member => silent later (List.mem_cons_of_mem _ member)

/-- The exception that the engine has kept after some candidates. -/
def lastFailure (errors : BaseProvider → ProviderError) (candidates : List BaseProvider) :
    Option ProviderError :=
  candidates.getLast?.map errors

/-- The event that reports a chain in which all candidates failed. -/
def reportEvent (request : ChatRequest) (candidates : List BaseProvider)
    (lastError : Option ProviderError) (requestId : Option String) : String :=
  if candidates = [] then
    sseError (unknownModelMessage request.model) "model_not_found" none none requestId
  else
    let (_, type, message, retryAfter) := classifyUpstreamError lastError
    sseError message type (some (candidates.map (·.config.name))) retryAfter requestId

/-- A session that has found nothing in the cache and whose candidates all fail. -/
inductive Failing (errors : BaseProvider → ProviderError) (candidates : List BaseProvider)
    (upstreams : ℕ → Upstream) (event : String) (s : StreamSession) : Prop
  | asking (point : s.call.point = .cacheGet ∨ s.call.point = .discard) (opened : s.opened = 0)
      (silent : s.output = [])
  | trying {before rest : List BaseProvider} {current : BaseProvider}
      (split : candidates = before ++ current :: rest)
      (point : s.call.point =
        .connect ⟨(before ++ [current]).map (·.config.name), lastFailure errors before, current, rest⟩)
      (opened : s.opened = before.length + 1)
      (relay : s.relay =
        some (.start current.adapter s.call.request.model (upstreams before.length)))
      (silent : s.output = [])
  | reported (point : s.call.point = .report) (told : s.output = [event])
  | ended {ending : StreamEnding} (point : s.call.point = .done ending)
      (told : s.output = [event] ∨ ending = .stopped ∧ s.output = [])
  | replaying (hit : s.call.cached ≠ none)

section Streams

variable {env : Environment} {errors : BaseProvider → ProviderError} {candidates : List BaseProvider}
  {upstreams : ℕ → Upstream} {s next : StreamSession} {action : StreamAction}

/-- The generator turns to the candidates that are left, none of which has answered. -/
theorem failing_tryNext {call : StreamCall} {clock : StreamClock} {relay : Option Relay}
    {before rest : List BaseProvider} (split : candidates = before ++ rest)
    (opened : s.opened = before.length) (silent : s.output = []) :
    Failing errors candidates upstreams
      (reportEvent call.request candidates (lastFailure errors candidates) call.requestId)
      (s.take upstreams relay
        (call.tryNext clock (before.map (·.config.name)) (lastFailure errors before) rest)) := by
  cases rest with
  | cons next later =>
      refine @Failing.trying errors candidates upstreams _ _ before later next split ?_ ?_ ?_ ?_
      · simp [StreamCall.tryNext]
      · simp [StreamCall.tryNext, StreamSession.take, opened]
      · simp [StreamCall.tryNext, StreamSession.take, opened]
      · simp [StreamCall.tryNext, silent]
  | nil =>
      rw [List.append_nil] at split
      subst split
      cases candidates with
      | nil => exact .reported rfl (by simp [StreamCall.tryNext, StreamCall.noProvider, StreamCall.fail,
          silent, reportEvent])
      | cons first others =>
          refine .reported rfl ?_
          simp [StreamCall.tryNext, StreamCall.noProvider, StreamCall.fail, silent, reportEvent]

theorem hit_cached (call : StreamCall) (clock : StreamClock) (cached : ChatResponse) :
    (call.hit clock cached).call.cached = some cached := by
  unfold StreamCall.hit
  dsimp only
  split <;> rfl

/-- A generator that replays an entry goes on replaying it. -/
theorem replaying_of_turns {call : StreamCall} {clock : StreamClock} {input : StreamInput}
    {turn : StreamTurn} (turns : StreamTurns env call clock input turn) (hit : call.cached ≠ none) :
    turn.call.cached ≠ none := by
  cases turns with
  | hit | hitCrash => exact Option.some_ne_none _
  | _ => exact hit

/-- The session is of this request, to this registry. -/
structure StreamSession.Of (request : ChatRequest) (registry : ProviderRegistry)
    (requestId : Option String) (s : StreamSession) : Prop where
  request : s.call.request = request
  registry : s.call.registry = registry
  requestId : s.call.requestId = requestId

theorem of_step {request : ChatRequest} {registry : ProviderRegistry} {requestId : Option String}
    (of : s.Of request registry requestId) (moved : s.step env upstreams action = some next) :
    next.Of request registry requestId := by
  obtain ⟨input, clock, relay, turn, -, resumed, rfl⟩ := turn_of_streamStep moved
  have turns := streamTurns_of_resume resumed
  rw [← of.request, ← of.registry, ← of.requestId]
  refine ⟨?_, ?_, ?_⟩ <;> rw [take_call]
  · cases turns <;> rfl
  · cases turns <;> rfl
  · cases turns <;> rfl

/-- **One step** of a session whose candidates all fail. -/
theorem failing_step {request : ChatRequest} {registry : ProviderRegistry} {requestId : Option String}
    (selected : selectProviders registry request.model = candidates)
    (fail : ∀ i provider, candidates[i]? = some provider →
      FailsFirst env.python provider (errors provider) (upstreams i))
    (of : s.Of request registry requestId)
    (failing : Failing errors candidates upstreams
      (reportEvent request candidates (lastFailure errors candidates) requestId) s)
    (moved : s.step env upstreams action = some next) :
    Failing errors candidates upstreams
      (reportEvent request candidates (lastFailure errors candidates) requestId) next := by
  obtain ⟨input, clock, relay, turn, given, resumed, rfl⟩ := turn_of_streamStep moved
  obtain ⟨rfl, rfl, rfl⟩ := of
  have miss (opened : s.opened = 0) (silent : s.output = []) :
      Failing errors candidates upstreams
        (reportEvent s.call.request candidates (lastFailure errors candidates) s.call.requestId)
        (s.take upstreams relay (s.call.miss clock)) := by
    rw [StreamCall.miss, selected]
    exact @failing_tryNext errors candidates upstreams s s.call clock relay [] candidates rfl opened silent
  have turns := streamTurns_of_resume resumed
  have stopped (quiet : s.output = []) (same : turn = { call := s.call.finish .stopped }) :
      Failing errors candidates upstreams
        (reportEvent s.call.request candidates (lastFailure errors candidates) s.call.requestId)
        (s.take upstreams relay turn) := by
    subst same
    exact .ended rfl (.inr ⟨rfl, by simpa using quiet⟩)
  cases failing with
  | replaying hit => exact .replaying (by rw [take_call]; exact replaying_of_turns turns hit)
  | asking point opened silent =>
      cases input with
      | reply reply =>
          rcases point with point | point
          · cases reply with
            | bulk raw =>
                cases read : parseEntry env raw with
                | some cached =>
                    simp only [StreamCall.resume, point, read, Option.some.injEq] at resumed
                    subst resumed
                    exact .replaying (by rw [take_call, hit_cached]; exact Option.some_ne_none _)
                | none =>
                    simp only [StreamCall.resume, point, read, Option.some.injEq] at resumed
                    subst resumed
                    refine .asking (.inr rfl) ?_ (by simpa using silent)
                    simpa [StreamSession.take] using opened
            | _ =>
                simp only [StreamCall.resume, point, Option.some.injEq] at resumed
                exact resumed ▸ miss opened silent
          · simp only [StreamCall.resume, point, Option.some.injEq] at resumed
            exact resumed ▸ miss opened silent
      | event event => rcases point with point | point <;> simp [StreamCall.resume, point] at resumed
      | pull => rcases point with point | point <;> simp [StreamCall.resume, point] at resumed
      | stop =>
          rcases point with point | point <;>
            exact stopped silent (by simpa [StreamCall.resume, point, eq_comm] using resumed)
  | @trying before rest current split point opened found silent =>
      cases input with
      | event event =>
          obtain ⟨old, rfl, there, came⟩ := advance_of_event given
          cases found.symm.trans there
          have listed : candidates[before.length]? = some current := by simp [split]
          have failed : event = .providerError (errors current) :=
            came.symm.trans (next_failsFirst (fail _ _ listed) _)
          subst failed
          simp only [StreamCall.resume, point, StreamCall.connected, Option.some.injEq] at resumed
          subst resumed
          have later : candidates = (before ++ [current]) ++ rest := by simp [split]
          have last : lastFailure errors (before ++ [current]) = some (errors current) := by
            simp [lastFailure]
          rw [← last]
          exact failing_tryNext later (by simp [opened]) silent
      | reply reply => simp [StreamCall.resume, point] at resumed
      | pull => simp [StreamCall.resume, point] at resumed
      | stop => exact stopped silent (by simpa [StreamCall.resume, point, eq_comm] using resumed)
  | reported point told =>
      cases input with
      | event event => simp [StreamCall.resume, point] at resumed
      | reply reply => simp [StreamCall.resume, point] at resumed
      | pull | stop =>
          simp only [StreamCall.resume, point, Option.some.injEq] at resumed
          subst resumed
          exact .ended rfl (.inl (by simpa using told))
  | ended point told =>
      cases input <;> simp [StreamCall.resume, point] at resumed

/-- **A run** of such a session. -/
theorem failing_run {request : ChatRequest} {registry : ProviderRegistry} {requestId : Option String}
    (selected : selectProviders registry request.model = candidates)
    (fail : ∀ i provider, candidates[i]? = some provider →
      FailsFirst env.python provider (errors provider) (upstreams i))
    {virtualKeyId : ℤ} {actions : List StreamAction}
    (reached : run (StreamSession.step env upstreams)
      (.init env request registry virtualKeyId requestId) actions = some s) :
    Failing errors candidates upstreams
      (reportEvent request candidates (lastFailure errors candidates) requestId) s := by
  have kept : s.Of request registry requestId ∧ Failing errors candidates upstreams
      (reportEvent request candidates (lastFailure errors candidates) requestId) s := by
    refine invariant_of_step (P := fun s => s.Of request registry requestId ∧
      Failing errors candidates upstreams
        (reportEvent request candidates (lastFailure errors candidates) requestId) s) ?_ ?_ reached
    · exact ⟨⟨rfl, rfl, rfl⟩, .asking (.inl rfl) rfl rfl⟩
    · rintro state action after ⟨of, failing⟩ moved
      exact ⟨of_step of moved, failing_step selected fail of failing moved⟩
  exact kept.2

end Streams

/-! ## One report -/

/-- What a client is told of an exchange that failed: status, type, message and `Retry-After`. -/
def HttpError.report (provider : BaseProvider) (seconds : ℚ → String) :
    HttpError → ℕ × String × String × Option String
  | .transport .timeout =>
      (504, "timeout_error", "Upstream provider timed out: " ++ ("Provider '" ++ provider.config.name ++
        "' timed out after " ++ seconds provider.config.timeout ++ "s"), none)
  | .status code retryAfter =>
      if code = 429 then
        (502, "rate_limit_error", "Upstream provider rate limited: " ++ ("Provider '" ++
          provider.config.name ++ "' rate limited (429)"), retryAfter)
      else if code = 401 then
        (502, "auth_error", "Upstream provider auth failed: " ++ ("Provider '" ++
          provider.config.name ++ "' auth failed (401)"), none)
      else
        (502, "upstream_error", "Upstream provider error: " ++ ("Provider '" ++
          provider.config.name ++ "' returned HTTP " ++ toString code), none)
  | .transport (.other text) =>
      (502, "upstream_error", "Upstream provider error: " ++ ("Provider '" ++
        provider.config.name ++ "' request failed: " ++ text), none)

theorem classify_providerError (provider : BaseProvider) (seconds : ℚ → String) (error : HttpError) :
    classifyUpstreamError (some (provider.providerError seconds error)) =
      error.report provider seconds := by
  cases error with
  | transport error => cases error <;> rfl
  | status code retryAfter =>
      simp only [BaseProvider.providerError, HttpError.report]
      split
      · rfl
      · split <;> rfl

/-- What a client is told of a request whose candidates all fail: status, type, message, the candidates
that were asked, and `Retry-After`. -/
structure FailureReport where
  status : ℕ
  type : String
  message : String
  attemptedProviders : Option (List String)
  retryAfter : Option String

/-- The report on candidates that all fail: it is about the last of them. -/
def failureReport (request : ChatRequest) (candidates : List BaseProvider) (seconds : ℚ → String)
    (failures : BaseProvider → HttpError) : FailureReport :=
  match candidates.getLast? with
  | none => ⟨404, "model_not_found", unknownModelMessage request.model, none, none⟩
  | some last =>
      let (status, type, message, retryAfter) := (failures last).report last seconds
      ⟨status, type, message, some (candidates.map (·.config.name)), retryAfter⟩

namespace FailureReport

variable (report : FailureReport)

/-- The report as the answer of a chat. -/
def answer : Answer :=
  .error report.status report.type report.message report.attemptedProviders report.retryAfter

/-- The report as the last event of a stream. -/
def event (requestId : Option String) : String :=
  sseError report.message report.type report.attemptedProviders report.retryAfter requestId

end FailureReport

/-- The upstreams of a stream that goes through some candidates. -/
def upstreamsOf (seconds : ℚ → String) (candidates : List BaseProvider)
    (exchanges : BaseProvider → Exchange LineBody) (i : ℕ) : Upstream :=
  match candidates[i]? with
  | some provider => provider.upstream seconds (exchanges provider)
  | none => ⟨[], .exhausted⟩

/-- The exchange of a stream fails before there is anything to relay: before the body, or within it. -/
inductive FailsEarly (python : Interpreter) (provider : BaseProvider) (exchange : Exchange LineBody) :
    HttpError → Prop
  | refused {error : HttpError} (raised : exchange.result = .error error) :
      FailsEarly python provider exchange error
  | broken {body : LineBody} {error : TransportError} (replied : exchange.result = .ok body)
      (breaks : body.failure = some error)
      (silent : ∀ line ∈ body.lines, provider.adapter.Silent python line) :
      FailsEarly python provider exchange (.transport error)

theorem FailsEarly.failsFirst {python : Interpreter} {provider : BaseProvider}
    {exchange : Exchange LineBody} {error : HttpError} (early : FailsEarly python provider exchange error)
    (seconds : ℚ → String) :
    FailsFirst python provider (provider.providerError seconds error)
      (provider.upstream seconds exchange) := by
  cases early with
  | refused raised =>
      simp only [BaseProvider.upstream, raised]
      exact ⟨rfl, fun line impossible => absurd impossible List.not_mem_nil⟩
  | broken replied breaks silent =>
      simp only [BaseProvider.upstream, replied, breaks]
      exact ⟨rfl, silent⟩

section Reports

variable (request : ChatRequest) (candidates : List BaseProvider) (seconds : ℚ → String)
  (failures : BaseProvider → HttpError)

theorem answer_failureReport :
    answer request (.raised (.noProviderAvailable
        (noProviderLeft request (candidates.map (·.config.name))
          (lastFailure (fun provider => provider.providerError seconds (failures provider)) candidates)))) =
      (failureReport request candidates seconds failures).answer := by
  rcases List.eq_nil_or_concat candidates with rfl | ⟨before, last, rfl⟩
  · rfl
  · have named : ((before ++ [last]).map (·.config.name)).isEmpty = false := by simp
    simp only [List.concat_eq_append, answer, noProviderLeft, named, Bool.false_eq_true, if_false,
      lastFailure, List.getLast?_append, List.getLast?_singleton, Option.some_or, Option.map_some,
      classify_providerError, failureReport, FailureReport.answer]

theorem reportEvent_eq (requestId : Option String) :
    reportEvent request candidates
        (lastFailure (fun provider => provider.providerError seconds (failures provider)) candidates)
        requestId =
      (failureReport request candidates seconds failures).event requestId := by
  rcases List.eq_nil_or_concat candidates with rfl | ⟨before, last, rfl⟩
  · rfl
  · have some_left : before ++ [last] ≠ [] := by simp
    simp only [List.concat_eq_append, reportEvent, some_left, if_false, lastFailure,
      List.getLast?_append, List.getLast?_singleton, Option.some_or, Option.map_some,
      classify_providerError, failureReport, FailureReport.event]

end Reports

/-- **Chats and streams report alike.** If the exchanges with all candidates of a model fail in the same
way for a chat and for a stream that finds nothing in the cache, the chat asks them all and is answered
with the report on the last of them; and a stream, however it goes on, has yielded nothing or the event
with this report, and has yielded it when it returns. -/
theorem failures_reported (env : Environment) (request : ChatRequest) (registry : ProviderRegistry)
    (virtualKeyId : ℤ) (requestId : Option String) (latencyMs : ℕ) (field : IntField)
    (text : PyException → String) (seconds : ℚ → String) (created : BaseProvider → ℤ)
    (failures : BaseProvider → HttpError) :
    (∀ exchanges : BaseProvider → Exchange Decoded,
        (∀ provider ∈ selectProviders registry request.model,
          (exchanges provider).result = .error (failures provider)) →
        ∀ contacted ending,
          ChatRuns request
              (fun provider =>
                provider.chatOutcome seconds field text (created provider) (exchanges provider))
              (executeWithFallback request (selectProviders registry request.model)) contacted ending →
            contacted = selectProviders registry request.model ∧
              answer request (ending.outcome virtualKeyId request.model latencyMs) =
                (failureReport request (selectProviders registry request.model) seconds failures).answer) ∧
      ∀ exchanges : BaseProvider → Exchange LineBody,
        (∀ provider ∈ selectProviders registry request.model,
          FailsEarly env.python provider (exchanges provider) (failures provider)) →
        ∀ actions s,
          run (StreamSession.step env
              (upstreamsOf seconds (selectProviders registry request.model) exchanges))
              (.init env request registry virtualKeyId requestId) actions = some s →
            s.call.cached = none →
              (s.output = [] ∨ s.output =
                [(failureReport request (selectProviders registry request.model) seconds failures).event
                  requestId]) ∧
              (s.call.point = .done .returned → s.output ≠ []) := by
  generalize selected : selectProviders registry request.model = candidates
  constructor
  · intro exchanges failed contacted ending runs
    -- the engine has asked every candidate, and no other run is possible
    have all : Failed .providerError (fun provider =>
          provider.chatOutcome seconds field text (created provider) (exchanges provider)) candidates
        (candidates.map fun provider => provider.providerError seconds (failures provider)) := by
      rw [Failed, List.forall₂_map_right_iff]
      refine List.forall₂_same.mpr fun provider member => ?_
      simp only [BaseProvider.chatOutcome, failed provider member]
    have expected := @ChatRuns.failed request _ _ _ all [] none [] [] _ (.ended _)
    rw [List.append_nil, List.nil_append, Option.or_none, ← executeWithFallback_eq] at expected
    obtain ⟨same, rfl⟩ := expected.unique runs
    have last : (candidates.map fun provider =>
          provider.providerError seconds (failures provider)).getLast? =
        lastFailure (fun provider => provider.providerError seconds (failures provider)) candidates :=
      List.getLast?_map
    refine ⟨same, ?_⟩
    rw [ChainEnding.outcome, last]
    exact answer_failureReport request candidates seconds failures
  · intro exchanges early actions s reached uncached
    have fail : ∀ i provider, candidates[i]? = some provider →
        FailsFirst env.python provider (provider.providerError seconds (failures provider))
          (upstreamsOf seconds candidates exchanges i) := by
      intro i provider listed
      simp only [upstreamsOf, listed]
      exact (early provider (List.mem_of_getElem? listed)).failsFirst seconds
    have failing := @failing_run env (fun provider => provider.providerError seconds (failures provider))
      candidates _ s request registry requestId selected fail virtualKeyId actions reached
    rw [reportEvent_eq] at failing
    cases failing with
    | asking point _ silent =>
        refine ⟨.inl silent, fun done => ?_⟩
        rcases point with point | point <;> cases point.symm.trans done
    | trying _ point _ _ silent => exact ⟨.inl silent, fun done => nomatch point.symm.trans done⟩
    | reported point told => exact ⟨.inr told, fun done => nomatch point.symm.trans done⟩
    | ended point told =>
        rcases told with told | ⟨rfl, silent⟩
        · exact ⟨.inr told, fun _ empty => nomatch told.symm.trans empty⟩
        · exact ⟨.inl silent, fun done => nomatch point.symm.trans done⟩
    | replaying hit => exact absurd uncached hit

/-- The theorem about a provider that asks to wait for twenty seconds. -/
theorem failures_reported_limited :
    (∃ contacted ending,
        ChatRuns claudeRequest
            (fun provider => provider.chatOutcome (fun _ => "30.0") .lax PyException.className 0
              (.replied ⟨429, some "20", .malformed⟩))
            (executeWithFallback claudeRequest
              (selectProviders anthropicRegistry claudeRequest.model)) contacted ending ∧
          answer claudeRequest (ending.outcome 1 claudeRequest.model 0) = .error 502 "rate_limit_error"
            "Upstream provider rate limited: Provider 'anthropic' rate limited (429)"
            (some ["anthropic"]) (some "20")) ∧
      ∃ s,
        run (StreamSession.step demoEnvironment
            (upstreamsOf (fun _ => "30.0") (selectProviders anthropicRegistry claudeRequest.model)
              fun _ => .replied ⟨429, some "20", ⟨[], none⟩⟩))
            (.init demoEnvironment claudeRequest anthropicRegistry 1 none)
            [.reply .nil ⟨0, fun _ => 0⟩, .advance ⟨0, fun _ => 0⟩, .pull ⟨0, fun _ => 0⟩] = some s ∧
          s.output = [sseError "Upstream provider rate limited: Provider 'anthropic' rate limited (429)"
            "rate_limit_error" (some ["anthropic"]) (some "20") none] := by
  obtain ⟨chat, stream⟩ := failures_reported demoEnvironment claudeRequest anthropicRegistry 1 none 0 .lax
    PyException.className (fun _ => "30.0") (fun _ => 0) fun _ => .status 429 (some "20")
  have selected : selectProviders anthropicRegistry claudeRequest.model = [demoAnthropic] := by
    decide +kernel
  rw [selected] at chat stream ⊢
  constructor
  · obtain ⟨contacted, ending, runs, -⟩ := engine_settled claudeRequest 1 0
      (fun provider => provider.chatOutcome (fun _ => "30.0") .lax PyException.className 0
        (.replied ⟨429, some "20", .malformed⟩)) [demoAnthropic]
    exact ⟨contacted, ending, runs, (chat _ (fun _ _ => rfl) contacted ending runs).2⟩
  · have ran : (run (StreamSession.step demoEnvironment
        (upstreamsOf (fun _ => "30.0") [demoAnthropic] fun _ => .replied ⟨429, some "20", ⟨[], none⟩⟩))
        (.init demoEnvironment claudeRequest anthropicRegistry 1 none)
        [.reply .nil ⟨0, fun _ => 0⟩, .advance ⟨0, fun _ => 0⟩, .pull ⟨0, fun _ => 0⟩]).map
          (fun s => (s.call.cached, s.call.point)) = some (none, .done .returned) := by decide +kernel
    obtain ⟨s, reached, same⟩ := Option.map_eq_some_iff.mp ran
    obtain ⟨uncached, done⟩ := Prod.mk.inj same
    obtain ⟨told, returned⟩ := stream _ (fun _ _ => .refused rfl) _ s reached uncached
    exact ⟨s, reached, told.resolve_left (returned done)⟩

end LlmGateway
