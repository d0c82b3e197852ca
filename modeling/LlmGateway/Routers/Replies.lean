import LlmGateway.Routers.Exposure

/-!
# What leaves the endpoint

In every state that the endpoint can reach, a response that has left is one of three things: a success
of a request that was handed over, with the rate limit of its own attempt in its headers; an error in
the form of the gateway; or the answer of the server to an exception that no handler takes, and then
the body asked for a type that cannot be hashed, or the database or the services have raised it.
-/

set_option autoImplicit false

namespace LlmGateway

open LlmGateway.Library

/-! ## Refusals -/

/-- The statuses of the errors of the endpoint. -/
def refusals : List ℕ := [400, 401, 404, 429, 502, 504]

/-- An exception that the handler can speak for. -/
structure Raised.Refuses (raised : Raised) : Prop where
  detailed : Detailed raised.exception.detail
  plain : Plain raised.headers
  status : raised.exception.status ∈ refusals

section Refusals

variable {app : App} {exception : HttpException}

theorem plain_nil : Plain [] := fun _ _ => rfl

theorem refuses_errorDetail {status : ℕ} (known : status ∈ refusals) (message errorType : String) :
    Raised.Refuses ⟨⟨status, errorDetail message errorType⟩, []⟩ :=
  ⟨detailed_errorDetail message errorType, plain_nil, known⟩

theorem refuses_authenticateRequest {env : Environment} {db : Database} {now : ℚ} {header : Option String}
    (failed : authenticateRequest env db now header = .error exception) :
    Raised.Refuses ⟨exception, []⟩ := by
  unfold authenticateRequest at failed
  split at failed
  · cases failed
    exact ⟨.text _, plain_nil, by decide⟩
  · split at failed
    · cases failed
      exact ⟨.text _, plain_nil, by decide⟩
    · cases failed

theorem refuses_rateLimitExceeded (settings : Settings) (status : RateLimitStatus) :
    (rateLimitExceeded settings status).Refuses where
  detailed := detailed_errorDetail _ _
  plain := by
    simp only [Plain, securityHeaders, List.forall_mem_cons]
    exact ⟨rfl, rfl, rfl, fun _ impossible => absurd impossible List.not_mem_nil⟩
  status := show 429 ∈ refusals by decide

theorem refuses_checkKeySpend {limit spent : ℚ} (failed : checkKeySpend limit spent = .error exception) :
    Raised.Refuses ⟨exception, []⟩ := by
  unfold checkKeySpend at failed
  split at failed
  · cases failed
    exact refuses_errorDetail (by decide) _ _
  · cases failed

theorem refuses_enforceGlobalCap {settings : Settings} {db : Database}
    (failed : enforceGlobalCap settings db = .error exception) : Raised.Refuses ⟨exception, []⟩ := by
  unfold enforceGlobalCap checkGlobalSpend at failed
  split at failed
  · cases failed
  · split at failed
    · cases failed
      exact refuses_errorDetail (by decide) _ _
    · cases failed

theorem refuses_enforceMaxTokens {limit : ℤ} {body : ChatRequest}
    (failed : enforceMaxTokens limit body = .error exception) : Raised.Refuses ⟨exception, []⟩ := by
  unfold enforceMaxTokens at failed
  split at failed
  · split at failed
    · cases failed
      exact refuses_errorDetail (by decide) _ _
    · cases failed
  · cases failed

theorem refuses_rejectUnknownStreamingModel {body : ChatRequest} {registry : ProviderRegistry}
    {virtualKeyId : ℤ} {latencyMs : ℕ} {tasks : List UsageTask}
    (failed : rejectUnknownStreamingModel body registry virtualKeyId latencyMs =
      (tasks, .error exception)) : Raised.Refuses ⟨exception, []⟩ := by
  unfold rejectUnknownStreamingModel at failed
  split at failed
  · cases failed
  · cases failed
    exact refuses_errorDetail (by decide) _ _

theorem classifyUpstreamError_refusals (lastError : Option ProviderError) :
    (classifyUpstreamError lastError).1 ∈ refusals := by
  unfold classifyUpstreamError
  split
  · decide
  · split <;> dsimp only <;> decide

/-- An error of the endpoint comes from one of its branches. -/
theorem answer_error {sent : ChatRequest} {outcome : Outcome} {status : ℕ} {type message : String}
    {attemptedProviders : Option (List String)} {retryAfter : Option String}
    (failed : answer sent outcome = .error status type message attemptedProviders retryAfter) :
    status ∈ refusals := by
  unfold answer at failed
  split at failed
  · cases failed
  · split at failed
    · cases failed
      decide
    · rename_i failure _
      cases failed
      exact classifyUpstreamError_refusals failure.lastError
  · cases failed
    decide
  · cases failed

theorem plain_retryAfter (retryAfter : Option String) :
    Plain (retryAfter.toList.map fun text => ("Retry-After", text)) := by
  cases retryAfter with
  | none => exact plain_nil
  | some text =>
      simp only [Plain, securityHeaders, List.forall_mem_cons]
      exact ⟨rfl, rfl, rfl, fun _ impossible => absurd impossible List.not_mem_nil⟩

end Refusals

/-! ## Successes -/

section Successes

variable {requestId : String} {response : HttpResponse}

/-- The middlewares leave the other headers alone. -/
theorem lookup_leaves_other {name : String} (apart : name ≠ requestIdHeader)
    (foreign : name ∉ securityHeaders.map Prod.fst) :
    (leaves requestId (.ok response)).headers.lookup name = response.headers.lookup name := by
  simp only [securityHeaders, List.map_cons, List.map_nil, List.mem_cons, List.not_mem_nil, or_false,
    not_or] at foreign
  obtain ⟨options, frame, referrer⟩ := foreign
  simp only [leaves, securityHeadersMiddleware, requestIdMiddleware, securityHeaders, List.foldl,
    lookup_setDefaultHeader, lookup_setHeader, apart, options, frame, referrer, if_false]

/-- A response that carries the limits of its attempt. -/
structure Limited (status : RateLimitStatus) (headers : Headers) : Prop where
  plain : Plain headers
  limits : ∀ header ∈ rateLimitHeaders status, headers.lookup header.1 = some header.2

theorem limited_rateLimitHeaders (status : RateLimitStatus) : Limited status (rateLimitHeaders status) where
  plain := by
    simp only [Plain, securityHeaders, List.forall_mem_cons]
    exact ⟨rfl, rfl, rfl, fun _ impossible => absurd impossible List.not_mem_nil⟩
  limits := by
    simp only [rateLimitHeaders, List.forall_mem_cons]
    exact ⟨rfl, rfl, rfl, fun _ impossible => absurd impossible List.not_mem_nil⟩

theorem limited_streamingResponse (status : RateLimitStatus) :
    Limited status (streamingResponse (rateLimitHeaders status)).headers where
  plain := by
    simp only [Plain, securityHeaders, List.forall_mem_cons]
    exact ⟨rfl, rfl, rfl, fun _ impossible => absurd impossible List.not_mem_nil⟩
  limits := by
    simp only [rateLimitHeaders, List.forall_mem_cons]
    exact ⟨rfl, rfl, rfl, fun _ impossible => absurd impossible List.not_mem_nil⟩

/-- Behind the middlewares it still does. -/
theorem limits_leaves {status : RateLimitStatus} (limited : Limited status response.headers) :
    ∀ header ∈ rateLimitHeaders status,
      (leaves requestId (.ok response)).headers.lookup header.1 = some header.2 := by
  intro header member
  have name : header.1 ∈ ["X-RateLimit-Limit", "X-RateLimit-Remaining", "X-RateLimit-Reset"] :=
    List.mem_map_of_mem (f := Prod.fst) member
  have foreign : ∀ name ∈ ["X-RateLimit-Limit", "X-RateLimit-Remaining", "X-RateLimit-Reset"],
      name ≠ requestIdHeader ∧ name ∉ securityHeaders.map Prod.fst := by decide
  rw [lookup_leaves_other (foreign _ name).1 (foreign _ name).2]
  exact limited.limits header member

end Successes

/-! ## The form of a response -/

/-- **What has left for a request.** -/
inductive Formed (e : Endpoint) (visit : Visit) (response : HttpResponse) : Prop
  | succeeded {virtualKeyId : ℤ} {attempt : ℕ} {sent : ChatRequest} {attempted : Attempted}
      (handed : visit.passage = .dispatched virtualKeyId attempt sent)
      (checked : e.limiter.attempts[attempt]? = some attempted)
      (own : attempted.check.virtualKeyId = virtualKeyId) (allowed : attempted.status.allowed = true)
      (ok : response.statusCode = 200)
      (marked : response.headers.lookup requestIdHeader = some visit.requestId)
      (hardened : ∀ header ∈ securityHeaders, response.headers.lookup header.1 = some header.2)
      (limits : ∀ header ∈ rateLimitHeaders attempted.status,
        response.headers.lookup header.1 = some header.2)
  | refused (enveloped : Enveloped visit.requestId response) (status : response.statusCode ∈ refusals)
  | failed (same : response = internalServerError)
      (cause : AsksUnhashable visit.inbound.body ∨ visit.passage = .lapsed ∨
        ∃ virtualKeyId attempt sent, visit.passage = .dispatched virtualKeyId attempt sent)

section Form

variable {app : App} {e next : Endpoint} {action : EndpointAction} {n : ℕ} {visit : Visit}
  {turned : Turned} {response : HttpResponse}

theorem Visit.requestId_ne (visit : Visit) : visit.requestId ≠ "" := by
  unfold Visit.requestId boundRequestId
  cases found : visit.inbound.requestId.filter fun text => !text.isEmpty with
  | none => exact visit.inbound.drawn
  | some text =>
      rw [Option.filter_eq_some_iff] at found
      simpa using found.2

/-- What a guard raises. -/
theorem formed_raise {raised : Raised} (refuses : raised.Refuses) {tasks : List UsageTask}
    (left : (Turned.raise app visit raised tasks).response = some response) (passage : Passage)
    (given : Option HttpResponse) : Formed e ⟨visit.inbound, passage, given⟩ response := by
  cases left
  exact .refused (enveloped_exception refuses.detailed refuses.plain visit.requestId_ne) refuses.status

/-- A success of a request that holds its attempt. -/
theorem formed_success {virtualKeyId : ℤ} {attempt : ℕ} {sent : ChatRequest} {given : Option HttpResponse}
    (accepts : e.limiter.Accepts virtualKeyId attempt) {made : HttpResponse}
    (limited : ∀ status, e.limits attempt = rateLimitHeaders status → Limited status made.headers)
    (ok : made.statusCode = 200) :
    Formed e ⟨visit.inbound, .dispatched virtualKeyId attempt sent, given⟩
      (leaves visit.requestId (.ok made)) := by
  obtain ⟨attempted, there, own, allowed⟩ := accepts
  have limits : e.limits attempt = rateLimitHeaders attempted.status := by
    rw [Endpoint.limits, there]
  have carried := limited _ limits
  have marked := @lookup_leaves visit.requestId made carried.plain
  exact .succeeded rfl there own allowed ok marked.1 marked.2 (limits_leaves carried)

/-- A body that is refused is answered by the handler of refused bodies, and an exception escapes only
for a type that cannot be hashed. -/
theorem formed_received {numbers : NumberFields} {refusal : JsonResponse}
    (received : receiveRequest numbers visit.inbound.body = .answered refusal) (passage : Passage)
    (given : Option HttpResponse) :
    Formed e ⟨visit.inbound, passage, given⟩ (leaves visit.requestId (.ok refusal.http)) := by
  unfold receiveRequest at received
  split at received
  · cases received
  · cases received
    exact .refused (enveloped_validation _) (show 400 ∈ refusals by decide)
  · cases received

theorem asksUnhashable_of_raised {numbers : NumberFields} {body : JsonDict} {exception : PyException}
    (received : receiveRequest numbers body = .raised exception) : AsksUnhashable body := by
  unfold receiveRequest at received
  split at received
  · cases received
  · cases received
  · rename_i escaped ended
    exact escapes_modelValidate.mp ⟨escaped, ended⟩

/-- The answer of a chat that has ended. -/
theorem formed_answer {virtualKeyId : ℤ} {attempt : ℕ} {sent : ChatRequest} {outcome : Outcome}
    {given : Option HttpResponse} (accepts : e.limiter.Accepts virtualKeyId attempt) :
    Formed e ⟨visit.inbound, .dispatched virtualKeyId attempt sent, given⟩
      (leaves visit.requestId
        ((answer sent outcome).http app.str visit.requestId (e.limits attempt))) := by
  cases ended : answer sent outcome with
  | body made =>
      refine formed_success accepts (fun status same => ?_) rfl
      rw [same]
      exact limited_rateLimitHeaders status
  | error status type message attemptedProviders retryAfter =>
      exact .refused
        (enveloped_exception (.error rfl rfl rfl) (plain_retryAfter _) visit.requestId_ne)
        (answer_error ended)
  | unhandled exception => exact .failed rfl (.inr (.inr ⟨virtualKeyId, attempt, sent, rfl⟩))

/-- A response stays what it is while the attempts grow. -/
theorem Formed.later (formed : Formed e visit response) {more : List Attempted}
    (grown : next.limiter.attempts = e.limiter.attempts ++ more) : Formed next visit response := by
  cases formed with
  | succeeded handed checked own allowed ok marked hardened limits =>
      refine .succeeded handed ?_ own allowed ok marked hardened limits
      rw [grown, List.getElem?_append_left (List.getElem?_eq_some_iff.mp checked).1]
      exact checked
  | refused enveloped status => exact .refused enveloped status
  | failed same cause => exact .failed same cause

/-- A request for which a read has failed takes no turn any more. -/
theorem no_turn_of_lapsed (lapsed : visit.passage = .lapsed) : e.turn app visit action = none := by
  cases action <;> simp [Endpoint.turn, App.reads, lapsed]

/-- The turn of a request that is handed over leaves it where it is. -/
theorem dispatched_of_turn {virtualKeyId : ℤ} {attempt : ℕ} {sent : ChatRequest}
    (handed : visit.passage = .dispatched virtualKeyId attempt sent)
    (taken : e.turn app visit action = some turned) :
    turned.passage = .dispatched virtualKeyId attempt sent ∧ visit.response = none := by
  cases action with
  | finish m outcome latencyMs =>
      simp only [Endpoint.turn, handed] at taken
      split at taken
      · rename_i same silent
        cases same
        cases taken
        exact ⟨rfl, silent⟩
      · cases taken
  | authenticate | readKey | readKeySpend | readGlobalSpend | enter =>
      simp only [Endpoint.turn, handed, reduceCtorEq] at taken
  | lapse => simp [Endpoint.turn, App.reads, handed] at taken
  | limit | arrive | rollback | expire | change => cases taken

/-- The response of a request that is handed over, or that is not. -/
theorem formed_dispatch {virtualKeyId : ℤ} {attempt : ℕ} {latencyMs : ℕ} {request : ChatRequest}
    (accepts : e.limiter.Accepts virtualKeyId attempt) {given : Option HttpResponse}
    (left : (app.dispatch visit virtualKeyId attempt (e.limits attempt) latencyMs request).response =
      some response) :
    Formed e ⟨visit.inbound,
      (app.dispatch visit virtualKeyId attempt (e.limits attempt) latencyMs request).passage, given⟩
        response := by
  revert left
  unfold App.dispatch
  split
  · rename_i exception failed
    exact fun left => formed_raise (refuses_enforceMaxTokens failed) left _ _
  · rename_i sent enforced
    split
    · split
      · rename_i tasks exception failed
        exact fun left => formed_raise (refuses_rejectUnknownStreamingModel failed) left _ _
      · intro left
        cases left
        refine formed_success accepts (fun status same => ?_) rfl
        rw [same]
        exact limited_streamingResponse status
    · intro left
      cases left

/-- **A guard** answers in one of the three forms. -/
theorem formed_turn (holding : e.Holding app) (there : e.visits[n]? = some visit)
    (taken : e.turn app visit action = some turned) (left : turned.response = some response)
    (given : Option HttpResponse) : Formed e ⟨visit.inbound, turned.passage, given⟩ response := by
  have accepts {virtualKeyId : ℤ} {attempt : ℕ}
      (held : visit.passage.attempt = some (virtualKeyId, attempt)) :
      e.limiter.Accepts virtualKeyId attempt := holding.held n virtualKeyId attempt ⟨visit, there, held⟩
  cases action with
  | authenticate m now =>
      simp only [Endpoint.turn] at taken
      split at taken
      · cases taken
        unfold App.authenticate at left ⊢
        split at left
        · rename_i exception failed
          exact formed_raise (refuses_authenticateRequest failed) left _ _
        · cases left
      · cases taken
  | readKey m =>
      simp only [Endpoint.turn] at taken
      split at taken
      · cases taken
        unfold App.readKey at left
        split at left <;> cases left
      · cases taken
  | readKeySpend m =>
      simp only [Endpoint.turn] at taken
      split at taken
      · cases taken
        unfold App.readKeySpend at left ⊢
        split at left
        · rename_i exception failed
          exact formed_raise (refuses_checkKeySpend failed) left _ _
        · cases left
      · cases taken
  | readGlobalSpend m =>
      simp only [Endpoint.turn] at taken
      split at taken
      · cases taken
        unfold App.readGlobalSpend at left ⊢
        split at left
        · rename_i exception failed
          exact formed_raise (refuses_enforceGlobalCap failed) left _ _
        · cases left
      · cases taken
  | lapse m =>
      simp only [Endpoint.turn] at taken
      split at taken <;> cases taken
      cases left
      exact .failed rfl (.inr (.inl rfl))
  | enter m latencyMs =>
      simp only [Endpoint.turn] at taken
      split at taken
      · rename_i virtualKeyId attempt passage
        cases taken
        have own := accepts (passage ▸ rfl : visit.passage.attempt = some (virtualKeyId, attempt))
        unfold App.enter at left ⊢
        cases received : receiveRequest app.numbers visit.inbound.body with
        | answered refusal =>
            rw [received] at left
            cases left
            exact formed_received received _ _
        | raised exception =>
            rw [received] at left
            cases left
            exact .failed rfl (.inl (asksUnhashable_of_raised received))
        | passed request =>
            rw [received] at left
            exact formed_dispatch own left
      · cases taken
  | finish m outcome latencyMs =>
      simp only [Endpoint.turn] at taken
      split at taken
      · rename_i virtualKeyId attempt sent passage silent
        cases taken
        have own := accepts (passage ▸ rfl : visit.passage.attempt = some (virtualKeyId, attempt))
        cases left
        exact formed_answer own
      · cases taken
  | limit | arrive | rollback | expire | change => cases taken

/-- So are all responses. -/
def AllFormed (e : Endpoint) : Prop :=
  ∀ (n : ℕ) (visit : Visit) (response : HttpResponse), e.visits[n]? = some visit →
    visit.response = some response → Formed e visit response

/-- **One step** leaves responses of one of the three forms. -/
theorem formed_step (holding : e.Holding app) (formed : AllFormed e)
    (moved : e.step app action = some next) : AllFormed next := by
  obtain ⟨more, grown⟩ := attempts_of_step moved
  intro m later response there left
  rcases visit_of_step moved there with before | ⟨-, none⟩ | ⟨visit, turned, found, turns, rfl⟩
  · exact (formed m later response before left).later grown
  · rw [none] at left
    cases left
  · suffices ours : Formed e ⟨visit.inbound, turned.passage, turned.response.or visit.response⟩ response from
      ours.later grown
    cases answered : turned.response with
    | some own =>
        simp only [answered, Option.some_or, Option.some.injEq] at left
        subst left
        cases turns with
        | guard _ taken => exact formed_turn holding found taken answered _
        | limit passage checked last =>
            unfold App.limit at answered ⊢
            split at answered
            · cases answered
            · exact formed_raise (refuses_rateLimitExceeded _ _) answered _ _
    | none =>
        simp only [answered, Option.none_or] at left
        have old := formed m visit response found left
        have stays {virtualKeyId : ℤ} {attempt : ℕ} {sent : ChatRequest}
            (handed : visit.passage = .dispatched virtualKeyId attempt sent) : False := by
          cases turns with
          | guard _ taken =>
              rw [(dispatched_of_turn handed taken).2] at left
              cases left
          | limit passage => cases passage.symm.trans handed
        cases old with
        | succeeded handed => exact (stays handed).elim
        | refused enveloped status => exact .refused enveloped status
        | failed same cause =>
            rcases cause with unhashable | lapsed | ⟨_, _, _, handed⟩
            · exact .failed same (.inl unhashable)
            · cases turns with
              | guard _ taken => rw [no_turn_of_lapsed lapsed] at taken; cases taken
              | limit passage => cases passage.symm.trans lapsed
            · exact (stays handed).elim

end Form

end LlmGateway
