import LlmGateway.Core.RateLimiter
import LlmGateway.Models.Validation
import LlmGateway.Providers.Requests
import LlmGateway.Routers.Chat

/-!
# Responses over HTTP

What the client of the chat endpoint receives. `_openai_style_exception_handler` and
`_validation_exception_handler` of `main.py` make a response of an exception, and every response passes
the two middlewares on its way out: the inner one adds the request id, the outer one the security
headers. An exception that no handler takes passes both of them, and the server answers it.

The errors of the gateway have one form (`Enveloped`): an object `error` with a message and a type.
-/

set_option autoImplicit false

namespace LlmGateway

open LlmGateway.Library

/-! ## Headers -/

abbrev Headers := List (String × String)

/-- `headers[name] = value`. -/
def setHeader (name value : String) : Headers → Headers
  | [] => [(name, value)]
  | (other, old) :: rest =>
      if other = name then (name, value) :: rest.filter fun header => header.1 ≠ name
      else (other, old) :: setHeader name value rest

/-- `headers.setdefault(name, value)`. -/
def setDefaultHeader (name value : String) (headers : Headers) : Headers :=
  if (headers.lookup name).isSome then headers else headers ++ [(name, value)]

theorem lookup_cons_ite (name value other : String) (headers : Headers) :
    List.lookup other ((name, value) :: headers) =
      if other = name then some value else headers.lookup other := by
  by_cases same : other = name
  · simp [same]
  · rw [List.lookup_cons, beq_false_of_ne same, if_neg same]

theorem lookup_without {name other : String} (apart : other ≠ name) (headers : Headers) :
    (headers.filter fun header => header.1 ≠ name).lookup other = headers.lookup other := by
  induction headers with
  | nil => rfl
  | cons header rest ih =>
      obtain ⟨first, old⟩ := header
      rw [lookup_cons_ite, List.filter_cons]
      by_cases named : first = name
      · subst named
        simpa [apart] using ih
      · simp only [ne_eq, named, not_false_eq_true, decide_true, if_true, lookup_cons_ite, ← ih]

theorem lookup_setHeader (name value other : String) (headers : Headers) :
    (setHeader name value headers).lookup other =
      if other = name then some value else headers.lookup other := by
  induction headers with
  | nil => exact lookup_cons_ite name value other []
  | cons header rest ih =>
      obtain ⟨first, old⟩ := header
      by_cases named : first = name
      · subst named
        rw [setHeader, if_pos rfl, lookup_cons_ite, lookup_cons_ite]
        by_cases same : other = first
        · rw [if_pos same, if_pos same]
        · rw [if_neg same, if_neg same, if_neg same, lookup_without same]
      · rw [setHeader, if_neg named, lookup_cons_ite, lookup_cons_ite, ih]
        by_cases same : other = first
        · rw [if_pos same, if_pos same, if_neg fun equal => named (same.symm.trans equal)]
        · rw [if_neg same, if_neg same]

theorem lookup_setDefaultHeader (name value other : String) (headers : Headers) :
    (setDefaultHeader name value headers).lookup other =
      if other = name then some ((headers.lookup name).getD value) else headers.lookup other := by
  unfold setDefaultHeader
  cases found : headers.lookup name with
  | some old =>
      rw [Option.isSome_some, if_pos rfl]
      by_cases same : other = name
      · rw [if_pos same, same, found]
        rfl
      · rw [if_neg same]
  | none =>
      rw [Option.isSome_none, if_neg Bool.false_ne_true, List.lookup_append, lookup_cons_ite]
      by_cases same : other = name
      · rw [if_pos same, if_pos same, same, found]
        rfl
      · rw [if_neg same, if_neg same, List.lookup_nil, Option.or_none]

/-! ## Responses -/

/-- The body of a response: a JSON value, the events of a stream, or a plain text. -/
inductive ResponseBody where
  | json (value : Json)
  | events
  | text (value : String)

structure HttpResponse where
  statusCode : ℕ
  headers : Headers := []
  body : ResponseBody

/-- An `HTTPException` with its headers. -/
structure Raised where
  exception : HttpException
  headers : Headers := []

/-- `body.setdefault("error", {})["request_id"] = request_id`. -/
def addRequestId (requestId : String) (body : List (String × Json)) : List (String × Json) :=
  match Json.lookup "error" body with
  | some (.obj error) =>
      Json.assign "error" (.obj (Json.assign "request_id" (.str requestId) error)) body
  | _ => body

/-- The body of an exception in the form of the gateway's errors. The text of a detail that is no text
is a parameter. -/
def exceptionBody (str : Json → String) (detail : Json) : List (String × Json) :=
  let wrapped (message : String) : List (String × Json) :=
    [("error", .obj [("message", .str message), ("type", .str "invalid_request_error")])]
  match detail with
  | .obj members =>
      if (Json.lookup "error" members).isSome then members else wrapped (str (.obj members))
  | .str text => wrapped text
  | other => wrapped (str other)

/-- `_openai_style_exception_handler`. -/
def openaiStyleExceptionHandler (str : Json → String) (requestId : Option String) (raised : Raised) :
    HttpResponse where
  statusCode := raised.exception.status
  headers := raised.headers
  body :=
    let body := exceptionBody str raised.exception.detail
    .json (.obj
      (match requestId.filter fun text => !text.isEmpty with
      | some text => addRequestId text body
      | none => body))

/-- The response of `_validation_exception_handler`. -/
def JsonResponse.http (response : JsonResponse) : HttpResponse :=
  { statusCode := response.statusCode, body := .json response.content }

/-! ## Middlewares -/

/-- The request id: what the client sends, or a new one. -/
def boundRequestId (header : Option String) (uuid : String) : String :=
  (header.filter fun text => !text.isEmpty).getD uuid

/-- `_request_id_middleware`, past the handlers of exceptions. -/
def requestIdMiddleware (requestId : String) (response : HttpResponse) : HttpResponse :=
  { response with headers := setHeader requestIdHeader requestId response.headers }

/-- `SECURITY_HEADERS`. -/
def securityHeaders : Headers :=
  [("X-Content-Type-Options", "nosniff"), ("X-Frame-Options", "DENY"), ("Referrer-Policy", "no-referrer")]

/-- `_security_headers_middleware`. -/
def securityHeadersMiddleware (response : HttpResponse) : HttpResponse :=
  { response with
    headers := securityHeaders.foldl
      (fun headers header => setDefaultHeader header.1 header.2 headers) response.headers }

/-- What the server answers when an exception has passed the middlewares. -/
def internalServerError : HttpResponse := { statusCode := 500, body := .text "Internal Server Error" }

/-- **What leaves the gateway** for a request: the response of an endpoint or of a handler behind both
middlewares, or the answer of the server to an exception. -/
def leaves (requestId : String) : Except PyException HttpResponse → HttpResponse
  | .ok response => securityHeadersMiddleware (requestIdMiddleware requestId response)
  | .error _ => internalServerError

/-! ## Raised by the endpoint -/

/-- The headers of the rate limit. -/
def rateLimitHeaders (status : RateLimitStatus) : Headers :=
  [("X-RateLimit-Limit", toString status.limit), ("X-RateLimit-Remaining", toString status.remaining),
    ("X-RateLimit-Reset", toString status.windowSeconds)]

/-- The rejection of `enforce_rate_limit`. -/
def rateLimitExceeded (settings : Settings) (status : RateLimitStatus) : Raised where
  exception := ⟨429, errorDetail "Rate limit exceeded" "rate_limit_error"⟩
  headers := ("Retry-After", toString settings.rateLimitWindowSeconds) :: rateLimitHeaders status

/-- What `chat_completions` returns or raises for an answer. The headers that its guards have set go out
with a response and not with an exception. -/
def Answer.http (str : Json → String) (requestId : String) (limits : Headers) :
    Answer → Except PyException HttpResponse
  | .body response => .ok { statusCode := 200, headers := limits, body := .json response.toJson }
  | .error status type message attemptedProviders retryAfter =>
      .ok (openaiStyleExceptionHandler str (some requestId)
        { exception :=
            ⟨status, .obj [("error", .obj ([("message", .str message), ("type", .str type)] ++
              attemptedProviders.toList.map fun names =>
                ("attempted_providers", .arr (names.map .str))))]⟩
          headers := (retryAfter.filter fun text => !text.isEmpty).toList.map fun text =>
            ("Retry-After", text) })
  | .unhandled exception => .error exception

/-- The response of the streaming branch. -/
def streamingResponse (limits : Headers) : HttpResponse where
  statusCode := 200
  headers := limits.foldl (fun headers header => setDefaultHeader header.1 header.2 headers)
    [("Cache-Control", "no-cache"), ("X-Accel-Buffering", "no")]
  body := .events

/-! ## The form of an error -/

/-- The object `error` of a response. -/
def HttpResponse.error (response : HttpResponse) : Option (List (String × Json)) :=
  match response.body with
  | .json (.obj members) => (Json.lookup "error" members).bind asObj
  | _ => none

/-- **An error of the gateway**: an object with a message and a type, and nothing but the id of the
request as the request's id. -/
structure Enveloped (requestId : String) (response : HttpResponse) : Prop where
  form : ∃ error message type, response.error = some error ∧
    Json.lookup "message" error = some (.str message) ∧ Json.lookup "type" error = some (.str type) ∧
      (Json.lookup "request_id" error = some (.str requestId) ∨ response.statusCode = 400 ∧
        Json.lookup "request_id" error = none)
  marked : response.headers.lookup requestIdHeader = some requestId
  hardened : ∀ header ∈ securityHeaders, response.headers.lookup header.1 = some header.2

/-- A detail that is an error or a text. -/
inductive Detailed : Json → Prop
  | text (message : String) : Detailed (.str message)
  | error {members : List (String × Json)} {message type : String} {detail : Json}
      (found : detail = .obj [("error", .obj members)])
      (told : Json.lookup "message" members = some (.str message))
      (typed : Json.lookup "type" members = some (.str type)) : Detailed detail

theorem detailed_errorDetail (message errorType : String) : Detailed (errorDetail message errorType) :=
  .error rfl rfl rfl

section Form

variable {str : Json → String} {requestId : String} {response : HttpResponse}

/-- A response that sets none of the headers of the middlewares. -/
def Plain (headers : Headers) : Prop :=
  ∀ header ∈ securityHeaders, headers.lookup header.1 = none

/-- Behind the middlewares a response carries the id of its request and the security headers. -/
theorem lookup_leaves (plain : Plain response.headers) :
    (leaves requestId (.ok response)).headers.lookup requestIdHeader = some requestId ∧
      ∀ header ∈ securityHeaders,
        (leaves requestId (.ok response)).headers.lookup header.1 = some header.2 := by
  have absent := plain
  simp only [Plain, securityHeaders, List.forall_mem_cons] at absent
  obtain ⟨options, frame, referrer, -⟩ := absent
  simp only [leaves, securityHeadersMiddleware, requestIdMiddleware, securityHeaders, List.foldl,
    lookup_setDefaultHeader, lookup_setHeader, requestIdHeader, List.forall_mem_cons, String.reduceEq,
    if_true, if_false, options, frame, referrer, Option.getD_none, List.not_mem_nil, false_implies,
    implies_true, and_self]

/-- The error that the handler of exceptions puts in its response. -/
theorem exceptionBody_detailed {detail : Json} (detailed : Detailed detail) :
    ∃ error message type, Json.lookup "error" (exceptionBody str detail) = some (.obj error) ∧
      Json.lookup "message" error = some (.str message) ∧ Json.lookup "type" error = some (.str type) := by
  cases detailed with
  | text message => exact ⟨_, message, _, rfl, rfl, rfl⟩
  | @error members message type _ found told typed =>
      subst found
      exact ⟨members, message, type, rfl, told, typed⟩

theorem lookup_addRequestId {body error : List (String × Json)}
    (found : Json.lookup "error" body = some (.obj error)) :
    Json.lookup "error" (addRequestId requestId body) =
      some (.obj (Json.assign "request_id" (.str requestId) error)) := by
  simp only [addRequestId, found, Json.lookup_assign, if_true]

/-- The error of a response of the handler. -/
theorem error_leaves {raised : Raised} {error : List (String × Json)} (given : requestId ≠ "")
    (found : Json.lookup "error" (exceptionBody str raised.exception.detail) = some (.obj error)) :
    (leaves requestId (.ok (openaiStyleExceptionHandler str (some requestId) raised))).error =
      some (Json.assign "request_id" (.str requestId) error) := by
  have named : (some requestId).filter (fun text => !text.isEmpty) = some requestId := by
    simp [Option.filter_some, given]
  simp only [leaves, HttpResponse.error, securityHeadersMiddleware, requestIdMiddleware,
    openaiStyleExceptionHandler, named, lookup_addRequestId found, Option.bind_some, asObj]

/-- **The handler of exceptions** speaks in the form of the gateway's errors. -/
theorem enveloped_exception {raised : Raised} (detailed : Detailed raised.exception.detail)
    (plain : Plain raised.headers) (given : requestId ≠ "") :
    Enveloped requestId (leaves requestId
      (.ok (openaiStyleExceptionHandler str (some requestId) raised))) := by
  have marked := @lookup_leaves requestId
    (openaiStyleExceptionHandler str (some requestId) raised) plain
  refine ⟨?_, marked.1, marked.2⟩
  obtain ⟨error, message, type, found, told, typed⟩ :=
    @exceptionBody_detailed str raised.exception.detail detailed
  have held := error_leaves given found
  refine ⟨_, message, type, held, ?_, ?_, .inl ?_⟩
  · rw [Json.lookup_assign, if_neg (by decide), told]
  · rw [Json.lookup_assign, if_neg (by decide), typed]
  · rw [Json.lookup_assign, if_pos rfl]

/-- The handler of refused bodies speaks in it, too, without the id of the request. -/
theorem enveloped_validation (errors : List LineError) :
    Enveloped requestId (leaves requestId (.ok (validationExceptionHandler errors).http)) := by
  have marked := @lookup_leaves requestId (validationExceptionHandler errors).http fun header _ => rfl
  refine ⟨⟨_, _, _, rfl, rfl, rfl, .inr ⟨rfl, ?_⟩⟩, marked.1, marked.2⟩
  split <;> rfl

end Form

end LlmGateway
