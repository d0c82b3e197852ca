import LlmGateway.Limiter.Outages
import LlmGateway.Routers.Models
import LlmGateway.Routers.Responses

/-!
# The chat endpoint under load

Any number of requests to `POST /v1/chat/completions` over one database and one rate limiter. Each
request passes the guards one after the other: `authenticate_request`, `enforce_rate_limit`, the reads
of `enforce_spend_cap`, the validation of its body, `_enforce_max_tokens` and, for a stream,
`_reject_unknown_streaming_model`. Every guard is a step of its own, at the time at which it comes; in
between anything may happen to the database, and checks roll back and keys expire in Redis. A read of
the database may fail, and then the server answers. A request that has passed is handed to the
services; what becomes of it there is given.
-/

set_option autoImplicit false

namespace LlmGateway

open LlmGateway.Library

/-! ## State -/

/-- What the endpoint is configured with: the environment, the reading of numbers, the providers,
`MAX_TOKENS_PER_REQUEST`, and the text of an error's detail that is no text. -/
structure App where
  env : Environment
  numbers : NumberFields
  registry : ProviderRegistry
  maxTokensPerRequest : ℤ
  str : Json → String

/-- A request as it arrives, with the id that is made up in case that it brings none. -/
structure Inbound where
  requestId : Option String
  uuid : String
  drawn : uuid ≠ ""
  authorization : Option String
  body : JsonDict

/-- Where a request is. From the rate limit on it knows its virtual key and the place of its check among
the attempts.

* `limited`: before the key is read for its spend limit;
* `keyCheck`: before its spend is compared with the limit;
* `keyCleared`: before the global cap;
* `cleared`: all guards in the dependencies have passed;
* `dispatched`: it is handed to the services as `sent`;
* `closed`: it is not going to be;
* `lapsed`: nor is it, because a read of the database has failed. -/
inductive Passage where
  | arrived
  | authenticated (virtualKeyId : ℤ)
  | limited (virtualKeyId : ℤ) (attempt : ℕ)
  | keyCheck (virtualKeyId : ℤ) (attempt : ℕ) (limit : ℚ)
  | keyCleared (virtualKeyId : ℤ) (attempt : ℕ)
  | cleared (virtualKeyId : ℤ) (attempt : ℕ)
  | dispatched (virtualKeyId : ℤ) (attempt : ℕ) (sent : ChatRequest)
  | closed
  | lapsed

/-- A request with the response that has left for it. -/
structure Visit where
  inbound : Inbound
  passage : Passage
  response : Option HttpResponse := none

/-- The id that is bound to the context of a request. -/
def Visit.requestId (visit : Visit) : String := boundRequestId visit.inbound.requestId visit.inbound.uuid

/-- The database, the limiter, all requests, each named by its place, and the scheduled rows. -/
structure Endpoint where
  db : Database
  limiter : FailingLimiter
  visits : List Visit := []
  tasks : List UsageTask := []

inductive EndpointAction where
  | arrive (inbound : Inbound)
  | authenticate (visit : ℕ) (now : ℚ)
  | limit (visit : ℕ) (now : ℚ) (member : String) (delivery : Delivery)
  | readKey (visit : ℕ)
  | readKeySpend (visit : ℕ)
  | readGlobalSpend (visit : ℕ)
  | lapse (visit : ℕ)
  | enter (visit : ℕ) (latencyMs : ℕ)
  | finish (visit : ℕ) (outcome : Outcome) (latencyMs : ℕ)
  | rollback (check : Check) (delivery : Delivery)
  | expire (key : String) (now : ℚ)
  | change (db : Database)

/-! ## Steps -/

/-- What a guard comes to: where the request goes, the response that leaves for it, and the rows that
are scheduled. -/
structure Turned where
  passage : Passage
  response : Option HttpResponse := none
  tasks : List UsageTask := []

namespace Turned

variable (app : App) (visit : Visit)

/-- A guard raises: the response of the handler leaves. -/
def raise (raised : Raised) (tasks : List UsageTask) : Turned where
  passage := .closed
  response := some (leaves visit.requestId
    (.ok (openaiStyleExceptionHandler app.str (some visit.requestId) raised)))
  tasks := tasks

end Turned

namespace App

variable (app : App) (visit : Visit)

/-- `authenticate_request`. -/
def authenticate (db : Database) (now : ℚ) : Turned :=
  match authenticateRequest app.env db now visit.inbound.authorization with
  | .error exception => .raise app visit ⟨exception, []⟩ []
  | .ok virtualKeyId => { passage := .authenticated virtualKeyId }

/-- `enforce_rate_limit`, once its check is the last of the attempts. -/
def limit (virtualKeyId : ℤ) (attempts : List Attempted) (status : RateLimitStatus) : Turned :=
  if status.allowed then { passage := .limited virtualKeyId (attempts.length - 1) }
  else
    .raise app visit (rateLimitExceeded app.env.settings status)
      [recordFailedRequest virtualKeyId "" 0 "rate_limited"]

/-- The lookup of the key in `enforce_spend_cap`. -/
def readKey (virtualKeyId : ℤ) (attempt : ℕ) (db : Database) : Turned :=
  match keyLimit (db.getKeyById virtualKeyId) with
  | none => { passage := .keyCleared virtualKeyId attempt }
  | some limit => { passage := .keyCheck virtualKeyId attempt limit }

/-- The comparison with the limit of the key. -/
def readKeySpend (virtualKeyId : ℤ) (attempt : ℕ) (limit : ℚ) (db : Database) : Turned :=
  match checkKeySpend limit (db.getKeySpendUsd virtualKeyId) with
  | .error exception => .raise app visit ⟨exception, []⟩ []
  | .ok _ => { passage := .keyCleared virtualKeyId attempt }

/-- The comparison with the global limit. -/
def readGlobalSpend (virtualKeyId : ℤ) (attempt : ℕ) (db : Database) : Turned :=
  match enforceGlobalCap app.env.settings db with
  | .error exception => .raise app visit ⟨exception, []⟩ []
  | .ok _ => { passage := .cleared virtualKeyId attempt }

/-- The next guard of the request asks the database. -/
def reads : Bool :=
  match visit.passage with
  | .arrived => (bearerKey visit.inbound.authorization).isSome
  | .limited _ _ | .keyCheck _ _ _ => true
  | .keyCleared _ _ => app.env.settings.globalSpendLimitUsd.isSome
  | _ => false

/-- A read of the database fails, and nobody takes the exception. -/
def lapse : Turned where
  passage := .lapsed
  response := some (leaves visit.requestId (.error (.other "OperationalError")))

/-- `chat_completions` up to the services, for a body that has been accepted. -/
def dispatch (virtualKeyId : ℤ) (attempt : ℕ) (limits : Headers) (latencyMs : ℕ) (request : ChatRequest) :
    Turned :=
  match enforceMaxTokens app.maxTokensPerRequest request with
  | .error exception => .raise app visit ⟨exception, []⟩ []
  | .ok sent =>
      if sent.stream then
        match rejectUnknownStreamingModel sent app.registry virtualKeyId latencyMs with
        | (tasks, .error exception) => .raise app visit ⟨exception, []⟩ tasks
        | (tasks, .ok _) =>
            { passage := .dispatched virtualKeyId attempt sent
              response := some (leaves visit.requestId (.ok (streamingResponse limits)))
              tasks }
      else { passage := .dispatched virtualKeyId attempt sent }

/-- The body is validated, then the endpoint runs. -/
def enter (virtualKeyId : ℤ) (attempt : ℕ) (limits : Headers) (latencyMs : ℕ) : Turned :=
  match receiveRequest app.numbers visit.inbound.body with
  | .answered response =>
      { passage := .closed, response := some (leaves visit.requestId (.ok response.http)) }
  | .raised exception =>
      { passage := .closed, response := some (leaves visit.requestId (.error exception)) }
  | .passed request => app.dispatch visit virtualKeyId attempt limits latencyMs request

/-- A chat that has ended is answered. -/
def finish (virtualKeyId : ℤ) (attempt : ℕ) (sent : ChatRequest) (limits : Headers) (outcome : Outcome)
    (latencyMs : ℕ) : Turned where
  passage := .dispatched virtualKeyId attempt sent
  response := some (leaves visit.requestId
    ((answer sent outcome).http app.str visit.requestId limits))
  tasks := failureRecords sent virtualKeyId latencyMs outcome

end App

namespace Endpoint

variable (app : App) (e : Endpoint)

/-- The headers that the check of an attempt has set. -/
def limits (attempt : ℕ) : Headers :=
  match e.limiter.attempts[attempt]? with
  | some attempted => rateLimitHeaders attempted.status
  | none => []

/-- The turn of a request. Nothing when the request is not where the guard is. -/
def turn (visit : Visit) : EndpointAction → Option Turned
  | .authenticate _ now =>
      match visit.passage with
      | .arrived => some (app.authenticate visit e.db now)
      | _ => none
  | .readKey _ =>
      match visit.passage with
      | .limited virtualKeyId attempt => some (App.readKey virtualKeyId attempt e.db)
      | _ => none
  | .readKeySpend _ =>
      match visit.passage with
      | .keyCheck virtualKeyId attempt limit =>
          some (app.readKeySpend visit virtualKeyId attempt limit e.db)
      | _ => none
  | .readGlobalSpend _ =>
      match visit.passage with
      | .keyCleared virtualKeyId attempt => some (app.readGlobalSpend visit virtualKeyId attempt e.db)
      | _ => none
  | .lapse _ => if app.reads visit then some (App.lapse visit) else none
  | .enter _ latencyMs =>
      match visit.passage with
      | .cleared virtualKeyId attempt =>
          some (app.enter visit virtualKeyId attempt (e.limits attempt) latencyMs)
      | _ => none
  | .finish _ outcome latencyMs =>
      match visit.passage, visit.response with
      | .dispatched virtualKeyId attempt sent, none =>
          some (app.finish visit virtualKeyId attempt sent (e.limits attempt) outcome latencyMs)
      | _, _ => none
  | _ => none

/-- The state after the turn of a request. -/
def take (n : ℕ) (visit : Visit) (turned : Turned) : Endpoint :=
  { e with
    visits := e.visits.set n ⟨visit.inbound, turned.passage, turned.response.or visit.response⟩
    tasks := e.tasks ++ turned.tasks }

/-- **One step.** -/
def step (action : EndpointAction) : Option Endpoint :=
  match action with
  | .arrive inbound => some { e with visits := e.visits ++ [⟨inbound, .arrived, none⟩] }
  | .limit n now member delivery =>
      match e.visits[n]? with
      | some ⟨inbound, .authenticated virtualKeyId, response⟩ =>
          (e.limiter.step app.env.settings (.check virtualKeyId now member delivery)).bind fun limiter =>
            limiter.attempts.getLast?.map fun attempted =>
              let visit : Visit := ⟨inbound, .authenticated virtualKeyId, response⟩
              { e with limiter }.take n visit
                (app.limit visit virtualKeyId limiter.attempts attempted.status)
      | _ => none
  | .rollback check delivery =>
      (e.limiter.step app.env.settings (.rollback check delivery)).map fun limiter => { e with limiter }
  | .expire key now =>
      (e.limiter.step app.env.settings (.expire key now)).map fun limiter => { e with limiter }
  | .change db => some { e with db }
  | .authenticate n _ | .readKey n | .readKeySpend n | .readGlobalSpend n | .lapse n | .enter n _
  | .finish n _ _ =>
      e.visits[n]?.bind fun visit => (e.turn app visit action).map (e.take n visit)

end Endpoint

/-- Before the first request. -/
def Endpoint.init (db : Database) (store : Redis.Store) (clock : ℚ) : Endpoint :=
  { db, limiter := .init store clock }

/-! ## What a step does to the requests -/

/-- The request that an action is about. -/
def EndpointAction.visit : EndpointAction → Option ℕ
  | .authenticate n _ | .limit n _ _ _ | .readKey n | .readKeySpend n | .readGlobalSpend n | .lapse n
  | .enter n _ | .finish n _ _ => some n
  | .arrive _ | .rollback _ _ | .expire _ _ | .change _ => none

/-- The turn of the request of an action. -/
inductive VisitTurns (app : App) (e : Endpoint) (n : ℕ) (visit : Visit) :
    EndpointAction → Endpoint → Turned → Prop
  | guard {action : EndpointAction} {turned : Turned} (own : action.visit = some n)
      (taken : e.turn app visit action = some turned) :
      VisitTurns app e n visit action (e.take n visit turned) turned
  | limit {now : ℚ} {member : String} {delivery : Delivery} {virtualKeyId : ℤ} {limiter : FailingLimiter}
      {attempted : Attempted} (passage : visit.passage = .authenticated virtualKeyId)
      (checked : e.limiter.step app.env.settings (.check virtualKeyId now member delivery) = some limiter)
      (last : limiter.attempts.getLast? = some attempted) :
      VisitTurns app e n visit (.limit n now member delivery)
        ({ e with limiter }.take n visit
          (app.limit visit virtualKeyId limiter.attempts attempted.status))
        (app.limit visit virtualKeyId limiter.attempts attempted.status)

/-- **The steps of the endpoint.** -/
inductive EndpointSteps (app : App) (e : Endpoint) : EndpointAction → Endpoint → Prop
  | arrive (inbound : Inbound) :
      EndpointSteps app e (.arrive inbound) { e with visits := e.visits ++ [⟨inbound, .arrived, none⟩] }
  | turn {action : EndpointAction} {n : ℕ} {visit : Visit} {next : Endpoint} {turned : Turned}
      (found : e.visits[n]? = some visit) (turns : VisitTurns app e n visit action next turned) :
      EndpointSteps app e action next
  | redis {action : EndpointAction} {limiter : FailingLimiter} {other : FailingAction}
      (stepped : e.limiter.step app.env.settings other = some limiter)
      (apart : ∀ virtualKeyId now member delivery, other ≠ .check virtualKeyId now member delivery) :
      EndpointSteps app e action { e with limiter }
  | change (db : Database) : EndpointSteps app e (.change db) { e with db }

section Step

variable {app : App} {e next : Endpoint} {action : EndpointAction}

theorem endpointSteps_turn {n : ℕ} (own : action.visit = some n)
    (moved : (e.visits[n]?.bind fun visit => (e.turn app visit action).map (e.take n visit)) =
      some next) : EndpointSteps app e action next := by
  obtain ⟨visit, found, moved⟩ := Option.bind_eq_some_iff.mp moved
  obtain ⟨turned, taken, rfl⟩ := Option.map_eq_some_iff.mp moved
  exact .turn found (.guard own taken)

/-- **Nothing else happens.** -/
theorem endpointSteps_of_step (moved : e.step app action = some next) :
    EndpointSteps app e action next := by
  cases action with
  | arrive inbound =>
      cases moved
      exact .arrive inbound
  | change db =>
      cases moved
      exact .change db
  | rollback check delivery =>
      obtain ⟨limiter, stepped, rfl⟩ := Option.map_eq_some_iff.mp moved
      exact .redis stepped fun _ _ _ _ impossible => nomatch impossible
  | expire key now =>
      obtain ⟨limiter, stepped, rfl⟩ := Option.map_eq_some_iff.mp moved
      exact .redis stepped fun _ _ _ _ impossible => nomatch impossible
  | limit n now member delivery =>
      simp only [Endpoint.step] at moved
      split at moved
      · rename_i inbound virtualKeyId response found
        obtain ⟨limiter, checked, moved⟩ := Option.bind_eq_some_iff.mp moved
        obtain ⟨attempted, last, rfl⟩ := Option.map_eq_some_iff.mp moved
        exact .turn found (.limit rfl checked last)
      · cases moved
  | authenticate | readKey | readKeySpend | readGlobalSpend | lapse | enter | finish =>
      exact endpointSteps_turn rfl moved

end Step

end LlmGateway
