import LlmGateway.Routers.Replies
import LlmGateway.Storage.Logs

/-!
# The rows of failed requests

A request that is rejected by the rate limit, that asks for an unknown model or that no provider could
serve leaves a row of status `error` behind. The rows of a stream that has begun are those of
`_stream_response`; no other request of the endpoint leaves one. In every state that the endpoint can
reach, the rows that it has scheduled are the failures that the clients have been told of: kind by kind
there are as many rows as responses.
-/

set_option autoImplicit false

namespace LlmGateway

open LlmGateway.Library

/-! ## What a response tells of -/

/-- The failure behind a status and the type of an error, as a row of `usage_logs` names it. A spent
limit has the status of the rate limit and leaves no row. -/
def recordedFailure (status : ℕ) (type : Option String) : Option String :=
  if status = 404 then some "model_not_found"
  else if status = 502 ∨ status = 504 then some "upstream_error"
  else if status = 429 ∧ type = some "rate_limit_error" then some "rate_limited"
  else none

/-- The failure that a client has been told of. -/
def HttpResponse.failure (response : HttpResponse) : Option String :=
  recordedFailure response.statusCode
    (response.error.bind fun error => (Json.lookup "type" error).bind asStr)

def Visit.failure (visit : Visit) : Option String := visit.response.bind HttpResponse.failure

/-- A response leaves only for a request that has no guard before it any more. -/
def AnsweredLast (passage : Passage) (response : Option HttpResponse) : Prop :=
  response = none ∨ (passage = .closed ∨ passage = .lapsed) ∨ ∃ handed, passage.handed = some handed

/-- A turn that schedules the rows that go with its response. -/
structure Turned.Records (turned : Turned) : Prop where
  answeredLast : AnsweredLast turned.passage turned.response
  rows : turned.tasks.map (fun task => task.row.errorType) =
    (turned.response.bind HttpResponse.failure).toList.map some

section Turns

variable {app : App} {e next : Endpoint} {action : EndpointAction} {visit : Visit} {turned : Turned}

/-- An error of the gateway tells of the failure that its status and its type are for. -/
theorem failure_leaves {raised : Raised} {error : List (String × Json)} {type : String}
    (detail : raised.exception.detail = .obj [("error", .obj error)])
    (typed : Json.lookup "type" error = some (.str type)) :
    (leaves visit.requestId
      (.ok (openaiStyleExceptionHandler app.str (some visit.requestId) raised))).failure =
        recordedFailure raised.exception.status (some type) := by
  have held := @error_leaves app.str visit.requestId raised error visit.requestId_ne (by rw [detail]; rfl)
  rw [HttpResponse.failure, held, Option.bind_some, Json.lookup_assign, if_neg (by decide), typed]
  rfl

/-- What a guard raises. -/
theorem records_raise {raised : Raised} {error : List (String × Json)} {type : String}
    {tasks : List UsageTask} (detail : raised.exception.detail = .obj [("error", .obj error)])
    (typed : Json.lookup "type" error = some (.str type))
    (rows : tasks.map (fun task => task.row.errorType) =
      (recordedFailure raised.exception.status (some type)).toList.map some) :
    (Turned.raise app visit raised tasks).Records := by
  rw [← failure_leaves detail typed] at rows
  exact ⟨.inr (.inl (.inl rfl)), rows⟩

/-- A guard that lets a request pass. -/
theorem records_pass (passage : Passage) : Turned.Records { passage } := ⟨.inl rfl, rfl⟩

theorem records_authenticate (db : Database) (now : ℚ) : (app.authenticate visit db now).Records := by
  unfold App.authenticate
  split
  · rename_i exception failed
    unfold authenticateRequest at failed
    split at failed
    · cases failed
      exact ⟨.inr (.inl (.inl rfl)), rfl⟩
    · split at failed
      · cases failed
        exact ⟨.inr (.inl (.inl rfl)), rfl⟩
      · cases failed
  · exact records_pass _

theorem records_limit (virtualKeyId : ℤ) (attempts : List Attempted) (status : RateLimitStatus) :
    (app.limit visit virtualKeyId attempts status).Records := by
  unfold App.limit
  split
  · exact records_pass _
  · exact records_raise rfl rfl rfl

theorem records_readKey (virtualKeyId : ℤ) (attempt : ℕ) (db : Database) :
    (App.readKey virtualKeyId attempt db).Records := by
  unfold App.readKey
  split <;> exact records_pass _

theorem records_readKeySpend (virtualKeyId : ℤ) (attempt : ℕ) (limit : ℚ) (db : Database) :
    (app.readKeySpend visit virtualKeyId attempt limit db).Records := by
  unfold App.readKeySpend
  split
  · rename_i exception failed
    unfold checkKeySpend at failed
    split at failed
    · cases failed
      exact records_raise rfl rfl rfl
    · cases failed
  · exact records_pass _

theorem records_readGlobalSpend (virtualKeyId : ℤ) (attempt : ℕ) (db : Database) :
    (app.readGlobalSpend visit virtualKeyId attempt db).Records := by
  unfold App.readGlobalSpend
  split
  · rename_i exception failed
    unfold enforceGlobalCap checkGlobalSpend at failed
    split at failed
    · cases failed
    · split at failed
      · cases failed
        exact records_raise rfl rfl rfl
      · cases failed
  · exact records_pass _

theorem records_dispatch (virtualKeyId : ℤ) (attempt : ℕ) (limits : Headers) (latencyMs : ℕ)
    (request : ChatRequest) :
    (app.dispatch visit virtualKeyId attempt limits latencyMs request).Records := by
  unfold App.dispatch
  split
  · rename_i exception failed
    unfold enforceMaxTokens at failed
    split at failed
    · split at failed
      · cases failed
        exact records_raise rfl rfl rfl
      · cases failed
    · cases failed
  · split
    · split
      · rename_i tasks exception failed
        unfold rejectUnknownStreamingModel at failed
        split at failed
        · cases failed
        · cases failed
          exact records_raise rfl rfl rfl
      · rename_i tasks result passed
        unfold rejectUnknownStreamingModel at passed
        split at passed
        · cases passed
          exact ⟨.inr (.inr ⟨_, rfl⟩), rfl⟩
        · cases passed
    · exact records_pass _

theorem records_enter (virtualKeyId : ℤ) (attempt : ℕ) (limits : Headers) (latencyMs : ℕ) :
    (app.enter visit virtualKeyId attempt limits latencyMs).Records := by
  unfold App.enter
  split
  · rename_i response received
    unfold receiveRequest at received
    split at received <;> cases received
    exact ⟨.inr (.inl (.inl rfl)), rfl⟩
  · exact ⟨.inr (.inl (.inl rfl)), rfl⟩
  · exact records_dispatch virtualKeyId attempt limits latencyMs _

/-- The failure that an error of a provider comes to. -/
theorem recordedFailure_classify (lastError : Option ProviderError) :
    recordedFailure (classifyUpstreamError lastError).1 (some (classifyUpstreamError lastError).2.1) =
      some "upstream_error" := by
  unfold classifyUpstreamError
  split
  · rfl
  · split <;> rfl

theorem records_finish (virtualKeyId : ℤ) (attempt : ℕ) (sent : ChatRequest) (limits : Headers)
    (outcome : Outcome) (latencyMs : ℕ) :
    (app.finish visit virtualKeyId attempt sent limits outcome latencyMs).Records := by
  have told {status : ℕ} {type message : String} {attemptedProviders : Option (List String)}
      {retryAfter : Option String}
      (failed : answer sent outcome = .error status type message attemptedProviders retryAfter)
      (rows : (failureRecords sent virtualKeyId latencyMs outcome).map (fun task => task.row.errorType) =
        (recordedFailure status (some type)).toList.map some) :
      (app.finish visit virtualKeyId attempt sent limits outcome latencyMs).Records := by
    have failure := fun raised error detail typed =>
      @failure_leaves app visit raised error type detail typed
    refine ⟨.inr (.inr ⟨_, rfl⟩), ?_⟩
    simp only [App.finish, failed, Answer.http, Option.bind_some]
    rw [rows, failure _ _ rfl rfl]
  cases outcome with
  | returned response => exact ⟨.inr (.inr ⟨_, rfl⟩), rfl⟩
  | raised exception =>
      cases exception with
      | noProviderAvailable failure =>
          cases unknown : failure.attemptedProviders.isEmpty with
          | true =>
              refine told (by simp only [answer, unknown, if_true]; rfl) ?_
              simp only [failureRecords, unknown, if_true]
              rfl
          | false =>
              refine told (by simp only [answer, unknown, Bool.false_eq_true, if_false]; rfl) ?_
              rw [recordedFailure_classify]
              simp only [failureRecords, unknown, Bool.false_eq_true, if_false]
              rfl
      | providerError error => exact told rfl rfl
      | _ => exact ⟨.inr (.inr ⟨_, rfl⟩), rfl⟩

/-- **A guard** schedules the rows that go with its response. -/
theorem records_turn (taken : e.turn app visit action = some turned) : turned.Records := by
  cases action with
  | authenticate m now =>
      simp only [Endpoint.turn] at taken
      split at taken <;> cases taken
      exact records_authenticate e.db now
  | readKey m =>
      simp only [Endpoint.turn] at taken
      split at taken <;> cases taken
      exact records_readKey _ _ e.db
  | readKeySpend m =>
      simp only [Endpoint.turn] at taken
      split at taken <;> cases taken
      exact records_readKeySpend _ _ _ e.db
  | readGlobalSpend m =>
      simp only [Endpoint.turn] at taken
      split at taken <;> cases taken
      exact records_readGlobalSpend _ _ e.db
  | lapse m =>
      simp only [Endpoint.turn] at taken
      split at taken <;> cases taken
      exact ⟨.inr (.inl (.inr rfl)), rfl⟩
  | enter m latencyMs =>
      simp only [Endpoint.turn] at taken
      split at taken <;> cases taken
      exact records_enter _ _ _ latencyMs
  | finish m outcome latencyMs =>
      simp only [Endpoint.turn] at taken
      split at taken <;> cases taken
      exact records_finish _ _ _ _ outcome latencyMs
  | limit | arrive | rollback | expire | change => cases taken

theorem VisitTurns.records {n : ℕ} (turns : VisitTurns app e n visit action next turned) :
    turned.Records := by
  cases turns with
  | guard _ taken => exact records_turn taken
  | limit => exact records_limit _ _ _

/-- A request that takes a turn has not been answered. -/
theorem VisitTurns.unanswered {n : ℕ} (turns : VisitTurns app e n visit action next turned)
    (answeredLast : AnsweredLast visit.passage visit.response) : visit.response = none := by
  have waiting (open_ : visit.passage ≠ .closed ∧ visit.passage ≠ .lapsed)
      (unhanded : visit.passage.handed = none) : visit.response = none := by
    rcases answeredLast with none | (closed | lapsed) | ⟨handed, there⟩
    · exact none
    · exact absurd closed open_.1
    · exact absurd lapsed open_.2
    · rw [unhanded] at there
      cases there
  cases turns with
  | limit passage => exact waiting (by simp [passage]) (by simp [passage, Passage.handed])
  | guard _ taken =>
      cases action with
      | finish m outcome latencyMs =>
          simp only [Endpoint.turn] at taken
          split at taken
          · assumption
          · cases taken
      | authenticate | readKey | readKeySpend | readGlobalSpend | enter =>
          simp only [Endpoint.turn] at taken
          split at taken
          · rename_i passage
            exact waiting (by simp [passage]) (by simp [passage, Passage.handed])
          · cases taken
      | lapse =>
          simp only [Endpoint.turn] at taken
          split at taken
          · rename_i reading
            cases passage : visit.passage <;>
              simp only [App.reads, passage, Bool.false_eq_true] at reading <;>
                exact waiting (by simp [passage]) (by simp [passage, Passage.handed])
          · cases taken
      | limit | arrive | rollback | expire | change => cases taken

end Turns

/-! ## Runs -/

/-- The rows and the responses of the endpoint tell of the same failures. -/
structure Endpoint.Recorded (e : Endpoint) : Prop where
  answeredLast : ∀ visit ∈ e.visits, AnsweredLast visit.passage visit.response
  rows : (e.tasks.map fun task => task.row.errorType).Perm ((e.visits.filterMap Visit.failure).map some)

/-- What a member of a list adds when it is set. -/
theorem filterMap_set_perm {α β : Type} (f : α → Option β) {old new : α} (silent : f old = none)
    {members : List α} {n : ℕ} (found : members[n]? = some old) :
    ((members.set n new).filterMap f).Perm (members.filterMap f ++ (f new).toList) := by
  induction members generalizing n with
  | nil => cases found
  | cons first rest ih =>
      cases n with
      | zero =>
          obtain rfl := Option.some.inj found
          cases added : f new with
          | none => simp [silent, added]
          | some value =>
              simpa [silent, added] using (List.perm_append_singleton value (rest.filterMap f)).symm
      | succ n =>
          have later := ih found
          cases kept : f first with
          | none => simpa [List.filterMap_cons, kept] using later
          | some value => simpa [List.filterMap_cons, kept] using later.cons value

section Runs

variable {app : App} {e next : Endpoint} {action : EndpointAction}

/-- **One step** schedules the rows that go with the response that leaves in it. -/
theorem failures_step (recorded : e.Recorded) (moved : e.step app action = some next) : next.Recorded := by
  cases endpointSteps_of_step moved with
  | arrive inbound =>
      refine ⟨fun visit member => ?_, ?_⟩
      · rcases List.mem_append.mp member with old | new
        · exact recorded.answeredLast visit old
        · rw [List.mem_singleton.mp new]
          exact .inl rfl
      · have silent : [(⟨inbound, .arrived, none⟩ : Visit)].filterMap Visit.failure = [] := rfl
        rw [List.filterMap_append, silent, List.append_nil]
        exact recorded.rows
  | @turn _ n visit _ turned found turns =>
      have unanswered := turns.unanswered (recorded.answeredLast visit (List.mem_of_getElem? found))
      have records := turns.records
      have visits : next.visits = e.visits.set n ⟨visit.inbound, turned.passage, turned.response⟩ := by
        cases turns <;> simp [Endpoint.take, unanswered]
      have tasks : next.tasks = e.tasks ++ turned.tasks := by
        cases turns <;> rfl
      refine ⟨fun other member => ?_, ?_⟩
      · rw [visits] at member
        rcases List.mem_or_eq_of_mem_set member with old | rfl
        · exact recorded.answeredLast other old
        · exact records.answeredLast
      · have grown := @filterMap_set_perm _ _ Visit.failure visit
          ⟨visit.inbound, turned.passage, turned.response⟩ (by rw [Visit.failure, unanswered]; rfl) _ _
          found
        rw [tasks, visits, List.map_append, records.rows]
        refine (recorded.rows.append_right _).trans ?_
        rw [← List.map_append]
        exact (grown.map some).symm
  | redis | change => exact ⟨recorded.answeredLast, recorded.rows⟩

end Runs

end LlmGateway
