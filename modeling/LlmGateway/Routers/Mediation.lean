import LlmGateway.Library.History
import LlmGateway.Routers.Endpoint

/-!
# What the endpoint lets through

In whatever order the requests, the database and Redis take their steps, a request is handed to the
services only after every guard has let it pass, in order, each in the state of its own moment
(`complete_mediation`).
-/

set_option autoImplicit false

namespace LlmGateway

open LlmGateway.Library

/-! ## The guards as events -/

section Events

variable (app : App) (n : ℕ) (inbound : Inbound) (virtualKeyId : ℤ) (attempt : ℕ)

/-- The request is authenticated. -/
def Authenticates (e : Endpoint) (action : EndpointAction) : Prop :=
  ∃ now, action = .authenticate n now ∧
    authenticateRequest app.env e.db now inbound.authorization = .ok virtualKeyId

/-- Its check is the attempt, and the limiter accepts it. -/
def Admits (e : Endpoint) (action : EndpointAction) : Prop :=
  ∃ now member delivery limiter attempted, action = .limit n now member delivery ∧
    e.limiter.step app.env.settings (.check virtualKeyId now member delivery) = some limiter ∧
      limiter.attempts[attempt]? = some attempted ∧ attempted.status.allowed = true

/-- The key is found to have this limit, or none. -/
def FindsLimit (limit : Option ℚ) (e : Endpoint) (action : EndpointAction) : Prop :=
  action = .readKey n ∧ keyLimit (e.db.getKeyById virtualKeyId) = limit

/-- The key has spent less than its limit. -/
def BelowLimit (limit : ℚ) (e : Endpoint) (action : EndpointAction) : Prop :=
  action = .readKeySpend n ∧ e.db.getKeySpendUsd virtualKeyId < limit

/-- All keys together have spent less than the global limit. -/
def BelowGlobalLimit (limit : ℚ) (e : Endpoint) (action : EndpointAction) : Prop :=
  action = .readGlobalSpend n ∧ e.db.getGlobalSpendUsd < limit

/-- The body is accepted, the ceiling is put on it, and a stream is for a model that is known. -/
def Enters (sent : ChatRequest) (_ : Endpoint) (action : EndpointAction) : Prop :=
  ∃ latencyMs request, action = .enter n latencyMs ∧
    receiveRequest app.numbers inbound.body = .passed request ∧
      enforceMaxTokens app.maxTokensPerRequest request = .ok sent ∧
        (sent.stream = true → selectProviders app.registry sent.model ≠ [])

/-- The guards up to the cap of the key. -/
def keyGuards (limit : Option ℚ) : List (Endpoint → EndpointAction → Prop) :=
  [Authenticates app n inbound virtualKeyId, Admits app n virtualKeyId attempt,
    FindsLimit n virtualKeyId limit] ++ limit.toList.map (BelowLimit n virtualKeyId)

/-- The guards up to the end of the dependencies. -/
def allGuards (limit : Option ℚ) : List (Endpoint → EndpointAction → Prop) :=
  keyGuards app n inbound virtualKeyId attempt limit ++
    app.env.settings.globalSpendLimitUsd.toList.map (BelowGlobalLimit n)

end Events

/-- What is handed over of a request, with its virtual key and its attempt. -/
def Passage.handed : Passage → Option (ℤ × ℕ × ChatRequest)
  | .dispatched virtualKeyId attempt sent => some (virtualKeyId, attempt, sent)
  | _ => none

theorem Passage.handed_eq_some {passage : Passage} {virtualKeyId : ℤ} {attempt : ℕ} {sent : ChatRequest} :
    passage.handed = some (virtualKeyId, attempt, sent) ↔
      passage = .dispatched virtualKeyId attempt sent := by
  cases passage <;> simp [Passage.handed]

/-- What has happened to a request that stands here. -/
def Mediated (app : App) (start : Endpoint) (actions : List EndpointAction) (n : ℕ) (visit : Visit) :
    Prop :=
  match visit.passage with
  | .arrived | .closed | .lapsed => True
  | .authenticated virtualKeyId =>
      Occurs (Endpoint.step app) start actions [Authenticates app n visit.inbound virtualKeyId]
  | .limited virtualKeyId attempt =>
      Occurs (Endpoint.step app) start actions
        [Authenticates app n visit.inbound virtualKeyId, Admits app n virtualKeyId attempt]
  | .keyCheck virtualKeyId attempt limit =>
      Occurs (Endpoint.step app) start actions
        [Authenticates app n visit.inbound virtualKeyId, Admits app n virtualKeyId attempt,
          FindsLimit n virtualKeyId (some limit)]
  | .keyCleared virtualKeyId attempt =>
      ∃ limit, Occurs (Endpoint.step app) start actions
        (keyGuards app n visit.inbound virtualKeyId attempt limit)
  | .cleared virtualKeyId attempt =>
      ∃ limit, Occurs (Endpoint.step app) start actions
        (allGuards app n visit.inbound virtualKeyId attempt limit)
  | .dispatched virtualKeyId attempt sent =>
      ∃ limit, Occurs (Endpoint.step app) start actions
        (allGuards app n visit.inbound virtualKeyId attempt limit ++ [Enters app n visit.inbound sent])

section Mediation

variable {app : App} {start e next : Endpoint} {actions : List EndpointAction} {action : EndpointAction}
  {n : ℕ} {visit : Visit} {turned : Turned}

theorem Mediated.later (mediated : Mediated app start actions n visit) (action : EndpointAction) :
    Mediated app start (actions ++ [action]) n visit := by
  unfold Mediated at mediated ⊢
  split at mediated <;> try trivial
  · exact mediated.later _
  · exact mediated.later _
  · exact mediated.later _
  · exact mediated.imp fun _ occurred => occurred.later _
  · exact mediated.imp fun _ occurred => occurred.later _
  · exact mediated.imp fun _ occurred => occurred.later _

/-- What a turn does to the requests. -/
theorem visits_take (found : e.visits[n]? = some visit) (m : ℕ) :
    (e.take n visit turned).visits[m]? =
      if n = m then some ⟨visit.inbound, turned.passage, turned.response.or visit.response⟩
      else e.visits[m]? := by
  have inside : n < e.visits.length := (List.getElem?_eq_some_iff.mp found).1
  rw [Endpoint.take, List.getElem?_set]
  by_cases same : n = m
  · rw [if_pos same, if_pos same, if_pos inside]
  · rw [if_neg same, if_neg same]

theorem VisitTurns.visits (turns : VisitTurns app e n visit action next turned)
    (found : e.visits[n]? = some visit) (m : ℕ) :
    next.visits[m]? =
      if n = m then some ⟨visit.inbound, turned.passage, turned.response.or visit.response⟩
      else e.visits[m]? := by
  cases turns with
  | guard => exact visits_take found m
  | limit => exact visits_take (e := { e with limiter := _ }) found m

/-- The requests after a step: as before, one that has just arrived, or the one whose turn it was. -/
theorem visit_of_step (moved : e.step app action = some next) {later : Visit} {m : ℕ}
    (there : next.visits[m]? = some later) :
    e.visits[m]? = some later ∨ (later.passage = .arrived ∧ later.response = none) ∨
      ∃ visit turned, e.visits[m]? = some visit ∧ VisitTurns app e m visit action next turned ∧
        later = ⟨visit.inbound, turned.passage, turned.response.or visit.response⟩ := by
  cases endpointSteps_of_step moved with
  | arrive inbound =>
      by_cases old : m < e.visits.length
      · rw [List.getElem?_append_left old] at there
        exact .inl there
      · rw [List.getElem?_append_right (not_lt.mp old), List.getElem?_singleton] at there
        split at there
        · cases there
          exact .inr (.inl ⟨rfl, rfl⟩)
        · cases there
  | @turn _ n visit _ turned found turns =>
      rw [turns.visits found] at there
      by_cases same : n = m
      · subst same
        rw [if_pos rfl, Option.some.injEq] at there
        exact .inr (.inr ⟨visit, turned, found, turns, there.symm⟩)
      · rw [if_neg same] at there
        exact .inl there
  | redis | change => exact .inl there

/-- The end of the guards: the request is handed over, or it is not going to be. -/
theorem dispatch_passage (app : App) (visit : Visit) (virtualKeyId : ℤ) (attempt : ℕ) (limits : Headers)
    (latencyMs : ℕ) (request : ChatRequest) :
    (app.dispatch visit virtualKeyId attempt limits latencyMs request).passage = .closed ∨
      ∃ sent, (app.dispatch visit virtualKeyId attempt limits latencyMs request).passage =
        .dispatched virtualKeyId attempt sent := by
  unfold App.dispatch
  split
  · exact .inl rfl
  · rename_i sent enforced
    split
    · split
      · exact .inl rfl
      · exact .inr ⟨sent, rfl⟩
    · exact .inr ⟨sent, rfl⟩

/-- A request that is handed over has passed the rest of the endpoint. -/
theorem enters_of_dispatch {virtualKeyId : ℤ} {attempt : ℕ} {limits : Headers} {latencyMs : ℕ}
    {request sent : ChatRequest} {own : ℤ} {place : ℕ}
    (received : receiveRequest app.numbers visit.inbound.body = .passed request)
    (dispatched : (app.dispatch visit virtualKeyId attempt limits latencyMs request).passage =
      .dispatched own place sent) :
    Enters app n visit.inbound sent e (.enter n latencyMs) := by
  unfold App.dispatch at dispatched
  split at dispatched
  · cases dispatched
  · rename_i body enforced
    split at dispatched
    · rename_i streams
      split at dispatched
      · cases dispatched
      · rename_i tasks _ known
        cases dispatched
        refine ⟨latencyMs, request, rfl, received, enforced, fun _ none => ?_⟩
        unfold rejectUnknownStreamingModel at known
        split at known
        · rename_i served
          obtain ⟨provider, member, supported⟩ := List.any_eq_true.mp served
          have candidate := mem_selectProviders.mpr ⟨member, supported⟩
          rw [none] at candidate
          cases candidate
        · cases known
    · rename_i plain
      cases dispatched
      exact ⟨latencyMs, request, rfl, received, enforced, fun streams => absurd streams plain⟩

/-- A guard adds what it is to what has happened. -/
theorem mediated_guard (reached : run (Endpoint.step app) start actions = some e)
    (mediated : Mediated app start actions n visit) (own : action.visit = some n)
    (taken : e.turn app visit action = some turned) :
    Mediated app start (actions ++ [action]) n
      ⟨visit.inbound, turned.passage, turned.response.or visit.response⟩ := by
  cases action with
  | authenticate m now =>
      cases own
      simp only [Endpoint.turn] at taken
      split at taken
      · cases taken
        unfold App.authenticate
        split
        · trivial
        · rename_i virtualKeyId known
          exact Occurs.snoc (.none actions) reached ⟨now, rfl, known⟩
      · cases taken
  | readKey m =>
      cases own
      simp only [Endpoint.turn] at taken
      split at taken
      · rename_i virtualKeyId attempt passage
        cases taken
        simp only [Mediated, passage] at mediated
        unfold App.readKey
        split
        · rename_i unlimited
          exact ⟨none, by simpa [keyGuards] using mediated.snoc reached ⟨rfl, unlimited⟩⟩
        · rename_i limit limited
          exact mediated.snoc reached ⟨rfl, limited⟩
      · cases taken
  | readKeySpend m =>
      cases own
      simp only [Endpoint.turn] at taken
      split at taken
      · rename_i virtualKeyId attempt limit passage
        cases taken
        simp only [Mediated, passage] at mediated
        unfold App.readKeySpend checkKeySpend
        by_cases spent : limit ≤ e.db.getKeySpendUsd virtualKeyId
        · rw [if_pos spent]
          trivial
        · rw [if_neg spent]
          exact ⟨some limit, mediated.snoc reached ⟨rfl, not_le.mp spent⟩⟩
      · cases taken
  | readGlobalSpend m =>
      cases own
      simp only [Endpoint.turn] at taken
      split at taken
      · rename_i virtualKeyId attempt passage
        cases taken
        simp only [Mediated, passage] at mediated
        obtain ⟨limit, occurred⟩ := mediated
        unfold App.readGlobalSpend enforceGlobalCap
        cases capped : app.env.settings.globalSpendLimitUsd with
        | none => exact ⟨limit, by simpa [allGuards, capped] using occurred.later _⟩
        | some bound =>
            simp only [checkGlobalSpend]
            by_cases spent : bound ≤ e.db.getGlobalSpendUsd
            · rw [if_pos spent]
              trivial
            · rw [if_neg spent]
              refine ⟨limit, ?_⟩
              simpa [allGuards, capped] using occurred.snoc reached ⟨rfl, not_le.mp spent⟩
      · cases taken
  | lapse m =>
      simp only [Endpoint.turn] at taken
      split at taken <;> cases taken
      trivial
  | enter m latencyMs =>
      cases own
      simp only [Endpoint.turn] at taken
      split at taken
      · rename_i virtualKeyId attempt passage
        cases taken
        simp only [Mediated, passage] at mediated
        obtain ⟨limit, occurred⟩ := mediated
        unfold App.enter
        split
        · trivial
        · trivial
        · rename_i request received
          have entered {sent : ChatRequest}
              (dispatched : (app.dispatch visit virtualKeyId attempt (e.limits attempt) latencyMs
                request).passage = .dispatched virtualKeyId attempt sent) :
              Enters app n visit.inbound sent e (.enter n latencyMs) :=
            enters_of_dispatch received dispatched
          rcases dispatch_passage app visit virtualKeyId attempt (e.limits attempt) latencyMs request with
            closed | ⟨sent, dispatched⟩
          · simp only [Mediated, closed]
          · simp only [Mediated, dispatched]
            exact ⟨limit, occurred.snoc reached (entered dispatched)⟩
      · cases taken
  | finish m outcome latencyMs =>
      cases own
      simp only [Endpoint.turn] at taken
      split at taken
      · rename_i virtualKeyId attempt sent passage open_
        cases taken
        simp only [Mediated, passage] at mediated
        obtain ⟨limit, occurred⟩ := mediated
        exact ⟨limit, occurred.later _⟩
      · cases taken
  | limit | arrive | rollback | expire | change => cases taken

/-- So does the rate limit. -/
theorem mediated_limit (reached : run (Endpoint.step app) start actions = some e)
    (mediated : Mediated app start actions n visit) {now : ℚ} {member : String} {delivery : Delivery}
    {virtualKeyId : ℤ} {limiter : FailingLimiter} {attempted : Attempted}
    (passage : visit.passage = .authenticated virtualKeyId)
    (checked : e.limiter.step app.env.settings (.check virtualKeyId now member delivery) = some limiter)
    (last : limiter.attempts.getLast? = some attempted) :
    Mediated app start (actions ++ [.limit n now member delivery]) n
      ⟨visit.inbound, (app.limit visit virtualKeyId limiter.attempts attempted.status).passage,
        (app.limit visit virtualKeyId limiter.attempts attempted.status).response.or visit.response⟩ := by
  simp only [Mediated, passage] at mediated
  unfold App.limit
  split
  · rename_i allowed
    rw [List.getLast?_eq_getElem?] at last
    exact mediated.snoc reached ⟨now, member, delivery, limiter, attempted, rfl, checked, last, allowed⟩
  · trivial

/-- **One step** of any request adds to what has happened. -/
theorem mediated_step (reached : run (Endpoint.step app) start actions = some e)
    (mediated : ∀ n visit, e.visits[n]? = some visit → Mediated app start actions n visit)
    (moved : e.step app action = some next) :
    ∀ n visit, next.visits[n]? = some visit → Mediated app start (actions ++ [action]) n visit := by
  intro m later there
  rcases visit_of_step moved there with before | ⟨arrived, -⟩ | ⟨visit, turned, found, turns, rfl⟩
  · exact (mediated m later before).later action
  · simp only [Mediated, arrived]
  · cases turns with
    | guard own taken => exact mediated_guard reached (mediated m visit found) own taken
    | limit passage checked last =>
        exact mediated_limit reached (mediated m visit found) passage checked last

end Mediation

theorem mediated_run {app : App} {start e : Endpoint} (fresh : start.visits = [])
    {actions : List EndpointAction} (reached : run (Endpoint.step app) start actions = some e) (n : ℕ)
    (visit : Visit) (there : e.visits[n]? = some visit) : Mediated app start actions n visit := by
  have mediated : ∀ n visit, e.visits[n]? = some visit → Mediated app start actions n visit :=
    run_induction_of_step
      (P := fun actions e => ∀ n visit, e.visits[n]? = some visit → Mediated app start actions n visit)
      (fun n visit there => by simp [fresh] at there)
      (fun _ _ _ _ earlier mediated moved => mediated_step earlier mediated moved) reached
  exact mediated n visit there

/-- **Complete mediation.** In every run of the endpoint a request that has been handed to the services
has been authenticated, then accepted by the rate limiter, then its key was read, found below its limit
if it has one, then all keys below the global limit if there is one, and then its body was accepted; in
this order, each in a state of the run, with the virtual key of its own header, and what is handed over
is its own body under the ceiling. -/
theorem complete_mediation (app : App) (start : Endpoint) (fresh : start.visits = [])
    (actions : List EndpointAction) (e : Endpoint)
    (reached : run (Endpoint.step app) start actions = some e) {n : ℕ} {inbound : Inbound}
    {virtualKeyId : ℤ} {attempt : ℕ} {sent : ChatRequest} {response : Option HttpResponse}
    (dispatched : e.visits[n]? = some ⟨inbound, .dispatched virtualKeyId attempt sent, response⟩) :
    ∃ limit, Occurs (Endpoint.step app) start actions
      ([Authenticates app n inbound virtualKeyId, Admits app n virtualKeyId attempt,
          FindsLimit n virtualKeyId limit] ++
        limit.toList.map (BelowLimit n virtualKeyId) ++
        app.env.settings.globalSpendLimitUsd.toList.map (BelowGlobalLimit n) ++
        [Enters app n inbound sent]) := by
  exact mediated_run fresh reached n _ dispatched

/-! ## A day at the endpoint -/

/-- A client of the virtual key 1. -/
def visitor : Inbound where
  requestId := none
  uuid := "0f8e1c9a"
  drawn := by decide
  authorization := some "Bearer sk-demo"
  body := plainBody

/-- One request a window, five dollars for the key and a hundred for all. -/
def visitedApp : App where
  env :=
    { settings := { demoLimits with globalSpendLimitUsd := some 100 }
      sha256 := fun _ =>
        ⟨"f77894fdfa58e447c57e077eaa9708e8e009c84dc6aba2db80461275e9b85be7", by decide +kernel⟩
      codec := jsonCodec
      token := demoToken
      python := .standard }
  numbers := plainNumbers
  registry := buildRegistry { openaiApiKey := some "sk-provider" }
  maxTokensPerRequest := 4096
  str _ := ""

def visitedDatabase : Database where
  apiKeys :=
    [{ id := 1
       hashedKey := "f77894fdfa58e447c57e077eaa9708e8e009c84dc6aba2db80461275e9b85be7"
       clientName := "demo"
       spendLimitUsd := some 5
       expiresAt := none
       createdAt := 0 }]

def visitedResponse : ChatResponse where
  id := "chatcmpl-1"
  created := 1760000000
  model := "gpt-4o"
  choices := [{ message := ⟨.assistant, "nothing", by decide⟩ }]
  usage := ⟨14, 1, 15⟩

/-- Two requests come at nearly the same time. The first passes all guards while the second is rejected
by the rate limit, and it is answered. -/
def visits : List EndpointAction :=
  [.arrive visitor, .arrive visitor, .authenticate 0 100, .authenticate 1 100,
    .limit 0 100 "100.0:0a" .answered, .limit 1 101 "101.0:0b" .answered, .readKey 0, .readKeySpend 0,
    .readGlobalSpend 0, .enter 0 3, .finish 0 (.returned visitedResponse) 250]

/-- The theorem about the first of these requests. -/
theorem complete_mediation_visit :
    ∃ e visit sent,
      run (Endpoint.step visitedApp) (.init visitedDatabase Redis.Store.empty 0) visits = some e ∧
        e.visits[0]? = some visit ∧ visit.passage = .dispatched 1 0 sent ∧
          ∃ limit, Occurs (Endpoint.step visitedApp) (.init visitedDatabase Redis.Store.empty 0) visits
            ([Authenticates visitedApp 0 visit.inbound 1, Admits visitedApp 0 1 0, FindsLimit 0 1 limit] ++
              limit.toList.map (BelowLimit 0 1) ++
              visitedApp.env.settings.globalSpendLimitUsd.toList.map (BelowGlobalLimit 0) ++
              [Enters visitedApp 0 visit.inbound sent]) := by
  have performed : ((run (Endpoint.step visitedApp) (.init visitedDatabase Redis.Store.empty 0) visits).bind
      fun e => e.visits[0]?.bind fun visit => visit.passage.handed).map
        (fun handed => (handed.1, handed.2.1)) = some (1, 0) := by decide +kernel
  obtain ⟨⟨virtualKeyId, attempt, sent⟩, found, same⟩ := Option.map_eq_some_iff.mp performed
  cases same
  obtain ⟨e, reached, there⟩ := Option.bind_eq_some_iff.mp found
  obtain ⟨⟨inbound, passage, response⟩, visited, handed⟩ := Option.bind_eq_some_iff.mp there
  obtain rfl := Passage.handed_eq_some.mp handed
  exact ⟨e, _, sent, reached, visited, rfl, complete_mediation visitedApp _ rfl visits e reached visited⟩

end LlmGateway
