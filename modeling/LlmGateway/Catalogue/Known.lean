import LlmGateway.Catalogue.Listing
import LlmGateway.Cluster.InflightTable

/-!
# Known models

A model is known to a registry if some provider serves it (`Known`). The router, the chat endpoint
on either branch and the model endpoints each have their own test for that, and all of them agree
(`known_model`).

For the chat endpoint the argument is about runs. An engine that gives up has tried at least one
provider, so the exception in a future says which (`World.Trying`), and a follower that raises it
does not answer 404.
-/

set_option autoImplicit false

namespace LlmGateway

open LlmGateway.Library
open LlmGateway.Library.Redis (Command Reply Store)

/-- Some provider of the registry serves the model. -/
def Known (registry : ProviderRegistry) (model : String) : Prop :=
  ∃ provider ∈ registry.all, supports model provider = true

variable {registry : ProviderRegistry} {model : String}

theorem selectProviders_ne_nil : selectProviders registry model ≠ [] ↔ Known registry model := by
  constructor
  · intro candidates
    obtain ⟨provider, member⟩ := List.exists_mem_of_ne_nil _ candidates
    exact ⟨provider, mem_selectProviders.mp member⟩
  · rintro ⟨provider, known⟩ none
    have member := mem_selectProviders.mpr known
    rw [none] at member
    cases member

theorem getModel_known : (∃ entry, getModel registry model = .ok entry) ↔ Known registry model := by
  rw [getModel_eq]
  cases owner : modelOwner registry model with
  | some provider =>
      refine ⟨fun _ => ?_, fun _ => ⟨_, rfl⟩⟩
      by_contra unknown
      have none : modelOwner registry model = none :=
        modelOwner_eq_none.mpr fun other member =>
          Bool.eq_false_of_not_eq_true fun served => unknown ⟨other, member, served⟩
      rw [owner] at none
      cases none
  | none =>
      constructor
      · rintro ⟨entry, refused⟩
        cases refused
      · rintro ⟨provider, member, served⟩
        rw [modelOwner_eq_none.mp owner provider member] at served
        cases served

/-! ## Streams -/

/-- `_reject_unknown_streaming_model` lets the model pass, and records nothing. -/
def PassesStreaming (registry : ProviderRegistry) (model : String) : Prop :=
  ∀ (body : ChatRequest) (virtualKeyId : ℤ) (latencyMs : ℕ), body.model = model →
    rejectUnknownStreamingModel body registry virtualKeyId latencyMs = ([], .ok ())

theorem passesStreaming_known : PassesStreaming registry model ↔ Known registry model := by
  have test : registry.all.any (supports model) = true ↔ Known registry model := List.any_eq_true
  constructor
  · intro passes
    by_contra unknown
    have refused := passes { demoRequest true with model } 0 0 rfl
    unfold rejectUnknownStreamingModel at refused
    rw [if_neg (mt test.mp unknown)] at refused
    cases congrArg Prod.fst refused
  · rintro known body virtualKeyId latencyMs rfl
    exact if_pos (test.mpr known)

/-- An exhausted search names a provider that was tried, or it is the exception of an iterator, which
goes through as it is. -/
def Explained (iterator : BaseProvider → List StreamEvent) (exception : Option PyException) : Prop :=
  ∀ failure, exception = some (.noProviderAvailable failure) →
    failure.attemptedProviders ≠ [] ∨
      ∃ provider, .exception (.noProviderAvailable failure) ∈ iterator provider

/-- A generator that has found a candidate. -/
def StreamEngine.Tries (iterator : BaseProvider → List StreamEvent) : StreamEngine → Prop
  | .connect attempt => attempt.attempted ≠ []
  | .relay _ => True
  | .ended exception => Explained iterator exception

section Streams

variable {request : ChatRequest} {iterator : BaseProvider → List StreamEvent}

theorem StreamEngine.tries_tryNext (request : ChatRequest) {attempted : List String}
    (lastError : Option ProviderError) (candidates : List BaseProvider)
    (tried : attempted ≠ [] ∨ candidates ≠ []) :
    (tryNext request attempted lastError candidates).Tries iterator := by
  cases candidates with
  | cons next rest => simp [tryNext, Tries]
  | nil =>
      rintro failure same
      cases same
      exact .inl (tried.resolve_right (absurd rfl))

/-- One step of a generator that has found a candidate. -/
theorem StreamEngine.Tries.resume {engine next : StreamEngine} {event : StreamEvent}
    {emitted : Option (BaseProvider × String)} {source : BaseProvider}
    (tries : engine.Tries iterator) (given : event ∈ iterator source)
    (resumed : StreamEngine.resume request engine event = some (next, emitted)) :
    next.Tries iterator := by
  have passed : ∀ exception, event = .exception exception →
      (StreamEngine.ended (some exception)).Tries iterator := by
    rintro exception rfl failure same
    cases same
    exact .inr ⟨source, given⟩
  cases engine with
  | connect attempt =>
      cases event with
      | line line =>
          cases resumed
          trivial
      | exhausted | providerError error =>
          cases resumed
          exact tries_tryNext request _ attempt.rest (.inl tries)
      | exception exception =>
          cases resumed
          exact passed exception rfl
  | relay provider =>
      cases event with
      | line line =>
          cases resumed
          trivial
      | exhausted =>
          cases resumed
          rintro failure same
          cases same
      | providerError error =>
          cases resumed
          rintro failure same
          cases same
      | exception exception =>
          cases resumed
          exact passed exception rfl
  | ended exception => cases resumed

/-- A run of a generator that has found a candidate, on what an open iterator has still to do. -/
theorem StreamRuns.explained {engine : StreamEngine} {events : List StreamEvent}
    {trace : List EngineAction} {exception : Option PyException} {source : BaseProvider}
    (run : StreamRuns request iterator engine events trace exception)
    (tries : engine.Tries iterator) (given : events ⊆ iterator source) :
    Explained iterator exception := by
  induction run generalizing source with
  | ended exception events => exact tries
  | @opened attempt old events event next emitted trace exception opens resumed later ih =>
      have offered : event :: events ⊆ iterator attempt.current := opens ▸ List.Subset.refl _
      exact ih (tries.resume (offered List.mem_cons_self) resumed)
        fun _ member => offered (List.mem_cons_of_mem _ member)
  | read resumed later ih =>
      exact ih (tries.resume (given List.mem_cons_self) resumed)
        fun _ member => given (List.mem_cons_of_mem _ member)

end Streams

/-- Whatever the iterators do, `stream_chat_completion` does not give up without a try. -/
def TriesStreaming (registry : ProviderRegistry) (model : String) : Prop :=
  ∀ (request : ChatRequest) (iterator : BaseProvider → List StreamEvent) (trace : List EngineAction)
    (exception : Option PyException), request.model = model →
      StreamRuns request iterator (.start request (selectProviders registry request.model)) [] trace
        exception → Explained iterator exception

theorem triesStreaming_known : TriesStreaming registry model ↔ Known registry model := by
  constructor
  · intro tries
    by_contra unknown
    have none : selectProviders registry model = [] :=
      Classical.not_not.mp (mt selectProviders_ne_nil.mp unknown)
    let request : ChatRequest := { demoRequest true with model }
    have gives := tries request (fun _ => []) [] _ rfl
      (by rw [show request.model = model from rfl, none]; exact .ended _ [])
    rcases gives _ rfl with tried | ⟨provider, raised⟩
    · exact tried rfl
    · cases raised
  · rintro known request iterator trace exception rfl run
    have candidates := selectProviders_ne_nil.mpr known
    obtain ⟨source, -⟩ := known
    exact run.explained (StreamEngine.tries_tryNext request none _ (.inr candidates))
      (List.nil_subset (iterator source))

/-! ## Chats -/

/-- The endpoint answers 404. -/
def Answer.NotFound : Answer → Prop
  | .error status _ _ _ _ => status = 404
  | _ => False

/-- An exhausted search names a provider that was tried. -/
def Tried : PyException → Prop
  | .noProviderAvailable failure => failure.attemptedProviders ≠ []
  | _ => True

/-- **The endpoint answers 404** for a search without candidates, and for nothing else. -/
theorem notFound_answer {request : ChatRequest} {outcome : Outcome} :
    (answer request outcome).NotFound ↔
      ∃ exception, outcome = .raised exception ∧ ¬ Tried exception := by
  have known : ∀ lastError, (classifyUpstreamError lastError).1 ≠ 404 := by
    rintro (_ | error)
    · simp [classifyUpstreamError]
    · cases kind : error.kind <;> simp [classifyUpstreamError, kind]
  cases outcome with
  | returned response => simp [answer, Answer.NotFound]
  | raised exception =>
      cases exception with
      | noProviderAvailable failure =>
          by_cases empty : failure.attemptedProviders = []
          · simp [answer, Answer.NotFound, Tried, empty]
          · simp [answer, Answer.NotFound, Tried, empty, known]
      | _ => simp [answer, Answer.NotFound, Tried]

/-- What a call may raise: an exhausted search names a provider, unless there are no candidates. -/
def Raisable (candidates : List BaseProvider) (exception : PyException) : Prop :=
  Tried exception ∨ candidates = []

/-- A call that raises only that, and whose engine has tried a provider. -/
structure ChatCall.Tries (call : ChatCall) : Prop where
  raises : call.RaisesOnly (Raisable (selectProviders call.registry call.request.model))
  attempt : ∀ attempt, call.point = .execute attempt → attempt.attempted ≠ []

/-- The exceptions in the futures name a provider that was tried. -/
def TriedFutures (futures : CallId → Option FutureState) : Prop :=
  ∀ leader exception, futures leader = some (.exception exception) → Tried exception

section Turn

variable {env : Environment} {id : CallId} {process : Process} {call : ChatCall} {clock : Clock}
  {input : Input} {turn : Turn}

theorem tried_of_ended {attempt : Attempt} {request : ChatRequest} {outcome : AttemptOutcome}
    {exception : PyException} (tried : attempt.attempted ≠ [])
    (ended : attempt.resume request outcome = .inr (.raised exception)) : Tried exception := by
  rcases Attempt.resume_raised ended with ⟨name, -, rfl⟩ | ⟨error, failure, -, rfl, named⟩
  · trivial
  · change failure.attemptedProviders ≠ []
    rwa [named]

/-- One turn. -/
theorem turns_tries (tries : call.Tries) (futures : TriedFutures process.futures)
    (turns : Turns env id process call clock input turn) : turn.call.Tries := by
  have same := turns_arguments turns
  constructor
  · rw [same.registry, same.request]
    refine turns_raisesOnly (by rintro exception (rfl | rfl) <;> exact .inl trivial) .inr
      (fun point ended => .inl (tried_of_ended (tries.attempt _ point) ended))
      (fun _ _ => .inl trivial) ?_ (fun _ => .inl trivial) tries.raises turns
    intro leader exception raises
    generalize state : process.futures leader = future at raises
    cases raises with
    | exception => exact .inl (futures leader _ state)
    | cancelled => exact .inl trivial
  · intro attempt inside
    cases turns with
    | granted | lead =>
        cases inside
        exact List.cons_ne_nil _ _
    | retry point moved =>
        cases inside
        obtain ⟨error, -, -, named⟩ := Attempt.resume_next moved
        rw [named]
        exact List.append_ne_nil_of_right_ne_nil _ (List.cons_ne_nil _ _)
    | _ => cases inside

theorem turns_triedFutures (tries : call.Tries) (futures : TriedFutures process.futures)
    (turns : Turns env id process call clock input turn) : TriedFutures turn.process.futures := by
  intro leader exception future
  have updated : ∀ (other : CallId) (given : FutureState),
      (∀ raised, given = .exception raised → Tried raised) →
        Function.update process.futures other (some given) leader = some (.exception exception) →
          Tried exception := by
    intro other given tried future
    rw [Function.update_apply] at future
    split_ifs at future
    · exact tried exception (Option.some.inj future)
    · exact futures leader exception future
  cases turns with
  | granted | lead => exact updated id .pending (by simp) future
  | released => exact updated id (.result _) (by simp) future
  | returnedFree =>
      change Function.update (process.retire id).futures id _ leader = _ at future
      rw [process.retire_futures] at future
      exact updated id (.result _) (by simp) future
  | returnedLocked | returnedClash | cancelledLocked | cancelledFree =>
      exact futures leader exception
        ((congrFun (process.retire_futures id) leader).symm.trans future)
  | raisedLocked point ended fails | raisedFree point ended fails =>
      rw [Process.retire_futures] at future
      cases fails with
      | told =>
          refine updated id (.exception _) ?_ future
          rintro raised same
          cases same
          exact tried_of_ended (tries.attempt _ point) ended
      | clash => exact futures leader exception future
  | cancelledFollow => exact updated _ .cancelled (by simp) future
  | _ => exact futures leader exception future

end Turn

/-- In every process an exhausted search names a provider that was tried. -/
structure World.Trying (w : World) : Prop where
  calls : ∀ id call, w.call id = some call → call.Tries
  futures : TriedFutures w.futures

theorem trying_init (store : Store) : (World.init store).Trying :=
  ⟨fun _ _ running => by simp [World.call, World.init] at running, fun _ _ future => by cases future⟩

theorem trying_step {env : Environment} {w next : World} {action : Action} (trying : w.Trying)
    (moved : w.step env action = some next) : next.Trying := by
  cases moves_of_step moved with
  | starts fresh calls inflight futures =>
      refine ⟨fun other call running => ?_, futures ▸ trying.futures⟩
      rw [calls, Function.update_apply] at running
      split_ifs at running
      · obtain rfl := Option.some.inj running
        exact ⟨⟨by simp [ChatCall.start], by simp [ChatCall.start], by simp [ChatCall.start]⟩,
          by simp [ChatCall.start]⟩
      · exact trying.calls other call running
  | @turns id before input clock turn _ running turns calls inflight futures =>
      have tries := trying.calls _ _ running
      refine ⟨fun other call found => ?_, futures ▸ turns_triedFutures tries trying.futures turns⟩
      rw [calls, Function.update_apply] at found
      split_ifs at found
      · obtain rfl := Option.some.inj found
        exact turns_tries tries trying.futures turns
      · exact trying.calls other call found
  | stays _ calls inflight futures => exact ⟨calls ▸ trying.calls, futures ▸ trying.futures⟩

theorem trying_run {env : Environment} {store : Store} {actions : List Action} {w : World}
    (reached : run (World.step env) (.init store) actions = some w) : w.Trying :=
  invariant_of_step (trying_init store) (fun _ _ _ trying moved => trying_step trying moved) reached

/-- In no run is a chat call for the model answered 404, whatever the providers do. -/
def FoundByChats (env : Environment) (registry : ProviderRegistry) (model : String) : Prop :=
  ∀ (store : Store) (actions : List Action) (w : World) (id : CallId) (call : ChatCall)
    (outcome : Outcome), run (World.step env) (.init store) actions = some w →
      w.call id = some call → call.registry = registry → call.request.model = model →
        call.point = .done outcome → ¬ (answer call.request outcome).NotFound

/-- A call that misses the cache in an empty store. -/
def lookUp (request : ChatRequest) (registry : ProviderRegistry) : List Action :=
  [.start 1 0 request registry 1, .serve 1 .answered, .chat 1 (.reply .nil) ⟨false, 20⟩]

/-- A call without candidates ends with its miss. -/
theorem lookUp_unknown (env : Environment) {request : ChatRequest}
    (candidates : selectProviders registry request.model = []) :
    ∃ w call, run (World.step env) (.init Store.empty) (lookUp request registry) = some w ∧
      w.call 1 = some call ∧ call.request = request ∧ call.registry = registry ∧
        call.point = .done (.raised call.unknownModel) := by
  let call := ChatCall.start 0 request registry 1
  let frame := Frame.chat call
  let sent := (World.init Store.empty).spawn 1 frame (call.cacheKey env)
  let replied := sent.deliver 1 frame (.get (call.cacheKey env)) .answered
  let turn : Turn :=
    { process := replied.process env call, call := call.finish (.raised call.unknownModel) }
  have missed :
      call.resume env 1 (replied.process env call) ⟨false, 20⟩ (.reply .nil) = some turn := by
    change some (call.miss env 1 _ _) = _
    unfold ChatCall.miss
    rw [show selectProviders call.registry call.request.model = [] from candidates]
    rfl
  have task : replied.tasks 1 = some ⟨.chat call, .replied .nil⟩ := rfl
  have fits : Input.fits (.replied .nil) (.reply .nil) = true := rfl
  have last : replied.step env (.chat 1 (.reply .nil) ⟨false, 20⟩) =
      some (replied.applyTurn env 1 (.replied .nil) 20 turn) := by
    simp only [World.step, task, if_pos fits, missed, Option.map_some]
  refine ⟨replied.applyTurn env 1 (.replied .nil) 20 turn, turn.call, ?_, rfl, rfl, rfl, rfl⟩
  change (replied.step env (.chat 1 (.reply .nil) ⟨false, 20⟩)).bind some = _
  rw [last, Option.bind_some]

theorem foundByChats_known {env : Environment} :
    FoundByChats env registry model ↔ Known registry model := by
  constructor
  · intro found
    by_contra unknown
    have none : selectProviders registry model = [] :=
      Classical.not_not.mp (mt selectProviders_ne_nil.mp unknown)
    let unserved : ChatRequest := { demoRequest false with model }
    obtain ⟨w, call, reached, running, request, same, ended⟩ :=
      lookUp_unknown env (show selectProviders registry unserved.model = [] from none)
    refine found Store.empty _ w 1 call _ reached running same (by rw [request]) ended ?_
    exact notFound_answer.mpr ⟨_, rfl, fun tried => tried rfl⟩
  · rintro known store actions w id call outcome reached running rfl rfl ended answered
    obtain ⟨exception, rfl, untried⟩ := notFound_answer.mp answered
    have tries := (trying_run reached).calls id call running
    exact (tries.raises.done exception ended).elim untried (selectProviders_ne_nil.mpr known)

/-- Every miss that finds no future in flight is answered 404 at once. -/
def RefusedByChats (env : Environment) (registry : ProviderRegistry) (model : String) : Prop :=
  ∀ (id : CallId) (process : Process) (call : ChatCall) (clock : Clock) (input : Input) (turn : Turn),
    call.registry = registry → call.request.model = model → Misses call input →
      process.entry = none → Turns env id process call clock input turn →
        ∃ outcome, turn.call.point = .done outcome ∧ (answer call.request outcome).NotFound

theorem refusedByChats_unknown {env : Environment} (none : selectProviders registry model = []) :
    RefusedByChats env registry model := by
  rintro id process call clock input turn rfl rfl missed entry turns
  have far : ∀ point, call.point = point → point ≠ .cacheGet ∧ point ≠ .discard → False :=
    fun point here => missed.absurd_of_point here
  cases turns with
  | unknown => exact ⟨_, rfl, notFound_answer.mpr ⟨_, rfl, fun tried => tried rfl⟩⟩
  | contend _ _ candidates =>
      rw [none] at candidates
      cases candidates
  | hit point | unreadable point =>
      rcases missed with ⟨-, absent⟩ | here
      · exact absurd rfl (absent _)
      · rw [point] at here
        cases here
  | join _ found =>
      rw [entry] at found
      cases found
  | followed awaits | followedRaise awaits =>
      rcases awaits with ⟨-, found⟩ | point
      · rw [entry] at found
        cases found
      · exact (far _ point (by simp)).elim
  | poll waits => rcases waits with ⟨point, -⟩ | point <;> exact (far _ point (by simp)).elim
  | lead gives =>
      rcases gives with ⟨⟨point, -⟩ | point, -⟩ | point | point <;>
        exact (far _ point (by simp)).elim
  | pause point | waited point | granted point | retry point | returnedLocked point
  | returnedFree point | returnedClash point | raisedLocked point | raisedFree point
  | released point | releasedClash point | releasedRaise point | settled point
  | cancelledFollow point | cancelledLocked point | cancelledFree point =>
      exact (far _ point (by simp)).elim
  | cancelledElsewhere => cases missed

/-! ## One notion -/

/-- **One notion of a known model.** The router has candidates, the chat endpoint never answers
404, streaming is let through and tries a provider, and the model has an entry: all or none. And
the listing has an entry for each model that a provider names, in order, none twice, and each is
the one that `get_model` gives. -/
theorem known_model (env : Environment) (registry : ProviderRegistry) (model : String) :
    ((selectProviders registry model ≠ [] ↔ FoundByChats env registry model) ∧
      (selectProviders registry model ≠ [] ↔ PassesStreaming registry model) ∧
      (selectProviders registry model ≠ [] ↔ TriesStreaming registry model) ∧
      (selectProviders registry model ≠ [] ↔ ∃ entry, getModel registry model = .ok entry) ∧
      (selectProviders registry model = [] → RefusedByChats env registry model)) ∧
    (listModels registry).Pairwise (fun first second => first.id < second.id) ∧
      (model ∈ (listModels registry).map ModelEntry.id ↔
        ∃ provider ∈ registry.all, model ∈ provider.config.supportedModels) ∧
      ∀ entry ∈ listModels registry, getModel registry entry.id = .ok entry := by
  refine ⟨⟨?_, ?_, ?_, ?_, refusedByChats_unknown⟩, listModels_ordered registry, listed_iff,
    fun _ => getModel_of_listed⟩
  · rw [selectProviders_ne_nil, foundByChats_known]
  · rw [selectProviders_ne_nil, passesStreaming_known]
  · rw [selectProviders_ne_nil, triesStreaming_known]
  · rw [selectProviders_ne_nil, getModel_known]

end LlmGateway
