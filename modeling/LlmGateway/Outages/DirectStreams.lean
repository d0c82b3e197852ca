import LlmGateway.Library.Simulation
import LlmGateway.Outages.Direct
import LlmGateway.Streams.Framing

/-!
# A stream whose read of the cache fails

After the read of the cache has failed, `_stream_response` relays its upstreams and rebuilds a
response on the way, which it writes to the cache at the end. `StreamSession.Mirrors` relates it to
the session without Redis on the same upstreams: they have yielded the same lines and
scheduled the same records. Redis is not asked before the end, so the two sessions go on together
(`streamsDirectly_of_harmless`).

They part in one case. The response is rebuilt, and validated, outside of the handler of
Redis errors. Where a chunk makes the accumulator raise, or the accumulated response does not
validate, the stream fails although there was nothing to serve it for (`Prepares`).
-/

set_option autoImplicit false

namespace LlmGateway

open LlmGateway.Library
open LlmGateway.Library.Redis (Command Reply)

/-! ## Two calls side by side -/

/-- Where a call of `_stream_response` stands, and where the direct call stands at the same
time. Writing to the cache comes after the end. -/
inductive SamePlace : StreamPoint → StreamPoint → Prop
  | connect (attempt : Attempt) : SamePlace (.connect attempt) (.connect attempt)
  | relay : SamePlace .relay .relay
  | read : SamePlace .read .read
  | report : SamePlace .report .report
  | done (ending : StreamEnding) : SamePlace (.done ending) (.done ending)
  | writing : SamePlace .cacheSet (.done .returned)
  | closed : SamePlace (.done .stopped) (.done .returned)

/-- What the two calls agree on, wherever they stand. -/
structure StreamCall.Agrees (call direct : StreamCall) : Prop where
  request : call.request = direct.request
  virtualKeyId : call.virtualKeyId = direct.virtualKeyId
  requestId : call.requestId = direct.requestId
  serving : call.servingProvider = direct.servingProvider
  usage : call.usage = direct.usage

/-- The two calls agree and stand at the same place. -/
structure StreamCall.Mirrors (call direct : StreamCall) : Prop extends call.Agrees direct where
  place : SamePlace call.point direct.point

/-- What the two turns agree on. -/
structure StreamTurn.Mirrors (turn direct : StreamTurn) : Prop where
  call : turn.call.Mirrors direct.call
  emit : turn.emit = direct.emit
  schedule : turn.schedule = direct.schedule

/-- **The two sessions agree**: they have yielded the same lines, scheduled the same records and
opened the same iterators, and they stand at the same place. -/
structure StreamSession.Mirrors (s direct : StreamSession) : Prop where
  call : s.call.Mirrors direct.call
  relay : s.relay = direct.relay
  opened : s.opened = direct.opened
  output : s.output = direct.output
  scheduled : s.scheduled = direct.scheduled

/-- The response for the cache is prepared without an exception: a line whose usage can be taken
can be accumulated, and where the usage of the stream is recorded the accumulated response
validates. -/
def StreamCall.Prepares (python : Interpreter) (call : StreamCall) (clock : StreamClock) :
    StreamEvent → Prop
  | .line line => ∀ usage, captureUsage python line call.usage = .ok usage →
      ∃ accumulator, ChunkAccumulator.feed python line call.accumulator = .ok () accumulator
  | .exhausted => ∀ provider task, call.point = .read → call.servingProvider = some provider →
      scheduleStreamUsage call.virtualKeyId provider call.request.model call.usage
        clock.latencyMs = .ok task → call.accumulator.sawAnyChunk = true →
          ∃ response, call.accumulator.toResponse (clock.created 0) = .ok response
  | .providerError _ | .exception _ => True

section Pieces

variable {env : Environment} {call direct : StreamCall} {clock : StreamClock}

/-- Two calls that end, go on or report together. -/
theorem StreamCall.Agrees.at (agrees : call.Agrees direct) {point other : StreamPoint}
    (place : SamePlace point other) :
    ({ call with point := point } : StreamCall).Mirrors { direct with point := other } :=
  { agrees with place }

theorem mirrors_fail (agrees : call.Agrees direct) (message errorType recorded : String)
    (attempted : Option (List String)) (retryAfter : Option String) :
    (call.fail clock message errorType recorded attempted retryAfter).Mirrors
      (direct.fail clock message errorType recorded attempted retryAfter) where
  call := agrees.at .report
  emit := by simp only [StreamCall.fail, agrees.requestId]
  schedule := by simp only [StreamCall.fail, agrees.virtualKeyId, agrees.request]

theorem mirrors_tryNext (agrees : call.Agrees direct) (attempted : List String)
    (lastError : Option ProviderError) (candidates : List BaseProvider) :
    (call.tryNext clock attempted lastError candidates).Mirrors
      (direct.tryNext clock attempted lastError candidates) := by
  cases candidates with
  | cons next rest => exact ⟨agrees.at (.connect _), rfl, rfl⟩
  | nil =>
      simp only [StreamCall.tryNext, StreamCall.noProvider, agrees.request]
      split
      · exact mirrors_fail agrees _ _ _ _ _
      · exact mirrors_fail agrees _ _ _ _ _

theorem mirrors_providerFailed (agrees : call.Agrees direct) (error : ProviderError) :
    (call.providerFailed clock error).Mirrors (direct.providerFailed clock error) := by
  simp only [StreamCall.providerFailed]
  split <;> exact mirrors_fail agrees _ _ _ _ _

theorem mirrors_line (mirrors : call.Mirrors direct) {provider : BaseProvider} {line : String}
    (prepares : call.Prepares env.python clock (.line line)) :
    (call.relayLine env provider line).Mirrors (direct.directLine env.python provider line) := by
  have serving : (call.serving provider).Mirrors (direct.serving provider) :=
    { mirrors with serving := by simp only [StreamCall.serving, mirrors.serving] }
  cases captured : captureUsage env.python line call.usage with
  | error exception =>
      simp only [StreamCall.relayLine, StreamCall.directLine, StreamCall.serving, ← mirrors.usage,
        captured]
      exact ⟨{ serving with usage := rfl, place := .done _ }, rfl, rfl⟩
  | ok usage =>
      obtain ⟨accumulator, fed⟩ := prepares usage captured
      simp only [StreamCall.relayLine, StreamCall.directLine, StreamCall.serving, ← mirrors.usage,
        captured, fed]
      exact ⟨{ serving with usage := rfl, place := .relay }, rfl, rfl⟩

/-- The end of the stream. -/
theorem mirrors_succeed (mirrors : call.Mirrors direct) {provider : BaseProvider}
    (point : call.point = .read) (served : call.servingProvider = some provider)
    (prepares : call.Prepares env.python clock .exhausted) :
    (call.succeed env clock).Mirrors (direct.directEnd clock provider) := by
  have succeeded : ({ call with success := true } : StreamCall).Mirrors direct :=
    { mirrors with }
  cases recorded : scheduleStreamUsage call.virtualKeyId provider call.request.model call.usage
      clock.latencyMs with
  | error exception =>
      simp only [StreamCall.succeed, StreamCall.directEnd, served, ← mirrors.virtualKeyId,
        ← mirrors.request, ← mirrors.usage, recorded]
      exact ⟨{ succeeded with serving := served ▸ mirrors.serving, place := .done _ }, rfl, rfl⟩
  | ok task =>
      simp only [StreamCall.succeed, StreamCall.directEnd, StreamCall.closing, served,
        ← mirrors.virtualKeyId, ← mirrors.request, ← mirrors.usage, recorded]
      split
      · rename_i seen
        obtain ⟨response, built⟩ := prepares provider task point served recorded seen
        simp only [built]
        exact ⟨{ succeeded with serving := served ▸ mirrors.serving, place := .writing }, rfl, rfl⟩
      · exact ⟨{ succeeded with serving := served ▸ mirrors.serving, place := .done _ }, rfl, rfl⟩

/-- **The next turn of a call is the next turn of the direct call.** -/
theorem mirrors_resume {input : StreamInput} {turn : StreamTurn} (mirrors : call.Mirrors direct)
    (awaited : ∀ reply, input ≠ .reply reply)
    (prepares : ∀ event, input = .event event → call.Prepares env.python clock event)
    (resumed : call.resume env clock input = some turn) :
    ∃ other, direct.direct env.python clock input = some other ∧ turn.Mirrors other := by
  have place := mirrors.place
  cases input with
  | reply reply => exact absurd rfl (awaited reply)
  | event event =>
      have prepared := prepares event rfl
      simp only [StreamCall.resume] at resumed
      split at resumed
      · rename_i attempt point
        cases resumed
        rw [point] at place
        generalize at_ : direct.point = other at place
        cases place
        refine ⟨direct.directConnected env.python clock attempt event,
          by simp only [StreamCall.direct, at_], ?_⟩
        cases event with
        | line line => exact mirrors_line mirrors prepared
        | exhausted => exact mirrors_tryNext mirrors.toAgrees _ _ _
        | providerError error => exact mirrors_tryNext mirrors.toAgrees _ _ _
        | exception exception => exact ⟨mirrors.at (.done _), rfl, rfl⟩
      · rename_i provider point served
        cases resumed
        rw [point] at place
        generalize at_ : direct.point = other at place
        cases place
        refine ⟨direct.directRead env.python clock provider event,
          by simp only [StreamCall.direct, at_, ← mirrors.serving, served], ?_⟩
        cases event with
        | line line => exact mirrors_line mirrors prepared
        | exhausted => exact mirrors_succeed mirrors point served prepared
        | providerError error => exact mirrors_providerFailed mirrors.toAgrees error
        | exception exception => exact ⟨mirrors.at (.done _), rfl, rfl⟩
      · cases resumed
  | pull =>
      simp only [StreamCall.resume] at resumed
      split at resumed
      · rename_i rest point
        rw [point] at place
        cases place
      · rename_i point
        cases resumed
        rw [point] at place
        generalize at_ : direct.point = other at place
        cases place
        exact ⟨{ call := { direct with point := .read } }, by simp only [StreamCall.direct, at_],
          mirrors.at .read, rfl, rfl⟩
      · rename_i point
        cases resumed
        rw [point] at place
        generalize at_ : direct.point = other at place
        cases place
        exact ⟨{ call := direct.finish .returned }, by simp only [StreamCall.direct, at_],
          mirrors.at (.done _), rfl, rfl⟩
      · cases resumed
  | stop =>
      simp only [StreamCall.resume] at resumed
      split at resumed
      · cases resumed
      · rename_i running
        cases resumed
        generalize before : call.point = from_ at place
        generalize at_ : direct.point = other at place
        cases place with
        | done ending => exact absurd before (running ending)
        | closed => exact absurd before (running .stopped)
        | writing =>
            refine ⟨{ call := direct }, by simp only [StreamCall.direct, at_], ?_, rfl, rfl⟩
            exact { mirrors with place := at_ ▸ .closed }
        | connect | relay | read | report =>
            exact ⟨{ call := direct.finish .stopped }, by simp only [StreamCall.direct, at_],
              mirrors.at (.done _), rfl, rfl⟩

/-- A reply is awaited at the end only, and leaves the lines and the records alone. -/
theorem mirrors_reply {reply : Reply} {turn : StreamTurn} (mirrors : call.Mirrors direct)
    (resumed : call.resume env clock (.reply reply) = some turn) :
    turn = { call := call.finish .returned } ∧ (call.finish .returned).Mirrors direct := by
  have place := mirrors.place
  simp only [StreamCall.resume] at resumed
  split at resumed
  · rename_i point
    rw [point] at place
    cases place
  · rename_i point
    rw [point] at place
    cases place
  · rename_i point
    cases resumed
    rw [point] at place
    generalize at_ : direct.point = other at place
    cases place
    exact ⟨rfl, { mirrors with place := at_ ▸ .done _ }⟩
  · cases resumed

/-- A line that cannot be accumulated is not yielded. -/
theorem relayLine_unfed {provider : BaseProvider} {line : String} {usage : Usage}
    (captured : captureUsage env.python line call.usage = .ok usage)
    (unfed : ∀ accumulator, ChunkAccumulator.feed env.python line call.accumulator ≠ .ok () accumulator) :
    (call.relayLine env provider line).emit = none := by
  cases fed : ChunkAccumulator.feed env.python line call.accumulator with
  | ok value accumulator => exact absurd fed (unfed accumulator)
  | error exception accumulator => simp only [StreamCall.relayLine, captured, fed]

theorem directLine_emit {provider : BaseProvider} {line : String} {usage : Usage}
    (captured : captureUsage env.python line direct.usage = .ok usage) :
    (direct.directLine env.python provider line).emit = some line := by
  simp only [StreamCall.directLine, StreamCall.serving, captured]

/-- **Where the two calls part**: a response that cannot be prepared ends the one and not the
other. -/
theorem parts_of_unprepared {event : StreamEvent} {turn other : StreamTurn}
    (mirrors : call.Mirrors direct) (unprepared : ¬ call.Prepares env.python clock event)
    (resumed : call.resume env clock (.event event) = some turn)
    (also : direct.direct env.python clock (.event event) = some other) : ¬ turn.Mirrors other := by
  intro together
  have place := mirrors.place
  cases event with
  | line line =>
      simp only [StreamCall.Prepares, not_forall, not_exists] at unprepared
      obtain ⟨usage, captured, unfed⟩ := unprepared
      have yields : ∀ provider, (direct.directLine env.python provider line).emit = some line :=
        fun provider => directLine_emit (mirrors.usage ▸ captured)
      have silent : turn.emit = none := by
        simp only [StreamCall.resume] at resumed
        split at resumed <;> cases resumed <;> exact relayLine_unfed captured unfed
      have loud : other.emit = some line := by
        simp only [StreamCall.direct] at also
        split at also <;> cases also <;> exact yields _
      rw [together.emit, loud] at silent
      cases silent
  | exhausted =>
      simp only [StreamCall.Prepares, not_forall, not_exists] at unprepared
      obtain ⟨provider, task, point, served, recorded, seen, unbuilt⟩ := unprepared
      cases built : call.accumulator.toResponse (clock.created 0) with
      | ok response => exact absurd built (unbuilt response)
      | error exception =>
          rw [point] at place
          generalize at_ : direct.point = from_ at place
          cases place
          have failed : turn.call.point = .done (.raised exception) := by
            simp only [StreamCall.resume, point, served, StreamCall.readNext, StreamCall.succeed,
              StreamCall.closing, recorded, seen, built] at resumed
            cases resumed
            rfl
          have ended : other.call.point = .done .returned := by
            simp only [StreamCall.direct, at_, ← mirrors.serving, served, StreamCall.directRead,
              StreamCall.directEnd, ← mirrors.virtualKeyId, ← mirrors.request, ← mirrors.usage,
              recorded] at also
            cases also
            rfl
          have apart := together.call.place
          rw [failed, ended] at apart
          cases apart
  | providerError error => exact unprepared trivial
  | exception exception => exact unprepared trivial

end Pieces

/-! ## Two sessions side by side -/

/-- What the direct session sees of an action: it awaits no reply. -/
def StreamAction.observed : StreamAction → Option StreamAction
  | .reply _ _ => none
  | action => some action

/-- A step by which the response for the cache is prepared without an exception. -/
def Harmless (env : Environment) (s : StreamSession) (action : StreamAction) (_ : StreamSession) : Prop :=
  ∀ event clock relay, s.input env action = some (.event event, clock, relay) →
    s.call.Prepares env.python clock event

section Sessions

variable {env : Environment} {upstreams : ℕ → Upstream} {s d : StreamSession}

/-- The sessions after two turns that agree. -/
theorem mirrors_take {turn other : StreamTurn} (turns : turn.Mirrors other)
    (opened : s.opened = d.opened) (output : s.output = d.output)
    (scheduled : s.scheduled = d.scheduled) (relay : Option Relay) :
    (s.take upstreams relay turn).Mirrors (d.take upstreams relay other) := by
  have place := turns.call.place
  have relays : (s.take upstreams relay turn).relay = (d.take upstreams relay other).relay ∧
      (s.take upstreams relay turn).opened = (d.take upstreams relay other).opened := by
    unfold StreamSession.take
    generalize here : turn.call.point = point at place
    generalize there : other.call.point = twin at place
    cases place <;> simp [opened, turns.call.request]
  refine ⟨by simpa using turns.call, relays.1, relays.2, ?_, ?_⟩
  · rw [take_output, take_output, output, turns.emit]
  · rw [take_scheduled, take_scheduled, scheduled, turns.schedule]

/-- Two sessions that have gone on together have taken turns that agree. -/
theorem turns_of_mirrors {turn other : StreamTurn} {relay : Option Relay}
    (together : (s.take upstreams relay turn).Mirrors (d.take upstreams relay other))
    (output : s.output = d.output) (scheduled : s.scheduled = d.scheduled) :
    turn.Mirrors other := by
  have lines := together.output
  have records := together.scheduled
  rw [take_output, take_output, output] at lines
  rw [take_scheduled, take_scheduled, scheduled] at records
  refine ⟨by simpa using together.call, ?_, List.append_cancel_left records⟩
  have same := List.append_cancel_left lines
  cases emitted : turn.emit <;> cases also : other.emit <;> simp_all

/-- The two sessions are given the same. -/
theorem input_mirrors (mirrors : s.Mirrors d) (action : StreamAction) :
    s.input env action = d.input env action := by
  cases action <;> simp only [StreamSession.input, mirrors.relay]

/-- **The session with a failed read simulates the session without Redis.** -/
theorem simulates_direct : Simulates (StreamSession.step env upstreams)
    (StreamSession.directStep env upstreams) StreamAction.observed (Harmless env)
    StreamSession.Mirrors where
  matched := by
    intro s action next d seen mirrors moved harmless visible
    obtain ⟨input, clock, relay, turn, given, resumed, rfl⟩ := turn_of_streamStep moved
    have awaited : ∀ reply, input ≠ .reply reply := by
      rintro reply rfl
      cases action <;> simp_all [StreamSession.input, StreamAction.observed]
    have same : seen = action := by
      cases action <;> simp_all [StreamAction.observed]
    subst same
    obtain ⟨other, direct, turns⟩ := mirrors_resume mirrors.call awaited
      (fun event same => harmless event clock relay (same ▸ given)) resumed
    refine ⟨d.take upstreams relay other, ?_,
      mirrors_take turns mirrors.opened mirrors.output mirrors.scheduled relay⟩
    simp only [StreamSession.directStep, ← input_mirrors mirrors, given, Option.bind_some, direct,
      Option.map_some]
  hidden := by
    intro s action next d mirrors moved harmless unseen
    obtain ⟨input, clock, relay, turn, given, resumed, rfl⟩ := turn_of_streamStep moved
    cases action with
    | reply reply own =>
        cases given
        obtain ⟨rfl, call⟩ := mirrors_reply mirrors.call resumed
        refine ⟨by simpa using call, mirrors.relay, mirrors.opened, ?_, ?_⟩
        · rw [take_output, ← mirrors.output]
          exact List.append_nil _
        · rw [take_scheduled, ← mirrors.scheduled]
          exact List.append_nil _
    | advance | pull | stop => cases unseen

end Sessions

/-! ## Runs -/

/-- The read of the cache has failed: the session is where the session without Redis is after
the same actions of the upstreams and of the consumer. -/
def StreamsDirectly (env : Environment) (upstreams : ℕ → Upstream) (request : ChatRequest)
    (registry : ProviderRegistry) (virtualKeyId : ℤ) (requestId : Option String)
    (actions : List StreamAction) (s : StreamSession) : Prop :=
  ∀ clock rest, actions = .reply .error clock :: rest → ∃ direct,
    run (StreamSession.directStep env upstreams)
        (.directInit upstreams request registry virtualKeyId requestId clock)
        (rest.filterMap StreamAction.observed) = some direct ∧ s.Mirrors direct

section Runs

variable {env : Environment} {upstreams : ℕ → Upstream} {request : ChatRequest}
  {registry : ProviderRegistry} {virtualKeyId : ℤ} {requestId : Option String}

/-- The first step of a session whose read fails. -/
theorem step_failed (clock : StreamClock) :
    (StreamSession.init env request registry virtualKeyId requestId).step env upstreams
        (.reply .error clock) =
      some ((StreamSession.init env request registry virtualKeyId requestId).take upstreams none
        ((StreamCall.start request registry virtualKeyId requestId).miss clock)) := rfl

theorem mirrors_failed (clock : StreamClock) :
    ((StreamSession.init env request registry virtualKeyId requestId).take upstreams none
        ((StreamCall.start request registry virtualKeyId requestId).miss clock)).Mirrors
      (.directInit upstreams request registry virtualKeyId requestId clock) := by
  have turns : ((StreamCall.start request registry virtualKeyId requestId).miss clock).Mirrors
      ((StreamCall.start request registry virtualKeyId requestId).miss clock) :=
    mirrors_tryNext ⟨rfl, rfl, rfl, rfl, rfl⟩ _ _ _
  unfold StreamSession.directInit
  refine mirrors_take turns ?_ ?_ ?_ none <;> rfl

/-- A stream whose read fails goes on as the stream without Redis, where the response for the
cache is prepared without an exception. -/
theorem streamsDirectly_of_harmless {actions : List StreamAction} {s : StreamSession}
    (harmless : Throughout (StreamSession.step env upstreams) (Harmless env)
      (.init env request registry virtualKeyId requestId) actions)
    (reached : run (StreamSession.step env upstreams)
      (.init env request registry virtualKeyId requestId) actions = some s) :
    StreamsDirectly env upstreams request registry virtualKeyId requestId actions s := by
  rintro clock rest rfl
  rw [run, step_failed clock, Option.bind_some] at reached
  have once : run (StreamSession.step env upstreams)
      (.init env request registry virtualKeyId requestId) [.reply .error clock] = _ :=
    congrArg (Option.bind · some) (step_failed clock)
  have later := harmless.rest (List.singleton_append ▸ once)
  exact simulates_direct.run (mirrors_failed clock) later reached

/-- Where a stream whose read fails goes on as the stream without Redis, the response for the
cache is prepared without an exception. -/
theorem harmless_of_streamsDirectly {actions : List StreamAction}
    (directly : AlwaysAfter (StreamSession.step env upstreams)
      (StreamsDirectly env upstreams request registry virtualKeyId requestId)
      (.init env request registry virtualKeyId requestId) actions)
    (failed : ∃ clock rest, actions = .reply .error clock :: rest) :
    Throughout (StreamSession.step env upstreams) (Harmless env)
      (.init env request registry virtualKeyId requestId) actions := by
  intro before action after state next split reached moved event clock relay given
  by_contra unprepared
  obtain ⟨started, rest, rfl⟩ := failed
  cases before with
  | nil =>
      obtain ⟨rfl, -⟩ := List.cons.inj split
      cases given
  | cons first before =>
      obtain ⟨rfl, -⟩ := List.cons.inj split
      have later := run_snoc_eq_some.mpr ⟨state, reached, moved⟩
      obtain ⟨d, ran, mirrors⟩ :=
        directly _ _ state split reached started before rfl
      obtain ⟨d', ran', mirrors'⟩ :=
        directly (_ ++ [action]) after next (by rw [split]; simp) later started (before ++ [action])
          rfl
      obtain ⟨input, own, relay', turn, given', resumed, rfl⟩ := turn_of_streamStep moved
      obtain ⟨⟨⟩⟩ := Option.some.inj (given.symm.trans given')
      have visible : action.observed = some action := by
        cases action with
        | advance => rfl
        | reply | pull | stop => cases given
      rw [List.filterMap_append, List.filterMap_cons_some visible, List.filterMap_nil] at ran'
      obtain ⟨d₁, same, stepped⟩ := run_snoc_eq_some.mp ran'
      obtain rfl := Option.some.inj (ran.symm.trans same)
      obtain ⟨⟨input, clock', relay''⟩, seen, taken⟩ := Option.bind_eq_some_iff.mp stepped
      rw [← input_mirrors mirrors, given] at seen
      obtain ⟨⟨⟩⟩ := Option.some.inj seen
      obtain ⟨other, directed, rfl⟩ := Option.map_eq_some_iff.mp taken
      exact parts_of_unprepared mirrors.call unprepared resumed directed
        (turns_of_mirrors mirrors' mirrors.output mirrors.scheduled)

end Runs

end LlmGateway
