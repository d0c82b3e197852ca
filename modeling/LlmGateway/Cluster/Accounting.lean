import LlmGateway.Cluster.Flow
import LlmGateway.Cluster.InflightTable

/-!
# One usage record for each request

Requests of the non-streaming endpoint, at any number of processes. A provider answers or
raises a `ProviderError`, Redis may fail at any command, and nothing is cancelled. Every request
that has ended should then have exactly one usage record, and none before: a record at the
price of the provider that answered, if the request ran its own chain to a response; a
record that costs nothing, if it was served by the cache, by a future or by another replica;
a record of a failure, if the endpoint answers with one (`Accounted`). It would follow that the
records with a provider's name are those of the provider calls that succeeded, one for one
(`World.Accounting`).

The metrics of a record are emitted before it is scheduled, and the counters refuse a
negative count and one that is too large for a double. `accounting_iff` says that no record is
lost in any other way.
-/

set_option autoImplicit false

namespace LlmGateway

open LlmGateway.Library
open LlmGateway.Library.Redis (Command Reply Store)

variable {env : Environment}

/-! ## The runs in question -/

/-- A provider answers, or it raises a `ProviderError`. -/
def AttemptOutcome.Proper : AttemptOutcome → Prop
  | .answered _ => True
  | .providerError _ => True
  | .exception _ => False

/-- A step of a non-streaming request that is not cancelled. -/
def Action.Proper : Action → Prop
  | .start _ _ _ registry _ => registry.Admissible
  | .startStream _ _ _ _ _ => False
  | .chat _ (.attempt outcome) _ => outcome.Proper
  | .chat _ .cancel _ => False
  | _ => True

theorem uncancelled_of_proper {actions : List Action} (proper : ∀ action ∈ actions, action.Proper) :
    Uncancelled actions := by
  intro action member
  have once := proper action member
  unfold Action.cancels
  split
  · cases once
  · rfl

/-! ## Records -/

namespace UsageTask

/-- A row of status `ok` with the name of a provider. -/
def real : UsageTask → Bool
  | .persistUsage record => record.provider != cacheProviderName
  | .createFailedUsageLog _ _ _ _ _ => false

/-- A row of status `ok` with the name of the cache. -/
def cached : UsageTask → Bool
  | .persistUsage record => record.provider == cacheProviderName
  | .createFailedUsageLog _ _ _ _ _ => false

/-- A row of status `error`. -/
def failed : UsageTask → Bool
  | .persistUsage _ => false
  | .createFailedUsageLog _ _ _ _ _ => true

end UsageTask

/-- What has been scheduled for a call. -/
def World.recorded (w : World) (id : CallId) : List UsageTask :=
  (w.scheduled.filter fun entry => entry.1 == id).map Prod.snd

/-- The calls that have a record with the name of a provider, one entry for each record. -/
def World.billed (w : World) : List CallId :=
  (w.scheduled.filter fun entry => entry.2.real).map Prod.fst

/-- The calls that a provider has answered, one entry for each answer. -/
def providerAnswers (actions : List Action) : List CallId :=
  actions.filterMap fun
    | .chat id (.attempt (.answered _)) _ => some id
    | _ => none

/-- The one record of a call that has ended. -/
inductive Books (call : ChatCall) : Outcome → UsageTask → Prop
  | own {provider : BaseProvider} {response : ChatResponse} {latencyMs : ℕ}
      (chain : call.chain = some (.returned provider response)) (admissible : provider.Admissible) :
      Books call (.returned response)
        (.persistUsage (buildUsageRecord call.virtualKeyId provider.config.name
          (provider.config.pricingFor call.request.model) response.model response.usage latencyMs))
  | served {response : ChatResponse} {latencyMs : ℕ} (chain : call.chain = none) :
      Books call (.returned response)
        (.persistUsage (cacheRecord call.virtualKeyId response latencyMs))
  | failed {failure : NoProviderAvailableError} {latencyMs : ℕ} {errorType : String}
      (chain : ∀ provider response, call.chain ≠ some (.returned provider response)) :
      Books call (.raised (.noProviderAvailable failure))
        (recordFailedRequest call.virtualKeyId call.request.model latencyMs errorType)

/-- The records of a call. -/
def ChatCall.Records (call : ChatCall) (records : List UsageTask) : Prop :=
  match call.point with
  | .done outcome => ∃ task, records = [task] ∧ Books call outcome task
  | _ => records = []

/-! ## What a call knows about its providers -/

/-- The providers that a call still deals with. -/
def Point.providers : Point → List BaseProvider
  | .acquire first rest | .poll first rest | .sleep first rest => first :: rest
  | .execute attempt => attempt.current :: attempt.rest
  | .release (.returned provider _) | .cacheSet provider _ => [provider]
  | _ => []

/-- The exception that says that no provider is available. -/
def PyException.Unavailable (exception : PyException) : Prop :=
  ∃ failure, exception = .noProviderAvailable failure

/-- The prices of the providers of a call are not negative. -/
structure ChatCall.Priced (call : ChatCall) : Prop where
  registry : call.registry.Admissible
  providers : ∀ provider ∈ call.point.providers, provider.Admissible

/-- Besides, its chain raises nothing but `NoProviderAvailableError`. -/
structure ChatCall.Orderly (call : ChatCall) : Prop extends call.Priced where
  chain : ∀ exception, call.chain = some (.raised exception) → exception.Unavailable
  release : ∀ exception, call.point = .release (.raised exception) → exception.Unavailable

/-! ## How a request is served -/

/-- A call is handed a response that it has not produced: an entry of the cache, the
result of a future, or an entry that it waited for. -/
inductive Serves (env : Environment) (w : World) (call : ChatCall) : Input → ChatResponse → Prop
  | hit {raw : String} {response : ChatResponse} (point : call.point = .cacheGet)
      (read : parseEntry env raw = some response) : Serves env w call (.reply (.bulk raw)) response
  | future {input : Input} {leader : CallId} {response : ChatResponse}
      (awaits : Awaits (w.process env call) call leader input)
      (result : w.futures leader = some (.result response)) : Serves env w call input response
  | waited {raw : String} {response : ChatResponse} {first : BaseProvider}
      {rest : List BaseProvider} (point : call.point = .poll first rest)
      (read : parseEntry env raw = some response) : Serves env w call (.reply (.bulk raw)) response

/-- A call is about to return this response: it is handed it, or it has stored it. -/
def Returns (env : Environment) (w : World) (call : ChatCall) (input : Input)
    (response : ChatResponse) : Prop :=
  Serves env w call input response ∨ ∃ provider, call.point = .cacheSet provider response

/-- A call that is about to return a response can record its counts. -/
def ReturnsBillable (env : Environment) (w : World) (action : Action) (_ : World) : Prop :=
  ∀ id input clock call response, action = .chat id input clock → w.call id = some call →
    Returns env w call input response → response.usage.Billable

section Turn

variable {w : World} {id : CallId} {process : Process} {call : ChatCall} {clock : Clock}
  {input : Input} {turn : Turn}

theorem Waits.providers {first : BaseProvider} {rest : List BaseProvider}
    (waits : Waits call first rest input) : call.point.providers = first :: rest := by
  rcases waits with ⟨point, -⟩ | point <;> rw [point] <;> rfl

theorem Gives.providers {first : BaseProvider} {rest : List BaseProvider}
    (gives : Gives env call clock first rest input) : call.point.providers = first :: rest := by
  rcases gives with ⟨waits, -⟩ | point | point
  · exact waits.providers
  · rw [point]; rfl
  · rw [point]; rfl

/-- A proper attempt ends a chain with a response or with `NoProviderAvailableError`. -/
theorem unavailable_of_ended {attempt : Attempt} {outcome : AttemptOutcome} {request : ChatRequest}
    {exception : PyException} (proper : outcome.Proper)
    (ended : attempt.resume request outcome = .inr (.raised exception)) : exception.Unavailable := by
  rcases Attempt.resume_raised ended with ⟨name, rfl, -⟩ | ⟨error, failure, -, rfl, -⟩
  · cases proper
  · exact ⟨failure, rfl⟩

/-- A call deals with providers that it dealt with before, or that it has selected. -/
theorem turns_providers {provider : BaseProvider}
    (turns : Turns env id process call clock input turn)
    (member : provider ∈ turn.call.point.providers) :
    provider ∈ call.point.providers ∨ provider ∈ call.registry.all := by
  cases turns with
  | contend missed entry candidates =>
      have chosen : provider ∈ selectProviders call.registry call.request.model := by
        rw [candidates]
        exact member
      exact .inr (mem_selectProviders.mp chosen).1
  | poll waits early => exact .inl (waits.providers ▸ member)
  | pause point | granted point | released point => exact .inl (by rw [point]; exact member)
  | lead gives => exact .inl (gives.providers ▸ member)
  | retry point moved =>
      obtain ⟨error, -, rest, -⟩ := Attempt.resume_next moved
      refine .inl ?_
      rw [point, Point.providers, rest]
      exact List.mem_cons_of_mem _ member
  | returnedLocked point ended | returnedFree point ended =>
      obtain ⟨-, rfl⟩ := Attempt.resume_returned ended
      obtain rfl := List.mem_singleton.mp member
      refine .inl ?_
      rw [point]
      exact List.mem_cons_self
  | _ => cases member

theorem turns_priced (priced : call.Priced) (turns : Turns env id process call clock input turn) :
    turn.call.Priced := by
  refine ⟨(turns_arguments turns).registry ▸ priced.registry, fun provider member => ?_⟩
  rcases turns_providers turns member with known | selected
  · exact priced.providers provider known
  · exact priced.registry provider selected

theorem turns_orderly (told : process.futures id = call.future)
    (proper : ∀ outcome, input = .attempt outcome → outcome.Proper) (uncancelled : input ≠ .cancel)
    (orderly : call.Orderly) (turns : Turns env id process call clock input turn) :
    turn.call.Orderly := by
  refine ⟨turns_priced orderly.toPriced turns, fun exception same => ?_, fun exception same => ?_⟩
  · cases turns with
    | raisedLocked point ended | raisedFree point ended =>
        cases same
        exact unavailable_of_ended (proper _ rfl) ended
    | returnedLocked | returnedFree | returnedClash => cases same
    | cancelledLocked | cancelledFree => exact absurd rfl uncancelled
    | _ => exact orderly.chain exception same
  · cases turns with
    | raisedLocked point ended fails =>
        cases same
        cases fails with
        | told => exact unavailable_of_ended (proper _ rfl) ended
        | clash decided => exact absurd (by rw [told]; simp [ChatCall.future, point]) decided
    | cancelledLocked => exact absurd rfl uncancelled
    | _ => cases same

/-- A call that reads a response under its key settles with it. -/
theorem turns_read {raw : String} {response : ChatResponse}
    (point : call.point = .cacheGet ∨ ∃ first rest, call.point = .poll first rest)
    (read : parseEntry env raw = some response)
    (turns : Turns env id (w.process env call) call clock (.reply (.bulk raw)) turn) :
    ∃ outcome schedule,
      Settles (cacheRecord call.virtualKeyId response clock.latencyMs) response outcome schedule ∧
        turn.call = call.finish outcome := by
  have elsewhere : ∀ {P : Prop} {other : Point}, call.point = other →
      (other ≠ .cacheGet ∧ ∀ first rest, other ≠ .poll first rest) → P := by
    rintro P other here ⟨notGet, notPoll⟩
    rcases point with there | ⟨first, rest, there⟩
    · exact absurd (here.symm.trans there) notGet
    · exact absurd (here.symm.trans there) (notPoll first rest)
  have unmissed : ∀ {P : Prop}, Misses call (.reply (.bulk raw)) → P := by
    rintro P (⟨-, absent⟩ | here)
    · exact absurd rfl (absent raw)
    · exact elsewhere here (by simp)
  cases turns with
  | hit _ parsed settles | waited _ parsed settles =>
      obtain rfl := Option.some.inj (read.symm.trans parsed)
      exact ⟨_, _, settles, rfl⟩
  | unreadable _ unread => rw [read] at unread; cases unread
  | join missed | unknown missed | contend missed => exact unmissed missed
  | followed awaits | followedRaise awaits =>
      rcases awaits with ⟨missed, -⟩
      exact unmissed missed
  | poll waits =>
      rcases waits with ⟨here, -⟩
      exact elsewhere here (by simp)
  | lead gives =>
      rcases gives with ⟨⟨here, -⟩, -⟩ | - | ⟨-, unread⟩
      · exact elsewhere here (by simp)
      · rw [read] at unread; cases unread
  | pause _ _ absent => exact absurd rfl (absent raw)
  | released here | releasedClash here | releasedRaise here | settled here =>
      exact elsewhere here (by simp)

/-- A call that is served ends with what it is served, without a chain. -/
theorem turns_serves {response : ChatResponse} (coherent : call.Coherent)
    (serves : Serves env w call input response)
    (turns : Turns env id (w.process env call) call clock input turn) : ∃ outcome schedule,
      Settles (cacheRecord call.virtualKeyId response clock.latencyMs) response outcome schedule ∧
        turn.call.point = .done outcome ∧ turn.call.chain = none := by
  cases serves with
  | hit point read =>
      simp only [ChatCall.Coherent, point] at coherent
      obtain ⟨outcome, schedule, settles, ended⟩ := turns_read (.inl point) read turns
      exact ⟨outcome, schedule, settles, by rw [ended]; rfl, by rw [ended]; exact coherent.1⟩
  | waited point read =>
      simp only [ChatCall.Coherent, point] at coherent
      obtain ⟨outcome, schedule, settles, ended⟩ := turns_read (.inr ⟨_, _, point⟩) read turns
      exact ⟨outcome, schedule, settles, by rw [ended]; rfl, by rw [ended]; exact coherent.1⟩
  | future awaits result =>
      obtain ⟨outcome, schedule, settles, ended⟩ := turns_awaits awaits result turns
      have unset := (ChatCall.future_early coherent awaits.early).1
      exact ⟨outcome, schedule, settles, by rw [ended]; rfl, by rw [ended]; exact unset⟩

/-- A call that ends with a response of no chain was served. -/
theorem serves_of_turns {response : ChatResponse} (coherent : call.Coherent)
    (turns : Turns env id (w.process env call) call clock input turn)
    (ended : turn.call.point = .done (.returned response)) (chain : turn.call.chain = none) :
    Serves env w call input response := by
  cases turns with
  | hit point read settles =>
      cases ended
      cases settles
      exact .hit point read
  | waited point read settles =>
      cases ended
      cases settles
      exact .waited point read
  | followed awaits result settles =>
      cases ended
      cases settles
      exact .future awaits result
  | settled point =>
      simp only [ChatCall.Coherent, point] at coherent
      exact absurd chain (by simp [ChatCall.finish, coherent])
  | _ => cases ended

/-- A call that has stored its response settles with it. -/
theorem turns_cacheSet {provider : BaseProvider} {response : ChatResponse}
    (point : call.point = .cacheSet provider response) (uncancelled : input ≠ .cancel)
    (turns : Turns env id process call clock input turn) : ∃ outcome schedule,
      Settles (buildUsageRecord call.virtualKeyId provider.config.name
        (provider.config.pricingFor call.request.model) response.model response.usage
        clock.latencyMs) response outcome schedule ∧ turn.call = call.finish outcome := by
  have elsewhere : ∀ {P : Prop} {other : Point}, call.point = other →
      (∀ provider response, other ≠ .cacheSet provider response) → P := fun here apart =>
    absurd (here.symm.trans point) (apart _ _)
  cases turns with
  | settled here settles =>
      obtain ⟨rfl, rfl⟩ := Point.cacheSet.inj (here.symm.trans point)
      exact ⟨_, _, settles, rfl⟩
  | join missed | unknown missed | contend missed =>
      exact (missed.absurd_of_point point (by simp)).elim
  | followed awaits | followedRaise awaits =>
      rcases awaits.point with here | here | here <;> exact elsewhere here (by simp)
  | poll waits => rcases waits with ⟨here, -⟩ | here <;> exact elsewhere here (by simp)
  | lead gives =>
      rcases gives with ⟨⟨here, -⟩ | here, -⟩ | here | here <;> exact elsewhere here (by simp)
  | hit here | unreadable here | pause here | waited here | granted here | retry here
  | returnedLocked here | returnedFree here | returnedClash here | raisedLocked here
  | raisedFree here | released here | releasedClash here | releasedRaise here =>
      exact elsewhere here (by simp)
  | cancelledFollow | cancelledLocked | cancelledFree | cancelledElsewhere =>
      exact absurd rfl uncancelled

/-- Away from a future and before its end a call has taken no future. -/
theorem ChatCall.Follows.untaken {futures : CallId → Option FutureState} (follows : call.Follows futures)
    {point : Point} (at_ : call.point = point) (notFollow : ∀ leader, point ≠ .follow leader)
    (notDone : ∀ outcome, point ≠ .done outcome) : call.inflight = none := by
  by_contra taken
  obtain ⟨leader, taken⟩ := Option.ne_none_iff_exists'.mp taken
  rcases (follows.2 leader taken).2 with here | ⟨outcome, here, -⟩
  · exact notFollow leader (at_.symm.trans here)
  · exact notDone outcome (at_.symm.trans here)

/-- **A count that cannot be billed is raised**: a call that is about to return it ends with
what a counter raises, and neither its own chain nor the chain of a leader has raised. -/
theorem turns_refused {response : ChatResponse} (calm : w.Calm env)
    (linked : w.Linked env) (running : w.call id = some call) (priced : call.Priced)
    (uncancelled : input ≠ .cancel) (returns : Returns env w call input response)
    (unbillable : ¬ response.usage.Billable)
    (turns : Turns env id (w.process env call) call clock input turn) :
    (∃ exception, CounterError exception ∧ turn.call.point = .done (.raised exception)) ∧
      (∀ exception, turn.call.chain ≠ some (.raised exception)) ∧
        ∀ leader, turn.call.inflight = some leader → ∃ creator provider,
          w.call leader = some creator ∧ creator.chain = some (.returned provider response) := by
  have coherent := calm.sound.coherent id call running
  have follows := calm.follows id call running
  rcases returns with serves | ⟨provider, point⟩
  · have refused : ∀ {outcome schedule},
        Settles (cacheRecord call.virtualKeyId response clock.latencyMs) response outcome schedule →
          ∃ exception, CounterError exception ∧ outcome = .raised exception := fun settles =>
      settles.outcome_cases.resolve_left fun returned =>
        unbillable (emitMetric_cacheRecord.mp (settles.returned_iff.mp returned))
    obtain ⟨outcome, schedule, settles, point, chain⟩ := turns_serves coherent serves turns
    obtain ⟨exception, raised, rfl⟩ := refused settles
    refine ⟨⟨exception, raised, point⟩, by simp [chain], fun leader joined => ?_⟩
    cases serves with
    | hit here read =>
        obtain ⟨_, _, -, same⟩ := turns_read (.inl here) read turns
        rw [same] at joined
        exact absurd joined (by simp [ChatCall.finish, follows.untaken here (by simp) (by simp)])
    | waited here read =>
        obtain ⟨_, _, -, same⟩ := turns_read (.inr ⟨_, _, here⟩) read turns
        rw [same] at joined
        exact absurd joined (by simp [ChatCall.finish, follows.untaken here (by simp) (by simp)])
    | future awaits result =>
        obtain ⟨_, _, -, same⟩ := turns_awaits awaits result turns
        rw [same] at joined
        obtain rfl := Option.some.inj joined
        obtain ⟨creator, provider, there, -, ended⟩ := linked.awaited running awaits result
        exact ⟨creator, provider, there, ended⟩
  · have admissible : provider.Admissible :=
      priced.providers provider (by rw [point]; exact List.mem_singleton_self _)
    obtain ⟨outcome, schedule, settles, same⟩ := turns_cacheSet point uncancelled turns
    obtain ⟨exception, raised, rfl⟩ := settles.outcome_cases.resolve_left fun returned =>
      unbillable ((emitMetric_priced (admissible.priced _)).mp (settles.returned_iff.mp returned))
    simp only [ChatCall.Coherent, point] at coherent
    rw [same]
    refine ⟨⟨exception, raised, rfl⟩, by simp [ChatCall.finish, coherent], fun leader joined => ?_⟩
    exact absurd joined (by simp [ChatCall.finish, follows.untaken point (by simp) (by simp)])

/-- A response with billable counts is returned and recorded. -/
theorem Settles.recorded_of_billable {virtualKeyId : ℤ} {response : ChatResponse} {latencyMs : ℕ}
    {outcome : Outcome} {schedule : List UsageTask} (counts : response.usage.Billable)
    (settles : Settles (cacheRecord virtualKeyId response latencyMs) response outcome schedule) :
    outcome = .returned response ∧
      schedule = [.persistUsage (cacheRecord virtualKeyId response latencyMs)] := by
  cases settles with
  | recorded => exact ⟨rfl, rfl⟩
  | refused failed =>
      rw [emitMetric_cacheRecord.mpr counts] at failed
      cases failed

/-- The endpoint records one failed request for `NoProviderAvailableError`. -/
theorem failureRecords_unavailable (ended : ChatCall) {exception : PyException} (latencyMs : ℕ)
    (unavailable : exception.Unavailable)
    (chain : ∀ provider response, ended.chain ≠ some (.returned provider response)) :
    ∃ task, failureRecords ended.request ended.virtualKeyId latencyMs (.raised exception) = [task] ∧
      Books ended (.raised exception) task := by
  obtain ⟨failure, rfl⟩ := unavailable
  simp only [failureRecords]
  split
  · exact ⟨_, rfl, .failed chain⟩
  · exact ⟨_, rfl, .failed chain⟩

/-- **The records of one turn**: none while the call goes on, and the one record of its
outcome when it ends. -/
theorem turns_records (coherent : call.Coherent) (told : w.futures id = call.future)
    (proper : ∀ outcome, input = .attempt outcome → outcome.Proper) (uncancelled : input ≠ .cancel)
    (orderly : call.Orderly)
    (billable : ∀ response, Returns env w call input response → response.usage.Billable)
    (raised : ∀ leader exception, w.futures leader = some (.exception exception) →
      exception.Unavailable)
    (noCancelled : ∀ leader, w.futures leader ≠ some .cancelled)
    (turns : Turns env id (w.process env call) call clock input turn) :
    turn.call.Records (turn.tasks clock.latencyMs) := by
  cases turns with
  | hit point parsed settles =>
      obtain ⟨rfl, rfl⟩ := settles.recorded_of_billable (billable _ (.inl (.hit point parsed)))
      simp only [ChatCall.Coherent, point] at coherent
      exact ⟨_, rfl, .served coherent.1⟩
  | waited point parsed settles =>
      obtain ⟨rfl, rfl⟩ := settles.recorded_of_billable (billable _ (.inl (.waited point parsed)))
      simp only [ChatCall.Coherent, point] at coherent
      exact ⟨_, rfl, .served coherent.1⟩
  | followed awaits result settles =>
      obtain ⟨rfl, rfl⟩ := settles.recorded_of_billable (billable _ (.inl (.future awaits result)))
      exact ⟨_, rfl, .served (ChatCall.future_early coherent awaits.early).1⟩
  | followedRaise awaits raises =>
      have unset := (ChatCall.future_early coherent awaits.early).1
      generalize state : (w.process env call).futures _ = future at raises
      cases raises with
      | exception exception =>
          exact failureRecords_unavailable (ChatCall.finish _ _) clock.latencyMs
            (raised _ _ state) (by simp [ChatCall.finish, unset])
      | cancelled => exact absurd state (noCancelled _)
  | unknown missed entry candidates =>
      have unset := (missed.chain coherent).1
      have unavailable : call.unknownModel.Unavailable := ⟨_, rfl⟩
      exact failureRecords_unavailable (call.finish (.raised call.unknownModel)) clock.latencyMs
        unavailable (by simp [ChatCall.finish, unset])
  | unreadable | join | contend | poll | pause | granted | lead | retry | returnedLocked
  | returnedFree | raisedLocked | released => exact rfl
  | returnedClash point ended free decided =>
      exact absurd (told.trans (by simp [ChatCall.future, point])) decided
  | raisedFree point ended fails =>
      have unavailable := unavailable_of_ended (proper _ rfl) ended
      cases fails with
      | told =>
          exact failureRecords_unavailable (ChatCall.finish _ _) clock.latencyMs
            unavailable (by simp [ChatCall.finish])
      | clash decided => exact absurd (told.trans (by simp [ChatCall.future, point])) decided
  | releasedClash point decided =>
      exact absurd (told.trans (by simp [ChatCall.future, point])) decided
  | releasedRaise point =>
      simp only [ChatCall.Coherent, point] at coherent
      obtain ⟨exception, chain⟩ := coherent
      exact failureRecords_unavailable (ChatCall.finish _ _) clock.latencyMs
        (orderly.release _ point) (by simp [ChatCall.finish, chain])
  | @settled reply provider response outcome schedule point settles =>
      simp only [ChatCall.Coherent, point] at coherent
      have admissible : provider.Admissible := orderly.providers provider (by
        rw [point]
        exact List.mem_singleton_self _)
      have counts : response.usage.Billable := billable _ (.inr ⟨provider, point⟩)
      cases settles with
      | recorded => exact ⟨_, rfl, .own coherent admissible⟩
      | refused failed =>
          rw [(emitMetric_priced (admissible.priced call.request.model)).mpr counts] at failed
          cases failed
  | cancelledFollow | cancelledLocked | cancelledFree | cancelledElsewhere =>
      exact absurd rfl uncancelled

end Turn

/-! ## The invariant -/

/-- How often a provider has answered a call. -/
def ChatCall.answers (call : ChatCall) : ℕ :=
  match call.chain with
  | some (.returned _ _) => 1
  | _ => 0

def World.answers (w : World) (id : CallId) : ℕ :=
  match w.call id with
  | some call => call.answers
  | none => 0

/-- The records of a call, if there is one. -/
def World.Recorded (w : World) (id : CallId) : Prop :=
  match w.call id with
  | some call => call.Records (w.recorded id)
  | none => w.recorded id = []

/-- What holds in every state of a run of proper requests. -/
structure World.Proper (env : Environment) (w : World) : Prop where
  calm : w.Calm env
  linked : w.Linked env
  streams : ∀ id, w.stream id = none
  orderly : ∀ id call, w.call id = some call → call.Orderly

/-- What holds after the actions of a run that has returned no count that cannot be billed. -/
structure World.Accurate (env : Environment) (actions : List Action) (w : World) : Prop
    extends w.Proper env where
  records : ∀ id, w.Recorded id
  answers : ∀ id, (providerAnswers actions).count id = w.answers id

/-- A step of a run without streams: a call starts, a call goes on, or no call and no record
changes. -/
inductive Proceeds (env : Environment) (w : World) : Action → World → Prop
  | starts {id : CallId} {replica : ReplicaId} {request : ChatRequest}
      {registry : ProviderRegistry} {virtualKeyId : ℤ} {next : World} (fresh : w.call id = none)
      (calls : next.call =
        Function.update w.call id (some (.start replica request registry virtualKeyId)))
      (scheduled : next.scheduled = w.scheduled) :
      Proceeds env w (.start id replica request registry virtualKeyId) next
  | turns {id : CallId} {call : ChatCall} {wire : Wire} {input : Input} {clock : Clock}
      {turn : Turn} (task : w.tasks id = some ⟨.chat call, wire⟩) (fits : input.fits wire = true)
      (turns : Turns env id (w.process env call) call clock input turn) :
      Proceeds env w (.chat id input clock) (w.applyTurn env id wire clock.latencyMs turn)
  | stays {action : Action} {next : World}
      (other : ∀ id input clock, action ≠ .chat id input clock)
      (calls : next.call = w.call) (scheduled : next.scheduled = w.scheduled) :
      Proceeds env w action next

section Step

variable {w next : World} {action : Action} {actions : List Action}

theorem proceeds_of_step (streams : ∀ id, w.stream id = none) (proper : action.Proper)
    (moved : w.step env action = some next) : Proceeds env w action next := by
  cases steps_of_step moved with
  | start fresh =>
      exact .starts (call_eq_none_of_tasks fresh) (call_spawn_chat _ _ _ _) rfl
  | startStream => cases proper
  | serve task =>
      rename_i delivery
      refine .stays (by simp) (call_deliver task delivery) ?_
      cases delivery <;> rfl
  | chat task fits turns => exact .turns task fits turns
  | @stream id call wire input clock turn task fits turns =>
      have running : w.stream id = some call := World.stream_eq_some.mpr ⟨wire, task⟩
      rw [streams id] at running
      cases running
  | expire | limit | rollback => exact .stays (by simp) (call_of_tasks rfl) rfl

/-- What a turn adds to the records. -/
theorem recorded_applyTurn (id other : CallId) (wire : Wire) (latencyMs : ℕ) (turn : Turn) :
    (w.applyTurn env id wire latencyMs turn).recorded other =
      w.recorded other ++ if other = id then turn.tasks latencyMs else [] := by
  have added : ((turn.tasks latencyMs).map fun task => (id, task)).filter
      (fun entry => entry.1 == other) =
        if other = id then (turn.tasks latencyMs).map fun task => (id, task) else [] := by
    split_ifs with same
    · exact List.filter_eq_self.mpr (by simp [same])
    · exact List.filter_eq_nil_iff.mpr (by simp [Ne.symm same])
  simp only [World.recorded, World.applyTurn, List.filter_append, List.map_append, added]
  split_ifs
  · simp
  · rfl

/-- A call has no record before it ends, and it ends once. -/
theorem recorded_before {id : CallId} {call : ChatCall} (records : w.Recorded id)
    (running : w.call id = some call) (open_ : ∀ outcome, call.point ≠ .done outcome) :
    w.recorded id = [] := by
  simp only [World.Recorded, running] at records
  unfold ChatCall.Records at records
  split at records
  · rename_i outcome point
    exact absurd point (open_ outcome)
  · exact records

/-- Only a call that has not ended takes a turn. -/
theorem turns_running {id : CallId} {process : Process} {call : ChatCall} {clock : Clock}
    {input : Input} {turn : Turn} (turns : Turns env id process call clock input turn)
    (outcome : Outcome) : call.point ≠ .done outcome := by
  intro ended
  cases turns with
  | hit point | unreadable point | pause point | waited point | granted point | retry point
  | returnedLocked point | returnedFree point | returnedClash point | raisedLocked point
  | raisedFree point | released point | releasedClash point | releasedRaise point | settled point
  | cancelledFollow point | cancelledLocked point | cancelledFree point =>
      rw [point] at ended
      cases ended
  | join missed | unknown missed | contend missed =>
      exact missed.absurd_of_point ended (by simp)
  | followed awaits | followedRaise awaits =>
      rcases awaits.point with point | point | point <;> rw [point] at ended <;> cases ended
  | poll waits => rcases waits with ⟨point, -⟩ | point <;> rw [point] at ended <;> cases ended
  | lead gives =>
      rcases gives with ⟨⟨point, -⟩ | point, -⟩ | point | point <;> rw [point] at ended <;>
        cases ended
  | cancelledElsewhere outside running => exact running outcome ended

/-- A turn without an answer of a provider counts for nothing. -/
theorem turns_answers {id : CallId} {process : Process} {call : ChatCall} {clock : Clock}
    {input : Input} {turn : Turn} (coherent : call.Coherent)
    (silent : ∀ response, input ≠ .attempt (.answered response))
    (turns : Turns env id process call clock input turn) : turn.call.answers = call.answers := by
  cases turns with
  | returnedLocked point ended | returnedFree point ended | returnedClash point ended =>
      obtain ⟨rfl, -⟩ := Attempt.resume_returned ended
      exact absurd rfl (silent _)
  | raisedLocked point | raisedFree point | cancelledLocked point | cancelledFree point =>
      simp only [ChatCall.Coherent, point] at coherent
      simp [ChatCall.answers, ChatCall.finish, coherent]
  | _ => rfl

/-- What an answer of a provider adds. -/
theorem turns_answers_succ {id : CallId} {process : Process} {call : ChatCall} {clock : Clock}
    {response : ChatResponse} {turn : Turn} (coherent : call.Coherent)
    (turns : Turns env id process call clock (.attempt (.answered response)) turn) :
    call.answers = 0 ∧ turn.call.answers = 1 := by
  obtain ⟨inside, provider, chain⟩ := turns_answered turns
  cases point : call.point with
  | execute attempt =>
      simp only [ChatCall.Coherent, point] at coherent
      exact ⟨by simp [ChatCall.answers, coherent], by simp [ChatCall.answers, chain]⟩
  | _ => rw [point] at inside; cases inside

theorem providerAnswers_snoc (action : Action) :
    providerAnswers (actions ++ [action]) = providerAnswers actions ++ providerAnswers [action] := by
  simp [providerAnswers, List.filterMap_append]

/-- An action that is no answer of a provider. -/
theorem providerAnswers_silent
    (silent : ∀ id response clock, action ≠ .chat id (.attempt (.answered response)) clock) :
    providerAnswers [action] = [] := by
  refine List.filterMap_eq_nil_iff.mpr fun other member => ?_
  obtain rfl := List.mem_singleton.mp member
  split
  · exact absurd rfl (silent _ _ _)
  · rfl

theorem World.answers_eq {id : CallId} {call : ChatCall} (running : w.call id = some call) :
    w.answers id = call.answers := by
  simp [World.answers, running]

/-- The providers' answers are counted right after a step. -/
theorem answers_step (coherent : w.Coherent)
    (answers : ∀ id, (providerAnswers actions).count id = w.answers id)
    (proceeds : Proceeds env w action next) (id : CallId) :
    (providerAnswers (actions ++ [action])).count id = next.answers id := by
  rw [providerAnswers_snoc, List.count_append, answers id]
  cases proceeds with
  | @starts other replica request registry virtualKeyId _ fresh calls scheduled =>
      rw [providerAnswers_silent (by simp), List.count_nil, Nat.add_zero, World.answers,
        World.answers, calls, Function.update_apply]
      split_ifs with same
      · rw [same, fresh]
        rfl
      · rfl
  | stays far calls scheduled =>
      rw [providerAnswers_silent fun id response clock => far id _ clock, List.count_nil,
        Nat.add_zero, World.answers, World.answers, calls]
  | @turns other call wire input clock turn task fits turns =>
      have running : w.call other = some call := World.call_eq_some.mpr ⟨wire, task⟩
      have calls := call_applyTurn env w other wire clock.latencyMs turn
      by_cases same : id = other
      · subst same
        have after : (w.applyTurn env id wire clock.latencyMs turn).call id = some turn.call := by
          rw [calls, Function.update_self]
        rw [World.answers_eq running, World.answers_eq after]
        by_cases answered : ∃ response, input = .attempt (.answered response)
        · obtain ⟨response, rfl⟩ := answered
          obtain ⟨before, now⟩ := turns_answers_succ (coherent id call running) turns
          rw [before, now]
          simp [providerAnswers]
        · push Not at answered
          rw [turns_answers (coherent id call running) answered turns,
            providerAnswers_silent (by rintro id response clock ⟨⟩; exact answered _ rfl),
            List.count_nil, Nat.add_zero]
      · have unchanged : (w.applyTurn env other wire clock.latencyMs turn).answers id =
            w.answers id := by
          rw [World.answers, World.answers, calls, Function.update_of_ne same]
        have elsewhere : (providerAnswers [.chat other input clock]).count id = 0 := by
          refine List.count_eq_zero.mpr fun member => ?_
          obtain ⟨action, once, named⟩ := List.mem_filterMap.mp member
          obtain rfl := List.mem_singleton.mp once
          split at named
          · rename_i found response clock' chat
            cases chat
            exact same (Option.some.inj named).symm
          · cases named
        rw [unchanged, elsewhere, Nat.add_zero]

/-- The exceptions in the futures come from chains. -/
theorem World.Proper.raised (held : w.Proper env) {leader : CallId}
    {exception : PyException} (future : w.futures leader = some (.exception exception)) :
    exception.Unavailable := by
  obtain ⟨creator, there, told⟩ := held.linked.resolved leader _ future (by simp) (by simp)
  generalize chain : creator.chain = ending at told
  cases told
  exact (held.orderly leader creator there).chain exception chain

theorem proper_step (held : w.Proper env) (moved : w.step env action = some next)
    (proper : action.Proper) : next.Proper env := by
  have unstreamed : action.opensStream = false := by
    cases action <;> first | rfl | cases proper
  have uncancelled : action.cancels = false :=
    uncancelled_of_proper (List.forall_mem_singleton.mpr proper) action (List.mem_singleton_self _)
  refine ⟨calm_step held.calm moved uncancelled, linked_step held.linked moved,
    streams_step held.streams unstreamed moved, fun other found there => ?_⟩
  cases proceeds_of_step held.streams proper moved with
  | starts fresh calls scheduled =>
      rw [calls, Function.update_apply] at there
      split_ifs at there
      · obtain rfl := Option.some.inj there
        exact ⟨⟨proper, by simp [ChatCall.start, Point.providers]⟩, by simp [ChatCall.start],
          by simp [ChatCall.start]⟩
      · exact held.orderly other found there
  | stays far calls scheduled => exact held.orderly other found (calls ▸ there)
  | @turns id call wire input clock turn task fits turns =>
      have running : w.call id = some call := World.call_eq_some.mpr ⟨wire, task⟩
      rw [call_applyTurn, Function.update_apply] at there
      split_ifs at there
      · obtain rfl := Option.some.inj there
        exact turns_orderly (held.calm.mirrored.of_call running)
          (by rintro outcome rfl; exact proper) (by rintro rfl; exact proper)
          (held.orderly id call running) turns
      · exact held.orderly other found there

/-- A step that returns billable counts keeps the records right. -/
theorem accurate_step (accurate : w.Accurate env actions) (moved : w.step env action = some next)
    (proper : action.Proper) (billable : ReturnsBillable env w action next) :
    next.Accurate env (actions ++ [action]) := by
  have proceeds := proceeds_of_step accurate.streams proper moved
  have coherent := accurate.linked.sound.coherent
  refine ⟨proper_step accurate.toProper moved proper, fun other => ?_,
    answers_step coherent accurate.answers proceeds⟩
  have records := accurate.records other
  cases proceeds with
  | @starts id replica request registry virtualKeyId _ fresh calls scheduled =>
      simp only [World.Recorded, World.recorded, calls, scheduled, Function.update_apply]
        at records ⊢
      split_ifs with same
      · rw [same, fresh] at records
        rw [same]
        exact records
      · exact records
  | stays far calls scheduled =>
      simpa only [World.Recorded, World.recorded, calls, scheduled] using records
  | @turns id call wire input clock turn task fits turns =>
      have running : w.call id = some call := World.call_eq_some.mpr ⟨wire, task⟩
      rw [World.Recorded, recorded_applyTurn, call_applyTurn, Function.update_apply]
      split_ifs with same
      · subst same
        rw [recorded_before records running (turns_running turns), List.nil_append]
        exact turns_records (coherent _ call running)
          (accurate.calm.mirrored.of_call running) (by rintro outcome rfl; exact proper)
          (by rintro rfl; exact proper) (accurate.orderly _ call running)
          (fun response => billable _ input clock call response rfl running)
          (fun leader exception future => accurate.raised future)
          accurate.calm.mirrored.not_cancelled turns
      · rw [List.append_nil]
        exact records

end Step

/-- A request that ends with a response of its own chain was not served, and one that
ends with another response was. -/
def ServedOrOwn (env : Environment) (w : World) (action : Action) (next : World) : Prop :=
  ∀ id input clock call later outcome, action = .chat id input clock → w.call id = some call →
    next.call id = some later → later.point = .done outcome →
      ((later.chain = none ∧ ∃ response, outcome = .returned response) ↔
        ∃ response, Serves env w call input response)

/-! ## The record of a request -/

/-- What the record of a request says that has ended. -/
structure Accounted (call : ChatCall) (outcome : Outcome) (task : UsageTask) : Prop where
  /-- It has the name of a provider exactly if the request ran its chain to a response. -/
  real : task.real = true ↔ ∃ provider response, call.chain = some (.returned provider response)
  /-- Then it is priced for the requested model at the provider that answered. -/
  priced : ∀ provider response, call.chain = some (.returned provider response) →
    outcome = .returned response ∧ ∃ latencyMs, task = .persistUsage
      (buildUsageRecord call.virtualKeyId provider.config.name
        (provider.config.pricingFor call.request.model) response.model response.usage latencyMs)
  /-- It has the name of the cache exactly if another response was returned. -/
  cached : task.cached = true ↔ call.chain = none ∧ ∃ response, outcome = .returned response
  /-- Then it costs nothing. -/
  free : ∀ response, call.chain = none → outcome = .returned response → ∃ latencyMs,
    task = .persistUsage (cacheRecord call.virtualKeyId response latencyMs) ∧
      (cacheRecord call.virtualKeyId response latencyMs).estimatedCost = 0
  /-- It is one of a failure exactly if the endpoint answers with an error. -/
  failed : task.failed = true ↔ ∃ status type message attempted retryAfter,
    answer call.request outcome = .error status type message attempted retryAfter ∧
      (status = 404 ∨ status = 502 ∨ status = 504)

/-- The endpoint answers `NoProviderAvailableError` with an error. -/
theorem answer_noProvider (request : ChatRequest) (failure : NoProviderAvailableError) :
    ∃ status type message attempted retryAfter,
      answer request (.raised (.noProviderAvailable failure)) =
          .error status type message attempted retryAfter ∧
        (status = 404 ∨ status = 502 ∨ status = 504) := by
  simp only [answer]
  split
  · exact ⟨404, _, _, _, _, rfl, .inl rfl⟩
  · unfold classifyUpstreamError
    split
    · exact ⟨502, _, _, _, _, rfl, .inr (.inl rfl)⟩
    · split
      · exact ⟨504, _, _, _, _, rfl, .inr (.inr rfl)⟩
      · exact ⟨502, _, _, _, _, rfl, .inr (.inl rfl)⟩
      · exact ⟨502, _, _, _, _, rfl, .inr (.inl rfl)⟩
      · exact ⟨502, _, _, _, _, rfl, .inr (.inl rfl)⟩

theorem accounted_of_books {call : ChatCall} {outcome : Outcome} {task : UsageTask}
    (books : Books call outcome task) : Accounted call outcome task := by
  have unfailed : ∀ response status type message attempted retryAfter,
      answer call.request (.returned response) ≠ .error status type message attempted retryAfter := by
    simp [answer]
  cases books with
  | @own provider response latencyMs chain admissible =>
      have named : (provider.config.name != cacheProviderName) = true := by
        simpa using admissible.named
      refine ⟨⟨fun _ => ⟨provider, response, chain⟩, fun _ => named⟩, ?_, ?_, ?_, ?_⟩
      · intro other given same
        obtain ⟨rfl, rfl⟩ := ChainEnding.returned.inj (Option.some.inj (chain.symm.trans same))
        exact ⟨rfl, latencyMs, rfl⟩
      · simp [UsageTask.cached, buildUsageRecord, admissible.named, chain]
      · intro given unset
        rw [chain] at unset
        cases unset
      · simp [UsageTask.failed, unfailed]
  | @served response latencyMs chain =>
      refine ⟨?_, by simp [chain], ?_, ?_, ?_⟩
      · simp [UsageTask.real, cacheRecord, buildUsageRecord, chain]
      · simp [UsageTask.cached, cacheRecord, buildUsageRecord, chain]
      · rintro given - same
        cases same
        exact ⟨latencyMs, rfl, cacheRecord_free _ _ _⟩
      · simp [UsageTask.failed, unfailed]
  | @failed failure latencyMs errorType chain =>
      refine ⟨?_, fun provider response same => absurd same (chain provider response), ?_, by simp,
        ?_⟩
      · simp [UsageTask.real, recordFailedRequest, chain]
      · simp [UsageTask.cached, recordFailedRequest]
      · simpa [UsageTask.failed, recordFailedRequest] using answer_noProvider call.request failure

/-- **One record for each request.** -/
structure World.Accounting (actions : List Action) (w : World) : Prop where
  /-- A request that has not ended has no record. -/
  running : ∀ id call, w.call id = some call → (∀ outcome, call.point ≠ .done outcome) →
    w.recorded id = []
  /-- A request that has ended has one. -/
  ended : ∀ id call outcome, w.call id = some call → call.point = .done outcome →
    ∃ task, w.recorded id = [task] ∧ Accounted call outcome task
  /-- When all requests have ended, the records with the name of a provider are those of
  the answers of the providers, one for one. -/
  billed : (∀ id call, w.call id = some call → ∃ outcome, call.point = .done outcome) →
    w.billed.Perm (providerAnswers actions)

/-- The records of a call that have the name of a provider. -/
theorem count_billed (w : World) (id : CallId) :
    w.billed.count id = (w.recorded id).countP UsageTask.real := by
  unfold World.billed World.recorded
  induction w.scheduled with
  | nil => rfl
  | cons entry rest ih =>
      obtain ⟨other, task⟩ := entry
      by_cases same : other = id <;> cases real : task.real <;> simp [same, real, ih]

theorem proper_init (env : Environment) (store : Store) : (World.init store).Proper env where
  calm := calm_init env store
  linked := linked_init env store
  streams := by simp [World.init, World.stream]
  orderly := by simp [World.init, World.call]

theorem proper_run {store : Store} {actions : List Action} {w : World}
    (proper : ∀ action ∈ actions, action.Proper)
    (reached : run (World.step env) (.init store) actions = some w) : w.Proper env :=
  invariant (proper_init env store)
    (fun _ _ _ held moved met => proper_step held moved met)
    (throughout_of_actions proper _) reached

theorem accurate_run {store : Store} {actions : List Action} {w : World}
    (proper : ∀ action ∈ actions, action.Proper)
    (billable : Throughout (World.step env) (ReturnsBillable env) (.init store) actions)
    (reached : run (World.step env) (.init store) actions = some w) : w.Accurate env actions := by
  have initial : (World.init store).Accurate env [] :=
    { toProper := proper_init env store
      records := by simp [World.init, World.call, World.Recorded, World.recorded]
      answers := by simp [World.init, World.call, World.answers, providerAnswers] }
  exact run_induction (C := fun w action next => action.Proper ∧ ReturnsBillable env w action next)
    (P := fun actions w => w.Accurate env actions) initial
    (fun _ _ _ _ _ accurate moved met => accurate_step accurate moved met.1 met.2)
    ((throughout_of_actions proper _).and billable) reached

/-- In a run with one record for each request. -/
theorem accounting_of_accurate {w : World} {actions : List Action}
    (accurate : w.Accurate env actions) : w.Accounting actions := by
  have ended : ∀ id call outcome, w.call id = some call → call.point = .done outcome →
      ∃ task, w.recorded id = [task] ∧ Books call outcome task := by
    intro id call outcome running point
    have records := accurate.records id
    simp only [World.Recorded, running, ChatCall.Records, point] at records
    exact records
  refine ⟨fun id call running open_ => recorded_before (accurate.records id) running open_, ?_, ?_⟩
  · intro id call outcome running point
    obtain ⟨task, one, books⟩ := ended id call outcome running point
    exact ⟨task, one, accounted_of_books books⟩
  · intro finished
    refine List.perm_iff_count.mpr fun id => ?_
    rw [count_billed, accurate.answers id]
    cases found : w.call id with
    | none =>
        have records := accurate.records id
        simp only [World.Recorded, found] at records
        simp [World.answers, found, records]
    | some call =>
        obtain ⟨outcome, point⟩ := finished id call found
        obtain ⟨task, one, books⟩ := ended id call outcome found point
        have real := (accounted_of_books books).real
        rw [one, World.answers_eq found]
        cases books with
        | own chain => simp [ChatCall.answers, chain, real]
        | served chain => simpa [ChatCall.answers, chain] using real
        | failed chain =>
            have silent : call.answers = 0 := by
              unfold ChatCall.answers
              split
              · rename_i provider response same
                exact absurd same (chain provider response)
              · rfl
            simp [silent, UsageTask.real, recordFailedRequest]

/-- A request that ends was served, or it ran its own chain, or it failed. -/
theorem servedOrOwn_of_accurate {w next : World} {action : Action} {actions : List Action}
    (accurate : w.Accurate env actions) (after : next.Accurate env (actions ++ [action]))
    (moved : w.step env action = some next) : ServedOrOwn env w action next := by
  rintro id input clock call later outcome rfl running there point
  cases moves_of_step moved with
  | stays far => exact absurd rfl (far id input clock)
  | @turns _ call' _ _ turn _ before turns calls inflight futures =>
      obtain rfl := Option.some.inj (running.symm.trans before)
      have coherent := accurate.linked.sound.coherent id call running
      rw [calls, Function.update_self] at there
      obtain rfl := Option.some.inj there
      constructor
      · rintro ⟨chain, response, rfl⟩
        exact ⟨response, serves_of_turns coherent turns point chain⟩
      · rintro ⟨response, serves⟩
        obtain ⟨other, schedule, settles, ended, chain⟩ := turns_serves coherent serves turns
        obtain rfl := Point.done.inj (point.symm.trans ended)
        refine ⟨chain, ?_⟩
        have found : next.call id = some turn.call := by rw [calls, Function.update_self]
        cases settles with
        | recorded => exact ⟨response, rfl⟩
        | refused failed =>
            have records := after.records id
            simp only [World.Recorded, found, ChatCall.Records, point] at records
            obtain ⟨task, -, books⟩ := records
            cases books
            rcases counterError_emitMetric failed with raised | raised <;> cases raised

/-- A request that has a record was answered with a response or with an error. -/
theorem Accounted.answered {call : ChatCall} {outcome : Outcome} {task : UsageTask}
    (accounted : Accounted call outcome task) :
    (∃ response, outcome = .returned response) ∨
      ∃ status type message attempted retryAfter,
        answer call.request outcome = .error status type message attempted retryAfter := by
  cases task with
  | persistUsage record =>
      by_cases named : record.provider = cacheProviderName
      · exact .inl (accounted.cached.mp (by simpa [UsageTask.cached] using named)).2
      · obtain ⟨provider, response, chain⟩ :=
          accounted.real.mp (by simpa [UsageTask.real] using named)
        exact .inl ⟨response, (accounted.priced provider response chain).1⟩
  | createFailedUsageLog virtualKeyId provider model latencyMs errorType =>
      obtain ⟨status, type, message, attempted, retryAfter, failed, -⟩ := accounted.failed.mp rfl
      exact .inr ⟨status, type, message, attempted, retryAfter, failed⟩

/-- A step after which every request has its record has returned no count that cannot be billed. -/
theorem returnsBillable_of_accounting {w next : World} {action : Action} {actions : List Action}
    (held : w.Proper env) (accounts : next.Accounting actions)
    (moved : w.step env action = some next) (proper : action.Proper) :
    ReturnsBillable env w action next := by
  rintro id input clock call response rfl running returns
  by_contra unbillable
  cases moves_of_step moved with
  | stays far => exact far id input clock rfl
  | @turns _ call' _ _ turn _ found turns calls =>
      obtain rfl := Option.some.inj (running.symm.trans found)
      obtain ⟨⟨exception, refused, point⟩, -, -⟩ := turns_refused held.calm held.linked
        running (held.orderly id call running).toPriced (by rintro rfl; exact proper) returns
        unbillable turns
      have there : next.call id = some turn.call := by rw [calls, Function.update_self]
      obtain ⟨task, -, accounted⟩ := accounts.ended id turn.call _ there point
      rcases accounted.answered with ⟨_, same⟩ | ⟨_, _, _, _, _, failed⟩
      · cases same
      · rcases refused with rfl | rfl <;> cases failed

/-- **Billable answers are returned alone**, from a cache of billable entries and without streams. -/
theorem returnsBillable_of_counted {store : Store} {actions : List Action}
    (keeps : env.codec.KeepsCounts)
    (billable : ∀ (digest : HexDigest) raw, store digest.text = some (.text raw) →
      BillableEntry env digest.text raw)
    (counted : ∀ action ∈ actions, action.Counted) :
    Throughout (World.step env) (ReturnsBillable env) (.init store) actions := by
  rintro before action after state next split reached moved id input clock call response rfl
    running returns
  have holds := counted_run keeps billable
    (fun action member => counted action (by simp [split, member])) reached
  obtain ⟨wire, task⟩ := World.call_eq_some.mp running
  have flows := holds.flows.tasks id _ task
  have read : ∀ raw, input = .reply (.bulk raw) → parseEntry env raw = some response →
      response.usage.Billable := by
    rintro raw rfl parsed
    cases steps_of_step moved with
    | chat there fits =>
        obtain ⟨-, rfl⟩ := Task.mk.inj (Option.some.inj (task.symm.trans there))
        exact flows.replied raw (Wire.carries_eq fits) response parsed
  rcases returns with serves | ⟨provider, point⟩
  · cases serves with
    | hit point parsed => exact read _ rfl parsed
    | future awaits result => exact holds.awaited running awaits result
    | waited point parsed => exact read _ rfl parsed
  · have coherent := holds.linked.sound.coherent id call running
    simp only [ChatCall.Coherent, point] at coherent
    have given : call.Holds env Billable := flows.holds
    exact given.chain provider response coherent

/-- A response with a `prompt_tokens` of 10 ^ 400. -/
def hugeResponse : ChatResponse := { demoResponse with usage := ⟨10 ^ 400, 1, 10 ^ 400 + 1⟩ }

/-- A call has failed, and has no record. -/
def unrecorded (id : CallId) (w : World) : Bool :=
  match w.call id with
  | some call =>
      call.point == .done (.raised (.other "OverflowError")) && (w.recorded id).isEmpty
  | none => false

end LlmGateway
