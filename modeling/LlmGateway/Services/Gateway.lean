import LlmGateway.Services.Cache
import LlmGateway.Services.Fallback

/-!
# The orchestrator

`handle_chat_completion` of `services/gateway.py`, with the parts of `services/cache.py`
that it awaits, as a machine. A suspended call is a `ChatCall`: its arguments, its local
variables and the `await` it stands at (`Point`). Between two awaits it runs without
interruption. `ChatCall.resume` is that run: from what the awaited thing delivers
(`Input`) to the next suspended call (`Turn`).

What a call shares with the other calls of its process is the entry of `_inflight` under
its cache key and the futures (`Process`). The future that a call creates is named by the
call.

* `Turns` lists everything that a turn can be, and `turns_of_resume` says that nothing else
  happens.
* The fields of a call that never change are those of `Turns.arguments`.
-/

set_option autoImplicit false

namespace LlmGateway

open LlmGateway.Library.Redis (Command Reply)

/-! ## State -/

/-- A process that serves requests. -/
abbrev ReplicaId := ℕ

/-- An `asyncio.Future`. -/
inductive FutureState where
  | pending
  | result (response : ChatResponse)
  | exception (exception : PyException)
  | cancelled
deriving DecidableEq

/-- How `handle_chat_completion` ends. -/
inductive Outcome where
  | returned (response : ChatResponse)
  | raised (exception : PyException)
deriving DecidableEq

/-- The `await` at which a call is suspended.

* `cacheGet`, `discard`: `cache_service.get`, at its read and at the deletion of an
  unreadable entry;
* `follow`: `await inflight`;
* `acquire`: `cache_service.acquire_lock`;
* `poll`, `sleep`: `cache_service.wait_for_result`, at its read and at its pause;
* `execute`: `execute_with_fallback`;
* `release`: `cache_service.release_lock`, with what follows it;
* `cacheSet`: `cache_service.set`.

From `acquire` on the candidate list is not empty. -/
inductive Point where
  | cacheGet
  | discard
  | follow (leader : CallId)
  | acquire (first : BaseProvider) (rest : List BaseProvider)
  | poll (first : BaseProvider) (rest : List BaseProvider)
  | sleep (first : BaseProvider) (rest : List BaseProvider)
  | execute (attempt : Attempt)
  | release (ending : ChainEnding)
  | cacheSet (provider : BaseProvider) (response : ChatResponse)
  | done (outcome : Outcome)
deriving DecidableEq

/-- A call of `handle_chat_completion`: its arguments and its local variables. `chain` is
what `execute_with_fallback` returned or raised. -/
structure ChatCall where
  replica : ReplicaId
  request : ChatRequest
  registry : ProviderRegistry
  virtualKeyId : ℤ
  inflight : Option CallId := none
  lockToken : Option String := none
  chain : Option ChainEnding := none
  point : Point

/-- What a call reads and writes in its process: the entry of `_inflight` under its cache
key, and the futures. -/
structure Process where
  entry : Option CallId
  futures : CallId → Option FutureState

/-- What a call learns from the clock when it goes on: whether the deadline of
`wait_for_result` has passed, and the latency it reports. -/
structure Clock where
  late : Bool
  latencyMs : ℕ
deriving DecidableEq

/-- What makes a suspended call go on. -/
inductive Input where
  | reply (reply : Reply)
  | slept
  | resolved
  | attempt (outcome : AttemptOutcome)
  | cancel
deriving DecidableEq

/-- Where a call stands after it went on: what it left in its process, the command it
sent and the tasks it scheduled. -/
structure Turn where
  process : Process
  call : ChatCall
  send : Option Command := none
  schedule : List UsageTask := []

namespace Process

/-- `_inflight[cache_key] = future`, for a new future. -/
def register (process : Process) (id : CallId) : Process :=
  ⟨some id, Function.update process.futures id (some .pending)⟩

/-- `if _inflight.get(cache_key) is future: del _inflight[cache_key]`. The test and the
deletion are not separated by an await, so the key is there when it is deleted. -/
def retire (process : Process) (id : CallId) : Process :=
  if process.entry = some id then { process with entry := none } else process

/-- `set_result` or `set_exception` on a future that is not done. -/
def resolve (process : Process) (id : CallId) (state : FutureState) : Process :=
  { process with futures := Function.update process.futures id (some state) }

end Process

/-! ## The pieces of a turn -/

namespace ChatCall

variable (env : Environment) (id : CallId) (process : Process) (call : ChatCall) (clock : Clock)

/-- `build_cache_key(request, namespace=virtual_key_id)`. -/
def cacheKey : String := buildCacheKey env call.request (some (.int call.virtualKeyId))

def finish (outcome : Outcome) : ChatCall := { call with point := .done outcome }

/-- Record the usage of a served response at zero cost, then return it. -/
def serve (response : ChatResponse) : Turn :=
  match recordCacheStyleUsage call.virtualKeyId response clock.latencyMs with
  | .ok task => { process, call := call.finish (.returned response), schedule := [task] }
  | .error exception => { process, call := call.finish (.raised exception) }

/-- `response = await inflight`, on a future that may be done already. -/
def awaitInflight (leader : CallId) : Turn :=
  let call := { call with inflight := some leader }
  match process.futures leader with
  | some (.result response) => call.serve process clock response
  | some (.exception exception) => { process, call := call.finish (.raised exception) }
  | some .cancelled => { process, call := call.finish (.raised .cancelledError) }
  | some .pending | none => { process, call := { call with point := .follow leader } }

/-- The exception of an empty candidate list. -/
def unknownModel : PyException :=
  .noProviderAvailable
    { message := noProviderMessage call.request.model "none"
      attemptedProviders := []
      lastError := none }

/-- After a cache miss: join a future in flight, or ask for the lock. -/
def miss : Turn :=
  match process.entry with
  | some leader => call.awaitInflight process clock leader
  | none =>
      match selectProviders call.registry call.request.model with
      | [] => { process, call := call.finish (.raised call.unknownModel) }
      | first :: rest =>
          { process
            call := { call with point := .acquire first rest }
            send := some (acquireCommand (call.cacheKey env) (env.token id)
              (lockTtlSeconds (first :: rest))) }

/-- Register a new future and enter `execute_with_fallback`. -/
def lead (first : BaseProvider) (rest : List BaseProvider) : Turn :=
  { process := process.register id
    call := { call with point := .execute (.start first rest) } }

/-- The head of the loop of `wait_for_result`. -/
def pollOrLead (first : BaseProvider) (rest : List BaseProvider) : Turn :=
  if clock.late then call.lead id process first rest
  else
    { process
      call := { call with point := .poll first rest }
      send := some (.get (call.cacheKey env)) }

/-- `future.set_result(response)`, then the cache write. -/
def publish (provider : BaseProvider) (response : ChatResponse) : Turn :=
  if process.futures id = some .pending then
    { process := process.resolve id (.result response)
      call := { call with point := .cacheSet provider response }
      send := some (storeCommand env (call.cacheKey env) response) }
  else { process, call := call.finish (.raised .invalidStateError) }

/-- The `finally` block and the re-raise after it. -/
def unwind (exception : PyException) : Turn :=
  match call.lockToken with
  | some token =>
      { process := process.retire id
        call := { call with point := .release (.raised exception) }
        send := some (releaseCommand (call.cacheKey env) token) }
  | none => { process := process.retire id, call := call.finish (.raised exception) }

/-- `execute_with_fallback` has returned: the `finally` block, and what follows it. -/
def chainReturned (provider : BaseProvider) (response : ChatResponse) : Turn :=
  let call := { call with chain := some (.returned provider response) }
  match call.lockToken with
  | some token =>
      { process := process.retire id
        call := { call with point := .release (.returned provider response) }
        send := some (releaseCommand (call.cacheKey env) token) }
  | none => call.publish env id (process.retire id) provider response

/-- `execute_with_fallback` has raised: `set_exception`, then the `finally` block. A
cancelled future cannot take the exception, and `InvalidStateError` goes up instead. -/
def chainRaised (exception : PyException) : Turn :=
  let call := { call with chain := some (.raised exception) }
  if process.futures id = some .pending then
    call.unwind env id (process.resolve id (.exception exception)) exception
  else call.unwind env id process .invalidStateError

/-- The last steps of a leader: price, record, return. -/
def settle (provider : BaseProvider) (response : ChatResponse) : Turn :=
  match recordUsage (buildUsageRecord call.virtualKeyId provider.config.name
      (provider.config.pricingFor call.request.model) response.model response.usage
      clock.latencyMs) with
  | .ok task => { process, call := call.finish (.returned response), schedule := [task] }
  | .error exception => { process, call := call.finish (.raised exception) }

/-- `CancelledError` at the current await. Cancelling a task that awaits a bare future
cancels the future. A finished task is not cancelled. -/
def cancel : Option Turn :=
  match call.point with
  | .done _ => none
  | .follow leader =>
      let process :=
        if process.futures leader = some .pending then process.resolve leader .cancelled
        else process
      some { process, call := call.finish (.raised .cancelledError) }
  | .execute _ =>
      let call := { call with chain := some (.raised .cancelledError) }
      some (call.unwind env id process .cancelledError)
  | _ => some { process, call := call.finish (.raised .cancelledError) }

/-! ## Turns -/

/-- A new call: it has sent the read of its cache key. -/
def start (replica : ReplicaId) (request : ChatRequest) (registry : ProviderRegistry)
    (virtualKeyId : ℤ) : ChatCall :=
  { replica, request, registry, virtualKeyId, point := .cacheGet }

/-- What the call does with the reply to the command it awaits. -/
def resumeReply (reply : Reply) : Option Turn :=
  match call.point with
  | .cacheGet =>
      match reply with
      | .bulk raw =>
          match parseEntry env raw with
          | some cached => some (call.serve process clock cached)
          | none =>
              some
                { process
                  call := { call with point := .discard }
                  send := some (.delete (call.cacheKey env)) }
      | _ => some (call.miss env id process clock)
  | .discard => some (call.miss env id process clock)
  | .acquire first rest =>
      if reply = .ok then
        some ({ call with lockToken := some (env.token id) }.lead id process first rest)
      else some (call.pollOrLead env id process clock first rest)
  | .poll first rest =>
      match reply with
      | .error => some (call.lead id process first rest)
      | .bulk raw =>
          match parseEntry env raw with
          | some waited => some (call.serve process clock waited)
          | none => some (call.lead id process first rest)
      | _ => some { process, call := { call with point := .sleep first rest } }
  | .release ending =>
      match ending with
      | .returned provider response => some (call.publish env id process provider response)
      | .raised exception => some { process, call := call.finish (.raised exception) }
  | .cacheSet provider response => some (call.settle process clock provider response)
  | .follow _ | .sleep _ _ | .execute _ | .done _ => none

/-- **One turn of a call.** Nothing when the input is not what the call awaits. -/
def resume : Input → Option Turn
  | .reply reply => call.resumeReply env id process clock reply
  | .slept =>
      match call.point with
      | .sleep first rest => some (call.pollOrLead env id process clock first rest)
      | _ => none
  | .resolved =>
      match call.point with
      | .follow leader =>
          match process.futures leader with
          | some .pending | none => none
          | _ => some (call.awaitInflight process clock leader)
      | _ => none
  | .attempt outcome =>
      match call.point with
      | .execute attempt =>
          match attempt.resume call.request outcome with
          | .inl next => some { process, call := { call with point := .execute next } }
          | .inr (.returned provider response) =>
              some (call.chainReturned env id process provider response)
          | .inr (.raised exception) => some (call.chainRaised env id process exception)
      | _ => none
  | .cancel => call.cancel env id process

end ChatCall

/-! ## What a turn can be -/

/-- How a call ends that is about to return a response, and what it schedules: the
metrics of its record are emitted or they are not. -/
inductive Settles (record : UsageRecord) (response : ChatResponse) :
    Outcome → List UsageTask → Prop
  | recorded (emitted : emitMetric record = .ok ()) :
      Settles record response (.returned response) [.persistUsage record]
  | refused {exception : PyException} (failed : emitMetric record = .error exception) :
      Settles record response (.raised exception) []

theorem emitMetric_cases (record : UsageRecord) :
    emitMetric record = .ok () ∨ ∃ exception, emitMetric record = .error exception := by
  cases emitMetric record with
  | ok => exact .inl rfl
  | error exception => exact .inr ⟨exception, rfl⟩

/-- A response is returned exactly when the metrics of its record are emitted. -/
theorem Settles.returned_iff {record : UsageRecord} {response : ChatResponse} {outcome : Outcome}
    {schedule : List UsageTask} (settles : Settles record response outcome schedule) :
    outcome = .returned response ↔ emitMetric record = .ok () := by
  cases settles with
  | recorded emitted => exact iff_of_true rfl emitted
  | refused failed => exact iff_of_false (by simp) (by simp [failed])

/-- Otherwise a counter raises. -/
theorem Settles.outcome_cases {record : UsageRecord} {response : ChatResponse} {outcome : Outcome}
    {schedule : List UsageTask} (settles : Settles record response outcome schedule) :
    outcome = .returned response ∨
      ∃ exception, CounterError exception ∧ outcome = .raised exception := by
  cases settles with
  | recorded => exact .inl rfl
  | refused failed => exact .inr ⟨_, counterError_emitMetric failed, rfl⟩

/-- What is awaited at a done future is raised. -/
inductive FutureRaises : Option FutureState → PyException → Prop
  | exception (exception : PyException) : FutureRaises (some (.exception exception)) exception
  | cancelled : FutureRaises (some .cancelled) .cancelledError

/-- `set_exception` on a call's own future: the process after it, and the exception that
goes up. -/
inductive Fails (process : Process) (id : CallId) (exception : PyException) :
    Process → PyException → Prop
  | told (pending : process.futures id = some .pending) :
      Fails process id exception (process.resolve id (.exception exception)) exception
  | clash (decided : process.futures id ≠ some .pending) :
      Fails process id exception process .invalidStateError

/-- The input with which a call learns that the cache has nothing for it. -/
inductive Misses (call : ChatCall) : Input → Prop
  | read {reply : Reply} (point : call.point = .cacheGet) (absent : ∀ raw, reply ≠ .bulk raw) :
      Misses call (.reply reply)
  | discarded {reply : Reply} (point : call.point = .discard) : Misses call (.reply reply)

/-- The input with which a call reads the future of another call. -/
inductive Awaits (process : Process) (call : ChatCall) (leader : CallId) : Input → Prop
  | joining {input : Input} (missed : Misses call input) (entry : process.entry = some leader) :
      Awaits process call leader input
  | woken (point : call.point = .follow leader) : Awaits process call leader .resolved

/-- The input with which a call that holds no lock looks at the deadline. -/
inductive Waits (call : ChatCall) (first : BaseProvider) (rest : List BaseProvider) : Input → Prop
  | refused {reply : Reply} (point : call.point = .acquire first rest) (lost : reply ≠ .ok) :
      Waits call first rest (.reply reply)
  | slept (point : call.point = .sleep first rest) : Waits call first rest .slept

/-- The input with which a call that holds no lock stops waiting. -/
inductive Gives (env : Environment) (call : ChatCall) (clock : Clock) (first : BaseProvider)
    (rest : List BaseProvider) : Input → Prop
  | late {input : Input} (waits : Waits call first rest input) (late : clock.late = true) :
      Gives env call clock first rest input
  | error (point : call.point = .poll first rest) : Gives env call clock first rest (.reply .error)
  | unreadable {raw : String} (point : call.point = .poll first rest)
      (unread : parseEntry env raw = none) : Gives env call clock first rest (.reply (.bulk raw))

/-- **The turns of a call**, one constructor for each thing that can happen. -/
inductive Turns (env : Environment) (id : CallId) (process : Process) (call : ChatCall)
    (clock : Clock) : Input → Turn → Prop
  | hit {raw : String} {cached : ChatResponse} {outcome : Outcome} {schedule : List UsageTask}
      (point : call.point = .cacheGet) (read : parseEntry env raw = some cached)
      (settles : Settles (cacheRecord call.virtualKeyId cached clock.latencyMs) cached
        outcome schedule) :
      Turns env id process call clock (.reply (.bulk raw))
        { process, call := call.finish outcome, schedule }
  | unreadable {raw : String} (point : call.point = .cacheGet)
      (unread : parseEntry env raw = none) :
      Turns env id process call clock (.reply (.bulk raw))
        { process, call := { call with point := .discard },
          send := some (.delete (call.cacheKey env)) }
  | join {input : Input} {leader : CallId} (missed : Misses call input)
      (entry : process.entry = some leader)
      (waiting : process.futures leader = some .pending ∨ process.futures leader = none) :
      Turns env id process call clock input
        { process, call := { call with inflight := some leader, point := .follow leader } }
  | followed {input : Input} {leader : CallId} {response : ChatResponse} {outcome : Outcome}
      {schedule : List UsageTask} (awaits : Awaits process call leader input)
      (result : process.futures leader = some (.result response))
      (settles : Settles (cacheRecord call.virtualKeyId response clock.latencyMs) response
        outcome schedule) :
      Turns env id process call clock input
        { process, call := { call with inflight := some leader }.finish outcome, schedule }
  | followedRaise {input : Input} {leader : CallId} {exception : PyException}
      (awaits : Awaits process call leader input)
      (raises : FutureRaises (process.futures leader) exception) :
      Turns env id process call clock input
        { process, call := { call with inflight := some leader }.finish (.raised exception) }
  | unknown {input : Input} (missed : Misses call input) (entry : process.entry = none)
      (candidates : selectProviders call.registry call.request.model = []) :
      Turns env id process call clock input
        { process, call := call.finish (.raised call.unknownModel) }
  | contend {input : Input} {first : BaseProvider} {rest : List BaseProvider}
      (missed : Misses call input) (entry : process.entry = none)
      (candidates : selectProviders call.registry call.request.model = first :: rest) :
      Turns env id process call clock input
        { process, call := { call with point := .acquire first rest },
          send := some (acquireCommand (call.cacheKey env) (env.token id)
            (lockTtlSeconds (first :: rest))) }
  | poll {input : Input} {first : BaseProvider} {rest : List BaseProvider}
      (waits : Waits call first rest input) (early : clock.late = false) :
      Turns env id process call clock input
        { process, call := { call with point := .poll first rest },
          send := some (.get (call.cacheKey env)) }
  | pause {reply : Reply} {first : BaseProvider} {rest : List BaseProvider}
      (point : call.point = .poll first rest) (noError : reply ≠ .error)
      (absent : ∀ raw, reply ≠ .bulk raw) :
      Turns env id process call clock (.reply reply)
        { process, call := { call with point := .sleep first rest } }
  | waited {raw : String} {found : ChatResponse} {first : BaseProvider}
      {rest : List BaseProvider} {outcome : Outcome} {schedule : List UsageTask}
      (point : call.point = .poll first rest) (read : parseEntry env raw = some found)
      (settles : Settles (cacheRecord call.virtualKeyId found clock.latencyMs) found
        outcome schedule) :
      Turns env id process call clock (.reply (.bulk raw))
        { process, call := call.finish outcome, schedule }
  | granted {first : BaseProvider} {rest : List BaseProvider}
      (point : call.point = .acquire first rest) :
      Turns env id process call clock (.reply .ok)
        { process := process.register id,
          call := { call with lockToken := some (env.token id), point := .execute (.start first rest) } }
  | lead {input : Input} {first : BaseProvider} {rest : List BaseProvider}
      (gives : Gives env call clock first rest input) :
      Turns env id process call clock input
        { process := process.register id,
          call := { call with point := .execute (.start first rest) } }
  | retry {outcome : AttemptOutcome} {attempt next : Attempt}
      (point : call.point = .execute attempt)
      (moved : attempt.resume call.request outcome = .inl next) :
      Turns env id process call clock (.attempt outcome)
        { process, call := { call with point := .execute next } }
  | returnedLocked {outcome : AttemptOutcome} {attempt : Attempt} {provider : BaseProvider}
      {response : ChatResponse} {token : String} (point : call.point = .execute attempt)
      (ended : attempt.resume call.request outcome = .inr (.returned provider response))
      (locked : call.lockToken = some token) :
      Turns env id process call clock (.attempt outcome)
        { process := process.retire id,
          call := { call with chain := some (.returned provider response),
                              point := .release (.returned provider response) },
          send := some (releaseCommand (call.cacheKey env) token) }
  | returnedFree {outcome : AttemptOutcome} {attempt : Attempt} {provider : BaseProvider}
      {response : ChatResponse} (point : call.point = .execute attempt)
      (ended : attempt.resume call.request outcome = .inr (.returned provider response))
      (free : call.lockToken = none) (pending : process.futures id = some .pending) :
      Turns env id process call clock (.attempt outcome)
        { process := (process.retire id).resolve id (.result response),
          call := { call with chain := some (.returned provider response),
                              point := .cacheSet provider response },
          send := some (storeCommand env (call.cacheKey env) response) }
  | returnedClash {outcome : AttemptOutcome} {attempt : Attempt} {provider : BaseProvider}
      {response : ChatResponse} (point : call.point = .execute attempt)
      (ended : attempt.resume call.request outcome = .inr (.returned provider response))
      (free : call.lockToken = none) (decided : process.futures id ≠ some .pending) :
      Turns env id process call clock (.attempt outcome)
        { process := process.retire id,
          call := { call with chain := some (.returned provider response) }.finish
            (.raised .invalidStateError) }
  | raisedLocked {outcome : AttemptOutcome} {attempt : Attempt} {exception up : PyException}
      {after : Process} {token : String} (point : call.point = .execute attempt)
      (ended : attempt.resume call.request outcome = .inr (.raised exception))
      (fails : Fails process id exception after up) (locked : call.lockToken = some token) :
      Turns env id process call clock (.attempt outcome)
        { process := after.retire id,
          call := { call with chain := some (.raised exception), point := .release (.raised up) },
          send := some (releaseCommand (call.cacheKey env) token) }
  | raisedFree {outcome : AttemptOutcome} {attempt : Attempt} {exception up : PyException}
      {after : Process} (point : call.point = .execute attempt)
      (ended : attempt.resume call.request outcome = .inr (.raised exception))
      (fails : Fails process id exception after up) (free : call.lockToken = none) :
      Turns env id process call clock (.attempt outcome)
        { process := after.retire id,
          call := { call with chain := some (.raised exception) }.finish (.raised up) }
  | released {reply : Reply} {provider : BaseProvider} {response : ChatResponse}
      (point : call.point = .release (.returned provider response))
      (pending : process.futures id = some .pending) :
      Turns env id process call clock (.reply reply)
        { process := process.resolve id (.result response),
          call := { call with point := .cacheSet provider response },
          send := some (storeCommand env (call.cacheKey env) response) }
  | releasedClash {reply : Reply} {provider : BaseProvider} {response : ChatResponse}
      (point : call.point = .release (.returned provider response))
      (decided : process.futures id ≠ some .pending) :
      Turns env id process call clock (.reply reply)
        { process, call := call.finish (.raised .invalidStateError) }
  | releasedRaise {reply : Reply} {exception : PyException}
      (point : call.point = .release (.raised exception)) :
      Turns env id process call clock (.reply reply)
        { process, call := call.finish (.raised exception) }
  | settled {reply : Reply} {provider : BaseProvider} {response : ChatResponse}
      {outcome : Outcome} {schedule : List UsageTask}
      (point : call.point = .cacheSet provider response)
      (settles : Settles (buildUsageRecord call.virtualKeyId provider.config.name
        (provider.config.pricingFor call.request.model) response.model response.usage
        clock.latencyMs) response outcome schedule) :
      Turns env id process call clock (.reply reply)
        { process, call := call.finish outcome, schedule }
  | cancelledFollow {leader : CallId} (point : call.point = .follow leader)
      (pending : process.futures leader = some .pending) :
      Turns env id process call clock .cancel
        { process := process.resolve leader .cancelled,
          call := call.finish (.raised .cancelledError) }
  | cancelledLocked {attempt : Attempt} {token : String} (point : call.point = .execute attempt)
      (locked : call.lockToken = some token) :
      Turns env id process call clock .cancel
        { process := process.retire id,
          call := { call with chain := some (.raised .cancelledError),
                              point := .release (.raised .cancelledError) },
          send := some (releaseCommand (call.cacheKey env) token) }
  | cancelledFree {attempt : Attempt} (point : call.point = .execute attempt)
      (free : call.lockToken = none) :
      Turns env id process call clock .cancel
        { process := process.retire id,
          call := { call with chain := some (.raised .cancelledError) }.finish
            (.raised .cancelledError) }
  | cancelledElsewhere (outside : ∀ attempt, call.point ≠ .execute attempt)
      (running : ∀ outcome, call.point ≠ .done outcome)
      (alone : ∀ leader, call.point = .follow leader → process.futures leader ≠ some .pending) :
      Turns env id process call clock .cancel
        { process, call := call.finish (.raised .cancelledError) }

/-! ### Each piece of a turn is one of them -/

section Pieces

variable {env : Environment} {id : CallId} {process : Process} {call : ChatCall} {clock : Clock}

theorem serve_eq (call : ChatCall) (process : Process) (clock : Clock) (response : ChatResponse) :
    ∃ outcome schedule,
      Settles (cacheRecord call.virtualKeyId response clock.latencyMs) response outcome schedule ∧
        call.serve process clock response = { process, call := call.finish outcome, schedule } := by
  simp only [ChatCall.serve, recordCacheStyleUsage, recordUsage]
  rcases emitMetric_cases (cacheRecord call.virtualKeyId response clock.latencyMs) with
    emitted | ⟨exception, failed⟩
  · exact ⟨_, _, .recorded emitted, by rw [emitted]; rfl⟩
  · exact ⟨_, _, .refused failed, by rw [failed]; rfl⟩

theorem settle_eq (call : ChatCall) (process : Process) (clock : Clock) (provider : BaseProvider)
    (response : ChatResponse) : ∃ outcome schedule,
    Settles (buildUsageRecord call.virtualKeyId provider.config.name
        (provider.config.pricingFor call.request.model) response.model response.usage
        clock.latencyMs) response outcome schedule ∧
      call.settle process clock provider response =
        { process, call := call.finish outcome, schedule } := by
  simp only [ChatCall.settle, recordUsage]
  rcases emitMetric_cases (buildUsageRecord call.virtualKeyId provider.config.name
    (provider.config.pricingFor call.request.model) response.model response.usage
    clock.latencyMs) with emitted | ⟨exception, failed⟩
  · exact ⟨_, _, .recorded emitted, by rw [emitted]; rfl⟩
  · exact ⟨_, _, .refused failed, by rw [failed]; rfl⟩

theorem turns_awaitInflight {input : Input} {leader : CallId}
    (awaits : Awaits process call leader input)
    (joins : process.futures leader = some .pending ∨ process.futures leader = none →
      Misses call input ∧ process.entry = some leader) :
    Turns env id process call clock input (call.awaitInflight process clock leader) := by
  unfold ChatCall.awaitInflight
  split
  · rename_i response result
    obtain ⟨outcome, schedule, settles, served⟩ :=
      serve_eq { call with inflight := some leader } process clock response
    rw [served]
    exact .followed awaits result settles
  · rename_i exception raised
    exact .followedRaise awaits (raised ▸ .exception exception)
  · rename_i cancelled
    exact .followedRaise awaits (cancelled ▸ .cancelled)
  · rename_i pending
    exact .join (joins (.inl pending)).1 (joins (.inl pending)).2 (.inl pending)
  · rename_i absent
    exact .join (joins (.inr absent)).1 (joins (.inr absent)).2 (.inr absent)

theorem turns_miss {input : Input} (missed : Misses call input) :
    Turns env id process call clock input (call.miss env id process clock) := by
  unfold ChatCall.miss
  split
  · rename_i leader entry
    exact turns_awaitInflight (.joining missed entry) fun _ => ⟨missed, entry⟩
  · rename_i entry
    split
    · rename_i candidates
      exact .unknown missed entry candidates
    · rename_i first rest candidates
      exact .contend missed entry candidates

theorem turns_pollOrLead {input : Input} {first : BaseProvider} {rest : List BaseProvider}
    (waits : Waits call first rest input) :
    Turns env id process call clock input (call.pollOrLead env id process clock first rest) := by
  unfold ChatCall.pollOrLead
  split
  · rename_i late
    exact .lead (.late waits late)
  · rename_i early
    exact .poll waits (Bool.eq_false_of_not_eq_true early)

theorem turns_resumeReply {reply : Reply} {turn : Turn}
    (resumed : call.resumeReply env id process clock reply = some turn) :
    Turns env id process call clock (.reply reply) turn := by
  unfold ChatCall.resumeReply at resumed
  split at resumed
  · rename_i point
    split at resumed
    · split at resumed
      · rename_i cached read
        obtain ⟨outcome, schedule, settles, served⟩ :=
          serve_eq call process clock cached
        rw [served] at resumed
        cases resumed
        exact .hit point read settles
      · rename_i unread
        cases resumed
        exact .unreadable point unread
    · rename_i absent
      cases resumed
      exact turns_miss (.read point fun raw same => absent raw same)
  · rename_i point
    cases resumed
    exact turns_miss (.discarded point)
  · rename_i first rest point
    split at resumed
    · rename_i granted
      cases resumed
      subst granted
      exact .granted point
    · rename_i lost
      cases resumed
      exact turns_pollOrLead (.refused point lost)
  · rename_i first rest point
    split at resumed
    · cases resumed
      exact .lead (.error point)
    · split at resumed
      · rename_i found read
        obtain ⟨outcome, schedule, settles, served⟩ :=
          serve_eq call process clock found
        rw [served] at resumed
        cases resumed
        exact .waited point read settles
      · rename_i unread
        cases resumed
        exact .lead (.unreadable point unread)
    · rename_i noError absent
      cases resumed
      exact .pause point noError fun raw same => absent raw same
  · rename_i ending point
    split at resumed
    · cases resumed
      unfold ChatCall.publish
      split
      · rename_i pending
        exact .released point pending
      · rename_i decided
        exact .releasedClash point decided
    · cases resumed
      exact .releasedRaise point
  · rename_i provider response point
    obtain ⟨outcome, schedule, settles, settled⟩ :=
      settle_eq call process clock provider response
    rw [settled] at resumed
    cases resumed
    exact .settled point settles
  all_goals cases resumed

theorem turns_attempt {outcome : AttemptOutcome} {turn : Turn}
    (resumed : call.resume env id process clock (.attempt outcome) = some turn) :
    Turns env id process call clock (.attempt outcome) turn := by
  simp only [ChatCall.resume] at resumed
  split at resumed
  · rename_i attempt point
    split at resumed
    · rename_i next moved
      cases resumed
      exact .retry point moved
    · rename_i provider response ended
      cases resumed
      unfold ChatCall.chainReturned
      dsimp only
      split
      · rename_i token locked
        exact .returnedLocked point ended locked
      · rename_i free
        have same : (process.retire id).futures = process.futures := by
          unfold Process.retire; split <;> rfl
        unfold ChatCall.publish
        split
        · rename_i pending
          exact .returnedFree point ended free (same ▸ pending)
        · rename_i decided
          exact .returnedClash point ended free (same ▸ decided)
    · rename_i exception ended
      cases resumed
      unfold ChatCall.chainRaised
      dsimp only
      split
      · rename_i pending
        unfold ChatCall.unwind
        dsimp only
        split
        · rename_i token locked
          exact .raisedLocked point ended (.told pending) locked
        · rename_i free
          exact .raisedFree point ended (.told pending) free
      · rename_i decided
        unfold ChatCall.unwind
        dsimp only
        split
        · rename_i token locked
          exact .raisedLocked point ended (.clash decided) locked
        · rename_i free
          exact .raisedFree point ended (.clash decided) free
  · cases resumed

theorem turns_cancel {turn : Turn} (cancelled : call.cancel env id process = some turn) :
    Turns env id process call clock .cancel turn := by
  unfold ChatCall.cancel at cancelled
  split at cancelled
  · cases cancelled
  · rename_i leader point
    cases cancelled
    split
    · rename_i pending
      exact .cancelledFollow point pending
    · rename_i decided
      refine .cancelledElsewhere (by simp [point]) (by simp [point]) fun other same => ?_
      rw [point] at same
      cases same
      exact decided
  · rename_i attempt point
    cases cancelled
    unfold ChatCall.unwind
    dsimp only
    split
    · rename_i token locked
      exact .cancelledLocked point locked
    · rename_i free
      exact .cancelledFree point free
  · rename_i notDone notFollow notExecute
    cases cancelled
    exact .cancelledElsewhere notExecute notDone fun leader same => absurd same (notFollow leader)

/-- **Nothing else happens**: every turn is one of the turns listed. -/
theorem turns_of_resume {input : Input} {turn : Turn}
    (resumed : call.resume env id process clock input = some turn) :
    Turns env id process call clock input turn := by
  cases input with
  | reply reply => exact turns_resumeReply resumed
  | slept =>
      simp only [ChatCall.resume] at resumed
      split at resumed
      · rename_i first rest point
        cases resumed
        exact turns_pollOrLead (.slept point)
      · cases resumed
  | resolved =>
      simp only [ChatCall.resume] at resumed
      split at resumed
      · rename_i leader point
        split at resumed
        · cases resumed
        · cases resumed
        · rename_i notPending present
          cases resumed
          refine turns_awaitInflight (.woken point) fun waiting => ?_
          exact waiting.elim (absurd · notPending) (absurd · present)
      · cases resumed
  | attempt outcome => exact turns_attempt resumed
  | cancel => exact turns_cancel resumed

end Pieces

end LlmGateway
