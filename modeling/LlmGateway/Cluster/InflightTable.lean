import LlmGateway.Cluster.Flow

/-!
# The in-flight table without cancellations

As long as no task is cancelled, the future of a call can be read off the call: it is
pending while the call is inside `execute_with_fallback` or releases its lock after a
success, and afterwards it holds what the chain ended with (`World.Mirrored`). From this one
equation follow the statements about the table, the futures and their followers that
`TableInvariant` lists, for any interleaving, any failures of Redis and the providers, and
any number of leaders for one key.

One of them has a condition. A follower returns the result of its leader only if the metrics
of its usage record can be emitted, and a counter refuses a negative count and one that is
too large for a double.
`inflight_table_iff` says that the invariant holds in a run exactly when no
follower is handed a response whose counts cannot be billed. `negative_follower` is
such a run.
-/

set_option autoImplicit false

namespace LlmGateway

open LlmGateway.Library
open LlmGateway.Library.Redis (Command Reply Store)

variable {env : Environment}

/-! ## The future of a call -/

/-- What the end of a chain tells the followers. -/
def ChainEnding.future : ChainEnding → FutureState
  | .returned _ response => .result response
  | .raised exception => .exception exception

/-- The future of a call, read off its local variables. -/
def ChatCall.future (call : ChatCall) : Option FutureState :=
  match call.point with
  | .execute _ | .release (.returned _ _) => some .pending
  | _ => call.chain.map ChainEnding.future

/-- A call that will resolve its future: it is inside `execute_with_fallback`, or it
releases its lock after a success. -/
def ChatCall.Resolving (call : ChatCall) : Prop := call.future = some .pending

theorem ChainEnding.future_ne_pending (ending : ChainEnding) : ending.future ≠ .pending := by
  cases ending <;> simp [future]

/-- A call resolves its future only from two points. -/
theorem ChatCall.resolving_iff {call : ChatCall} : call.Resolving ↔
    call.point.executing = true ∨
      ∃ provider response, call.point = .release (.returned provider response) := by
  unfold Resolving future
  split
  · simp [*, Point.executing]
  · simp [*, Point.executing]
  · rename_i notExecute notRelease
    constructor
    · intro pending
      obtain ⟨ending, -, same⟩ := Option.map_eq_some_iff.mp pending
      exact absurd same ending.future_ne_pending
    · rintro (inside | ⟨provider, response, point⟩)
      · cases point : call.point with
        | execute attempt => exact absurd point (notExecute attempt)
        | _ => rw [point] at inside; cases inside
      · exact absurd point (notRelease provider response)

/-- A future that is not pending says how the chain ended. -/
theorem ChatCall.future_told {call : ChatCall} {state : FutureState}
    (future : call.future = some state) (decided : state ≠ .pending) : Told call.chain state := by
  unfold ChatCall.future at future
  split at future
  · exact absurd (Option.some.inj future).symm decided
  · exact absurd (Option.some.inj future).symm decided
  · obtain ⟨ending, chain, rfl⟩ := Option.map_eq_some_iff.mp future
    rw [chain]
    cases ending
    · exact .result _ _
    · exact .exception _

section Turn

variable {id : CallId} {process : Process} {call : ChatCall} {clock : Clock} {input : Input}
  {turn : Turn}

/-- A call that has not asked a provider has no future. -/
theorem ChatCall.future_early (coherent : call.Coherent) (early : call.point.early = true) :
    call.chain = none ∧ call.future = none := by
  cases point : call.point <;> rw [point] at early <;> cases early <;>
    simp_all [ChatCall.Coherent, ChatCall.future]

/-- A turn that changes no future, of a call that has none before and after. -/
theorem futures_of_early (coherent : call.Coherent) (early : call.point.early = true)
    (told : process.futures id = call.future) (futures : turn.process.futures = process.futures)
    (chain : turn.call.chain = call.chain)
    (outside : turn.call.point.executing = false ∧
      ∀ provider response, turn.call.point ≠ .release (.returned provider response)) :
    turn.process.futures = Function.update process.futures id turn.call.future := by
  obtain ⟨unset, none_⟩ := ChatCall.future_early coherent early
  have after : turn.call.future = none := by
    unfold ChatCall.future
    split
    · rename_i attempt point
      rw [point] at outside
      cases outside.1
    · rename_i provider response point
      exact absurd point (outside.2 provider response)
    · rw [chain, unset]
      rfl
  rw [futures, after, ← none_, ← told, Function.update_eq_self]

theorem Misses.early (missed : Misses call input) : call.point.early = true := by
  rcases missed.point with point | point <;> rw [point] <;> rfl

theorem Awaits.early {leader : CallId} (awaits : Awaits process call leader input) :
    call.point.early = true := by
  rcases awaits with ⟨missed, -⟩ | point
  · exact missed.early
  · rw [point]; rfl

theorem Waits.early {first : BaseProvider} {rest : List BaseProvider}
    (waits : Waits call first rest input) : call.point.early = true := by
  rcases waits with ⟨point, -⟩ | point <;> rw [point] <;> rfl

/-- **One turn without a cancellation** leaves every future alone but the call's own, which
stays what the call says it is. -/
theorem turns_future (coherent : call.Coherent) (told : process.futures id = call.future)
    (uncancelled : input ≠ .cancel) (turns : Turns env id process call clock input turn) :
    turn.process.futures = Function.update process.futures id turn.call.future := by
  have unchanged : turn.process.futures = process.futures → turn.call.future = call.future →
      turn.process.futures = Function.update process.futures id turn.call.future := by
    intro futures same
    rw [futures, same, ← told, Function.update_eq_self]
  cases turns with
  | hit point | unreadable point | pause point | waited point =>
      exact futures_of_early coherent (by rw [point]; rfl) told rfl rfl ⟨rfl, by simp [ChatCall.finish]⟩
  | join missed | unknown missed | contend missed =>
      exact futures_of_early coherent missed.early told rfl rfl ⟨rfl, by simp [ChatCall.finish]⟩
  | followed awaits | followedRaise awaits =>
      exact futures_of_early coherent awaits.early told rfl rfl ⟨rfl, by simp [ChatCall.finish]⟩
  | poll waits => exact futures_of_early coherent waits.early told rfl rfl ⟨rfl, by simp⟩
  | granted | lead => rfl
  | retry point => exact unchanged rfl (by simp [ChatCall.future, point])
  | returnedLocked point =>
      exact unchanged (process.retire_futures id) (by simp [ChatCall.future, point])
  | returnedFree point ended free pending =>
      change Function.update (process.retire id).futures id _ = _
      rw [process.retire_futures]
      rfl
  | returnedClash point ended free decided =>
      exact absurd (by rw [told]; simp [ChatCall.future, point]) decided
  | raisedLocked point ended fails | raisedFree point ended fails =>
      cases fails with
      | told => exact Process.retire_futures _ id
      | clash decided => exact absurd (by rw [told]; simp [ChatCall.future, point]) decided
  | released point =>
      simp only [ChatCall.Coherent, point] at coherent
      simp [Process.resolve, ChatCall.future, coherent, ChainEnding.future]
  | releasedClash point decided =>
      exact absurd (by rw [told]; simp [ChatCall.future, point]) decided
  | releasedRaise point => exact unchanged rfl (by simp [ChatCall.future, ChatCall.finish, point])
  | settled point => exact unchanged rfl (by simp [ChatCall.future, ChatCall.finish, point])
  | cancelledFollow | cancelledLocked | cancelledFree | cancelledElsewhere =>
      exact absurd rfl uncancelled

/-- A future that holds something keeps it. -/
theorem turns_resolved {state : FutureState} (coherent : call.Coherent)
    (future : call.future = some state) (decided : state ≠ .pending)
    (uncancelled : input ≠ .cancel) (turns : Turns env id process call clock input turn) :
    turn.call.future = some state := by
  have notEarly : call.point.early = true → turn.call.future = some state := by
    intro early
    rw [(ChatCall.future_early coherent early).2] at future
    cases future
  have notPending : call.future = some .pending → turn.call.future = some state := by
    intro pending
    exact absurd (Option.some.inj (future.symm.trans pending)) decided
  cases turns with
  | hit point | unreadable point | pause point | waited point | granted point =>
      exact notEarly (by rw [point]; rfl)
  | join missed | unknown missed | contend missed => exact notEarly missed.early
  | followed awaits | followedRaise awaits => exact notEarly awaits.early
  | poll waits => exact notEarly waits.early
  | lead gives => exact notEarly (Leads.gives gives).early
  | retry point | returnedLocked point | returnedFree point | returnedClash point
  | raisedLocked point | raisedFree point | released point | releasedClash point =>
      exact notPending (by simp [ChatCall.future, point])
  | releasedRaise point | settled point =>
      simpa [ChatCall.future, ChatCall.finish, point] using future
  | cancelledFollow | cancelledLocked | cancelledFree | cancelledElsewhere =>
      exact absurd rfl uncancelled

/-- An exception that no bookkeeping of the gateway raises. -/
def Benign (exception : PyException) : Prop :=
  exception ≠ .keyError ∧ exception ≠ .invalidStateError

/-- The exception of a chain comes from its providers. -/
theorem benign_of_ended {attempt : Attempt} {outcome : AttemptOutcome} {request : ChatRequest}
    {exception : PyException}
    (ended : attempt.resume request outcome = .inr (.raised exception)) : Benign exception := by
  rcases Attempt.resume_raised ended with ⟨name, -, rfl⟩ | ⟨error, failure, -, rfl, -⟩ <;>
    simp [Benign]

/-- Wherever a call holds an exception, it is an allowed one. -/
structure ChatCall.RaisesOnly (allowed : PyException → Prop) (call : ChatCall) : Prop where
  chain : ∀ exception, call.chain = some (.raised exception) → allowed exception
  release : ∀ exception, call.point = .release (.raised exception) → allowed exception
  done : ∀ exception, call.point = .done (.raised exception) → allowed exception

section RaisesOnly

variable {allowed : PyException → Prop}

/-- A call that ends with an outcome and changes nothing else. -/
theorem raisesOnly_finish {ended : ChatCall} {outcome : Outcome}
    (chain : ∀ exception, ended.chain = some (.raised exception) → allowed exception)
    (raised : ∀ exception, outcome = .raised exception → allowed exception) :
    (ended.finish outcome).RaisesOnly allowed :=
  ⟨chain, by simp [ChatCall.finish], fun exception point => raised exception (by
    simpa [ChatCall.finish] using point)⟩

/-- A call that goes on to a point that holds no exception. -/
theorem ChatCall.RaisesOnly.move {later : ChatCall} (only : call.RaisesOnly allowed)
    (same : later.chain = call.chain)
    (notRelease : ∀ exception, later.point ≠ .release (.raised exception))
    (notDone : ∀ exception, later.point ≠ .done (.raised exception)) :
    later.RaisesOnly allowed :=
  ⟨fun exception raised => only.chain exception (same ▸ raised),
    fun exception point => absurd point (notRelease exception),
    fun exception point => absurd point (notDone exception)⟩

/-- What a record raises that is refused. -/
theorem Settles.raises {record : UsageRecord} {response : ChatResponse} {exception : PyException}
    {schedule : List UsageTask}
    (settles : Settles record response (.raised exception) schedule) :
    CounterError exception := by
  cases settles with
  | refused failed => exact counterError_emitMetric failed

/-- A counter raises none of the bookkeeping. -/
theorem CounterError.benign {exception : PyException} (refused : CounterError exception) :
    Benign exception := by
  rcases refused with rfl | rfl <;> simp [Benign]

/-- **The exceptions of a call** stay allowed, if those are that it can get: a refused count, an
unknown model, what its chain raises and its leader's future, a future of its own that is decided
too early, and its cancellation. -/
theorem turns_raisesOnly (refused : ∀ exception, CounterError exception → allowed exception)
    (unknown : selectProviders call.registry call.request.model = [] → allowed call.unknownModel)
    (failed : ∀ {attempt : Attempt} {outcome : AttemptOutcome} {exception : PyException},
      call.point = .execute attempt →
        attempt.resume call.request outcome = .inr (.raised exception) → allowed exception)
    (told : call.Resolving → process.futures id ≠ some .pending → allowed .invalidStateError)
    (followed : ∀ leader exception, FutureRaises (process.futures leader) exception →
      allowed exception)
    (struck : input = .cancel → allowed .cancelledError) (only : call.RaisesOnly allowed)
    (turns : Turns env id process call clock input turn) : turn.call.RaisesOnly allowed := by
  have executing : call.point.executing = true → process.futures id ≠ some .pending →
      allowed .invalidStateError := fun inside => told (ChatCall.resolving_iff.mpr (.inl inside))
  cases turns with
  | hit point read settles | waited point read settles | settled point settles =>
      refine raisesOnly_finish only.chain ?_
      rintro exception rfl
      exact refused exception settles.raises
  | followed awaits result settles =>
      refine raisesOnly_finish only.chain ?_
      rintro exception rfl
      exact refused exception settles.raises
  | followedRaise awaits raises =>
      refine raisesOnly_finish only.chain ?_
      rintro exception same
      cases same
      exact followed _ _ raises
  | unknown missed entry candidates =>
      refine raisesOnly_finish only.chain ?_
      rintro exception same
      cases same
      exact unknown candidates
  | unreadable | join | contend | poll | pause | granted | lead | retry | released =>
      exact only.move rfl (by simp) (by simp)
  | returnedLocked | returnedFree => exact ⟨by simp, by simp, by simp⟩
  | returnedClash point ended free decided =>
      refine raisesOnly_finish (by simp) ?_
      rintro exception same
      cases same
      exact executing (by rw [point]; rfl) decided
  | raisedLocked point ended fails =>
      refine ⟨?_, ?_, by simp⟩
      · rintro exception same
        cases same
        exact failed point ended
      · rintro exception same
        cases same
        cases fails with
        | told => exact failed point ended
        | clash decided => exact executing (by rw [point]; rfl) decided
  | raisedFree point ended fails =>
      refine raisesOnly_finish ?_ ?_
      · rintro exception same
        cases same
        exact failed point ended
      · rintro exception same
        cases same
        cases fails with
        | told => exact failed point ended
        | clash decided => exact executing (by rw [point]; rfl) decided
  | releasedClash point decided =>
      refine raisesOnly_finish only.chain ?_
      rintro exception same
      cases same
      exact told (ChatCall.resolving_iff.mpr (.inr ⟨_, _, point⟩)) decided
  | releasedRaise point =>
      refine raisesOnly_finish only.chain ?_
      rintro exception same
      cases same
      exact only.release _ point
  | cancelledFollow | cancelledElsewhere =>
      refine raisesOnly_finish only.chain ?_
      rintro exception same
      cases same
      exact struck rfl
  | cancelledLocked =>
      refine ⟨?_, ?_, by simp⟩ <;> rintro exception same <;> cases same <;> exact struck rfl
  | cancelledFree =>
      refine raisesOnly_finish ?_ ?_ <;> rintro exception same <;> cases same <;> exact struck rfl

/-- What is awaited at a future that is not cancelled is its exception. -/
theorem FutureRaises.future {state : Option FutureState} {exception : PyException}
    (raises : FutureRaises state exception) (notCancelled : state ≠ some .cancelled) :
    state = some (.exception exception) := by
  cases raises with
  | exception => rfl
  | cancelled => exact absurd rfl notCancelled

end RaisesOnly

/-- How a follower ends, from the future of its leader: it returns the result, it raises
the exception, or the metrics of its record refuse its counts. -/
inductive FollowerEnding : Option FutureState → Outcome → Prop
  | returned (response : ChatResponse) :
      FollowerEnding (some (.result response)) (.returned response)
  | raised (exception : PyException) :
      FollowerEnding (some (.exception exception)) (.raised exception)
  | refused (response : ChatResponse) {exception : PyException}
      (unbillable : ¬ response.usage.Billable) :
      FollowerEnding (some (.result response)) (.raised exception)

/-- What a call that has taken a future does with it. -/
def ChatCall.Follows (call : ChatCall) (futures : CallId → Option FutureState) : Prop :=
  (∀ leader, call.point = .follow leader → call.inflight = some leader) ∧
    ∀ leader, call.inflight = some leader → futures leader ≠ none ∧
      (call.point = .follow leader ∨
        ∃ outcome, call.point = .done outcome ∧ FollowerEnding (futures leader) outcome)

theorem Settles.followerEnding {virtualKeyId : ℤ} {response : ChatResponse} {latencyMs : ℕ}
    {outcome : Outcome} {schedule : List UsageTask}
    (settles : Settles (cacheRecord virtualKeyId response latencyMs) response outcome schedule) :
    FollowerEnding (some (.result response)) outcome := by
  cases settles with
  | recorded => exact .returned response
  | refused failed =>
      refine .refused response fun counts => ?_
      rw [emitMetric_cacheRecord.mpr counts] at failed
      cases failed

/-- A turn keeps a follower with its leader. -/
theorem turns_follows (uncancelled : input ≠ .cancel)
    (noCancelled : ∀ leader, process.futures leader ≠ some .cancelled)
    (entry : ∀ leader, process.entry = some leader → process.futures leader ≠ none)
    (follows : call.Follows process.futures)
    (turns : Turns env id process call clock input turn) :
    turn.call.Follows process.futures := by
  -- a call that is not at a future, before and after
  have apart : call.inflight = none → turn.call.inflight = call.inflight →
      (∀ leader, turn.call.point ≠ .follow leader) → turn.call.Follows process.futures := by
    intro none_ same notFollow
    refine ⟨fun leader point => absurd point (notFollow leader), fun leader taken => ?_⟩
    rw [same, none_] at taken
    cases taken
  -- away from `follow` and `done` a call has taken no future
  have untaken : ∀ point, call.point = point → (∀ leader, point ≠ .follow leader) →
      (∀ outcome, point ≠ .done outcome) → call.inflight = none := by
    intro point at_ notFollow notDone
    by_contra taken
    obtain ⟨leader, taken⟩ := Option.ne_none_iff_exists'.mp taken
    rcases (follows.2 leader taken).2 with here | ⟨outcome, here, -⟩
    · exact notFollow leader (at_.symm.trans here)
    · exact notDone outcome (at_.symm.trans here)
  have ended : ∀ leader outcome, process.futures leader ≠ none →
      FollowerEnding (process.futures leader) outcome →
        ({ call with inflight := some leader }.finish outcome).Follows process.futures := by
    intro leader outcome present ending
    refine ⟨by simp [ChatCall.finish], fun other taken => ?_⟩
    obtain rfl := Option.some.inj taken
    exact ⟨present, .inr ⟨outcome, rfl, ending⟩⟩
  cases turns with
  | join missed found =>
      refine ⟨fun leader point => ?_, fun leader taken => ?_⟩
      · cases point
        rfl
      · obtain rfl := Option.some.inj taken
        exact ⟨entry _ found, .inl rfl⟩
  | followed awaits result settles =>
      exact ended _ _ (by rw [result]; simp) (result ▸ settles.followerEnding)
  | followedRaise awaits raises =>
      generalize state : process.futures _ = future at raises
      cases raises with
      | exception => exact ended _ _ (by rw [state]; simp) (state ▸ .raised _)
      | cancelled => exact absurd state (noCancelled _)
  | hit point | unreadable point | pause point | waited point | granted point | retry point
  | returnedLocked point | returnedFree point | returnedClash point | raisedLocked point
  | raisedFree point | released point | releasedClash point | releasedRaise point
  | settled point =>
      exact apart (untaken _ point (by simp) (by simp)) rfl (by simp [ChatCall.finish])
  | unknown missed | contend missed =>
      rcases missed.point with point | point <;>
        exact apart (untaken _ point (by simp) (by simp)) rfl (by simp [ChatCall.finish])
  | poll waits =>
      rcases waits with ⟨point, -⟩ | point <;>
        exact apart (untaken _ point (by simp) (by simp)) rfl (by simp)
  | lead gives =>
      rcases gives with ⟨⟨point, -⟩ | point, -⟩ | point | point <;>
        exact apart (untaken _ point (by simp) (by simp)) rfl (by simp)
  | cancelledFollow | cancelledLocked | cancelledFree | cancelledElsewhere =>
      exact absurd rfl uncancelled

/-- A call that has taken a future and ends has just read it. -/
theorem turns_follower_ends {leader : CallId} {outcome : Outcome} (uncancelled : input ≠ .cancel)
    (noCancelled : ∀ leader, process.futures leader ≠ some .cancelled)
    (follows : call.Follows process.futures)
    (turns : Turns env id process call clock input turn)
    (taken : turn.call.inflight = some leader) (ended : turn.call.point = .done outcome) :
    Awaits process call leader input ∧ FollowerEnding (process.futures leader) outcome := by
  have away : ∀ point, call.point = point → call.inflight = some leader →
      (∀ leader, point ≠ .follow leader) → (∀ outcome, point ≠ .done outcome) →
        Awaits process call leader input ∧ FollowerEnding (process.futures leader) outcome := by
    intro point at_ old notFollow notDone
    rcases (follows.2 leader old).2 with here | ⟨other, here, -⟩
    · exact absurd (at_.symm.trans here) (notFollow leader)
    · exact absurd (at_.symm.trans here) (notDone other)
  cases turns with
  | followed awaits result settles =>
      obtain rfl := Option.some.inj taken
      cases ended
      exact ⟨awaits, result ▸ settles.followerEnding⟩
  | followedRaise awaits raises =>
      obtain rfl := Option.some.inj taken
      cases ended
      refine ⟨awaits, ?_⟩
      generalize state : process.futures _ = future at raises
      cases raises with
      | exception => exact .raised _
      | cancelled => exact absurd state (noCancelled _)
  | hit point | waited point | returnedClash point | raisedFree point | releasedClash point
  | releasedRaise point | settled point =>
      exact away _ point taken (by simp) (by simp)
  | unknown missed =>
      rcases missed.point with point | point <;> exact away _ point taken (by simp) (by simp)
  | unreadable | join | contend | poll | pause | granted | lead | retry | returnedLocked
  | returnedFree | raisedLocked | released => cases ended
  | cancelledFollow | cancelledLocked | cancelledFree | cancelledElsewhere =>
      exact absurd rfl uncancelled

/-- Where a call stands that reads a future. -/
theorem Awaits.point {leader : CallId} (awaits : Awaits process call leader input) :
    call.point = .cacheGet ∨ call.point = .discard ∨ call.point = .follow leader := by
  rcases awaits with ⟨missed, -⟩ | point
  · exact missed.point.imp_right .inl
  · exact .inr (.inr point)

/-- A call reads one future at a time. -/
theorem Awaits.unique {leader other : CallId} (awaits : Awaits process call leader input)
    (also : Awaits process call other input) : leader = other := by
  rcases awaits with ⟨missed, entry⟩ | point <;> rcases also with ⟨missed', entry'⟩ | point'
  · exact Option.some.inj (entry.symm.trans entry')
  · exact (missed.absurd_of_point point' (by simp)).elim
  · exact (missed'.absurd_of_point point (by simp)).elim
  · exact Point.follow.inj (point.symm.trans point')

/-- A call that reads a result settles with it. -/
theorem turns_awaits {leader : CallId} {response : ChatResponse}
    (awaits : Awaits process call leader input)
    (result : process.futures leader = some (.result response))
    (turns : Turns env id process call clock input turn) : ∃ outcome schedule,
      Settles (cacheRecord call.virtualKeyId response clock.latencyMs) response outcome schedule ∧
        turn.call = { call with inflight := some leader }.finish outcome := by
  have elsewhere : ∀ {P : Prop} {point : Point}, call.point = point →
      (point ≠ .cacheGet ∧ point ≠ .discard ∧ ∀ leader, point ≠ .follow leader) → P := by
    rintro P point here ⟨notGet, notDiscard, notFollow⟩
    rcases awaits.point with there | there | there
    · exact absurd (here.symm.trans there) notGet
    · exact absurd (here.symm.trans there) notDiscard
    · exact absurd (here.symm.trans there) (notFollow leader)
  have joined : ∀ {other : CallId}, process.entry = some other → Misses call input →
      leader = other := fun entry missed => awaits.unique (.joining missed entry)
  cases turns with
  | followed also there settles =>
      obtain rfl := awaits.unique also
      obtain rfl := FutureState.result.inj (Option.some.inj (result.symm.trans there))
      exact ⟨_, _, settles, rfl⟩
  | followedRaise also raises =>
      obtain rfl := awaits.unique also
      rw [result] at raises
      cases raises
  | join missed entry waiting =>
      obtain rfl := joined entry missed
      rw [result] at waiting
      simp at waiting
  | unknown missed entry | contend missed entry =>
      rcases awaits with ⟨-, found⟩ | point
      · rw [entry] at found
        cases found
      · exact (missed.absurd_of_point point (by simp)).elim
  | hit point | unreadable point =>
      rcases awaits with ⟨⟨-, absent⟩ | here, -⟩
      · exact absurd rfl (absent _)
      · rw [point] at here
        cases here
  | poll waits => rcases waits with ⟨point, -⟩ | point <;> exact elsewhere point (by simp)
  | lead gives =>
      rcases gives with ⟨⟨point, -⟩ | point, -⟩ | point | point <;> exact elsewhere point (by simp)
  | pause point | waited point | granted point | retry point | returnedLocked point
  | returnedFree point | returnedClash point | raisedLocked point | raisedFree point
  | released point | releasedClash point | releasedRaise point | settled point
  | cancelledLocked point | cancelledFree point => exact elsewhere point (by simp)
  | cancelledFollow | cancelledElsewhere => rcases awaits with ⟨⟨⟩, -⟩

end Turn

/-! ## The invariant of a run without cancellations -/

/-- Every future is what its call says. -/
def World.Mirrored (w : World) : Prop := ∀ id, w.futures id = (w.call id).bind ChatCall.future

/-- What holds of every state of a run without cancellations. -/
structure World.Calm (env : Environment) (w : World) : Prop where
  sound : w.Sound env
  mirrored : w.Mirrored
  benign : ∀ id call, w.call id = some call → call.RaisesOnly Benign
  follows : ∀ id call, w.call id = some call → call.Follows w.futures

theorem calm_init (env : Environment) (store : Store) : (World.init store).Calm env where
  sound := sound_init env store
  mirrored id := by simp [World.init, World.call]
  benign id call running := by simp [World.init, World.call] at running
  follows id call running := by simp [World.init, World.call] at running

theorem World.Mirrored.of_call {w : World} (mirrored : w.Mirrored) {id : CallId} {call : ChatCall}
    (running : w.call id = some call) : w.futures id = call.future := by
  rw [mirrored id, running, Option.bind_some]

/-- Without cancellations no future is cancelled. -/
theorem World.Mirrored.not_cancelled {w : World} (mirrored : w.Mirrored) (id : CallId) :
    w.futures id ≠ some .cancelled := by
  rw [mirrored id]
  intro cancelled
  obtain ⟨call, -, future⟩ := Option.bind_eq_some_iff.mp cancelled
  have told := ChatCall.future_told future (by simp)
  generalize call.chain = ending at told
  cases told

theorem World.Calm.followed_benign {w : World} (calm : w.Calm env) {id : CallId}
    {exception : PyException} (raised : w.futures id = some (.exception exception)) :
    Benign exception := by
  rw [calm.mirrored id] at raised
  obtain ⟨call, running, future⟩ := Option.bind_eq_some_iff.mp raised
  have told := ChatCall.future_told future (by simp)
  generalize chain : call.chain = ending at told
  cases told
  exact (calm.benign id call running).chain exception chain

/-- The future under an entry exists. -/
theorem World.Sound.entry_future {w : World} (sound : w.Sound env) {slot : Slot} {id : CallId}
    (entry : w.inflight slot = some id) : w.futures id ≠ none := by
  obtain ⟨call, running, -, inside⟩ := sound.tabled slot id entry
  exact (sound.owned id).mpr ⟨call, running, by simp [ChatCall.led, inside]⟩

/-- Steps without a cancellation keep a future that holds something. -/
theorem resolved_step {w next : World} {action : Action} (calm : w.Calm env)
    (moved : w.step env action = some next) (uncancelled : action.cancels = false) {id : CallId}
    {state : FutureState} (future : w.futures id = some state) (decided : state ≠ .pending) :
    next.futures id = some state := by
  cases moves_of_step moved with
  | starts _ _ _ futures => rw [futures, future]
  | stays _ _ _ futures => rw [futures, future]
  | @turns acting call input clock turn _ running turns calls inflight futures =>
      have coherent := calm.sound.coherent acting call running
      have told : (w.process env call).futures acting = call.future :=
        calm.mirrored.of_call running
      have proceeds : input ≠ .cancel := by rintro rfl; cases uncancelled
      rw [futures, turns_future coherent told proceeds turns, Function.update_apply]
      split_ifs with same
      · subst same
        exact turns_resolved coherent (told.symm.trans future) decided proceeds turns
      · exact future

theorem mirrored_step {w next : World} {action : Action} (calm : w.Calm env)
    (moved : w.step env action = some next) (uncancelled : action.cancels = false) :
    next.Mirrored := by
  intro other
  cases moves_of_step moved with
  | @starts id replica request registry virtualKeyId _ fresh calls inflight futures =>
      rw [futures, calls, calm.mirrored other, Function.update_apply]
      split_ifs with same
      · rw [same, fresh]
        rfl
      · rfl
  | stays _ calls inflight futures => rw [futures, calls, calm.mirrored other]
  | @turns id call input clock turn _ running turns calls inflight futures =>
      have told : (w.process env call).futures id = call.future := calm.mirrored.of_call running
      have proceeds : input ≠ .cancel := by rintro rfl; cases uncancelled
      rw [futures, calls, turns_future (calm.sound.coherent id call running) told proceeds turns,
        Function.update_apply, Function.update_apply]
      split_ifs
      · rfl
      · exact calm.mirrored other

/-- A follower stays with its leader when futures keep what they hold. -/
theorem ChatCall.Follows.mono {call : ChatCall} {before after : CallId → Option FutureState}
    (follows : call.Follows before) (present : ∀ id, before id ≠ none → after id ≠ none)
    (kept : ∀ id state, before id = some state → state ≠ .pending → after id = some state) :
    call.Follows after := by
  refine ⟨follows.1, fun leader taken => ?_⟩
  obtain ⟨there, here | ⟨outcome, point, ending⟩⟩ := follows.2 leader taken
  · exact ⟨present leader there, .inl here⟩
  · refine ⟨present leader there, .inr ⟨outcome, point, ?_⟩⟩
    generalize state : before leader = future at ending
    cases ending with
    | returned response => exact (kept _ _ state (by simp)) ▸ .returned response
    | raised exception => exact (kept _ _ state (by simp)) ▸ .raised exception
    | refused response unbillable =>
        exact (kept _ _ state (by simp)) ▸ .refused response unbillable

theorem calm_step {w next : World} {action : Action} (calm : w.Calm env)
    (moved : w.step env action = some next) (uncancelled : action.cancels = false) :
    next.Calm env := by
  have sound := sound_step calm.sound moved
  have kept : ∀ id state, w.futures id = some state → state ≠ .pending →
      next.futures id = some state := fun id state future decided =>
    resolved_step calm moved uncancelled future decided
  have present : ∀ id, w.futures id ≠ none → next.futures id ≠ none := fun id there =>
    future_step calm.sound.coherent moved there
  refine ⟨sound, mirrored_step calm moved uncancelled, ?_, ?_⟩
  · intro other found there
    cases moves_of_step moved with
    | starts fresh calls inflight futures =>
        rw [calls, Function.update_apply] at there
        split_ifs at there with same
        · obtain rfl := Option.some.inj there
          exact ⟨by simp [ChatCall.start], by simp [ChatCall.start], by simp [ChatCall.start]⟩
        · exact calm.benign other found there
    | stays _ calls inflight futures => exact calm.benign other found (calls ▸ there)
    | @turns id call input clock turn _ running turns calls inflight futures =>
        have proceeds : input ≠ .cancel := by rintro rfl; cases uncancelled
        rw [calls, Function.update_apply] at there
        split_ifs at there with same
        · obtain rfl := Option.some.inj there
          have told := calm.mirrored.of_call running
          exact turns_raisesOnly (fun _ => CounterError.benign)
            (by simp [Benign, ChatCall.unknownModel]) (fun _ => benign_of_ended)
            (fun resolving clash => absurd (told.trans resolving) clash)
            (fun leader _ raises =>
              calm.followed_benign (raises.future (calm.mirrored.not_cancelled leader)))
            (absurd · proceeds) (calm.benign id call running) turns
        · exact calm.benign other found there
  · intro other found there
    cases moves_of_step moved with
    | starts fresh calls inflight futures =>
        rw [calls, Function.update_apply] at there
        split_ifs at there with same
        · obtain rfl := Option.some.inj there
          exact ⟨by simp [ChatCall.start], by simp [ChatCall.start]⟩
        · exact (calm.follows other found there).mono present kept
    | stays _ calls inflight futures =>
        exact (calm.follows other found (calls ▸ there)).mono present kept
    | @turns id call input clock turn _ running turns calls inflight futures =>
        have proceeds : input ≠ .cancel := by rintro rfl; cases uncancelled
        rw [calls, Function.update_apply] at there
        split_ifs at there with same
        · obtain rfl := Option.some.inj there
          have after : turn.call.Follows (w.process env call).futures := turns_follows proceeds
            calm.mirrored.not_cancelled
            (fun leader entry => calm.sound.entry_future entry) (calm.follows id call running) turns
          exact after.mono present kept
        · exact (calm.follows other found there).mono present kept

/-- **Every state of a run without cancellations is calm.** -/
theorem calm_run {store : Store} {actions : List Action} {w : World}
    (uncancelled : Uncancelled actions)
    (reached : run (World.step env) (.init store) actions = some w) : w.Calm env :=
  invariant (calm_init env store)
    (fun _ _ _ calm moved proceeds => calm_step calm moved proceeds)
    (throughout_of_actions uncancelled _) reached

/-! ## The table, the futures and the followers -/

/-- What the in-flight table promises, in one state. -/
structure World.TableInvariant (env : Environment) (w : World) : Prop where
  /-- An entry is an unresolved future whose creator is inside `execute_with_fallback`. -/
  entries : ∀ slot id, w.inflight slot = some id → w.futures id = some .pending ∧
    ∃ creator, w.call id = some creator ∧ creator.slot env = slot ∧
      creator.point.executing = true
  /-- The creator of an unresolved future that is awaited still runs. -/
  creators : ∀ id call leader, w.call id = some call → call.point = .follow leader →
    w.futures leader = some .pending →
      ∃ creator, w.call leader = some creator ∧ ∀ outcome, creator.point ≠ .done outcome
  /-- A resolved future holds what the chain of its creator ended with. -/
  resolved : ∀ id state, w.futures id = some state → state ≠ .pending →
    ∃ creator, w.call id = some creator ∧ Told creator.chain state
  /-- A creator that has ended has resolved its future. -/
  ended : ∀ id call outcome, w.call id = some call → call.point = .done outcome →
    call.led = true → ∃ state, w.futures id = some state ∧ state ≠ .pending
  /-- A follower that has ended has returned or raised what the future holds. -/
  followers : ∀ id call leader outcome, w.call id = some call → call.inflight = some leader →
    call.point = .done outcome →
      (∃ response, w.futures leader = some (.result response) ∧ outcome = .returned response) ∨
        ∃ exception, w.futures leader = some (.exception exception) ∧ outcome = .raised exception
  /-- No call has failed with `KeyError` or `InvalidStateError`. -/
  errors : ∀ id call exception, w.call id = some call → call.point = .done (.raised exception) →
    exception ≠ .keyError ∧ exception ≠ .invalidStateError
  /-- When no call is active the tables are empty. -/
  idle : (∀ id call, w.call id = some call → ∃ outcome, call.point = .done outcome) →
    ∀ slot, w.inflight slot = none

/-- A future is resolved once: a step keeps what a resolved future holds. -/
def ResolvesOnce (w : World) (_ : Action) (next : World) : Prop :=
  ∀ id state, w.futures id = some state → state ≠ .pending → next.futures id = some state

/-- A call that takes a response from a future in flight is handed counts that can be
billed. -/
def FollowsBillable (env : Environment) (w : World) (action : Action) (_ : World) : Prop :=
  ∀ id input clock call leader response, action = .chat id input clock → w.call id = some call →
    Awaits (w.process env call) call leader input →
      w.futures leader = some (.result response) → response.usage.Billable

/-- No follower was refused. -/
def World.Accepted (w : World) : Prop :=
  ∀ id call leader outcome, w.call id = some call → call.inflight = some leader →
    call.point = .done outcome →
      (∃ response, w.futures leader = some (.result response) ∧ outcome = .returned response) ∨
        ∃ exception, w.futures leader = some (.exception exception) ∧ outcome = .raised exception

/-- In a calm state everything holds but the statement about followers. -/
theorem World.Calm.tableInvariant {w : World} (calm : w.Calm env) (accepted : w.Accepted) :
    w.TableInvariant env where
  entries slot id entry := by
    obtain ⟨creator, running, place, inside⟩ := calm.sound.tabled slot id entry
    refine ⟨?_, creator, running, place, inside⟩
    rw [calm.mirrored.of_call running]
    exact ChatCall.resolving_iff.mpr (.inl inside)
  creators id call leader running point pending := by
    rw [calm.mirrored leader] at pending
    obtain ⟨creator, there, resolving⟩ := Option.bind_eq_some_iff.mp pending
    refine ⟨creator, there, fun outcome done => ?_⟩
    rcases ChatCall.resolving_iff.mp resolving with inside | ⟨provider, response, release⟩
    · rw [done] at inside
      cases inside
    · rw [done] at release
      cases release
  resolved id state future decided := by
    rw [calm.mirrored id] at future
    obtain ⟨creator, there, told⟩ := Option.bind_eq_some_iff.mp future
    exact ⟨creator, there, ChatCall.future_told told decided⟩
  ended id call outcome running point led := by
    have present := (calm.sound.owned id).mpr ⟨call, running, led⟩
    obtain ⟨state, future⟩ := Option.ne_none_iff_exists'.mp present
    refine ⟨state, future, ?_⟩
    rintro rfl
    rw [calm.mirrored.of_call running] at future
    rcases ChatCall.resolving_iff.mp future with inside | ⟨provider, response, release⟩
    · rw [point] at inside
      cases inside
    · rw [point] at release
      cases release
  followers := accepted
  errors id call exception running point := (calm.benign id call running).done exception point
  idle ended slot := by
    by_contra occupied
    obtain ⟨id, entry⟩ := Option.ne_none_iff_exists'.mp occupied
    obtain ⟨creator, running, -, inside⟩ := calm.sound.tabled slot id entry
    obtain ⟨outcome, done⟩ := ended id creator running
    rw [done] at inside
    cases inside

/-! ## Followers and counts that cannot be billed -/

theorem accepted_init (store : Store) : (World.init store).Accepted := by
  intro id call leader outcome running
  simp [World.init, World.call] at running

/-- A step by which every follower is handed billable counts refuses no follower. -/
theorem accepted_step {w next : World} {action : Action} (calm : w.Calm env)
    (accepted : w.Accepted) (moved : w.step env action = some next)
    (uncancelled : action.cancels = false) (billable : FollowsBillable env w action next) :
    next.Accepted := by
  have kept : ∀ {leader : CallId} {outcome : Outcome},
      ((∃ response, w.futures leader = some (.result response) ∧ outcome = .returned response) ∨
        ∃ exception, w.futures leader = some (.exception exception) ∧
          outcome = .raised exception) →
      (∃ response, next.futures leader = some (.result response) ∧ outcome = .returned response) ∨
        ∃ exception, next.futures leader = some (.exception exception) ∧
          outcome = .raised exception := by
    rintro leader outcome (⟨response, future, same⟩ | ⟨exception, future, same⟩)
    · exact .inl ⟨response, resolved_step calm moved uncancelled future (by simp), same⟩
    · exact .inr ⟨exception, resolved_step calm moved uncancelled future (by simp), same⟩
  intro other found leader outcome there taken ended
  cases moves_of_step moved with
  | starts fresh calls inflight futures =>
      rw [calls, Function.update_apply] at there
      split_ifs at there with same
      · obtain rfl := Option.some.inj there
        cases ended
      · exact kept (accepted other found leader outcome there taken ended)
  | stays _ calls inflight futures =>
      exact kept (accepted other found leader outcome (calls ▸ there) taken ended)
  | @turns id call input clock turn _ running turns calls inflight futures =>
      have proceeds : input ≠ .cancel := by rintro rfl; cases uncancelled
      rw [calls, Function.update_apply] at there
      split_ifs at there with same
      · obtain rfl := Option.some.inj there
        have follows : call.Follows (w.process env call).futures := calm.follows id call running
        obtain ⟨awaits, ending⟩ :=
          turns_follower_ends proceeds calm.mirrored.not_cancelled follows turns taken ended
        refine kept ?_
        change FollowerEnding (w.futures leader) outcome at ending
        generalize state : w.futures leader = future at ending
        cases ending with
        | returned response => exact .inl ⟨response, rfl, rfl⟩
        | raised exception => exact .inr ⟨exception, rfl, rfl⟩
        | refused response unbillable =>
            exact absurd (billable id input clock call leader response rfl running awaits state)
              unbillable
      · exact kept (accepted other found leader outcome there taken ended)

/-- A run in which every follower is handed billable counts. -/
theorem accepted_run {store : Store} {actions : List Action} {w : World}
    (uncancelled : Uncancelled actions)
    (billable : Throughout (World.step env) (FollowsBillable env) (.init store) actions)
    (reached : run (World.step env) (.init store) actions = some w) :
    w.Calm env ∧ w.Accepted :=
  invariant (P := fun w => w.Calm env ∧ w.Accepted) ⟨calm_init env store, accepted_init store⟩
    (fun _ _ _ holds moved met =>
      ⟨calm_step holds.1 moved met.1, accepted_step holds.1 holds.2 moved met.1 met.2⟩)
    ((throughout_of_actions uncancelled _).and billable) reached

/-- A follower that is handed a count that cannot be billed is refused. -/
theorem followsBillable_of_accepted {w next : World} {action : Action} (calm : w.Calm env)
    (accepted : next.Accepted) (moved : w.step env action = some next)
    (uncancelled : action.cancels = false) : FollowsBillable env w action next := by
  rintro id input clock call leader response rfl running awaits result
  cases moves_of_step moved with
  | stays far => exact absurd rfl (far id input clock)
  | @turns _ call' _ _ turn _ before turns calls inflight futures =>
      obtain rfl := Option.some.inj (running.symm.trans before)
      have read : (w.process env call).futures leader = some (.result response) := result
      obtain ⟨outcome, schedule, settles, ended⟩ := turns_awaits awaits read turns
      have self : next.call id = some turn.call := by rw [calls, Function.update_self]
      have kept := resolved_step calm moved uncancelled result (by simp)
      rcases accepted id turn.call leader outcome self (by rw [ended]; rfl) (by rw [ended]; rfl) with
        ⟨other, future, rfl⟩ | ⟨exception, future, -⟩
      · obtain rfl := FutureState.result.inj (Option.some.inj (kept.symm.trans future))
        cases settles with
        | recorded emitted => exact emitMetric_cacheRecord.mp emitted
      · rw [kept] at future
        cases future

/-- **The in-flight table, exactly.** In a run without cancellations from an empty process,
whatever Redis and the providers do, the table invariant holds in every state and every
future is resolved once, if and only if no call takes from a future in flight a response
whose counts cannot be billed: a negative one, or one that is too large for a double. -/
theorem inflight_table_iff (env : Environment) (store : Store) (actions : List Action)
    (uncancelled : Uncancelled actions) :
    (Always (World.step env) (World.TableInvariant env) (.init store) actions ∧
        Throughout (World.step env) ResolvesOnce (.init store) actions) ↔
      Throughout (World.step env) (FollowsBillable env) (.init store) actions := by
  have calm : ∀ before after state, actions = before ++ after →
      run (World.step env) (.init store) before = some state → state.Calm env := by
    intro before after state split reached
    exact calm_run (fun action member => uncancelled action (by simp [split, member])) reached
  constructor
  · rintro ⟨invariant, -⟩ before action after state next split reached moved
    exact followsBillable_of_accepted (calm before _ state split reached)
      (invariant.after_step split reached moved).followers moved
      (uncancelled action (by simp [split]))
  · intro billable
    constructor
    · intro before after state split reached
      have earlier : Throughout (World.step env) (FollowsBillable env) (.init store) before :=
        billable.of_split split
      have accepted := (accepted_run
        (fun action member => uncancelled action (by simp [split, member])) earlier reached).2
      exact (calm before after state split reached).tableInvariant accepted
    · intro before action after state next split reached moved id held future decided
      exact resolved_step (calm before _ state split reached) moved
        (uncancelled action (by simp [split])) future decided

/-- Two identical requests in one process: the first asks the provider, which gives this
answer, and the second joins its future. -/
def joining (response : ChatResponse) : List Action :=
  awaiting ++ [.chat 0 (.attempt (.answered response)) early] ++ exchange 0 (.integer 1) early ++
    [.chat 1 .resolved early]

theorem billable_demoResponse : demoResponse.usage.Billable := by decide +kernel

theorem counted_joining : ∀ action ∈ joining demoResponse, action.Counted := by
  simp [joining, awaiting, arrive, exchange, Action.Counted, billable_demoResponse]

/-- The table in a run with one leader and one follower, and an answer that can be billed. -/
theorem inflight_table_joining :
    Always (World.step demoEnvironment) (World.TableInvariant demoEnvironment)
        (.init Redis.Store.empty) (joining demoResponse) ∧
      Throughout (World.step demoEnvironment) ResolvesOnce (.init Redis.Store.empty)
        (joining demoResponse) := by
  refine (inflight_table_iff demoEnvironment Redis.Store.empty (joining demoResponse)
    (by decide)).mpr ?_
  rintro before action after state next split reached - id input clock call leader response rfl
    running awaits result
  have counted : state.Counted demoEnvironment := counted_run jsonCodec_keepsCounts
    (by simp [Redis.Store.empty])
    (fun action member => counted_joining action (split ▸ List.mem_append_left _ member)) reached
  exact counted.awaited running awaits result

/-- A response whose `prompt_tokens` came as the text `-5`. -/
def negativeResponse : ChatResponse := { demoResponse with usage := ⟨-5, 1, -4⟩ }

/-- A follower has raised `ValueError` although its leader has a result. -/
def followerRefused (leader follower : CallId) (w : World) : Bool :=
  match w.call follower, w.futures leader with
  | some call, some (.result _) =>
      call.inflight == some leader && call.point == .done (.raised .valueError)
  | _, _ => false

/-- **A follower does not return the result of its leader**: with Redis up and no
cancellation, its usage record has a negative count, and the follower raises `ValueError`. -/
theorem negative_follower :
    RedisUp (joining negativeResponse) ∧ Uncancelled (joining negativeResponse) ∧
      ¬ Always (World.step demoEnvironment) (World.TableInvariant demoEnvironment)
        (.init Redis.Store.empty) (joining negativeResponse) := by
  refine ⟨by decide, by decide, not_always_of_last (followerRefused 0 1) ?_ (by decide +kernel)⟩
  intro w refused invariant
  unfold followerRefused at refused
  split at refused
  · rename_i call response running future
    simp only [Bool.and_eq_true, beq_iff_eq] at refused
    rcases invariant.followers 1 call 0 _ running refused.1 refused.2 with
      ⟨other, -, same⟩ | ⟨exception, raised, -⟩
    · cases same
    · rw [future] at raised
      cases raised
  · cases refused

end LlmGateway
