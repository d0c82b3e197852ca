import LlmGateway.Cluster.Accounting

/-!
# Cancelled calls and the other calls

Cancelling a task that awaits a bare future cancels the future, and the future of a call
that calls the provider belongs to all its followers. So a cancellation reaches other calls in
two situations: the cancelled call awaits a future that is not done, or it is the creator of a
future that others await.

`cancellation_iff` says that these are all. In a run whose cancellations meet
`CancelsAlone`, the other calls end as they would have without them (`World.Isolated`), and a
cancellation changes nothing but the cancelled call and its own entry of the in-flight
table (`Undisturbed`); and the condition is necessary. `leader_fails` and
`follower_orphaned` are two runs that break it.
-/

set_option autoImplicit false

namespace LlmGateway

open LlmGateway.Library
open LlmGateway.Library.Redis (Command Reply Store)

variable {env : Environment}

/-! ## The promise -/

/-- The run has cancelled the call. -/
def Cancelled (actions : List Action) (id : CallId) : Prop :=
  ∃ clock, Action.chat id .cancel clock ∈ actions

/-- A cancelled call does not await a future that is not done, and nobody awaits its own. -/
def CancelsAlone (w : World) (action : Action) (_ : World) : Prop :=
  ∀ id clock call, action = .chat id .cancel clock → w.call id = some call →
    (∀ leader, call.point = .follow leader → w.futures leader ≠ some .pending) ∧
      (w.futures id = some .pending → ∀ other follower, w.call other = some follower →
        follower.point ≠ .follow id)

/-- What a leader owes once its chain has ended with a response: the release of its lock, the
cache write, and then its record. -/
def ChatCall.Owes (call : ChatCall) (id : CallId) (scheduled : List (CallId × UsageTask)) : Prop :=
  ∀ provider response, call.chain = some (.returned provider response) →
    call.point = .release (.returned provider response) ∨
      call.point = .cacheSet provider response ∨
        ∃ outcome schedule latencyMs, call.point = .done outcome ∧
          Settles (buildUsageRecord call.virtualKeyId provider.config.name
            (provider.config.pricingFor call.request.model) response.model response.usage
            latencyMs) response outcome schedule ∧
          ∀ task ∈ schedule, (id, task) ∈ scheduled

/-- **How the calls stand that have not been cancelled.** -/
structure World.Isolated (actions : List Action) (w : World) : Prop where
  /-- No call fails with `InvalidStateError` or `KeyError`, and only a cancelled one with
  `CancelledError`. -/
  errors : ∀ id call exception, w.call id = some call → call.point = .done (.raised exception) →
    Benign exception ∧ (exception = .cancelledError → Cancelled actions id)
  /-- The future that a follower awaits is not cancelled, and if it is not done its creator is
  about to resolve it. -/
  awaited : ∀ id call leader, w.call id = some call → call.point = .follow leader →
    w.futures leader ≠ some .cancelled ∧ ∃ creator, w.call leader = some creator ∧
      (w.futures leader = some .pending → creator.Resolving)
  /-- A follower ends with what the chain of its leader ended with. -/
  followers : ∀ id call leader outcome, w.call id = some call → call.inflight = some leader →
    call.point = .done outcome → ¬ Cancelled actions id →
      ∃ creator ending, w.call leader = some creator ∧ creator.chain = some ending ∧
        FollowerEnding (some ending.future) outcome
  /-- A leader whose chain ended with a response goes on to its cache write and its record. -/
  leaders : ∀ id call, w.call id = some call → ¬ Cancelled actions id →
    call.Owes id w.scheduled
  /-- Whoever returns a response has a usage record. -/
  recorded : ∀ id call response, w.call id = some call → call.point = .done (.returned response) →
    ∃ record, (id, UsageTask.persistUsage record) ∈ w.scheduled

/-- **What a step leaves alone.** -/
structure Undisturbed (env : Environment) (w : World) (action : Action) (next : World) : Prop where
  /-- A cancellation changes nothing but the cancelled call and its entry of the table. -/
  frame : ∀ id clock, action = .chat id .cancel clock →
    next.store = w.store ∧ next.scheduled = w.scheduled ∧ next.futures = w.futures ∧
      (∀ other, other ≠ id → next.tasks other = w.tasks other) ∧
        ∀ slot, next.inflight slot ≠ w.inflight slot → w.inflight slot = some id
  /-- What is left of a cancelled call only ends. -/
  remains : ∀ id input clock call, action = .chat id input clock → w.call id = some call →
    call.point = .release (.raised .cancelledError) →
      next.store = w.store ∧ next.scheduled = w.scheduled ∧ next.futures = w.futures ∧
        next.inflight = w.inflight ∧ ∀ other, other ≠ id → next.tasks other = w.tasks other
  /-- A leader whose chain ended with a response ends after its cache write, unless it is
  cancelled. -/
  stores : ∀ id input clock call later provider response outcome,
    action = .chat id input clock → input ≠ .cancel → w.call id = some call →
      next.call id = some later → later.point = .done outcome →
        later.chain = some (.returned provider response) →
          call.point = .cacheSet provider response

/-! ## The invariant -/

/-- A cancelled call that has left its future as it was. -/
def ChatCall.Abandoned (call : ChatCall) : Prop :=
  call.point = .release (.raised .cancelledError) ∨ call.point = .done (.raised .cancelledError)

/-- Nobody awaits the future. -/
def World.Unfollowed (w : World) (id : CallId) : Prop :=
  ∀ other follower, w.call other = some follower → follower.point ≠ .follow id

/-- A future that no cancellation has reached. -/
def FutureState.Clean : FutureState → Prop
  | .exception raised => Benign raised ∧ raised ≠ .cancelledError
  | .cancelled => False
  | .pending | .result _ => True

/-- An exception that is none of the bookkeeping, and `CancelledError` only for a cancelled
call. -/
def Fair (cancelled : Prop) (exception : PyException) : Prop :=
  Benign exception ∧ (exception = .cancelledError → cancelled)

/-- Wherever a call holds an exception, it is a fair one. -/
structure ChatCall.Fair (cancelled : Prop) (call : ChatCall) : Prop where
  chain : ∀ exception, call.chain = some (.raised exception) → LlmGateway.Fair cancelled exception
  release : ∀ exception, call.point = .release (.raised exception) →
    LlmGateway.Fair cancelled exception
  done : ∀ exception, call.point = .done (.raised exception) → LlmGateway.Fair cancelled exception

section Turn

variable {id : CallId} {process : Process} {call : ChatCall} {clock : Clock} {input : Input}
  {turn : Turn}

/-- Where a chain ends it is with an exception of the providers. -/
theorem fair_of_ended {cancelled : Prop} {attempt : Attempt} {outcome : AttemptOutcome}
    {request : ChatRequest} {exception : PyException}
    (ended : attempt.resume request outcome = .inr (.raised exception)) :
    Fair cancelled exception ∧ exception ≠ .cancelledError := by
  have far : exception ≠ .cancelledError := by
    rcases Attempt.resume_raised ended with ⟨name, -, rfl⟩ | ⟨error, failure, -, rfl, -⟩ <;> simp
  exact ⟨⟨benign_of_ended ended, fun same => absurd same far⟩, far⟩

/-- The exceptions of a call stay fair. -/
theorem turns_fair {cancelled : Prop}
    (told : call.Resolving → process.futures id = some .pending)
    (clean : ∀ leader state, process.futures leader = some state → state.Clean)
    (marked : input = .cancel → cancelled) (fair : call.Fair cancelled)
    (turns : Turns env id process call clock input turn) : turn.call.Fair cancelled := by
  have followed : ∀ leader exception, process.futures leader = some (.exception exception) →
      LlmGateway.Fair cancelled exception := by
    intro leader exception future
    obtain ⟨benign, far⟩ := clean leader _ future
    exact ⟨benign, fun same => absurd same far⟩
  have only : turn.call.RaisesOnly (LlmGateway.Fair cancelled) :=
    turns_raisesOnly (by rintro exception (rfl | rfl) <;> simp [LlmGateway.Fair, Benign])
      (by simp [LlmGateway.Fair, Benign, ChatCall.unknownModel])
      (fun _ ended => (fair_of_ended ended).1) (fun resolving clash => absurd (told resolving) clash)
      (fun leader exception raises => followed leader exception
        (raises.future fun future => (clean leader _ future).elim))
      (fun same => ⟨by simp [Benign], fun _ => marked same⟩)
      ⟨fair.chain, fair.release, fair.done⟩ turns
  exact ⟨only.chain, only.release, only.done⟩

/-- The futures stay clean, when no follower is cancelled at a future that is not done. -/
theorem turns_clean
    (alone : input = .cancel → ∀ leader, call.point = .follow leader →
      process.futures leader ≠ some .pending)
    (clean : ∀ leader state, process.futures leader = some state → state.Clean)
    (turns : Turns env id process call clock input turn) (leader : CallId) (state : FutureState)
    (future : turn.process.futures leader = some state) : state.Clean := by
  have updated : ∀ given : FutureState, given.Clean →
      Function.update process.futures id (some given) leader = some state → state.Clean := by
    intro given ok future
    rw [Function.update_apply] at future
    split_ifs at future
    · exact Option.some.inj future ▸ ok
    · exact clean leader state future
  cases turns with
  | granted | lead => exact updated .pending trivial future
  | released => exact updated (.result _) trivial future
  | returnedFree =>
      change Function.update (process.retire id).futures id _ leader = _ at future
      rw [process.retire_futures] at future
      exact updated (.result _) trivial future
  | returnedLocked | returnedClash | cancelledLocked | cancelledFree =>
      exact clean leader state ((congrFun (process.retire_futures id) leader).symm.trans future)
  | raisedLocked point ended fails | raisedFree point ended fails =>
      rw [Process.retire_futures] at future
      cases fails with
      | told =>
          obtain ⟨fair, far⟩ : Fair True _ ∧ _ := fair_of_ended ended
          exact updated (.exception _) ⟨fair.1, far⟩ future
      | clash => exact clean leader state future
  | cancelledFollow point pending => exact absurd pending (alone rfl _ point)
  | _ => exact clean leader state future

/-- A turn that cancels no future changes only the future of its own call. -/
theorem turns_futures_elsewhere (coherent : call.Coherent)
    (alone : input = .cancel → ∀ leader, call.point = .follow leader →
      process.futures leader ≠ some .pending)
    (turns : Turns env id process call clock input turn) {other : CallId} (apart : other ≠ id) :
    turn.process.futures other = process.futures other := by
  rcases turns_futures coherent turns with futures | ⟨-, futures⟩ | ⟨-, futures, -⟩ |
    ⟨cancelled, point, pending, -⟩
  · rw [futures]
  · rw [futures, Function.update_of_ne apart]
  · rw [futures, Function.update_of_ne apart]
  · exact absurd pending (alone cancelled _ point)

/-- A cancelled call that has left its future behind only ends. -/
theorem turns_abandoned (abandoned : call.Abandoned)
    (turns : Turns env id process call clock input turn) :
    turn.call.Abandoned ∧ turn.process.futures = process.futures := by
  have ended : ∀ {P : Prop} {point : Point}, call.point = point →
      (∀ exception, point ≠ .release (.raised exception)) → (∀ outcome, point ≠ .done outcome) →
        P := by
    rintro P point here notRelease notDone
    rcases abandoned with there | there
    · exact absurd (here.symm.trans there) (notRelease _)
    · exact absurd (here.symm.trans there) (notDone _)
  cases turns with
  | hit point | unreadable point | pause point | waited point | granted point | retry point
  | returnedLocked point | returnedFree point | returnedClash point | raisedLocked point
  | raisedFree point | released point | releasedClash point | settled point
  | cancelledFollow point | cancelledLocked point | cancelledFree point =>
      exact ended point (by simp) (by simp)
  | join missed | unknown missed | contend missed =>
      rcases missed.point with point | point <;> exact ended point (by simp) (by simp)
  | followed awaits | followedRaise awaits =>
      rcases awaits.point with point | point | point <;> exact ended point (by simp) (by simp)
  | poll waits => rcases waits with ⟨point, -⟩ | point <;> exact ended point (by simp) (by simp)
  | lead gives =>
      rcases gives with ⟨⟨point, -⟩ | point, -⟩ | point | point <;>
        exact ended point (by simp) (by simp)
  | releasedRaise point =>
      rcases abandoned with there | there <;> rw [point] at there <;> cases there
      exact ⟨.inr rfl, rfl⟩
  | cancelledElsewhere => exact ⟨.inr rfl, rfl⟩

/-- A call that is cancelled alone leaves its entry of the table, if it is at a provider, and
schedules nothing. -/
theorem turns_cancelled
    (alone : ∀ leader, call.point = .follow leader → process.futures leader ≠ some .pending)
    (turns : Turns env id process call clock .cancel turn) :
    turn.call.Abandoned ∧ turn.tasks clock.latencyMs = [] ∧
      (call.point.executing = true ∧ turn.process = process.retire id ∨
        call.point.executing = false ∧ turn.process = process ∧
          turn.call = call.finish (.raised .cancelledError)) := by
  cases turns with
  | cancelledFollow point pending => exact absurd pending (alone _ point)
  | cancelledLocked point => exact ⟨.inl rfl, rfl, .inl ⟨by rw [point]; rfl, rfl⟩⟩
  | cancelledFree point => exact ⟨.inr rfl, rfl, .inl ⟨by rw [point]; rfl, rfl⟩⟩
  | cancelledElsewhere outside =>
      refine ⟨.inr rfl, rfl, .inr ⟨?_, rfl, rfl⟩⟩
      cases point : call.point with
      | execute attempt => exact absurd point (outside attempt)
      | _ => rfl
  | join missed | unknown missed | contend missed => cases missed
  | followed awaits | followedRaise awaits => obtain ⟨⟨⟩, -⟩ := awaits
  | poll waits => cases waits
  | lead gives => obtain ⟨⟨⟩, -⟩ := gives

/-- What becomes of the future of the call that takes the turn: it is what the call says it is,
or the call is cancelled and leaves it behind. -/
theorem turns_mirrored (coherent : call.Coherent)
    (alone : input = .cancel → ∀ leader, call.point = .follow leader →
      process.futures leader ≠ some .pending)
    (told : process.futures id = call.future)
    (turns : Turns env id process call clock input turn) :
    turn.process.futures id = turn.call.future ∨
      turn.call.Abandoned ∧ input = .cancel ∧ process.futures id = some .pending ∧
        turn.process.futures id = some .pending := by
  by_cases cancelled : input = .cancel
  · subst cancelled
    obtain ⟨abandoned, -, ⟨inside, left⟩ | ⟨-, same, ended⟩⟩ := turns_cancelled (alone rfl) turns
    · have pending := told.trans (ChatCall.resolving_iff.mpr (.inl inside))
      exact .inr ⟨abandoned, rfl, pending, by rw [left, Process.retire_futures, pending]⟩
    · by_cases resolving : call.Resolving
      · have pending := told.trans resolving
        exact .inr ⟨abandoned, rfl, pending, by rw [same, pending]⟩
      · refine .inl ?_
        rw [same, told, ended]
        unfold ChatCall.Resolving at resolving
        unfold ChatCall.future at resolving ⊢
        split at resolving
        · exact absurd rfl resolving
        · exact absurd rfl resolving
        · rfl
  · refine .inl ?_
    rw [turns_future coherent told cancelled turns, Function.update_self]

/-- A call that is not cancelled goes on to its cache write and its record. -/
theorem turns_owes {scheduled : List (CallId × UsageTask)} (coherent : call.Coherent)
    (told : process.futures id = call.future) (uncancelled : input ≠ .cancel)
    (turns : Turns env id process call clock input turn) :
    turn.call.Owes id (scheduled ++ (turn.tasks clock.latencyMs).map fun task => (id, task)) := by
  -- a call whose chain has not ended with a response owes nothing
  have nothing : ∀ {next : ChatCall},
      (∀ provider response, next.chain ≠ some (.returned provider response)) →
        next.Owes id (scheduled ++ (turn.tasks clock.latencyMs).map fun task => (id, task)) :=
    fun none_ provider response chain => absurd chain (none_ provider response)
  have early : call.point.early = true → ∀ provider response,
      call.chain ≠ some (.returned provider response) := by
    intro early provider response
    rw [(ChatCall.future_early coherent early).1]
    simp
  cases turns with
  | hit point | unreadable point | pause point | waited point | granted point =>
      exact nothing (early (by rw [point]; rfl))
  | join missed | unknown missed | contend missed => exact nothing (early missed.early)
  | followed awaits | followedRaise awaits => exact nothing (early awaits.early)
  | poll waits => exact nothing (early waits.early)
  | lead gives => exact nothing (early (Leads.gives gives).early)
  | retry point =>
      simp only [ChatCall.Coherent, point] at coherent
      exact nothing (by simp [coherent])
  | returnedLocked =>
      rintro provider response chain
      cases chain
      exact .inl rfl
  | returnedFree =>
      rintro provider response chain
      cases chain
      exact .inr (.inl rfl)
  | returnedClash point ended free decided =>
      exact absurd (by rw [told]; simp [ChatCall.future, point]) decided
  | raisedLocked | raisedFree => exact nothing (by simp [ChatCall.finish])
  | released point =>
      simp only [ChatCall.Coherent, point] at coherent
      rintro provider response chain
      cases coherent.symm.trans chain
      exact .inr (.inl rfl)
  | releasedClash point decided =>
      exact absurd (by rw [told]; simp [ChatCall.future, point]) decided
  | releasedRaise point =>
      simp only [ChatCall.Coherent, point] at coherent
      obtain ⟨exception, chain⟩ := coherent
      exact nothing (by simp [ChatCall.finish, chain])
  | settled point settles =>
      simp only [ChatCall.Coherent, point] at coherent
      rintro provider response chain
      cases coherent.symm.trans chain
      refine .inr (.inr ⟨_, _, _, rfl, settles, fun task member => ?_⟩)
      simp [Turn.tasks, member]
  | cancelledFollow | cancelledLocked | cancelledFree | cancelledElsewhere =>
      exact absurd rfl uncancelled

/-- A call that returns a response schedules its record. -/
theorem turns_recorded {response : ChatResponse}
    (turns : Turns env id process call clock input turn)
    (returned : turn.call.point = .done (.returned response)) :
    ∃ record, UsageTask.persistUsage record ∈ turn.tasks clock.latencyMs := by
  have scheduled : ∀ {record : UsageRecord} {given : ChatResponse} {outcome : Outcome}
      {schedule : List UsageTask} {turn : Turn}, Settles record given outcome schedule →
        outcome = .returned response → turn.schedule = schedule →
          ∃ record, UsageTask.persistUsage record ∈ turn.tasks clock.latencyMs := by
    rintro record given outcome schedule turn settles rfl rfl
    generalize same : turn.schedule = schedule at settles
    cases settles
    exact ⟨record, by simp [Turn.tasks, same]⟩
  cases turns with
  | hit point read settles | waited point read settles | settled point settles
  | followed awaits result settles =>
      exact scheduled settles (by simpa [ChatCall.finish] using returned) rfl
  | raisedFree point ended fails => simp [ChatCall.finish] at returned
  | _ => simp [ChatCall.finish] at returned

/-- A call whose chain ended with a response ends after its cache write. -/
theorem turns_stores {provider : BaseProvider} {response : ChatResponse} {outcome : Outcome}
    (coherent : call.Coherent) (told : call.Resolving → process.futures id = some .pending)
    (uncancelled : input ≠ .cancel) (turns : Turns env id process call clock input turn)
    (ended : turn.call.point = .done outcome)
    (chain : turn.call.chain = some (.returned provider response)) :
    call.point = .cacheSet provider response := by
  have early : ∀ {P : Prop}, call.point.early = true →
      call.chain = some (.returned provider response) → P := by
    intro P early same
    rw [(ChatCall.future_early coherent early).1] at same
    cases same
  cases turns with
  | hit point | waited point => exact early (by rw [point]; rfl) chain
  | unknown missed => exact early missed.early chain
  | followed awaits | followedRaise awaits => exact early awaits.early chain
  | returnedClash point ended free decided =>
      exact absurd (told (ChatCall.resolving_iff.mpr (.inl (by rw [point]; rfl)))) decided
  | releasedClash point decided =>
      exact absurd (told (ChatCall.resolving_iff.mpr (.inr ⟨_, _, point⟩))) decided
  | releasedRaise point =>
      simp only [ChatCall.Coherent, point] at coherent
      obtain ⟨exception, raised⟩ := coherent
      rw [ChatCall.finish, raised] at chain
      cases chain
  | settled point =>
      simp only [ChatCall.Coherent, point] at coherent
      cases coherent.symm.trans chain
      exact point
  | raisedFree => cases chain
  | unreadable | join | contend | poll | pause | granted | lead | retry | returnedLocked
  | returnedFree | raisedLocked | released => cases ended
  | cancelledFollow | cancelledLocked | cancelledFree | cancelledElsewhere =>
      exact absurd rfl uncancelled

end Turn

/-! ## The invariant of a run whose cancellations meet the condition -/

/-- How one call stands. -/
structure World.Stands (actions : List Action) (w : World) (id : CallId) (call : ChatCall) :
    Prop where
  /-- The future is what the call says it is, unless the call is cancelled and has left it
  behind; then nobody awaits it. -/
  mirrored : w.futures id = call.future ∨
    call.Abandoned ∧ w.futures id = some .pending ∧ w.Unfollowed id
  fair : call.Fair (Cancelled actions id)
  follows : ¬ Cancelled actions id → call.Follows w.futures
  owes : ¬ Cancelled actions id → call.Owes id w.scheduled
  recorded : ∀ response, call.point = .done (.returned response) →
    ∃ record, (id, UsageTask.persistUsage record) ∈ w.scheduled

structure World.Isolating (env : Environment) (actions : List Action) (w : World) : Prop where
  linked : w.Linked env
  clean : ∀ id state, w.futures id = some state → state.Clean
  stands : ∀ id call, w.call id = some call → w.Stands actions id call

theorem isolating_init (env : Environment) (store : Store) :
    (World.init store).Isolating env [] where
  linked := linked_init env store
  clean id state future := by simp [World.init] at future
  stands id call running := by simp [World.init, World.call] at running

section Step

variable {w next : World} {action : Action} {actions : List Action} {id : CallId}
  {call : ChatCall}

theorem cancelled_snoc : Cancelled (actions ++ [action]) id ↔
    Cancelled actions id ∨ ∃ clock, action = .chat id .cancel clock := by
  simp only [Cancelled, List.mem_append, List.mem_singleton, exists_or, eq_comm]

/-- A call that will resolve its future can do so. -/
theorem World.Stands.resolvable (stands : w.Stands actions id call) (resolving : call.Resolving) :
    w.futures id = some .pending := by
  rcases stands.mirrored with told | ⟨-, pending, -⟩
  · exact told.trans resolving
  · exact pending

/-- The future of a call that is not cancelled is what the call says it is. -/
theorem World.Stands.told (stands : w.Stands actions id call)
    (uncancelled : ¬ Cancelled actions id) : w.futures id = call.future := by
  rcases stands.mirrored with told | ⟨release | done, -, -⟩
  · exact told
  · exact absurd ((stands.fair.release _ release).2 rfl) uncancelled
  · exact absurd ((stands.fair.done _ done).2 rfl) uncancelled

/-- A call stands as before when it is not its turn. -/
theorem World.Stands.mono {later : List Action} (stands : w.Stands actions id call)
    (future : next.futures id = w.futures id)
    (unfollowed : call.Abandoned → w.Unfollowed id → next.Unfollowed id)
    (cancelled : Cancelled actions id → Cancelled later id)
    (present : ∀ id, w.futures id ≠ none → next.futures id ≠ none)
    (kept : ∀ id state, w.futures id = some state → state ≠ .pending →
      next.futures id = some state)
    (scheduled : w.scheduled ⊆ next.scheduled) : next.Stands later id call where
  mirrored := by
    rw [future]
    exact stands.mirrored.imp_right fun ⟨abandoned, pending, alone⟩ =>
      ⟨abandoned, pending, unfollowed abandoned alone⟩
  fair := by
    have weaker : ∀ {exception : PyException}, LlmGateway.Fair (Cancelled actions id) exception →
        LlmGateway.Fair (Cancelled later id) exception :=
      fun fair => ⟨fair.1, fun same => cancelled (fair.2 same)⟩
    exact ⟨fun _ same => weaker (stands.fair.chain _ same),
      fun _ same => weaker (stands.fair.release _ same),
      fun _ same => weaker (stands.fair.done _ same)⟩
  follows uncancelled :=
    (stands.follows fun before => uncancelled (cancelled before)).mono present kept
  owes uncancelled provider response chain := by
    rcases stands.owes (fun before => uncancelled (cancelled before)) provider response chain with
      release | write | ⟨outcome, schedule, latencyMs, ended, settles, members⟩
    · exact .inl release
    · exact .inr (.inl write)
    · exact .inr (.inr ⟨outcome, schedule, latencyMs, ended, settles,
        fun task member => scheduled (members task member)⟩)
  recorded response returned := by
    obtain ⟨record, member⟩ := stands.recorded response returned
    exact ⟨record, scheduled member⟩

/-- Who is cancelled awaits no future that is not done. -/
theorem CancelsAlone.apart {input : Input} {clock : Clock}
    (alone : CancelsAlone w (.chat id input clock) next) (running : w.call id = some call)
    (cancelled : input = .cancel) (leader : CallId) (point : call.point = .follow leader) :
    w.futures leader ≠ some .pending :=
  (alone id clock call (by rw [cancelled]) running).1 leader point

/-- A future that holds something keeps it. -/
theorem World.Isolating.kept (isolating : w.Isolating env actions)
    (moved : w.step env action = some next) (alone : CancelsAlone w action next) {other : CallId}
    {state : FutureState} (future : w.futures other = some state) (decided : state ≠ .pending) :
    next.futures other = some state := by
  cases moves_of_step moved with
  | starts _ _ _ futures => rw [futures, future]
  | stays _ _ _ futures => rw [futures, future]
  | @turns id call input clock turn _ running turns calls inflight futures =>
      have coherent := isolating.linked.sound.coherent id call running
      rw [futures]
      rcases turns_futures coherent turns with same | ⟨leads, updated⟩ | ⟨pending, updated, -⟩ |
        ⟨cancelled, point, pending, -⟩
      · rw [same]
        exact future
      · -- a call that goes on to register its future has none
        have own : other ≠ id := by
          rintro rfl
          obtain ⟨found, there, led⟩ :=
            (isolating.linked.sound.owned other).mp (by rw [future]; simp)
          obtain rfl := Option.some.inj (running.symm.trans there)
          have early := leads.early
          simp only [ChatCall.led, leads.chain coherent, Option.isSome_none, Bool.or_false] at led
          cases point : call.point <;> rw [point] at early led <;> cases early <;> cases led
        rw [updated, Function.update_of_ne own]
        exact future
      · have own : other ≠ id := by
          rintro rfl
          exact decided (Option.some.inj (future.symm.trans pending))
        rw [updated, Function.update_of_ne own]
        exact future
      · exact absurd pending (alone.apart running cancelled _ point)

/-- A future that a call has left behind gets no new follower. -/
theorem World.Isolating.unfollowed (isolating : w.Isolating env actions)
    (moved : w.step env action = some next) (running : w.call id = some call)
    (abandoned : call.Abandoned) (unfollowed : w.Unfollowed id) : next.Unfollowed id := by
  intro other follower there point
  cases moves_of_step moved with
  | starts fresh calls inflight futures =>
      rw [calls, Function.update_apply] at there
      split_ifs at there with same
      · obtain rfl := Option.some.inj there
        cases point
      · exact unfollowed other follower there point
  | stays _ calls inflight futures => exact unfollowed other follower (calls ▸ there) point
  | @turns acting taker input clock turn _ before turns calls inflight futures =>
      rw [calls, Function.update_apply] at there
      split_ifs at there with same
      · obtain rfl := Option.some.inj there
        have entry := turns_follow turns point
        obtain ⟨creator, found, -, inside⟩ := isolating.linked.sound.tabled _ id entry
        obtain rfl := Option.some.inj (running.symm.trans found)
        rcases abandoned with at_ | at_ <;> rw [at_] at inside <;> cases inside
      · exact unfollowed other follower there point

/-- The call that takes the turn stands. -/
theorem stands_turn {input : Input} {clock : Clock} {turn : Turn}
    (isolating : w.Isolating env actions) (running : w.call id = some call)
    (alone : CancelsAlone w (.chat id input clock) next)
    (turns : Turns env id (w.process env call) call clock input turn)
    (moved : w.step env (.chat id input clock) = some next)
    (calls : next.call = Function.update w.call id (some turn.call))
    (futures : next.futures = turn.process.futures)
    (scheduled : next.scheduled =
      w.scheduled ++ (turn.tasks clock.latencyMs).map fun task => (id, task)) :
    next.Stands (actions ++ [.chat id input clock]) id turn.call := by
  have sound := isolating.linked.sound
  have coherent := sound.coherent id call running
  have stands := isolating.stands id call running
  have apart : input = .cancel → ∀ leader, call.point = .follow leader →
      (w.process env call).futures leader ≠ some .pending := alone.apart running
  have kept : ∀ id state, w.futures id = some state → state ≠ .pending →
      next.futures id = some state := fun id state => isolating.kept moved alone
  have present : ∀ id, w.futures id ≠ none → next.futures id ≠ none := fun id =>
    future_step sound.coherent moved
  have proceeds : ¬ Cancelled (actions ++ [.chat id input clock]) id →
      ¬ Cancelled actions id ∧ input ≠ .cancel := fun uncancelled =>
    ⟨fun before => uncancelled (cancelled_snoc.mpr (.inl before)),
      fun same => uncancelled (cancelled_snoc.mpr (.inr ⟨clock, by rw [same]⟩))⟩
  refine ⟨?_, ?_, fun uncancelled => ?_, fun uncancelled => ?_, fun response returned => ?_⟩
  · -- a call that leaves its future behind now was not awaited before
    have left : turn.call.Abandoned → w.Unfollowed id → next.Unfollowed id := by
      intro abandoned unfollowed other follower there point
      rw [calls, Function.update_apply] at there
      split_ifs at there with same
      · obtain rfl := Option.some.inj there
        rcases abandoned with at_ | at_ <;> rw [at_] at point <;> cases point
      · exact unfollowed other follower there point
    rw [futures]
    rcases stands.mirrored with told | ⟨abandoned, pending, unfollowed⟩
    · rcases turns_mirrored coherent apart told turns with same | ⟨abandoned, cancelled, pending,
        still⟩
      · exact .inl same
      · exact .inr ⟨abandoned, still,
          left abandoned ((alone id clock call (by rw [cancelled]) running).2 pending)⟩
    · obtain ⟨after, same⟩ := turns_abandoned abandoned turns
      exact .inr ⟨after, by rw [same]; exact pending, left after unfollowed⟩
  · have before : w.Stands (actions ++ [.chat id input clock]) id call :=
      stands.mono rfl (fun _ same => same) (fun before => cancelled_snoc.mpr (.inl before))
        (fun _ there => there) (fun _ _ future _ => future) (List.Subset.refl _)
    exact turns_fair stands.resolvable isolating.clean
      (fun same => cancelled_snoc.mpr (.inr ⟨clock, by rw [same]⟩)) before.fair turns
  · obtain ⟨before, noCancel⟩ := proceeds uncancelled
    have after : turn.call.Follows (w.process env call).futures := turns_follows noCancel
      (fun leader cancelled => isolating.clean leader _ cancelled)
      (fun leader entry => sound.entry_future entry) (stands.follows before) turns
    exact after.mono present kept
  · obtain ⟨before, noCancel⟩ := proceeds uncancelled
    rw [scheduled]
    exact turns_owes coherent (stands.told before) noCancel turns
  · obtain ⟨record, member⟩ := turns_recorded turns returned
    exact ⟨record, by simp [scheduled, member]⟩

/-- **One step** that cancels alone. -/
theorem isolating_step (isolating : w.Isolating env actions)
    (moved : w.step env action = some next) (alone : CancelsAlone w action next) :
    next.Isolating env (actions ++ [action]) := by
  have coherent := isolating.linked.sound.coherent
  -- a call whose turn it is not
  have others : ∀ {other : CallId} {found : ChatCall}, w.call other = some found →
      next.futures other = w.futures other → w.scheduled ⊆ next.scheduled →
        next.Stands (actions ++ [action]) other found := fun there future scheduled =>
    (isolating.stands _ _ there).mono future (isolating.unfollowed moved there)
      (fun before => cancelled_snoc.mpr (.inl before))
      (fun id => future_step coherent moved) (fun id state => isolating.kept moved alone) scheduled
  refine ⟨linked_step isolating.linked moved, ?_, ?_⟩
  · intro other state future
    cases moves_of_step moved with
    | starts _ _ _ futures => exact isolating.clean other state (futures ▸ future)
    | stays _ _ _ futures => exact isolating.clean other state (futures ▸ future)
    | turns running turns _ _ futures =>
        exact turns_clean (alone.apart running) isolating.clean turns other state (futures ▸ future)
  · intro other found there
    cases moves_of_step moved with
    | @starts id replica request registry virtualKeyId _ fresh calls inflight futures scheduled =>
        rw [calls, Function.update_apply] at there
        split_ifs at there with same
        · obtain rfl := Option.some.inj there
          have absent : w.futures other = none := by
            by_contra present
            obtain ⟨call, running, -⟩ := (isolating.linked.sound.owned other).mp present
            rw [same, fresh] at running
            cases running
          exact ⟨.inl (by rw [futures, absent]; rfl), ⟨by simp [ChatCall.start],
            by simp [ChatCall.start], by simp [ChatCall.start]⟩,
            fun _ => ⟨by simp [ChatCall.start], by simp [ChatCall.start]⟩,
            fun _ => by simp [ChatCall.Owes, ChatCall.start], by simp [ChatCall.start]⟩
        · exact others there (by rw [futures]) (by rw [scheduled]; exact List.Subset.refl _)
    | stays _ calls inflight futures scheduled =>
        exact others (calls ▸ there) (by rw [futures]) scheduled
    | @turns id call input clock turn _ running turns calls inflight futures scheduled =>
        rw [calls, Function.update_apply] at there
        split_ifs at there with same
        · obtain rfl := Option.some.inj there
          subst same
          exact stands_turn isolating running alone turns moved calls futures scheduled
        · refine others there ?_ (by rw [scheduled]; exact List.subset_append_left _ _)
          rw [futures]
          exact turns_futures_elsewhere (coherent id call running) (alone.apart running) turns same

end Step

/-! ## The condition is enough -/

theorem World.Isolating.isolated {w : World} {actions : List Action}
    (isolating : w.Isolating env actions) : w.Isolated actions where
  errors id call exception running point := (isolating.stands id call running).fair.done _ point
  awaited id call leader running point := by
    obtain ⟨creator, there, -⟩ := isolating.linked.joined id call leader running point
    refine ⟨fun cancelled => isolating.clean leader _ cancelled, creator, there, fun pending => ?_⟩
    rcases (isolating.stands leader creator there).mirrored with told | ⟨-, -, unfollowed⟩
    · exact told.symm.trans pending
    · exact absurd point (unfollowed id call running)
  followers id call leader outcome running taken ended uncancelled := by
    obtain ⟨present, here | ⟨other, done, ending⟩⟩ :=
      ((isolating.stands id call running).follows uncancelled).2 leader taken
    · rw [ended] at here
      cases here
    · obtain rfl := Point.done.inj (ended.symm.trans done)
      obtain ⟨state, future⟩ := Option.ne_none_iff_exists'.mp present
      rw [future] at ending
      have decided : state ≠ .pending ∧ state ≠ .cancelled := by cases ending <;> simp
      obtain ⟨creator, there, told⟩ :=
        isolating.linked.resolved leader state future decided.1 decided.2
      refine ⟨creator, ?_⟩
      generalize creator.chain = chain at told
      cases told with
      | result provider response => exact ⟨.returned provider response, there, rfl, ending⟩
      | exception exception => exact ⟨.raised exception, there, rfl, ending⟩
  leaders id call running := (isolating.stands id call running).owes
  recorded id call response running := (isolating.stands id call running).recorded response

/-- What is left of a cancelled call schedules nothing and leaves the process alone. -/
theorem turns_remains {id : CallId} {process : Process} {call : ChatCall} {clock : Clock}
    {input : Input} {turn : Turn} (point : call.point = .release (.raised .cancelledError))
    (turns : Turns env id process call clock input turn) :
    turn.process = process ∧ turn.tasks clock.latencyMs = [] := by
  have elsewhere : ∀ {P : Prop} {other : Point}, call.point = other →
      (∀ exception, other ≠ .release (.raised exception)) → P := fun there apart =>
    absurd (there.symm.trans point) (apart _)
  cases turns with
  | releasedRaise there =>
      cases there.symm.trans point
      exact ⟨rfl, rfl⟩
  | cancelledElsewhere => exact ⟨rfl, rfl⟩
  | hit there | unreadable there | pause there | waited there | granted there | retry there
  | returnedLocked there | returnedFree there | returnedClash there | raisedLocked there
  | raisedFree there | released there | releasedClash there | settled there
  | cancelledFollow there | cancelledLocked there | cancelledFree there =>
      exact elsewhere there (by simp)
  | join missed | unknown missed | contend missed =>
      exact (missed.absurd_of_point point (by simp)).elim
  | followed awaits | followedRaise awaits =>
      rcases awaits.point with there | there | there <;> exact elsewhere there (by simp)
  | poll waits => rcases waits with ⟨there, -⟩ | there <;> exact elsewhere there (by simp)
  | lead gives =>
      rcases gives with ⟨⟨there, -⟩ | there, -⟩ | there | there <;>
        exact elsewhere there (by simp)

theorem undisturbed_of_isolating {w next : World} {action : Action} {actions : List Action}
    (isolating : w.Isolating env actions) (moved : w.step env action = some next)
    (alone : CancelsAlone w action next) : Undisturbed env w action next where
  frame := by
    rintro id clock rfl
    cases steps_of_step moved with
    | @chat _ call wire _ _ turn task fits turns =>
        have running : w.call id = some call := World.call_eq_some.mpr ⟨_, task⟩
        have apart : ∀ leader, call.point = .follow leader →
            (w.process env call).futures leader ≠ some .pending := alone.apart running rfl
        obtain ⟨-, silent, effect⟩ := turns_cancelled apart turns
        refine ⟨rfl, by simp [World.applyTurn, silent], ?_,
          fun other apart => Function.update_of_ne apart _ _, fun slot changed => ?_⟩
        · rcases effect with ⟨-, left⟩ | ⟨-, same, -⟩
          · exact (congrArg Process.futures left).trans (Process.retire_futures _ id)
          · exact congrArg Process.futures same
        · -- the entry of the table is removed only when it is the call's own
          simp only [World.applyTurn, Function.update_apply] at changed
          split_ifs at changed with here
          · subst here
            rw [(turns_arguments turns).slot env] at changed ⊢
            rcases effect with ⟨-, left⟩ | ⟨-, same, -⟩
            · rw [left, Process.retire_entry] at changed
              split_ifs at changed with own
              · exact own
              · exact absurd rfl changed
            · rw [same] at changed
              exact absurd rfl changed
          · exact absurd rfl changed
  remains := by
    rintro id input clock call rfl running point
    cases steps_of_step moved with
    | @chat _ taker wire _ _ turn task fits turns =>
        obtain rfl := Option.some.inj (running.symm.trans (World.call_eq_some.mpr ⟨_, task⟩))
        obtain ⟨same, silent⟩ := turns_remains point turns
        refine ⟨rfl, by simp [World.applyTurn, silent], congrArg Process.futures same, ?_,
          fun other apart => Function.update_of_ne apart _ _⟩
        have entry : turn.process.entry = w.inflight (call.slot env) :=
          congrArg Process.entry same
        change Function.update w.inflight (turn.call.slot env) turn.process.entry = _
        rw [(turns_arguments turns).slot env, entry, Function.update_eq_self]
  stores := by
    rintro id input clock call later provider response outcome rfl uncancelled running there ended
      chain
    cases moves_of_step moved with
    | stays far => exact absurd rfl (far id input clock)
    | @turns _ taker _ _ turn _ before turns calls =>
        obtain rfl := Option.some.inj (running.symm.trans before)
        rw [calls, Function.update_self] at there
        obtain rfl := Option.some.inj there
        exact turns_stores (isolating.linked.sound.coherent id call running)
          (isolating.stands id call running).resolvable uncancelled turns ended chain

/-! ## The condition is needed -/

/-- A cancelled follower cancels the future that it awaits. -/
theorem turns_interrupted {id leader : CallId} {process : Process} {call : ChatCall}
    {clock : Clock} {turn : Turn} (point : call.point = .follow leader)
    (pending : process.futures leader = some .pending)
    (turns : Turns env id process call clock .cancel turn) :
    turn.process.futures leader = some .cancelled := by
  cases turns with
  | cancelledFollow there =>
      cases point.symm.trans there
      exact Function.update_self _ _ _
  | cancelledElsewhere outside running alone => exact absurd pending (alone leader point)
  | cancelledLocked there | cancelledFree there => rw [point] at there; cases there
  | join missed | unknown missed | contend missed => cases missed
  | followed awaits | followedRaise awaits => obtain ⟨⟨⟩, -⟩ := awaits
  | poll waits => cases waits
  | lead gives => obtain ⟨⟨⟩, -⟩ := gives

theorem ChatCall.Abandoned.not_resolving {call : ChatCall} (abandoned : call.Abandoned) :
    ¬ call.Resolving := by
  intro resolving
  rcases ChatCall.resolving_iff.mp resolving with inside | ⟨provider, response, release⟩
  · rcases abandoned with point | point <;> rw [point] at inside <;> cases inside
  · rcases abandoned with point | point <;> rw [point] at release <;> cases release

/-- A cancellation that is not alone changes a future, or leaves a follower at one that nobody
resolves. -/
theorem cancelsAlone_of_isolated {w next : World} {action : Action} {later : List Action}
    (isolated : next.Isolated later) (undisturbed : Undisturbed env w action next)
    (moved : w.step env action = some next) : CancelsAlone w action next := by
  rintro id clock call rfl running
  cases moves_of_step moved with
  | stays far => exact absurd rfl (far id .cancel clock)
  | @turns _ taker _ _ turn _ before turns calls inflight futures =>
      obtain rfl := Option.some.inj (running.symm.trans before)
      obtain ⟨-, -, unchanged, -⟩ := undisturbed.frame id clock rfl
      have apart : ∀ leader, call.point = .follow leader → w.futures leader ≠ some .pending := by
        intro leader point pending
        have struck : turn.process.futures leader = some .cancelled :=
          turns_interrupted point pending turns
        rw [← futures, unchanged, pending] at struck
        cases struck
      refine ⟨apart, fun pending other follower there point => ?_⟩
      have different : other ≠ id := by
        rintro rfl
        obtain rfl := Option.some.inj (running.symm.trans there)
        exact apart other point pending
      obtain ⟨-, creator, found, resolves⟩ := isolated.awaited other follower id
        (by rw [calls, Function.update_of_ne different, there]) point
      rw [calls, Function.update_self] at found
      obtain rfl := Option.some.inj found
      have away : ∀ leader, call.point = .follow leader →
          (w.process env call).futures leader ≠ some .pending := apart
      exact (turns_cancelled away turns).1.not_resolving (resolves (by rw [unchanged, pending]))

/-- **Isolation of cancellations, exactly.** In a run from an empty process, with any number of
cancellations, the other calls end as they would have without them and a cancellation
changes nothing else, if and only if no cancelled call awaits a future that is not done and no
cancelled call leaves such a future to a follower. -/
theorem cancellation_iff (env : Environment) (store : Store) (actions : List Action) :
    (AlwaysAfter (World.step env) World.Isolated (.init store) actions ∧
        Throughout (World.step env) (Undisturbed env) (.init store) actions) ↔
      Throughout (World.step env) CancelsAlone (.init store) actions := by
  have reachable : ∀ before state, Throughout (World.step env) CancelsAlone (.init store) before →
      run (World.step env) (.init store) before = some state → state.Isolating env before :=
    fun before state alone reached =>
      run_induction (isolating_init env store)
        (fun _ _ _ _ _ isolating moved met => isolating_step isolating moved met) alone reached
  constructor
  · rintro ⟨isolated, undisturbed⟩ before action after state next split reached moved
    exact cancelsAlone_of_isolated (isolated.after_step split reached moved)
      (undisturbed before action after state next split reached moved) moved
  · intro alone
    constructor
    · intro before after state split reached
      exact (reachable before state (alone.of_split split) reached).isolated
    · intro before action after state next split reached moved
      have earlier : Throughout (World.step env) CancelsAlone (.init store) before :=
        alone.of_split split
      exact undisturbed_of_isolating (reachable before state earlier reached) moved
        (alone before action after state next split reached moved)

/-! ## Two cancellations that reach another call -/

/-- The second is cancelled, and then the provider answers the first. -/
def followerCancelled : List Action :=
  awaiting ++ [.chat 1 .cancel early, .chat 0 (.attempt (.answered demoResponse)) early] ++
    exchange 0 (.integer 1) early

/-- The first is cancelled. -/
def leaderCancelled : List Action := awaiting ++ [.chat 0 .cancel early] ++ exchange 0 (.integer 1) early

/-- A call has failed with `InvalidStateError`. -/
def failedInvalid (id : CallId) (w : World) : Bool :=
  match w.call id with
  | some call => call.point == .done (.raised .invalidStateError)
  | none => false

/-- **A cancelled follower takes its leader with it**, with Redis up: the answer of the provider
does not fit the cancelled future, the leader raises `InvalidStateError`, and its response is
neither returned nor stored nor recorded. -/
theorem leader_fails :
    RedisUp followerCancelled ∧
      ¬ AlwaysAfter (World.step demoEnvironment) World.Isolated (.init Redis.Store.empty)
        followerCancelled := by
  refine ⟨by decide, fun always => ?_⟩
  have last : (run (World.step demoEnvironment) (.init Redis.Store.empty) followerCancelled).any
      (failedInvalid 0) = true := by decide +kernel
  obtain ⟨w, reached, failed⟩ := (Option.any_eq_true _ _).mp last
  unfold failedInvalid at failed
  split at failed
  · rename_i call running
    exact ((always.last reached).errors 0 call _ running (eq_of_beq failed)).1.2 rfl
  · cases failed

/-- A call awaits a future that is not done, and its creator has ended. -/
def orphaned (leader follower : CallId) (w : World) : Bool :=
  match w.call leader, w.call follower with
  | some creator, some call =>
      creator.point == .done (.raised .cancelledError) && call.point == .follow leader &&
        w.futures leader == some .pending
  | _, _ => false

/-- **A cancelled leader leaves its follower behind**, with Redis up: the follower awaits a
future that nobody will resolve. -/
theorem follower_orphaned :
    RedisUp leaderCancelled ∧
      ¬ AlwaysAfter (World.step demoEnvironment) World.Isolated (.init Redis.Store.empty)
        leaderCancelled := by
  refine ⟨by decide, fun always => ?_⟩
  have last : (run (World.step demoEnvironment) (.init Redis.Store.empty) leaderCancelled).any
      (orphaned 0 1) = true := by decide +kernel
  obtain ⟨w, reached, left⟩ := (Option.any_eq_true _ _).mp last
  unfold orphaned at left
  split at left
  · rename_i creator call there running
    simp only [Bool.and_eq_true, beq_iff_eq] at left
    obtain ⟨⟨ended, point⟩, pending⟩ := left
    obtain ⟨-, found, same, resolves⟩ := (always.last reached).awaited 1 call 0 running point
    obtain rfl := Option.some.inj (there.symm.trans same)
    exact ChatCall.Abandoned.not_resolving (.inr ended) (resolves pending)
  · cases left

end LlmGateway
