import LlmGateway.Cluster.Machine

/-!
# Calls, futures and the in-flight table

What a step does to the calls of `handle_chat_completion`, to the futures and to the
in-flight tables, whatever happens in Redis and at the providers, cancellations included.

* `Leads` is the situation in which a call goes on to register its future: Redis has granted
  the lock, or the call has stopped waiting.
* `TableEffect` and `FutureEffect` are what one turn does to the entry of its key and to
  the futures; `Moves` is what one step does to the calls.
* `Tabled` and `Owned` are the two invariants. An entry of a table belongs to a call inside
  `execute_with_fallback`, and a call has a future exactly from the moment it enters
  `execute_with_fallback`.
-/

set_option autoImplicit false

namespace LlmGateway

open LlmGateway.Library
open LlmGateway.Library.Redis (Command Reply Store)

/-! ## Where a call is -/

/-- The call is inside `execute_with_fallback`. -/
def Point.executing : Point → Bool
  | .execute _ => true
  | _ => false

/-- The call has not asked a provider yet, and it still runs. -/
def Point.early : Point → Bool
  | .cacheGet | .discard | .follow _ | .acquire _ _ | .poll _ _ | .sleep _ _ => true
  | .execute _ | .release _ | .cacheSet _ _ | .done _ => false

/-- The call has entered `execute_with_fallback`. -/
def ChatCall.led (call : ChatCall) : Bool := call.point.executing || call.chain.isSome

/-- The call of `handle_chat_completion` with this number. -/
def World.call (w : World) (id : CallId) : Option ChatCall :=
  match w.tasks id with
  | some ⟨.chat call, _⟩ => some call
  | _ => none

theorem World.call_eq_some {w : World} {id : CallId} {call : ChatCall} :
    w.call id = some call ↔ ∃ wire, w.tasks id = some ⟨.chat call, wire⟩ := by
  unfold World.call
  split
  · rename_i other wire task
    simp [task]
  · rename_i notChat
    simp only [reduceCtorEq, false_iff, not_exists]
    exact fun wire task => notChat call wire task

/-- The input with which a call goes on to register its future: Redis has granted the
lock, or the call stops waiting for another replica. -/
inductive Leads (env : Environment) (call : ChatCall) (clock : Clock) : Input → Prop
  | granted {first : BaseProvider} {rest : List BaseProvider}
      (point : call.point = .acquire first rest) : Leads env call clock (.reply .ok)
  | gives {input : Input} {first : BaseProvider} {rest : List BaseProvider}
      (gives : Gives env call clock first rest input) : Leads env call clock input

theorem Leads.early {env : Environment} {call : ChatCall} {clock : Clock} {input : Input}
    (leads : Leads env call clock input) : call.point.early = true := by
  rcases leads with point | (⟨(point | point), -⟩ | point | point) <;> simp [point, Point.early]

/-! ## What one turn does -/

section Turn

variable {env : Environment} {id : CallId} {process : Process} {call : ChatCall} {clock : Clock}
  {input : Input} {turn : Turn}

/-- The arguments of a call do not change. -/
structure SameArguments (call other : ChatCall) : Prop where
  replica : other.replica = call.replica
  request : other.request = call.request
  registry : other.registry = call.registry
  virtualKeyId : other.virtualKeyId = call.virtualKeyId

theorem SameArguments.cacheKey {call other : ChatCall} (same : SameArguments call other)
    (env : Environment) : other.cacheKey env = call.cacheKey env := by
  rw [ChatCall.cacheKey, ChatCall.cacheKey, same.request, same.virtualKeyId]

theorem SameArguments.slot {call other : ChatCall} (same : SameArguments call other)
    (env : Environment) : other.slot env = call.slot env := by
  rw [ChatCall.slot, ChatCall.slot, same.replica, same.cacheKey]

theorem turns_arguments (turns : Turns env id process call clock input turn) :
    SameArguments call turn.call := by
  cases turns <;> exact ⟨rfl, rfl, rfl, rfl⟩

/-- What a turn does to the entry of its key. -/
inductive TableEffect (env : Environment) (id : CallId) (process : Process) (call : ChatCall)
    (clock : Clock) (input : Input) (turn : Turn) : Prop
  | leads (leads : Leads env call clock input) (entry : turn.process.entry = some id)
      (inside : turn.call.point.executing = true)
  | stays (idle : ¬ Leads env call clock input) (entry : turn.process.entry = process.entry)
      (same : turn.call.point.executing = call.point.executing)
      (chain : turn.call.chain = call.chain)
  | ends (inside : call.point.executing = true) (outside : turn.call.point.executing = false)
      (entry : turn.process.entry = (process.retire id).entry)
      (chain : turn.call.chain.isSome = true)

theorem Process.retire_futures (process : Process) (id : CallId) :
    (process.retire id).futures = process.futures := by
  unfold Process.retire
  split <;> rfl

theorem Process.retire_entry (process : Process) (id : CallId) :
    (process.retire id).entry = if process.entry = some id then none else process.entry := by
  unfold Process.retire
  split <;> rfl

theorem Fails.entry {exception up : PyException} {after : Process}
    (fails : Fails process id exception after up) : after.entry = process.entry := by
  cases fails <;> rfl

theorem not_leads_of_point {point : Point} (at_ : call.point = point)
    (outside : ∀ first rest, point ≠ .acquire first rest ∧ point ≠ .poll first rest ∧
      point ≠ .sleep first rest) : ¬ Leads env call clock input := by
  rintro (here | (⟨(here | here), -⟩ | here | here))
  all_goals
    rw [at_] at here
    first
      | exact (outside _ _).1 here
      | exact (outside _ _).2.1 here
      | exact (outside _ _).2.2 here

theorem Misses.point {call : ChatCall} {input : Input} (missed : Misses call input) :
    call.point = .cacheGet ∨ call.point = .discard := by
  rcases missed with ⟨point, -⟩ | point
  · exact .inl point
  · exact .inr point

theorem Misses.not_leads (missed : Misses call input) : ¬ Leads env call clock input := by
  rcases missed.point with point | point <;> exact not_leads_of_point point (by simp)

theorem Misses.not_executing (missed : Misses call input) : call.point.executing = false := by
  rcases missed.point with point | point <;> simp [point, Point.executing]

theorem Awaits.not_leads {leader : CallId} (awaits : Awaits process call leader input) :
    ¬ Leads env call clock input := by
  rcases awaits with ⟨missed, -⟩ | point
  · exact missed.not_leads
  · exact not_leads_of_point point (by simp)

theorem Awaits.not_executing {leader : CallId} (awaits : Awaits process call leader input) :
    call.point.executing = false := by
  rcases awaits with ⟨missed, -⟩ | point
  · exact missed.not_executing
  · simp [point, Point.executing]

theorem Waits.not_executing {first : BaseProvider} {rest : List BaseProvider}
    (waits : Waits call first rest input) : call.point.executing = false := by
  rcases waits with ⟨point, -⟩ | point <;> simp [point, Point.executing]

theorem Waits.not_leads {first : BaseProvider} {rest : List BaseProvider}
    (waits : Waits call first rest input) (early : clock.late = false) :
    ¬ Leads env call clock input := by
  rcases waits with ⟨point, lost⟩ | point
  · rintro (granted | (⟨-, late⟩ | here | here))
    · exact lost rfl
    · rw [early] at late; cases late
    · rw [point] at here; cases here
    · rw [point] at here; cases here
  · rintro (granted | (⟨-, late⟩ | here | here))
    rw [early] at late
    cases late

/-- A turn outside `execute_with_fallback` that registers nothing. -/
theorem TableEffect.quiet {point : Point} (at_ : call.point = point)
    (outside : point.executing = false) (idle : ¬ Leads env call clock input)
    (entry : turn.process.entry = process.entry) (after : turn.call.point.executing = false)
    (chain : turn.call.chain = call.chain) :
    TableEffect env id process call clock input turn :=
  .stays idle entry (by rw [after, at_, outside]) chain

/-- **What a turn does to the in-flight table.** -/
theorem turns_table (turns : Turns env id process call clock input turn) :
    TableEffect env id process call clock input turn := by
  cases turns with
  | hit point read settles => exact .quiet point rfl (not_leads_of_point point (by simp)) rfl rfl rfl
  | unreadable point unread => exact .quiet point rfl (not_leads_of_point point (by simp)) rfl rfl rfl
  | join missed entry waiting => exact .stays missed.not_leads rfl missed.not_executing.symm rfl
  | followed awaits result settles => exact .stays awaits.not_leads rfl awaits.not_executing.symm rfl
  | followedRaise awaits raises => exact .stays awaits.not_leads rfl awaits.not_executing.symm rfl
  | unknown missed entry candidates => exact .stays missed.not_leads rfl missed.not_executing.symm rfl
  | contend missed entry candidates => exact .stays missed.not_leads rfl missed.not_executing.symm rfl
  | poll waits early => exact .stays (waits.not_leads early) rfl waits.not_executing.symm rfl
  | pause point noError absent =>
      refine .quiet point rfl ?_ rfl rfl rfl
      rintro (here | (⟨here, -⟩ | here | here))
      · rw [point] at here; cases here
      · rcases here with ⟨here, -⟩ | here
        rw [point] at here; cases here
      · exact noError rfl
      · exact absent _ rfl
  | waited point read settles =>
      refine .quiet point rfl ?_ rfl rfl rfl
      rintro (here | (⟨here, -⟩ | here | ⟨here, unread⟩))
      · rcases here with ⟨here, -⟩ | here
        rw [point] at here; cases here
      · rw [read] at unread; cases unread
  | granted point => exact .leads (.granted point) rfl rfl
  | lead gives => exact .leads (.gives gives) rfl rfl
  | retry point moved =>
      exact .stays (not_leads_of_point point (by simp)) rfl (by rw [point]; rfl) rfl
  | returnedLocked point ended locked => exact .ends (by rw [point]; rfl) rfl rfl rfl
  | returnedFree point ended free pending => exact .ends (by rw [point]; rfl) rfl rfl rfl
  | returnedClash point ended free decided => exact .ends (by rw [point]; rfl) rfl rfl rfl
  | raisedLocked point ended fails locked =>
      refine .ends (by rw [point]; rfl) rfl ?_ rfl
      rw [Process.retire_entry, Process.retire_entry, fails.entry]
  | raisedFree point ended fails free =>
      refine .ends (by rw [point]; rfl) rfl ?_ rfl
      rw [Process.retire_entry, Process.retire_entry, fails.entry]
  | released point pending => exact .quiet point rfl (not_leads_of_point point (by simp)) rfl rfl rfl
  | releasedClash point decided =>
      exact .quiet point rfl (not_leads_of_point point (by simp)) rfl rfl rfl
  | releasedRaise point => exact .quiet point rfl (not_leads_of_point point (by simp)) rfl rfl rfl
  | settled point settles => exact .quiet point rfl (not_leads_of_point point (by simp)) rfl rfl rfl
  | cancelledFollow point pending =>
      exact .quiet point rfl (not_leads_of_point point (by simp)) rfl rfl rfl
  | cancelledLocked point locked => exact .ends (by rw [point]; rfl) rfl rfl rfl
  | cancelledFree point free => exact .ends (by rw [point]; rfl) rfl rfl rfl
  | cancelledElsewhere outside running alone =>
      have idle : ¬ Leads env call clock .cancel := by
        rintro (_ | (⟨(_ | _), -⟩ | _ | _))
      refine .stays idle rfl ?_ rfl
      cases point : call.point with
      | execute attempt => exact absurd point (outside attempt)
      | _ => rfl

/-! ### The call itself -/

/-- What the local variables of a call say about each other. -/
def ChatCall.Coherent (call : ChatCall) : Prop :=
  match call.point with
  | .cacheGet | .discard | .follow _ | .acquire _ _ | .poll _ _ | .sleep _ _ =>
      call.chain = none ∧ call.lockToken = none
  | .execute _ => call.chain = none
  | .release (.returned provider response) | .cacheSet provider response =>
      call.chain = some (.returned provider response)
  | .release (.raised _) => ∃ exception, call.chain = some (.raised exception)
  | .done _ => True

theorem Misses.chain (coherent : call.Coherent) (missed : Misses call input) :
    call.chain = none ∧ call.lockToken = none := by
  rcases missed.point with point | point <;> simpa only [ChatCall.Coherent, point] using coherent

theorem Waits.chain {first : BaseProvider} {rest : List BaseProvider} (coherent : call.Coherent)
    (waits : Waits call first rest input) : call.chain = none ∧ call.lockToken = none := by
  rcases waits with ⟨point, -⟩ | point <;> simpa only [ChatCall.Coherent, point] using coherent

theorem Gives.chain {first : BaseProvider} {rest : List BaseProvider} (coherent : call.Coherent)
    (gives : Gives env call clock first rest input) : call.chain = none ∧ call.lockToken = none := by
  rcases gives with ⟨waits, -⟩ | point | point
  · exact waits.chain coherent
  all_goals simpa only [ChatCall.Coherent, point] using coherent

theorem Leads.chain (coherent : call.Coherent) (leads : Leads env call clock input) :
    call.chain = none := by
  rcases leads with point | gives
  · simp only [ChatCall.Coherent, point] at coherent
    exact coherent.1
  · exact (gives.chain coherent).1

/-- A turn keeps the local variables coherent. -/
theorem turns_coherent (coherent : call.Coherent)
    (turns : Turns env id process call clock input turn) : turn.call.Coherent := by
  cases turns with
  | hit | followed | followedRaise | unknown | waited | returnedClash | raisedFree |
    releasedClash | releasedRaise | settled | cancelledFollow | cancelledFree |
    cancelledElsewhere => trivial
  | unreadable point unread => simpa only [ChatCall.Coherent, point] using coherent
  | join missed entry waiting =>
      have unset := missed.chain coherent
      exact unset
  | contend missed entry candidates =>
      have unset := missed.chain coherent
      exact unset
  | poll waits early =>
      have unset := waits.chain coherent
      exact unset
  | pause point noError absent => simpa only [ChatCall.Coherent, point] using coherent
  | granted point =>
      simp only [ChatCall.Coherent, point] at coherent
      exact coherent.1
  | lead gives => exact (gives.chain coherent).1
  | retry point moved => simpa only [ChatCall.Coherent, point] using coherent
  | returnedLocked point ended locked => exact rfl
  | returnedFree point ended free pending => exact rfl
  | raisedLocked point ended fails locked => exact ⟨_, rfl⟩
  | released point pending => simpa only [ChatCall.Coherent, point] using coherent
  | cancelledLocked point locked => exact ⟨_, rfl⟩

/-- The chain of a call that has a future: how it ended decides the future. -/
inductive Told : Option ChainEnding → FutureState → Prop
  | result (provider : BaseProvider) (response : ChatResponse) :
      Told (some (.returned provider response)) (.result response)
  | exception (exception : PyException) : Told (some (.raised exception)) (.exception exception)

/-- What a turn does to the futures. -/
inductive FutureEffect (env : Environment) (id : CallId) (process : Process) (call : ChatCall)
    (clock : Clock) (input : Input) (turn : Turn) : Prop
  | stays (futures : turn.process.futures = process.futures)
  | creates (leads : Leads env call clock input)
      (futures : turn.process.futures = Function.update process.futures id (some .pending))
  | resolves {state : FutureState} (pending : process.futures id = some .pending)
      (futures : turn.process.futures = Function.update process.futures id (some state))
      (told : Told turn.call.chain state)
  | cancels {leader : CallId} (cancelled : input = .cancel) (point : call.point = .follow leader)
      (pending : process.futures leader = some .pending)
      (futures : turn.process.futures =
        Function.update process.futures leader (some .cancelled))

/-- A future that could not take the exception has not changed. -/
theorem FutureEffect.of_fails {exception up : PyException} {after : Process}
    (fails : Fails process id exception after up)
    (futures : turn.process.futures = after.futures)
    (chain : turn.call.chain = some (.raised exception)) :
    FutureEffect env id process call clock input turn := by
  cases fails with
  | told pending => exact .resolves pending futures (chain ▸ .exception exception)
  | clash decided => exact .stays futures

/-- **What a turn does to the futures.** -/
theorem turns_futures (coherent : call.Coherent)
    (turns : Turns env id process call clock input turn) :
    FutureEffect env id process call clock input turn := by
  cases turns with
  | granted point => exact .creates (.granted point) rfl
  | lead gives => exact .creates (.gives gives) rfl
  | returnedLocked => exact .stays (process.retire_futures id)
  | returnedFree point ended free pending =>
      refine .resolves pending ?_ (.result _ _)
      change Function.update (process.retire id).futures id _ = _
      rw [process.retire_futures]
  | returnedClash => exact .stays (process.retire_futures id)
  | raisedLocked point ended fails locked =>
      exact .of_fails fails (Process.retire_futures _ id) rfl
  | raisedFree point ended fails free =>
      exact .of_fails fails (Process.retire_futures _ id) rfl
  | released point pending =>
      simp only [ChatCall.Coherent, point] at coherent
      exact .resolves pending rfl (coherent ▸ .result _ _)
  | cancelledFollow point pending => exact .cancels rfl point pending rfl
  | cancelledLocked => exact .stays (process.retire_futures id)
  | cancelledFree => exact .stays (process.retire_futures id)
  | _ => exact .stays rfl

/-- A call that leads registers its future. -/
theorem turns_register (leads : Leads env call clock input)
    (turns : Turns env id process call clock input turn) :
    turn.process = process.register id ∧ turn.call.point.executing = true := by
  have early := leads.early
  rcases turns_table turns with ⟨-, -, inside⟩ | ⟨idle, -, -, -⟩ | ⟨inside, -, -, -⟩
  · refine ⟨?_, inside⟩
    cases turns with
    | granted => rfl
    | lead => rfl
    | retry point => rw [point] at early; cases early
    | _ => cases inside
  · exact absurd leads idle
  · cases point : call.point <;> rw [point] at early inside <;> cases early <;> cases inside

/-- A call has led once it leads, and ever after. -/
theorem turns_led (turns : Turns env id process call clock input turn) :
    turn.call.led = true ↔ call.led = true ∨ Leads env call clock input := by
  rcases turns_table turns with ⟨leads, -, inside⟩ | ⟨idle, -, same, chain⟩ |
    ⟨inside, -, -, chain⟩
  · simp [ChatCall.led, inside, leads]
  · simp [ChatCall.led, same, chain, idle]
  · simp [ChatCall.led, inside, chain]

/-- A turn creates the future of a call that leads, and no other. -/
theorem turns_created (coherent : call.Coherent)
    (turns : Turns env id process call clock input turn) (other : CallId) :
    turn.process.futures other ≠ none ↔
      process.futures other ≠ none ∨ other = id ∧ Leads env call clock input := by
  by_cases leads : Leads env call clock input
  · rw [(turns_register leads turns).1]
    by_cases same : other = id <;> simp [Process.register, same, leads]
  · rcases turns_futures coherent turns with futures | ⟨leading, -⟩ | ⟨pending, futures, -⟩ |
      ⟨-, -, pending, futures⟩
    · simp [futures, leads]
    · exact absurd leading leads
    · by_cases same : other = id <;> simp [futures, same, pending, leads]
    · rename_i leader
      by_cases same : other = leader <;>
        simp [futures, same, pending, leads]

/-- A call at another point has not missed the cache. -/
theorem Misses.absurd_of_point (missed : Misses call input) {point : Point}
    (at_ : call.point = point) (far : point ≠ .cacheGet ∧ point ≠ .discard) : False := by
  rcases missed.point with here | here
  · exact far.1 (at_.symm.trans here)
  · exact far.2 (at_.symm.trans here)

/-- A call that misses the cache takes the future in flight, if there is one. -/
theorem turns_joins {leader : CallId} (missed : Misses call input)
    (found : process.entry = some leader)
    (turns : Turns env id process call clock input turn) :
    turn.call.inflight = some leader := by
  cases turns with
  | hit point | unreadable point =>
      rcases missed with ⟨-, absent⟩ | here
      · exact absurd rfl (absent _)
      · rw [point] at here; cases here
  | join _ entry => exact entry.symm.trans found
  | followed awaits | followedRaise awaits =>
      rcases awaits with ⟨-, entry⟩ | point
      · exact entry.symm.trans found
      · exact (missed.absurd_of_point point (by simp)).elim
  | unknown _ entry | contend _ entry => rw [found] at entry; cases entry
  | poll waits =>
      rcases waits with ⟨point, -⟩ | point <;>
        exact (missed.absurd_of_point point (by simp)).elim
  | lead gives =>
      rcases gives with ⟨⟨point, -⟩ | point, -⟩ | point | point <;>
        exact (missed.absurd_of_point point (by simp)).elim
  | pause point | waited point | granted point | retry point | returnedLocked point
  | returnedFree point | returnedClash point | raisedLocked point | raisedFree point
  | released point | releasedClash point | releasedRaise point | settled point
  | cancelledFollow point | cancelledLocked point | cancelledFree point =>
      exact (missed.absurd_of_point point (by simp)).elim
  | cancelledElsewhere => cases missed

end Turn

/-! ## What one step does to the calls -/

theorem call_update (w : World) (id : CallId) (task : Task) (tasks : CallId → Option Task)
    (updated : tasks = Function.update w.tasks id (some task)) :
    ({ w with tasks := tasks } : World).call = Function.update w.call id
      (match task.frame with
      | .chat call => some call
      | .stream _ => none) := by
  subst updated
  funext other
  by_cases same : other = id
  · subst same
    obtain ⟨frame, wire⟩ := task
    cases frame <;> simp [World.call]
  · simp [World.call, same]

theorem call_of_tasks {w v : World} (same : v.tasks = w.tasks) : v.call = w.call := by
  funext id
  simp [World.call, same]

theorem call_applyTurn (env : Environment) (w : World) (id : CallId) (wire : Wire) (latencyMs : ℕ)
    (turn : Turn) :
    (w.applyTurn env id wire latencyMs turn).call = Function.update w.call id (some turn.call) :=
  (call_of_tasks rfl).trans
    (call_update w id ⟨.chat turn.call, wire.after turn.send⟩ _ rfl)

theorem call_spawn_chat (w : World) (id : CallId) (call : ChatCall) (cacheKey : String) :
    (w.spawn id (.chat call) cacheKey).call = Function.update w.call id (some call) :=
  call_update w id _ _ rfl

/-- A task that is no call of `handle_chat_completion` before and after. -/
theorem call_update_stream {w : World} {id : CallId} (task : Task) (absent : w.call id = none)
    (stream : ∀ call, task.frame ≠ .chat call) :
    ({ w with tasks := Function.update w.tasks id (some task) } : World).call = w.call := by
  rw [call_update w id task _ rfl]
  obtain ⟨frame, wire⟩ := task
  cases frame with
  | chat call => exact absurd rfl (stream call)
  | stream call => rw [← absent, Function.update_eq_self]

theorem call_deliver {w : World} {id : CallId} {frame : Frame} {command : Command}
    (task : w.tasks id = some ⟨frame, .sent command⟩) (delivery : Delivery) :
    (w.deliver id frame command delivery).call = w.call := by
  have unchanged : ∀ wire, ({ w with tasks := Function.update w.tasks id (some ⟨frame, wire⟩) } :
      World).call = w.call := by
    intro wire
    rw [call_update w id ⟨frame, wire⟩ _ rfl]
    funext other
    by_cases same : other = id
    · subst same
      cases frame <;> simp [World.call, task]
    · simp [same]
  cases delivery <;> exact (call_of_tasks rfl).trans (unchanged _)

/-- **What a step does to the calls, the tables and the futures.** -/
inductive Moves (env : Environment) (w : World) : Action → World → Prop
  | starts {id : CallId} {replica : ReplicaId} {request : ChatRequest}
      {registry : ProviderRegistry} {virtualKeyId : ℤ} {next : World}
      (fresh : w.call id = none)
      (calls : next.call =
        Function.update w.call id (some (.start replica request registry virtualKeyId)))
      (inflight : next.inflight = w.inflight) (futures : next.futures = w.futures)
      (scheduled : next.scheduled = w.scheduled) :
      Moves env w (.start id replica request registry virtualKeyId) next
  | turns {id : CallId} {call : ChatCall} {input : Input} {clock : Clock} {turn : Turn}
      {next : World} (running : w.call id = some call)
      (turns : Turns env id (w.process env call) call clock input turn)
      (calls : next.call = Function.update w.call id (some turn.call))
      (inflight : next.inflight = Function.update w.inflight (call.slot env) turn.process.entry)
      (futures : next.futures = turn.process.futures)
      (scheduled : next.scheduled =
        w.scheduled ++ (turn.tasks clock.latencyMs).map fun task => (id, task)) :
      Moves env w (.chat id input clock) next
  | stays {action : Action} {next : World}
      (other : ∀ id input clock, action ≠ .chat id input clock)
      (calls : next.call = w.call) (inflight : next.inflight = w.inflight)
      (futures : next.futures = w.futures) (scheduled : w.scheduled ⊆ next.scheduled) :
      Moves env w action next

theorem call_eq_none_of_tasks {w : World} {id : CallId} (fresh : w.tasks id = none) :
    w.call id = none := by
  simp [World.call, fresh]

theorem moves_of_step {env : Environment} {w next : World} {action : Action}
    (moved : w.step env action = some next) : Moves env w action next := by
  cases steps_of_step moved with
  | start fresh =>
      exact .starts (call_eq_none_of_tasks fresh) (call_spawn_chat _ _ _ _) rfl rfl rfl
  | startStream fresh =>
      exact .stays (by simp) (call_update_stream _ (call_eq_none_of_tasks fresh) (by simp)) rfl rfl
        (List.Subset.refl _)
  | serve task =>
      rename_i delivery
      refine .stays (by simp) (call_deliver task delivery) ?_ ?_ ?_ <;> cases delivery <;>
        first | rfl | exact List.Subset.refl _
  | chat task fits turns =>
      refine .turns (World.call_eq_some.mpr ⟨_, task⟩) turns (call_applyTurn _ _ _ _ _ _) ?_ rfl rfl
      rw [← (turns_arguments turns).slot env]
      rfl
  | stream task fits turns =>
      refine .stays (by simp) ?_ rfl rfl (List.subset_append_left _ _)
      exact (call_of_tasks rfl).trans (call_update_stream _ (by simp [World.call, task]) (by simp))
  | expire => exact .stays (by simp) (call_of_tasks rfl) rfl rfl (List.Subset.refl _)
  | limit => exact .stays (by simp) (call_of_tasks rfl) rfl rfl (List.Subset.refl _)
  | rollback => exact .stays (by simp) (call_of_tasks rfl) rfl rfl (List.Subset.refl _)

/-! ## Two invariants of every run -/

/-- The local variables of every call are coherent. -/
def World.Coherent (w : World) : Prop := ∀ id call, w.call id = some call → call.Coherent

theorem coherent_init (store : Store) : (World.init store).Coherent := by
  intro id call running
  simp [World.call, World.init] at running

theorem coherent_step {env : Environment} {w next : World} {action : Action}
    (coherent : w.Coherent) (moved : w.step env action = some next) : next.Coherent := by
  intro other call running
  cases moves_of_step moved with
  | starts fresh calls inflight futures =>
      rw [calls, Function.update_apply] at running
      split_ifs at running with same
      · obtain rfl := Option.some.inj running
        exact ⟨rfl, rfl⟩
      · exact coherent other call running
  | turns before turns calls inflight futures =>
      rw [calls, Function.update_apply] at running
      split_ifs at running with same
      · obtain rfl := Option.some.inj running
        exact turns_coherent (coherent _ _ before) turns
      · exact coherent other call running
  | stays _ calls inflight futures => exact coherent other call (calls ▸ running)

/-- An entry of an in-flight table belongs to a call of its process and key that is inside
`execute_with_fallback`. -/
def World.Tabled (env : Environment) (w : World) : Prop :=
  ∀ slot id, w.inflight slot = some id →
    ∃ call, w.call id = some call ∧ call.slot env = slot ∧ call.point.executing = true

theorem tabled_init (env : Environment) (store : Store) : (World.init store).Tabled env := by
  intro slot id entry
  cases entry

theorem tabled_step {env : Environment} {w next : World} {action : Action}
    (tabled : w.Tabled env) (moved : w.step env action = some next) : next.Tabled env := by
  intro slot owner entry
  cases moves_of_step moved with
  | starts fresh calls inflight futures =>
      rw [inflight] at entry
      obtain ⟨call, running, place, inside⟩ := tabled slot owner entry
      refine ⟨call, ?_, place, inside⟩
      rw [calls, Function.update_of_ne, running]
      rintro rfl
      rw [fresh] at running
      cases running
  | stays _ calls inflight futures =>
      rw [inflight] at entry
      rw [calls]
      exact tabled slot owner entry
  | @turns id call input clock turn _ running turns calls inflight futures =>
      have place := (turns_arguments turns).slot env
      -- an entry other than the one of the turn belongs to a call that has not moved
      have others : owner ≠ id → w.inflight slot = some owner →
          ∃ call, next.call owner = some call ∧ call.slot env = slot ∧
            call.point.executing = true := by
        intro differs old
        obtain ⟨found, there, at_, inside⟩ := tabled slot owner old
        exact ⟨found, by rw [calls, Function.update_of_ne differs, there], at_, inside⟩
      have self : next.call id = some turn.call := by rw [calls, Function.update_self]
      rw [inflight, Function.update_apply] at entry
      split_ifs at entry with same
      · subst same
        rcases turns_table turns with ⟨-, registered, inside⟩ | ⟨-, kept, executing, -⟩ |
          ⟨inside, outside, retired, -⟩
        · obtain rfl := Option.some.inj (registered.symm.trans entry)
          exact ⟨turn.call, self, place, inside⟩
        · have old := kept.symm.trans entry
          by_cases differs : owner = id
          · subst differs
            obtain ⟨found, there, at_, inside⟩ := tabled _ _ old
            obtain rfl := Option.some.inj (running.symm.trans there)
            exact ⟨turn.call, self, place, executing.trans inside⟩
          · exact others differs old
        · rw [retired, Process.retire_entry] at entry
          split_ifs at entry with own
          exact others (fun differs => own (differs ▸ entry)) entry
      · by_cases differs : owner = id
        · subst differs
          obtain ⟨found, there, at_, inside⟩ := tabled slot owner entry
          obtain rfl := Option.some.inj (running.symm.trans there)
          exact absurd at_.symm same
        · exact others differs entry

/-- A call has a future exactly when it has led. -/
def World.Owned (w : World) : Prop :=
  ∀ id, w.futures id ≠ none ↔ ∃ call, w.call id = some call ∧ call.led = true

theorem owned_init (store : Store) : (World.init store).Owned := by
  intro id
  simp [World.init, World.call]

theorem owned_step {env : Environment} {w next : World} {action : Action}
    (coherent : w.Coherent) (owned : w.Owned) (moved : w.step env action = some next) :
    next.Owned := by
  intro other
  cases moves_of_step moved with
  | @starts id replica request registry virtualKeyId _ fresh calls inflight futures =>
      rw [futures, calls, owned other, Function.update_apply]
      split_ifs with same
      · subst same
        simp [fresh, ChatCall.led, ChatCall.start, Point.executing]
      · rfl
  | stays _ calls inflight futures => rw [futures, calls, owned other]
  | @turns id call input clock turn _ running turns calls inflight futures =>
      rw [futures, turns_created (coherent id call running) turns other, calls,
        Function.update_apply]
      have before : w.futures other ≠ none ↔ _ := owned other
      change w.futures other ≠ none ∨ _ ↔ _
      split_ifs with same
      · subst same
        simp only [before, running, Option.some.injEq, exists_eq_left', turns_led turns, true_and]
      · simp only [before, same, false_and, or_false]

/-- A future does not go away. -/
theorem future_step {env : Environment} {w next : World} {action : Action} (coherent : w.Coherent)
    (moved : w.step env action = some next) {id : CallId} (present : w.futures id ≠ none) :
    next.futures id ≠ none := by
  cases moves_of_step moved with
  | starts _ _ _ futures => rwa [futures]
  | stays _ _ _ futures => rwa [futures]
  | turns running turns _ _ futures =>
      rw [futures]
      exact (turns_created (coherent _ _ running) turns id).mpr (.inl present)

/-- All three invariants together. -/
structure World.Sound (env : Environment) (w : World) : Prop where
  coherent : w.Coherent
  tabled : w.Tabled env
  owned : w.Owned

theorem sound_init (env : Environment) (store : Store) : (World.init store).Sound env :=
  ⟨coherent_init store, tabled_init env store, owned_init store⟩

theorem sound_step {env : Environment} {w next : World} {action : Action} (sound : w.Sound env)
    (moved : w.step env action = some next) : next.Sound env :=
  ⟨coherent_step sound.coherent moved, tabled_step sound.tabled moved,
    owned_step sound.coherent sound.owned moved⟩

/-- **Every reachable state is sound**, whatever happens. -/
theorem sound_run {env : Environment} {store : Store} {actions : List Action} {w : World}
    (reached : run (World.step env) (.init store) actions = some w) : w.Sound env :=
  invariant_of_step (sound_init env store) (fun _ _ _ sound moved => sound_step sound moved) reached

/-! ## A deployment for concrete runs -/

/-- A registry with the OpenAI provider alone. -/
def demoRegistry : ProviderRegistry := buildRegistry { openaiApiKey := some "sk-demo" }

/-- An answer to `demoRequest`. -/
def demoResponse : ChatResponse :=
  { id := "chatcmpl-1"
    created := 1760000000
    model := "gpt-4o"
    choices := [{ message := ⟨.assistant, "hello", by decide⟩ }]
    usage := ⟨8, 1, 9⟩ }

/-- A clock on which no deadline has passed, and one on which it has. -/
def early : Clock := ⟨false, 20⟩

def overdue : Clock := ⟨true, 2100⟩

/-- A call starts for the virtual key 1. -/
def arrive (id : CallId) (replica : ReplicaId) : Action :=
  .start id replica (demoRequest false) demoRegistry 1

/-- Redis answers the command of a call, and the call takes the reply. -/
def exchange (id : CallId) (reply : Reply) (clock : Clock) : List Action :=
  [.serve id .answered, .chat id (.reply reply) clock]

/-- A request that misses asks the provider, which gives this answer, and stores it. -/
def answering (response : ChatResponse) : List Action :=
  [arrive 0 0] ++ exchange 0 .nil early ++ exchange 0 .ok early ++
    [.chat 0 (.attempt (.answered response)) early] ++ exchange 0 (.integer 1) early ++
    exchange 0 .ok early

/-- Two identical requests in one process: the first asks the provider and the second awaits
its future. -/
def awaiting : List Action :=
  [arrive 0 0] ++ exchange 0 .nil early ++ exchange 0 .ok early ++ [arrive 1 0] ++
    exchange 1 .nil early

end LlmGateway
