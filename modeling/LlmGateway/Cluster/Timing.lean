import LlmGateway.Cluster.HandOver

/-!
# Locks and time

The replicas of `World` with a clock. A lock expires once its time to live has passed since
Redis set it. The client of a provider bounds every phase of a request by the timeout of that
provider: obtaining a connection, connecting, each write and each read. It does not bound the
request.

`handle_chat_completion` asks for a lock that lives as long as the timeouts of all candidates
and five seconds. A request of several phases can take longer. A lock outlives the chain that it
guards exactly as long as the reply of Redis and all phases so far fit into its time to live
(`lock_outlives_iff`), and in the run `slowPhases` they do not.
-/

set_option autoImplicit false

namespace LlmGateway

open LlmGateway.Library
open LlmGateway.Library.Redis (Command Reply Store)

/-! ## State -/

/-- A phase of a request to a provider. Each one has the same bound. -/
inductive HttpPhase where
  | pool
  | connect
  | write
  | read
deriving DecidableEq

/-- When Redis gave a lock to a call, and the candidates that the call is going to try. -/
structure Grant where
  time : ℚ
  candidates : List BaseProvider

/-- The time to live that Redis keeps for the lock. -/
def Grant.ttl (grant : Grant) : ℚ := ⌈lockTtlSeconds grant.candidates⌉

/-- The times of a call: its lock, the beginning of what it is waiting for, and how long the
reply of Redis and the phases took that have ended since it was given the lock. -/
structure Timing where
  grant : Option Grant := none
  since : ℚ := 0
  spent : ℚ := 0

/-- The replicas with a clock. A deadline belongs to the lock that was last set. -/
structure TimedWorld where
  world : World
  clock : ℚ := 0
  started : List CallId := []
  deadlines : String → Option ℚ := fun _ => none
  timings : CallId → Timing := fun _ => {}

/-- Before the first request. -/
def TimedWorld.init (store : Store) : TimedWorld := { world := .init store }

inductive TimedAction where
  | act (action : Action)
  | phase (id : CallId) (ended : HttpPhase)
  | wait (duration : ℚ)

/-! ## Steps -/

namespace TimedWorld

variable (env : Environment) (t : TimedWorld)

/-- A key that Redis still answers for. -/
def live (key : String) : Bool :=
  match t.deadlines key with
  | none => true
  | some deadline => decide (t.clock < deadline) || (t.world.store key).isNone

/-- A key that Redis may remove. -/
def overdue (key : String) : Bool :=
  match t.deadlines key with
  | none => true
  | some deadline => decide (deadline ≤ t.clock)

/-- The deadlines after a command: a lock that is set has its time to live. -/
def deadlinesAfter (command : Command) (delivery : Delivery) : String → Option ℚ :=
  match command with
  | .set key _ true expireSeconds =>
      if delivery ≠ .refused ∧ (Redis.execute t.world.store command).2 = .ok then
        Function.update t.deadlines key (some (t.clock + expireSeconds))
      else t.deadlines
  | _ => t.deadlines

/-- The times of a call whose command is answered: it may have been given the lock. -/
def timingAfter (frame : Frame) (command : Command) (delivery : Delivery) (timing : Timing) :
    Timing :=
  match frame with
  | .stream _ => timing
  | .chat call =>
      match call.point with
      | .acquire first rest =>
          if delivery = .answered ∧ (Redis.execute t.world.store command).2 = .ok then
            ⟨some ⟨t.clock, first :: rest⟩, t.clock, 0⟩
          else timing
      | _ => timing

/-- What a call was waiting for has ended. -/
def lap (id : CallId) : CallId → Timing :=
  Function.update t.timings id
    { t.timings id with
      since := t.clock
      spent := (t.timings id).spent + (t.clock - (t.timings id).since) }

/-- The phase that a call is in may last until then. -/
def mayWait (now : ℚ) (id : CallId) : Bool :=
  match t.world.call id with
  | none => true
  | some call =>
      match call.point with
      | .execute attempt => decide (now - (t.timings id).since ≤ attempt.current.config.timeout)
      | _ => true

/-- **One step**: a step of the replicas at the present time, the end of a phase, or time that
passes while no phase exceeds its bound. -/
def step : TimedAction → Option TimedWorld
  | .act action =>
      (t.world.step env action).bind fun next =>
        match action with
        | .start id _ _ _ _ => some { t with world := next, started := t.started ++ [id] }
        | .serve id delivery =>
            match t.world.tasks id with
            | some ⟨frame, .sent command⟩ =>
                if t.live command.key then
                  some { t with
                    world := next
                    deadlines := t.deadlinesAfter command delivery
                    timings := Function.update t.timings id
                      (t.timingAfter frame command delivery (t.timings id)) }
                else none
            | _ => none
        | .chat id _ _ => some { t with world := next, timings := t.lap id }
        | .expire key => if t.overdue key then some { t with world := next } else none
        | _ => some { t with world := next }
  | .phase id _ =>
      match t.world.call id with
      | none => none
      | some call => if call.point.executing then some { t with timings := t.lap id } else none
  | .wait duration =>
      if 0 ≤ duration ∧ ∀ id ∈ t.started, t.mayWait (t.clock + duration) id = true then
        some { t with clock := t.clock + duration }
      else none

/-- How long the reply of Redis and the phases have taken, the present one included. -/
def elapsed (id : CallId) : ℚ := (t.timings id).spent + (t.clock - (t.timings id).since)

end TimedWorld

/-- The call is calling a provider with the lock. -/
def ChatCall.Guards (call : ChatCall) : Prop :=
  call.point.executing = true ∧ call.lockToken ≠ none

/-- **The lock outlives the call it guards**: the lock of a call that is calling a provider has
not expired, and no other holder is calling a provider for the same cache key. -/
structure TimedWorld.Outlives (env : Environment) (t : TimedWorld) : Prop where
  unexpired : ∀ id call, t.world.call id = some call → call.Guards →
    t.world.store (lockKey (call.cacheKey env)) = some (.text (env.token id)) ∧
      ∃ deadline, t.deadlines (lockKey (call.cacheKey env)) = some deadline ∧ t.clock < deadline
  exclusive : ∀ id call other found, t.world.call id = some call → t.world.call other = some found →
    call.Guards → found.Guards → found.cacheKey env = call.cacheKey env → id = other

/-- The reply of Redis and the phases so far have taken less than the time to live of the
lock. -/
def TimedWorld.Timely (t : TimedWorld) : Prop :=
  ∀ id call, t.world.call id = some call → call.Guards →
    ∃ grant, (t.timings id).grant = some grant ∧ t.elapsed id < grant.ttl

/-! ## What a step is -/

section Step

variable {env : Environment} {t next : TimedWorld} {action : TimedAction}

/-- **The timed steps.** -/
inductive TimedSteps (env : Environment) (t : TimedWorld) : TimedAction → TimedWorld → Prop
  | start {id : CallId} {replica : ReplicaId} {request : ChatRequest} {registry : ProviderRegistry}
      {virtualKeyId : ℤ} {world : World}
      (moved : t.world.step env (.start id replica request registry virtualKeyId) = some world) :
      TimedSteps env t (.act (.start id replica request registry virtualKeyId))
        { t with world, started := t.started ++ [id] }
  | serve {id : CallId} {delivery : Delivery} {frame : Frame} {command : Command}
      (task : t.world.tasks id = some ⟨frame, .sent command⟩) (live : t.live command.key = true) :
      TimedSteps env t (.act (.serve id delivery))
        { t with
          world := t.world.deliver id frame command delivery
          deadlines := t.deadlinesAfter command delivery
          timings := Function.update t.timings id
            (t.timingAfter frame command delivery (t.timings id)) }
  | chat {id : CallId} {input : Input} {clock : Clock} {world : World}
      (moved : t.world.step env (.chat id input clock) = some world) :
      TimedSteps env t (.act (.chat id input clock)) { t with world, timings := t.lap id }
  | expire {key : String} (overdue : t.overdue key = true) :
      TimedSteps env t (.act (.expire key))
        { t with world := { t.world with store := t.world.store.erase key } }
  | apart {action : Action} {world : World} (moved : t.world.step env action = some world)
      (other : match action with
        | .startStream .. | .stream .. | .limit .. | .rollback .. => True
        | _ => False) :
      TimedSteps env t (.act action) { t with world }
  | phase {id : CallId} {ended : HttpPhase} {call : ChatCall}
      (running : t.world.call id = some call) :
      TimedSteps env t (.phase id ended) { t with timings := t.lap id }
  | wait {duration : ℚ} (nonneg : 0 ≤ duration) :
      TimedSteps env t (.wait duration) { t with clock := t.clock + duration }

theorem timedSteps_of_step (moved : t.step env action = some next) :
    TimedSteps env t action next := by
  cases action with
  | act action =>
      obtain ⟨world, stepped, rest⟩ := Option.bind_eq_some_iff.mp moved
      cases action with
      | start id replica request registry virtualKeyId =>
          cases rest
          exact .start stepped
      | serve id delivery =>
          simp only [World.step] at stepped rest
          split at stepped
          · rename_i frame command task
            rw [task] at rest
            dsimp only at rest
            split_ifs at rest with live
            cases rest
            cases stepped
            exact .serve task live
          · cases stepped
      | chat id input clock =>
          cases rest
          exact .chat stepped
      | expire key =>
          dsimp only at rest
          split_ifs at rest with overdue
          cases rest
          cases stepped
          exact .expire overdue
      | startStream | stream | limit | rollback =>
          cases rest
          exact .apart stepped trivial
  | phase id ended =>
      simp only [TimedWorld.step] at moved
      split at moved
      · cases moved
      · rename_i call running
        split_ifs at moved
        cases moved
        exact .phase running
  | wait duration =>
      simp only [TimedWorld.step] at moved
      split_ifs at moved with allowed
      cases moved
      exact .wait allowed.1

end Step

/-! ## The invariant -/

/-- What holds of the lock of a call that has it. -/
structure TimedWorld.Held (env : Environment) (t : TimedWorld) (id : CallId) (cacheKey : String)
    (grant : Grant) : Prop where
  granted : (t.timings id).grant = some grant
  sum : grant.time + (t.timings id).spent = (t.timings id).since
  order : (t.timings id).since ≤ t.clock
  locked : t.clock < grant.time + grant.ttl →
    t.world.store (lockKey cacheKey) = some (.text (env.token id))
  deadline : t.world.store (lockKey cacheKey) = some (.text (env.token id)) →
    t.deadlines (lockKey cacheKey) = some (grant.time + grant.ttl)

/-- A command with a token carries that of its call. -/
def CarriesOwn (env : Environment) (id : CallId) : Command → Prop
  | .set _ token true _ | .compareAndDelete _ token => token = env.token id
  | _ => True

structure TimedWorld.Sound (env : Environment) (t : TimedWorld) : Prop where
  linked : t.world.Linked env
  disciplined : t.world.Disciplined env
  flows : t.world.Flows env (fun _ _ => True) (fun _ _ => True)
  carries : ∀ id frame command, t.world.tasks id = some ⟨frame, .sent command⟩ →
    CarriesOwn env id command
  held : ∀ id call wire, t.world.tasks id = some ⟨.chat call, wire⟩ → call.Holding wire →
    ∃ grant, t.Held env id (call.cacheKey env) grant

section Invariant

variable {env : Environment} {t next : TimedWorld} {action : TimedAction} {id : CallId}
  {cacheKey : String} {grant : Grant}

/-- A step that neither touches the times nor the lock. -/
theorem TimedWorld.Held.kept (held : t.Held env id cacheKey grant) (timings : next.timings id = t.timings id)
    (deadlines : next.deadlines (lockKey cacheKey) = t.deadlines (lockKey cacheKey))
    (clock : next.clock = t.clock)
    (store : next.world.store (lockKey cacheKey) = t.world.store (lockKey cacheKey)) :
    next.Held env id cacheKey grant where
  granted := timings ▸ held.granted
  sum := timings ▸ held.sum
  order := by rw [timings, clock]; exact held.order
  locked := by rw [clock, store]; exact held.locked
  deadline := by rw [store, deadlines]; exact held.deadline

/-- The end of a phase. -/
theorem TimedWorld.Held.lap (held : t.Held env id cacheKey grant) (own : CallId) :
    ({ t with timings := t.lap own } : TimedWorld).Held env id cacheKey grant := by
  by_cases same : id = own
  · subst same
    have timing : ({ t with timings := t.lap id } : TimedWorld).timings id =
        ⟨(t.timings id).grant, t.clock,
          (t.timings id).spent + (t.clock - (t.timings id).since)⟩ := Function.update_self _ _ _
    refine ⟨?_, ?_, ?_, held.locked, held.deadline⟩
    · rw [timing]
      exact held.granted
    · rw [timing]
      have sum := held.sum
      simp only
      linarith
    · rw [timing]
  · exact held.kept (Function.update_of_ne same _ _) rfl rfl rfl

/-- Time passes. -/
theorem TimedWorld.Held.wait (held : t.Held env id cacheKey grant) {duration : ℚ} (nonneg : 0 ≤ duration) :
    ({ t with clock := t.clock + duration } : TimedWorld).Held env id cacheKey grant where
  granted := held.granted
  sum := held.sum
  order := held.order.trans (le_add_of_nonneg_right nonneg)
  locked := fun before => held.locked (lt_of_le_of_lt (le_add_of_nonneg_right nonneg) before)
  deadline := held.deadline

/-- A key is removed that is overdue: not a lock that has not expired. -/
theorem TimedWorld.Held.expire (held : t.Held env id cacheKey grant) {key : String}
    (overdue : t.overdue key = true) :
    ({ t with world := { t.world with store := t.world.store.erase key } } : TimedWorld).Held env id
      cacheKey grant := by
  by_cases same : lockKey cacheKey = key
  · subst same
    refine ⟨held.granted, held.sum, held.order, fun before => ?_, fun there => ?_⟩
    · have deadline := held.deadline (held.locked before)
      simp only [TimedWorld.overdue, deadline, decide_eq_true_eq] at overdue
      exact absurd before (not_lt_of_ge overdue)
    · have erased : t.world.store.erase (lockKey cacheKey) (lockKey cacheKey) = _ := there
      rw [Store.erase_self] at erased
      cases erased
  · exact held.kept rfl rfl rfl (Store.erase_of_ne _ same)

/-- A step of the replicas leaves a held lock where it is, unless it is the command of its
holder or the lock expires. -/
theorem store_lock_of_apart {w later : World} {other : Action} (cacheKey : String)
    (moved : w.step env other = some later)
    (unserved : ∀ own delivery, other ≠ .serve own delivery)
    (lasting : ∀ key, other ≠ .expire key) :
    later.store (lockKey cacheKey) = w.store (lockKey cacheKey) := by
  cases steps_of_step moved with
  | start | startStream | chat | stream => rfl
  | serve => exact absurd rfl (unserved _ _)
  | expire => exact absurd rfl (lasting _)
  | limit => exact checkPipeline_other _ (lockKey_ne_rateLimitKey _ _)
  | rollback => exact Redis.execute_other _ _ (lockKey_ne_rateLimitKey _ _)

/-- A holder after a step of the replicas that is no command was one before. -/
theorem holding_before {w later : World} {other : Action} {call : ChatCall} {wire : Wire}
    (coherent : ∀ id call, w.call id = some call → call.Coherent)
    (moved : w.step env other = some later)
    (unserved : ∀ own delivery, other ≠ .serve own delivery)
    (task : later.tasks id = some ⟨.chat call, wire⟩) (holding : call.Holding wire) :
    ∃ before left, w.tasks id = some ⟨.chat before, left⟩ ∧ before.Holding left ∧
      before.cacheKey env = call.cacheKey env := by
  cases steps_of_step moved with
  | @start own replica request registry virtualKeyId fresh =>
      simp only [World.spawn, Function.update_apply] at task
      split_ifs at task
      · cases task
        cases holding with
        | executing inside locked => exact absurd rfl locked
      · exact ⟨call, wire, task, holding, rfl⟩
  | startStream fresh =>
      simp only [World.spawn, Function.update_apply] at task
      split_ifs at task
      · cases task
      · exact ⟨call, wire, task, holding, rfl⟩
  | serve => exact absurd rfl (unserved _ _)
  | @chat own before left input clock turn there fits turns =>
      simp only [World.applyTurn, Function.update_apply] at task
      split_ifs at task with same
      · cases task
        subst same
        refine ⟨before, left, there, ?_, ((turns_arguments turns).cacheKey env).symm⟩
        exact turns_holding (coherent id before (World.call_eq_some.mpr ⟨left, there⟩)) fits turns
          holding
      · exact ⟨call, wire, task, holding, rfl⟩
  | stream there fits turns =>
      simp only [World.applyStreamTurn, Function.update_apply] at task
      split_ifs at task
      · cases task
      · exact ⟨call, wire, task, holding, rfl⟩
  | expire | limit | rollback => exact ⟨call, wire, task, holding, rfl⟩

/-- The commands of a turn carry no token but that of their call. -/
theorem turns_carriesOwn {process : Process} {call : ChatCall} {input : Input} {clock : Clock}
    {turn : Turn} {command : Command} (tokened : call.Tokened env id)
    (turns : Turns env id process call clock input turn) (send : turn.send = some command) :
    CarriesOwn env id command := by
  cases turns with
  | contend => cases send; exact rfl
  | returnedLocked point ended locked => cases send; exact tokened _ locked
  | raisedLocked point ended fails locked => cases send; exact tokened _ locked
  | cancelledLocked point locked => cases send; exact tokened _ locked
  | unreadable | poll | returnedFree | released => cases send; exact trivial
  | _ => cases send

theorem streamTurns_carriesOwn {call : StreamCall} {input : StreamInput} {clock : StreamClock}
    {turn : StreamTurn} {command : Command} (turns : StreamTurns env call clock input turn)
    (send : turn.send = some command) : CarriesOwn env id command := by
  cases turns with
  | unreadable | stored => cases send; exact trivial
  | _ => cases send

theorem carriesOwn_step {w later : World} {other : Action} (disciplined : w.Disciplined env)
    (carries : ∀ id frame command, w.tasks id = some ⟨frame, .sent command⟩ →
      CarriesOwn env id command)
    (moved : w.step env other = some later) (id : CallId) (frame : Frame) (command : Command)
    (task : later.tasks id = some ⟨frame, .sent command⟩) : CarriesOwn env id command := by
  cases steps_of_step moved with
  | start | startStream =>
      simp only [World.spawn, Function.update_apply] at task
      split_ifs at task
      · cases task
        exact trivial
      · exact carries id frame command task
  | @serve own frame' command' delivery there =>
      cases delivery <;> simp only [World.deliver, Function.update_apply] at task <;>
        split_ifs at task
      all_goals first | exact carries id frame command task | cases task
  | @chat own call wire input clock turn there fits turns =>
      simp only [World.applyTurn, Function.update_apply] at task
      split_ifs at task with same
      · obtain ⟨-, after⟩ := Task.mk.inj (Option.some.inj task)
        subst same
        rcases Wire.after_eq after with new | kept
        · exact turns_carriesOwn
            (disciplined.tokened id call (World.call_eq_some.mpr ⟨wire, there⟩)) turns new
        · exact carries id _ command (kept ▸ there)
      · exact carries id frame command task
  | @stream own call wire input clock turn there fits turns =>
      simp only [World.applyStreamTurn, Function.update_apply] at task
      split_ifs at task with same
      · obtain ⟨-, after⟩ := Task.mk.inj (Option.some.inj task)
        subst same
        rcases Wire.after_eq after with new | kept
        · exact streamTurns_carriesOwn turns new
        · exact carries id _ command (kept ▸ there)
      · exact carries id frame command task
  | expire | limit | rollback => exact carries id frame command task

/-- A command of another call puts no token of this one anywhere. -/
theorem Sends.lock_before {entry : String → String → Prop} {frame : Frame} {command : Command}
    {store : Store} {own other : CallId} (sends : Sends entry (frame.cacheKey env) command)
    (carries : CarriesOwn env own command) (foreign : env.token own ≠ env.token other)
    (there : (Redis.execute store command).1 (lockKey cacheKey) = some (.text (env.token other))) :
    store (lockKey cacheKey) = some (.text (env.token other)) := by
  by_cases same : lockKey cacheKey = command.key
  · cases sends with
    | get => rwa [Redis.execute_get_store] at there
    | delete | store =>
        rw [← frame.digest_text] at same
        exact absurd same.symm (digest_ne_lockKey _ _)
    | @acquire token expireSeconds =>
        rcases Redis.execute_set_self store (lockKey (frame.cacheKey env)) token true
          expireSeconds with put | kept
        · have own : token = env.token own := carries
          have key : lockKey cacheKey = lockKey (frame.cacheKey env) := same
          rw [key, put, own] at there
          exact absurd (Redis.Value.text.inj (Option.some.inj there)) foreign
        · rwa [kept] at there
    | @release token =>
        rcases Redis.execute_compareAndDelete_self store (lockKey (frame.cacheKey env)) token with
          kept | ⟨-, erased⟩
        · rwa [kept] at there
        · have key : lockKey cacheKey = lockKey (frame.cacheKey env) := same
          rw [key, erased, Store.erase_self] at there
          cases there
  · rwa [Redis.execute_other store command same] at there

/-- A lock that is there gets no new deadline. -/
theorem deadlinesAfter_of_occupied {command : Command} {delivery : Delivery} {key : String}
    (occupied : t.world.store key ≠ none) : t.deadlinesAfter command delivery key = t.deadlines key := by
  unfold TimedWorld.deadlinesAfter
  split
  · rename_i own value expireSeconds
    split_ifs with executed
    · have apart : key ≠ own := by
        rintro rfl
        exact occupied (Redis.execute_setIfAbsent_ok executed.2).1
      exact Function.update_of_ne apart _ _
    · rfl
  · rfl

theorem deliver_store (w : World) (own : CallId) (frame : Frame) (command : Command)
    (delivery : Delivery) :
    (w.deliver own frame command delivery).store = delivery.apply w.store command := by
  cases delivery <;> rfl

theorem deliver_task (w : World) (own : CallId) (frame : Frame) (command : Command)
    (delivery : Delivery) :
    ∃ reply, (delivery = .answered ∧ (Redis.execute w.store command).2 = reply ∨ reply = .error) ∧
      (w.deliver own frame command delivery).tasks own = some ⟨frame, .replied reply⟩ := by
  cases delivery with
  | answered => exact ⟨_, .inl ⟨rfl, rfl⟩, Function.update_self _ _ _⟩
  | lost | refused => exact ⟨.error, .inr rfl, Function.update_self _ _ _⟩

theorem deliver_other {own other : CallId} (w : World) (frame : Frame) (command : Command)
    (delivery : Delivery) (apart : other ≠ own) :
    (w.deliver own frame command delivery).tasks other = w.tasks other := by
  cases delivery <;> exact Function.update_of_ne apart _ _

/-- What the command of a call does to the lock of another one. -/
theorem held_serve_other {own : CallId} {frame : Frame} {command : Command} {delivery : Delivery}
    (distinct : Function.Injective env.token) (apart : id ≠ own)
    (sends : Sends (fun _ _ => True) (frame.cacheKey env) command)
    (carries : CarriesOwn env own command) (held : t.Held env id cacheKey grant)
    {world : World} {timings : CallId → Timing} (timing : timings id = t.timings id)
    (store : world.store = delivery.apply t.world.store command) :
    ({ t with
      world
      deadlines := t.deadlinesAfter command delivery
      timings } : TimedWorld).Held env id cacheKey grant := by
  have foreign : env.token own ≠ env.token id := fun same => apart (distinct same).symm
  have released : ∀ key released, command = .compareAndDelete key released →
      released ≠ env.token id := by
    rintro key released rfl
    have own : released = env.token own := carries
    rw [own]
    exact foreign
  have later : t.world.store (lockKey cacheKey) = some (.text (env.token id)) →
      world.store (lockKey cacheKey) = some (.text (env.token id)) := by
    intro there
    rw [store]
    cases delivery with
    | answered | lost => exact sends.keeps_lock released there
    | refused => exact there
  have before : world.store (lockKey cacheKey) = some (.text (env.token id)) →
      t.world.store (lockKey cacheKey) = some (.text (env.token id)) := by
    intro there
    rw [store] at there
    cases delivery with
    | answered | lost => exact sends.lock_before carries foreign there
    | refused => exact there
  refine ⟨(congrArg Timing.grant timing).trans held.granted, ?_,
    (congrArg Timing.since timing).trans_le held.order, fun live => later (held.locked live),
    fun there => ?_⟩
  · change grant.time + (timings id).spent = (timings id).since
    rw [timing]
    exact held.sum
  · have occupied : t.world.store (lockKey cacheKey) ≠ none := by
      rw [before there]
      simp
    exact (deadlinesAfter_of_occupied occupied).trans (held.deadline (before there))

/-- A call that is given the lock. -/
theorem held_serve_own {call : ChatCall} {command : Command} {delivery : Delivery} {reply : Reply}
    (expects : call.Expects env id command)
    (replied : delivery = .answered ∧ (Redis.execute t.world.store command).2 = reply ∨
      reply = .error)
    (holding : call.Holding (.replied reply)) {world : World}
    (store : world.store = delivery.apply t.world.store command) :
    ∃ grant, ({ t with
      world
      deadlines := t.deadlinesAfter command delivery
      timings := Function.update t.timings id
        (t.timingAfter (.chat call) command delivery (t.timings id)) } : TimedWorld).Held env id
          (call.cacheKey env) grant := by
  cases holding with
  | @granted first rest point =>
      obtain ⟨rfl, given⟩ : delivery = .answered ∧
          (Redis.execute t.world.store command).2 = .ok := by
        rcases replied with answered | failed
        · exact answered
        · cases failed
      simp only [ChatCall.Expects, point] at expects
      have timing : Function.update t.timings id (t.timingAfter (.chat call) command .answered
          (t.timings id)) id = ⟨some ⟨t.clock, first :: rest⟩, t.clock, 0⟩ := by
        rw [Function.update_self, TimedWorld.timingAfter, point]
        exact if_pos ⟨rfl, given⟩
      have deadline : t.deadlinesAfter command .answered (lockKey (call.cacheKey env)) =
          some (t.clock + Grant.ttl ⟨t.clock, first :: rest⟩) := by
        subst expects
        have executed : Delivery.answered ≠ .refused ∧ (Redis.execute t.world.store
          (acquireCommand (call.cacheKey env) (env.token id) (lockTtlSeconds (first :: rest)))).2 =
            .ok := ⟨by decide, given⟩
        exact (congrFun (if_pos executed) _).trans (Function.update_self _ _ _)
      have put : world.store (lockKey (call.cacheKey env)) = some (.text (env.token id)) := by
        subst expects
        rw [store, Delivery.apply, acquireCommand, (Redis.execute_setIfAbsent_ok given).2,
          Store.put_self]
      refine ⟨⟨t.clock, first :: rest⟩, ?_, ?_, ?_, fun _ => put, fun _ => deadline⟩
      · exact congrArg Timing.grant timing
      · change t.clock + (Function.update t.timings id _ id).spent =
          (Function.update t.timings id _ id).since
        rw [timing]
        exact add_zero _
      · exact (congrArg Timing.since timing).le
  | executing inside locked =>
      cases point : call.point with
      | execute attempt => simp only [ChatCall.Expects, point] at expects
      | _ => rw [point] at inside; cases inside

theorem sound_init_timed (store : Store) : (TimedWorld.init store).Sound env where
  linked := linked_init env store
  disciplined := disciplined_init store
  flows := ⟨fun _ _ _ => trivial, by simp [TimedWorld.init, World.init]⟩
  carries := by simp [TimedWorld.init, World.init]
  held := by simp [TimedWorld.init, World.init]

/-- The part of the invariant that is about the replicas alone. -/
theorem world_step {w later : World} {other : Action} (linked : w.Linked env)
    (disciplined : w.Disciplined env) (flows : w.Flows env (fun _ _ => True) (fun _ _ => True))
    (carries : ∀ id frame command, w.tasks id = some ⟨frame, .sent command⟩ →
      CarriesOwn env id command)
    (moved : w.step env other = some later) :
    later.Linked env ∧ later.Disciplined env ∧
      later.Flows env (fun _ _ => True) (fun _ _ => True) ∧
        ∀ id frame command, later.tasks id = some ⟨frame, .sent command⟩ →
          CarriesOwn env id command :=
  ⟨linked_step linked moved, disciplined_step disciplined moved,
    flows_step ⟨fun _ _ _ => trivial, fun _ _ _ _ _ => trivial⟩ linked flows moved
      fun _ _ _ => trivial,
    carriesOwn_step disciplined carries moved⟩

/-- **A step keeps what is known of every held lock.** -/
theorem sound_step_timed (distinct : Function.Injective env.token) (sound : t.Sound env)
    (moved : t.step env action = some next) : next.Sound env := by
  cases timedSteps_of_step moved with
  | @start own replica request registry virtualKeyId world stepped =>
      obtain ⟨linked, disciplined, flows, carries⟩ := world_step sound.linked sound.disciplined
        sound.flows sound.carries stepped
      refine ⟨linked, disciplined, flows, carries, fun id call wire task holding => ?_⟩
      obtain ⟨before, left, there, held, same⟩ := holding_before
        sound.linked.sound.coherent stepped (by simp) task holding
      obtain ⟨grant, known⟩ := sound.held id before left there held
      exact ⟨grant, same ▸ known.kept rfl rfl rfl (store_lock_of_apart _ stepped (by simp) (by simp))⟩
  | @serve own delivery frame command task live =>
      have stepped : t.world.step env (.serve own delivery) =
          some (t.world.deliver own frame command delivery) := by
        simp only [World.step, task]
      obtain ⟨linked, disciplined, flows, carries⟩ := world_step sound.linked sound.disciplined
        sound.flows sound.carries stepped
      refine ⟨linked, disciplined, flows, carries, fun id call wire there holding => ?_⟩
      by_cases same : id = own
      · subst same
        obtain ⟨reply, replied, answered⟩ := deliver_task t.world id frame command delivery
        obtain ⟨rfl, rfl⟩ := Task.mk.inj (Option.some.inj (answered.symm.trans there))
        exact held_serve_own (sound.disciplined.expects id call command task) replied holding
          (deliver_store ..)
      · rw [deliver_other _ _ _ _ same] at there
        obtain ⟨grant, known⟩ := sound.held id call wire there holding
        exact ⟨grant, held_serve_other distinct same ((sound.flows.tasks own _ task).sent command rfl)
          (sound.carries own frame command task) known (Function.update_of_ne same _ _)
          (deliver_store ..)⟩
  | @chat own input clock world stepped =>
      obtain ⟨linked, disciplined, flows, carries⟩ := world_step sound.linked sound.disciplined
        sound.flows sound.carries stepped
      refine ⟨linked, disciplined, flows, carries, fun id call wire task holding => ?_⟩
      obtain ⟨before, left, there, held, same⟩ := holding_before
        sound.linked.sound.coherent stepped (by simp) task holding
      obtain ⟨grant, known⟩ := sound.held id before left there held
      exact ⟨grant, same ▸ (known.lap own).kept rfl rfl rfl
        (store_lock_of_apart _ stepped (by simp) (by simp))⟩
  | @expire key overdue =>
      have stepped : t.world.step env (.expire key) =
          some { t.world with store := t.world.store.erase key } := rfl
      obtain ⟨linked, disciplined, flows, carries⟩ := world_step sound.linked sound.disciplined
        sound.flows sound.carries stepped
      exact ⟨linked, disciplined, flows, carries, fun id call wire task holding =>
        (sound.held id call wire task holding).imp fun _ known => known.expire overdue⟩
  | @apart other world stepped away =>
      obtain ⟨linked, disciplined, flows, carries⟩ := world_step sound.linked sound.disciplined
        sound.flows sound.carries stepped
      have unserved : ∀ own delivery, other ≠ .serve own delivery := by
        rintro own delivery rfl
        exact away.elim
      have lasting : ∀ key, other ≠ .expire key := by
        rintro key rfl
        exact away.elim
      refine ⟨linked, disciplined, flows, carries, fun id call wire task holding => ?_⟩
      obtain ⟨before, left, there, held, same⟩ := holding_before
        sound.linked.sound.coherent stepped unserved task holding
      obtain ⟨grant, known⟩ := sound.held id before left there held
      exact ⟨grant, same ▸ known.kept rfl rfl rfl (store_lock_of_apart _ stepped unserved lasting)⟩
  | phase running =>
      exact ⟨sound.linked, sound.disciplined, sound.flows, sound.carries,
        fun id call wire task holding =>
          (sound.held id call wire task holding).imp fun _ known => known.lap _⟩
  | wait nonneg =>
      exact ⟨sound.linked, sound.disciplined, sound.flows, sound.carries,
        fun id call wire task holding =>
          (sound.held id call wire task holding).imp fun _ known => known.wait nonneg⟩

/-- **The invariant holds of every run.** -/
theorem sound_of_run_timed (distinct : Function.Injective env.token) {store : Store}
    {actions : List TimedAction} {state : TimedWorld}
    (reached : run (TimedWorld.step env) (TimedWorld.init store) actions = some state) :
    state.Sound env :=
  invariant_of_step (sound_init_timed store)
    (fun _ _ _ sound moved => sound_step_timed distinct sound moved) reached

/-- What is known of the lock of a call that is calling a provider. -/
theorem TimedWorld.Sound.guarded (sound : t.Sound env) {call : ChatCall}
    (running : t.world.call id = some call) (guards : call.Guards) :
    ∃ grant, t.Held env id (call.cacheKey env) grant := by
  obtain ⟨wire, task⟩ := World.call_eq_some.mp running
  exact sound.held id call wire task (.executing guards.1 guards.2)

/-- The times add up: a lock has not reached its deadline while the time since it was given is
less than its time to live. -/
theorem TimedWorld.Held.elapsed_lt_iff (held : t.Held env id cacheKey grant) :
    t.elapsed id < grant.ttl ↔ t.clock < grant.time + grant.ttl := by
  have sum := held.sum
  unfold TimedWorld.elapsed
  constructor <;> intro less <;> linarith

theorem TimedWorld.Timely.unexpired (timely : t.Timely) (sound : t.Sound env) {call : ChatCall}
    (running : t.world.call id = some call) (guards : call.Guards) :
    t.world.store (lockKey (call.cacheKey env)) = some (.text (env.token id)) ∧
      ∃ deadline, t.deadlines (lockKey (call.cacheKey env)) = some deadline ∧
        t.clock < deadline := by
  obtain ⟨grant, held⟩ := sound.guarded running guards
  obtain ⟨given, granted, less⟩ := timely id call running guards
  obtain rfl : given = grant := Option.some.inj (granted.symm.trans held.granted)
  have before := held.elapsed_lt_iff.mp less
  exact ⟨held.locked before, _, held.deadline (held.locked before), before⟩

theorem TimedWorld.Outlives.timely (outlives : t.Outlives env) (sound : t.Sound env) :
    t.Timely := by
  intro id call running guards
  obtain ⟨grant, held⟩ := sound.guarded running guards
  obtain ⟨there, deadline, known, before⟩ := outlives.unexpired id call running guards
  rw [held.deadline there] at known
  cases known
  exact ⟨grant, held.granted, held.elapsed_lt_iff.mpr before⟩

/-- In a sound state the two say the same. -/
theorem outlives_iff_timely (distinct : Function.Injective env.token) (sound : t.Sound env) :
    t.Outlives env ↔ t.Timely := by
  refine ⟨fun outlives => outlives.timely sound, fun timely => ⟨fun id call running guards =>
    timely.unexpired sound running guards, ?_⟩⟩
  intro id call other found running there guards found_guards same
  have mine := (timely.unexpired sound running guards).1
  have theirs := (timely.unexpired sound there found_guards).1
  rw [same, mine] at theirs
  exact distinct (Redis.Value.text.inj (Option.some.inj theirs))

/-- **A lock outlives the chain it guards exactly as long as the time is enough**: in a run, no
lock of a call that is calling a provider has expired and no two holders call a provider for one
cache key, if and only if the reply of Redis and the phases of each holder have always
taken less than the time to live of its lock, the sum of the timeouts of its candidates and five
seconds. -/
theorem lock_outlives_iff (env : Environment) (distinct : Function.Injective env.token)
    (store : Store) (actions : List TimedAction) :
    Always (TimedWorld.step env) (TimedWorld.Outlives env) (.init store) actions ↔
      Always (TimedWorld.step env) TimedWorld.Timely (.init store) actions := by
  constructor
  · intro always before after state split reached
    exact (outlives_iff_timely distinct (sound_of_run_timed distinct reached)).mp
      (always before after state split reached)
  · intro always before after state split reached
    exact (outlives_iff_timely distinct (sound_of_run_timed distinct reached)).mpr
      (always before after state split reached)

end Invariant

/-! ## Runs -/

/-- A step of a replica. -/
def acts (actions : List Action) : List TimedAction := actions.map .act

/-- A call obtains the lock at once and calls the provider. -/
def guarded (id : CallId) (replica : ReplicaId) : List TimedAction :=
  acts ([arrive id replica] ++ exchange id .nil early ++ exchange id .ok early)

/-- The provider answers within its timeout of 30 seconds. -/
def quickPhases : List TimedAction :=
  guarded 0 0 ++
    [.wait 1, .phase 0 .connect, .wait 25, .act (.chat 0 (.attempt (.answered demoResponse)) early)]

/-- The lock of the call outlives its provider call. -/
theorem lock_outlives_quickPhases :
    Always (TimedWorld.step demoEnvironment) (TimedWorld.Outlives demoEnvironment)
        (.init Store.empty) quickPhases ↔
      Always (TimedWorld.step demoEnvironment) TimedWorld.Timely (.init Store.empty) quickPhases :=
  lock_outlives_iff demoEnvironment demoToken_injective Store.empty quickPhases

/-- The connection takes 20 of 30 seconds and so does the answer, which is more than the lock
has: another replica obtains it and calls the provider too. -/
def slowPhases : List TimedAction :=
  guarded 0 0 ++
    [.wait 20, .phase 0 .connect, .wait 16,
      .act (.expire (lockKey ((ChatCall.start 0 (demoRequest false) demoRegistry 1).cacheKey
        demoEnvironment)))] ++
    guarded 1 1 ++ [.wait 4]

/-- Two calls of one cache key are calling a provider with a token. -/
def bothGuard (id other : CallId) (t : TimedWorld) : Bool :=
  match t.world.call id, t.world.call other with
  | some call, some found =>
      call.point.executing && found.point.executing && call.lockToken.isSome &&
        found.lockToken.isSome && (found.cacheKey demoEnvironment == call.cacheKey demoEnvironment)
  | _, _ => false

/-- **Two lock holders call the provider at the same time**, although each phase ends within
the timeout. -/
theorem lock_expires_slowPhases :
    ¬ Always (TimedWorld.step demoEnvironment) (TimedWorld.Outlives demoEnvironment)
      (.init Store.empty) slowPhases := by
  refine not_always_of_last (bothGuard 0 1) ?_ (by decide +kernel)
  intro t both outlives
  unfold bothGuard at both
  split at both
  · rename_i call found running there
    simp only [Bool.and_eq_true, beq_iff_eq, Option.isSome_iff_ne_none] at both
    obtain ⟨⟨⟨⟨inside, found_inside⟩, mine⟩, theirs⟩, same⟩ := both
    cases outlives.exclusive 0 call 1 found running there ⟨inside, mine⟩ ⟨found_inside, theirs⟩ same
  · cases both

end LlmGateway
