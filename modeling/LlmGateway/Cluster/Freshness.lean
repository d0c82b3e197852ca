import LlmGateway.Cluster.Provenance

/-!
# How old an answer from the cache is

The replicas of `World` with the clock of Redis, for the entries of the response cache. A write gives
a key a time to live, and once that has passed Redis does not answer for the key any more; it may
forget a key before that. Everything else is as in `World`: any number of replicas, commands that are
lost, calls that are cancelled.

`DatedWorld` remembers when the text under a key was written, and for each call when it came and which
text it was last given (`Reading`). The response that a call takes from the cache was then written
less than `CACHE_TTL_SECONDS` before Redis gave it out (`cache_fresh`). With a time to live of zero or
less nothing is ever taken from the cache.
-/

set_option autoImplicit false

namespace LlmGateway

open LlmGateway.Library
open LlmGateway.Library.Redis (Command Reply Store)

/-! ## State -/

/-- The write that a text comes from: when Redis executed it, and the time to live it gave. -/
structure Stamp where
  time : ℚ
  ttl : ℤ

/-- A text that a call was given, the write it comes from, and when it was given. -/
structure Reading where
  text : String
  stamp : Stamp
  time : ℚ

/-- The replicas with a clock. A stamp belongs to the text that was last written under a key. -/
structure DatedWorld where
  world : World
  clock : ℚ := 0
  stamps : String → Stamp := fun _ => ⟨0, 0⟩
  arrivals : CallId → ℚ := fun _ => 0
  readings : CallId → Option Reading := fun _ => none

/-- Before the first request, with nothing in Redis. -/
def DatedWorld.init : DatedWorld := { world := .init Store.empty }

inductive DatedAction where
  | act (action : Action)
  | wait (duration : ℚ)

/-! ## Steps -/

namespace DatedWorld

variable (env : Environment) (t : DatedWorld)

/-- Redis still answers for the text under a key, if there is one. -/
def live (key : String) : Bool :=
  match t.world.store key with
  | some (.text _) => decide (t.clock < (t.stamps key).time + (t.stamps key).ttl)
  | _ => true

/-- The stamps after a command: one that wrote a text leaves its own. -/
def stampsAfter (command : Command) (delivery : Delivery) : String → Stamp :=
  match command with
  | .set key _ _ expireSeconds =>
      if delivery ≠ .refused ∧ (Redis.execute t.world.store command).2 = .ok then
        Function.update t.stamps key ⟨t.clock, expireSeconds⟩
      else t.stamps
  | _ => t.stamps

/-- The text that a command is answered with. -/
def textGiven (command : Command) (delivery : Delivery) : Option String :=
  match delivery, (Redis.execute t.world.store command).2 with
  | .answered, .bulk raw => some raw
  | _, _ => none

/-- The readings after a command: its call may have been given a text. -/
def readingsAfter (id : CallId) (command : Command) (delivery : Delivery) : CallId → Option Reading :=
  match t.textGiven command delivery with
  | some raw => Function.update t.readings id (some ⟨raw, t.stamps command.key, t.clock⟩)
  | none => t.readings

/-- **One step**: a step of the replicas at the present time, or time that passes. Redis executes a
command only when it has forgotten what is too old. -/
def step : DatedAction → Option DatedWorld
  | .act action =>
      (t.world.step env action).bind fun next =>
        match action with
        | .start id _ _ _ _ | .startStream id _ _ _ _ =>
            some { t with world := next, arrivals := Function.update t.arrivals id t.clock }
        | .serve id delivery =>
            match t.world.tasks id with
            | some ⟨_, .sent command⟩ =>
                if t.live command.key then
                  some { t with
                    world := next
                    stamps := t.stampsAfter command delivery
                    readings := t.readingsAfter id command delivery }
                else none
            | _ => none
        | _ => some { t with world := next }
  | .wait duration => if 0 ≤ duration then some { t with clock := t.clock + duration } else none

end DatedWorld

/-! ## What is fresh -/

/-- A response that `handle_chat_completion` returned from the cache: neither its own provider chain
nor another call gave it. -/
def ChatCall.FromCache (call : ChatCall) (response : ChatResponse) : Prop :=
  call.point = .done (.returned response) ∧ call.chain = none ∧ call.inflight = none

/-- A call that has a response from the cache. -/
def Frame.FromCache : Frame → ChatResponse → Prop
  | .chat call, response => call.FromCache response
  | .stream call, response => call.cached = some response

/-- **A text is fresh**: it was given out while its time to live was running. -/
structure Reading.Fresh (env : Environment) (reading : Reading) : Prop where
  written : reading.stamp.time ≤ reading.time
  running : reading.time < reading.stamp.time + env.settings.cacheTtlSeconds

/-- What holds of the readings of a call that has a response from the cache. -/
def DatedWorld.Fresh (env : Environment) (t : DatedWorld) : Prop :=
  ∀ id frame wire response, t.world.tasks id = some ⟨frame, wire⟩ → frame.FromCache response →
    ∃ reading, t.readings id = some reading ∧ parseEntry env reading.text = some response ∧
      reading.Fresh env ∧ t.arrivals id ≤ reading.time ∧ reading.time ≤ t.clock

/-! ## What a step is -/

section Step

variable {env : Environment} {t next : DatedWorld} {action : DatedAction}

/-- **The dated steps.** -/
inductive DatedSteps (env : Environment) (t : DatedWorld) : DatedAction → DatedWorld → Prop
  | begins {id : CallId} {frame : Frame} {action : Action} {world : World}
      (moved : t.world.step env action = some world) (fresh : t.world.tasks id = none)
      (store : world.store = t.world.store)
      (tasks : world.tasks = Function.update t.world.tasks id
        (some ⟨frame, .sent (.get (frame.cacheKey env))⟩))
      (none : ∀ response, ¬ frame.FromCache response) :
      DatedSteps env t (.act action)
        { t with world, arrivals := Function.update t.arrivals id t.clock }
  | serves {id : CallId} {delivery : Delivery} {frame : Frame} {command : Command} {world : World}
      (moved : t.world.step env (.serve id delivery) = some world)
      (task : t.world.tasks id = some ⟨frame, .sent command⟩) (live : t.live command.key = true) :
      DatedSteps env t (.act (.serve id delivery))
        { t with
          world := t.world.deliver id frame command delivery
          stamps := t.stampsAfter command delivery
          readings := t.readingsAfter id command delivery }
  | apart {action : Action} {world : World} (moved : t.world.step env action = some world)
      (other : match action with
        | .start .. | .startStream .. | .serve .. => False
        | _ => True) :
      DatedSteps env t (.act action) { t with world }
  | wait {duration : ℚ} (nonneg : 0 ≤ duration) :
      DatedSteps env t (.wait duration) { t with clock := t.clock + duration }

theorem datedSteps_of_step (moved : t.step env action = some next) : DatedSteps env t action next := by
  cases action with
  | act action =>
      obtain ⟨world, stepped, rest⟩ := Option.bind_eq_some_iff.mp moved
      cases action with
      | start id replica request registry virtualKeyId =>
          cases rest
          cases steps_of_step stepped with
          | start fresh =>
              refine .begins stepped fresh rfl rfl fun response => ?_
              simp [Frame.FromCache, ChatCall.FromCache, ChatCall.start]
      | startStream id request registry virtualKeyId requestId =>
          cases rest
          cases steps_of_step stepped with
          | startStream fresh =>
              refine .begins stepped fresh rfl rfl fun response => ?_
              simp [Frame.FromCache, StreamCall.start]
      | serve id delivery =>
          cases steps_of_step stepped with
          | @serve _ frame command _ task =>
              dsimp only at rest
              rw [task] at rest
              dsimp only at rest
              split_ifs at rest with live
              cases rest
              exact .serves stepped task live
      | chat | stream | expire | limit | rollback =>
          cases rest
          exact .apart stepped trivial
  | wait duration =>
      simp only [DatedWorld.step] at moved
      split_ifs at moved with nonneg
      cases moved
      exact .wait nonneg

end Step

/-! ## The invariant -/

/-- A generator that replays a cached response, or has ended. -/
def StreamPoint.Replays (point : StreamPoint) : Prop :=
  (∃ rest, point = .replay rest) ∨ ∃ ending, point = .done ending

/-- What holds of a call, of the time it came at and of what it was last given. -/
structure Task.Dated (env : Environment) (clock arrival : ℚ) (reading : Option Reading) (task : Task) :
    Prop where
  arrived : arrival ≤ clock
  fresh : ∀ given, reading = some given → given.Fresh env ∧ arrival ≤ given.time ∧ given.time ≤ clock
  /-- A write to the cache has the configured time to live. -/
  writes : ∀ key raw expireSeconds, task.wire = .sent (.set key raw false expireSeconds) →
    expireSeconds = env.settings.cacheTtlSeconds
  replied : ∀ raw, task.wire = .replied (.bulk raw) → ∃ given, reading = some given ∧ given.text = raw
  /-- A call that has a response from the cache sends nothing any more. -/
  handed : ∀ response, task.frame.FromCache response → task.wire = .idle ∧
    ∃ given, reading = some given ∧ parseEntry env given.text = some response
  replays : ∀ call response, task.frame = .stream call → call.cached = some response →
    call.point.Replays

structure DatedWorld.Dated (env : Environment) (t : DatedWorld) : Prop where
  linked : t.world.Linked env
  flows : t.world.Flows env (fun _ _ => True) (fun _ _ => True)
  stamped : ∀ (digest : HexDigest) raw, t.world.store digest.text = some (.text raw) →
    (t.stamps digest.text).time ≤ t.clock ∧ (t.stamps digest.text).ttl = env.settings.cacheTtlSeconds
  tasks : ∀ id task, t.world.tasks id = some task →
    task.Dated env t.clock (t.arrivals id) (t.readings id)
  blank : ∀ id, t.world.tasks id = none → t.readings id = none

/-! ### Turns -/

section Turn

variable {env : Environment}

/-- What a turn of `handle_chat_completion` writes to the cache has the configured time to live. -/
theorem turns_ttl {id : CallId} {process : Process} {call : ChatCall} {clock : Clock} {input : Input}
    {turn : Turn} (turns : Turns env id process call clock input turn) {key raw : String}
    {expireSeconds : ℤ} (send : turn.send = some (.set key raw false expireSeconds)) :
    expireSeconds = env.settings.cacheTtlSeconds := by
  cases turns with
  | returnedFree | released =>
      cases send
      rfl
  | _ => cases send

/-- So does what a turn of `_stream_response` writes. -/
theorem streamTurns_ttl {call : StreamCall} {clock : StreamClock} {input : StreamInput}
    {turn : StreamTurn} (turns : StreamTurns env call clock input turn) {key raw : String}
    {expireSeconds : ℤ} (send : turn.send = some (.set key raw false expireSeconds)) :
    expireSeconds = env.settings.cacheTtlSeconds := by
  cases turns with
  | stored =>
      cases send
      rfl
  | _ => cases send

/-- The end of a call that returns a response without a chain of its own. -/
theorem settles_returned {record : UsageRecord} {response given : ChatResponse} {outcome : Outcome}
    {schedule : List UsageTask} (settles : Settles record response outcome schedule)
    (returned : outcome = .returned given) : response = given := by
  cases settles with
  | recorded => exact Outcome.returned.inj returned
  | refused => cases returned

/-- **A call takes a response from the cache** with the text that Redis has just given it. -/
theorem fromCache_of_turns {id : CallId} {process : Process} {call : ChatCall} {clock : Clock}
    {input : Input} {turn : Turn} (coherent : call.Coherent)
    (turns : Turns env id process call clock input turn) {response : ChatResponse}
    (taken : turn.call.FromCache response) :
    turn.send = none ∧ ∃ raw, input = .reply (.bulk raw) ∧ parseEntry env raw = some response := by
  obtain ⟨point, chain, inflight⟩ := taken
  cases turns with
  | hit _ read settles | waited _ read settles =>
      exact ⟨rfl, _, rfl, settles_returned settles (Point.done.inj point) ▸ read⟩
  | settled before =>
      simp only [ChatCall.Coherent, before] at coherent
      exact absurd (coherent.symm.trans chain) (by simp)
  | join | followed | followedRaise => cases inflight
  | _ => cases point

theorem Seeks.not_replays {call : StreamCall} {input : StreamInput} {attempted : List String}
    {lastError : Option ProviderError} {candidates : List BaseProvider}
    (seeks : Seeks call attempted lastError candidates input) : ¬ call.point.Replays := by
  rcases seeks with ⟨⟨point, -⟩ | point, -⟩ | point | point <;> simp [StreamPoint.Replays, point]

theorem Gains.not_replays {call : StreamCall} {input : StreamInput} {provider : BaseProvider}
    {line : String} (gains : Gains call provider line input) : ¬ call.point.Replays := by
  rcases gains with point | point <;> simp [StreamPoint.Replays, point]

/-- So does a stream. -/
theorem cached_of_streamTurns {call : StreamCall} {clock : StreamClock} {input : StreamInput}
    {turn : StreamTurn} (turns : StreamTurns env call clock input turn) {response : ChatResponse}
    (replays : ∀ held, call.cached = some held → call.point.Replays)
    (taken : turn.call.cached = some response) :
    turn.send = none ∧ turn.call.point.Replays ∧
      (call.cached = some response ∨
        ∃ raw, input = .reply (.bulk raw) ∧ parseEntry env raw = some response) := by
  -- a call that neither replays nor has ended has nothing from the cache
  have fresh : call.cached = some response → ¬ call.point.Replays → False :=
    fun held apart => apart (replays response held)
  cases turns with
  | hit _ read =>
      cases taken
      exact ⟨rfl, .inl ⟨_, rfl⟩, .inr ⟨_, rfl, read⟩⟩
  | hitCrash _ read =>
      cases taken
      exact ⟨rfl, .inr ⟨_, rfl⟩, .inr ⟨_, rfl, read⟩⟩
  | replay => exact ⟨rfl, .inl ⟨_, rfl⟩, .inl taken⟩
  | replayed | replayRefused | replayLost | stopped => exact ⟨rfl, .inr ⟨_, rfl⟩, .inl taken⟩
  | connect seeks | unavailable seeks => exact (fresh taken seeks.not_replays).elim
  | relay gains | relayCrash gains => exact (fresh taken gains.not_replays).elim
  | crash point =>
      refine (fresh taken ?_).elim
      rcases point with ⟨attempt, point⟩ | point <;> simp [StreamPoint.Replays, point]
  | unreadable point | interrupted point | stored point | ended point | refused point | pulled point
  | reported point | saved point =>
      exact (fresh taken (by simp [StreamPoint.Replays, point])).elim

end Turn

/-! ### Steps -/

section Kept

variable {env : Environment} {t : DatedWorld}

/-- Time passes. -/
theorem Task.Dated.later {clock clock' arrival : ℚ} {reading : Option Reading} {task : Task}
    (dated : task.Dated env clock arrival reading) (after : clock ≤ clock') :
    task.Dated env clock' arrival reading where
  arrived := dated.arrived.trans after
  fresh given same := by
    obtain ⟨fresh, come, past⟩ := dated.fresh given same
    exact ⟨fresh, come, past.trans after⟩
  writes := dated.writes
  replied := dated.replied
  handed := dated.handed
  replays := dated.replays

/-- A command stamps no key but its own. -/
theorem stampsAfter_other (t : DatedWorld) (command : Command) (delivery : Delivery) {key : String}
    (apart : key ≠ command.key) : t.stampsAfter command delivery key = t.stamps key := by
  cases command with
  | set =>
      simp only [DatedWorld.stampsAfter]
      split_ifs
      · exact Function.update_of_ne apart _ _
      · rfl
  | _ => rfl

theorem readingsAfter_other (t : DatedWorld) (command : Command) (delivery : Delivery)
    {id other : CallId} (apart : other ≠ id) :
    t.readingsAfter id command delivery other = t.readings other := by
  unfold DatedWorld.readingsAfter
  cases t.textGiven command delivery with
  | none => rfl
  | some raw => exact Function.update_of_ne apart _ _

/-- What Redis does with a command keeps the texts under the digests stamped. -/
theorem stamped_deliver (dated : t.Dated env) {id : CallId} {frame : Frame} {command : Command}
    (task : t.world.tasks id = some ⟨frame, .sent command⟩) (delivery : Delivery) (digest : HexDigest)
    (raw : String) (found : (delivery.apply t.world.store command) digest.text = some (.text raw)) :
    (t.stampsAfter command delivery digest.text).time ≤ t.clock ∧
      (t.stampsAfter command delivery digest.text).ttl = env.settings.cacheTtlSeconds := by
  have sends : Sends (fun _ _ => True) (frame.cacheKey env) command :=
    (dated.flows.tasks id _ task).sent command rfl
  have writes := (dated.tasks id _ task).writes
  have kept : t.world.store digest.text = some (.text raw) →
      t.stampsAfter command delivery digest.text = t.stamps digest.text →
        (t.stampsAfter command delivery digest.text).time ≤ t.clock ∧
          (t.stampsAfter command delivery digest.text).ttl = env.settings.cacheTtlSeconds := by
    intro before same
    rw [same]
    exact dated.stamped digest raw before
  by_cases refused : delivery = .refused
  · subst refused
    refine kept found ?_
    cases command <;> simp [DatedWorld.stampsAfter]
  have executed : (Redis.execute t.world.store command).1 digest.text = some (.text raw) := by
    cases delivery with
    | answered | lost => exact found
    | refused => exact absurd rfl refused
  by_cases own : digest.text = command.key
  · cases sends with
    | get => exact kept (by rwa [Redis.execute_get_store] at executed) rfl
    | delete =>
        rw [show digest.text = frame.cacheKey env from own, Redis.execute_delete_self] at executed
        cases executed
    | @store written expireSeconds _ =>
        have ttl : expireSeconds = env.settings.cacheTtlSeconds := writes _ _ _ rfl
        change digest.text = frame.cacheKey env at own
        by_cases positive : expireSeconds ≤ 0
        · have same : Redis.execute t.world.store (.set (frame.cacheKey env) written false expireSeconds) =
              (t.world.store, .error) := by simp [Redis.execute, positive]
          rw [same] at executed
          refine kept executed ?_
          simp [DatedWorld.stampsAfter, same]
        · have same : (Redis.execute t.world.store
              (.set (frame.cacheKey env) written false expireSeconds)).2 = .ok := by
            simp [Redis.execute, positive]
          have stamp : t.stampsAfter (.set (frame.cacheKey env) written false expireSeconds) delivery
              digest.text = ⟨t.clock, expireSeconds⟩ := by
            simp [DatedWorld.stampsAfter, same, refused, own]
          rw [stamp]
          exact ⟨le_rfl, ttl⟩
    | acquire | release => exact absurd own (digest_ne_lockKey digest _)
  · rw [Redis.execute_other _ _ own] at executed
    exact kept executed (stampsAfter_other t command delivery own)

/-- What a call is given by Redis is fresh. -/
theorem dated_deliver (dated : t.Dated env) {id : CallId} {frame : Frame} {command : Command}
    (task : t.world.tasks id = some ⟨frame, .sent command⟩) (live : t.live command.key = true)
    (delivery : Delivery) {wire : Wire}
    (now : (t.world.deliver id frame command delivery).tasks id = some ⟨frame, wire⟩) :
    (⟨frame, wire⟩ : Task).Dated env t.clock (t.arrivals id) (t.readingsAfter id command delivery id) := by
  have before := dated.tasks id _ task
  have sends : Sends (fun _ _ => True) (frame.cacheKey env) command :=
    (dated.flows.tasks id _ task).sent command rfl
  have unhanded : ∀ response, ¬ frame.FromCache response := fun response taken => by
    obtain ⟨idle, -⟩ := before.handed response taken
    cases idle
  -- a text comes from a read of a live key
  have text : ∀ raw, (Redis.execute t.world.store command).2 = .bulk raw →
      (⟨raw, t.stamps command.key, t.clock⟩ : Reading).Fresh env := by
    intro raw replied
    obtain ⟨rfl, found⟩ := sends.get_of_bulk replied
    have digest : (frame.digest env).text = frame.cacheKey env := Frame.digest_text env frame
    change t.live (frame.cacheKey env) = true at live
    simp only [DatedWorld.live, found, decide_eq_true_eq] at live
    rw [← digest] at found live
    obtain ⟨past, ttl⟩ := dated.stamped _ _ found
    rw [ttl, digest] at live
    rw [digest] at past
    exact ⟨past, live⟩
  have wired : wire = .replied .error ∧ t.readingsAfter id command delivery id = t.readings id ∨
      delivery = .answered ∧ wire = .replied (Redis.execute t.world.store command).2 := by
    cases delivery with
    | answered =>
        simp only [World.deliver, Function.update_self, Option.some.injEq, Task.mk.injEq, true_and] at now
        exact .inr ⟨rfl, now.symm⟩
    | lost | refused =>
        simp only [World.deliver, Function.update_self, Option.some.injEq, Task.mk.injEq, true_and] at now
        exact .inl ⟨now.symm, rfl⟩
  rcases wired with ⟨rfl, same⟩ | ⟨rfl, rfl⟩
  · rw [same]
    exact ⟨before.arrived, before.fresh, by simp, by simp,
      fun response taken => (unhanded response taken).elim, before.replays⟩
  · cases reply : (Redis.execute t.world.store command).2 with
    | bulk raw =>
        have reading : t.readingsAfter id command .answered id =
            some ⟨raw, t.stamps command.key, t.clock⟩ := by
          simp [DatedWorld.readingsAfter, DatedWorld.textGiven, reply]
        rw [reading]
        refine ⟨before.arrived, ?_, by simp, ?_, fun response taken => (unhanded response taken).elim,
          before.replays⟩
        · rintro given same
          cases same
          exact ⟨text raw reply, before.arrived, le_rfl⟩
        · rintro other same
          cases same
          exact ⟨_, rfl, rfl⟩
    | error | nil | ok | integer =>
        have reading : t.readingsAfter id command .answered id = t.readings id := by
          simp [DatedWorld.readingsAfter, DatedWorld.textGiven, reply]
        rw [reading]
        exact ⟨before.arrived, before.fresh, by simp, by simp,
          fun response taken => (unhanded response taken).elim, before.replays⟩

/-- A call that goes on, of either endpoint: nothing else is new than what the turn takes. -/
theorem Task.Dated.turned {clock arrival : ℚ} {reading : Option Reading} {task : Task}
    (dated : task.Dated env clock arrival reading) {frame : Frame} {send : Option Command}
    (ttl : ∀ key raw expireSeconds, send = some (.set key raw false expireSeconds) →
      expireSeconds = env.settings.cacheTtlSeconds)
    (handed : ∀ response, frame.FromCache response → send = none ∧
      (task.frame.FromCache response ∨
        ∃ raw, task.wire = .replied (.bulk raw) ∧ parseEntry env raw = some response))
    (replays : ∀ call response, frame = .stream call → call.cached = some response →
      call.point.Replays) :
    (⟨frame, task.wire.after send⟩ : Task).Dated env clock arrival reading where
  arrived := dated.arrived
  fresh := dated.fresh
  writes key raw expireSeconds same := by
    cases send with
    | some command =>
        have own := Wire.sent.inj same
        exact ttl key raw expireSeconds (congrArg some own)
    | none =>
        refine dated.writes key raw expireSeconds ?_
        cases wired : task.wire <;> rw [wired] at same <;> first | exact same | cases same
  replied raw same := by
    cases send with
    | some command => cases same
    | none =>
        cases wired : task.wire <;> rw [wired] at same <;> cases same
  handed response taken := by
    obtain ⟨rfl, before⟩ := handed response taken
    rcases before with held | ⟨raw, wired, read⟩
    · obtain ⟨idle, found⟩ := dated.handed response held
      exact ⟨by rw [idle]; rfl, found⟩
    · obtain ⟨given, same, rfl⟩ := dated.replied raw wired
      exact ⟨by rw [wired]; rfl, given, same, read⟩
  replays := replays

end Kept

/-- A call in a world whose other calls stay as they were. -/
theorem dated_update {env : Environment} {t : DatedWorld} (dated : t.Dated env) {id : CallId}
    {task : Task} {tasks : CallId → Option Task} (arrivals : CallId → ℚ)
    (readings : CallId → Option Reading) (updated : tasks = Function.update t.world.tasks id (some task))
    (arrivalsOther : ∀ other, other ≠ id → arrivals other = t.arrivals other)
    (readingsOther : ∀ other, other ≠ id → readings other = t.readings other)
    (here : task.Dated env t.clock (arrivals id) (readings id)) :
    (∀ other found, tasks other = some found →
        found.Dated env t.clock (arrivals other) (readings other)) ∧
      ∀ other, tasks other = none → readings other = none := by
  subst updated
  constructor
  · intro other found there
    by_cases same : other = id
    · subst same
      rw [Function.update_self] at there
      cases there
      exact here
    · rw [Function.update_of_ne same] at there
      rw [arrivalsOther other same, readingsOther other same]
      exact dated.tasks other found there
  · intro other absent
    by_cases same : other = id
    · subst same
      rw [Function.update_self] at absent
      cases absent
    · rw [Function.update_of_ne same] at absent
      rw [readingsOther other same]
      exact dated.blank other absent

section Run

variable {env : Environment} {t next : DatedWorld} {action : DatedAction}

theorem lawful_any : Lawful env (fun _ _ => True) (fun _ _ => True) := ⟨by simp, by simp⟩

/-- What a step keeps of the replicas themselves. -/
theorem dated_world (dated : t.Dated env) {action : Action} {world : World}
    (moved : t.world.step env action = some world) :
    world.Linked env ∧ world.Flows env (fun _ _ => True) (fun _ _ => True) :=
  ⟨linked_step dated.linked moved,
    flows_step lawful_any dated.linked dated.flows moved fun _ _ _ => trivial⟩

theorem dated_step (dated : t.Dated env) (moved : t.step env action = some next) : next.Dated env := by
  cases datedSteps_of_step moved with
  | @begins id frame action world stepped fresh store tasks none =>
      obtain ⟨linked, flows⟩ := dated_world dated stepped
      have blank := dated.blank id fresh
      obtain ⟨each, rest⟩ := dated_update dated (Function.update t.arrivals id t.clock) t.readings tasks
        (fun other apart => Function.update_of_ne apart _ _) (fun _ _ => rfl)
        ⟨by rw [Function.update_self], by simp [blank], by simp, by simp,
          fun response taken => (none response taken).elim,
          fun call response same held =>
            (none response (by rw [show frame = .stream call from same]; exact held)).elim⟩
      exact ⟨linked, flows, by rw [store]; exact dated.stamped, each, rest⟩
  | @serves id delivery frame command world stepped task live =>
      have deliver : world = t.world.deliver id frame command delivery := by
        cases steps_of_step stepped with
        | serve there =>
            rw [task] at there
            cases there
            rfl
      subst deliver
      obtain ⟨linked, flows⟩ := dated_world dated stepped
      obtain ⟨wire, tasks⟩ : ∃ wire, (t.world.deliver id frame command delivery).tasks =
          Function.update t.world.tasks id (some ⟨frame, wire⟩) := by
        cases delivery <;> exact ⟨_, rfl⟩
      obtain ⟨each, rest⟩ := dated_update dated t.arrivals (t.readingsAfter id command delivery) tasks
        (fun _ _ => rfl)
        (fun other apart => readingsAfter_other t command delivery apart)
        (dated_deliver dated task live delivery (by rw [tasks, Function.update_self]))
      have store : (t.world.deliver id frame command delivery).store =
          delivery.apply t.world.store command := by cases delivery <;> rfl
      refine ⟨linked, flows, fun digest raw found => ?_, each, rest⟩
      rw [store] at found
      exact stamped_deliver dated task delivery digest raw found
  | @apart action world stepped other =>
      obtain ⟨linked, flows⟩ := dated_world dated stepped
      cases steps_of_step stepped with
      | start | startStream | serve => exact other.elim
      | @chat id call wire input clock turn task fits turns =>
          have coherent : call.Coherent := dated.linked.sound.coherent id call
            (World.call_eq_some.mpr ⟨wire, task⟩)
          have before := dated.tasks id _ task
          obtain ⟨each, rest⟩ := @dated_update env t dated id ⟨.chat turn.call, wire.after turn.send⟩ _
            t.arrivals t.readings rfl (fun _ _ => rfl) (fun _ _ => rfl) (before.turned
              (fun _ _ _ => turns_ttl turns)
              (fun response taken => by
                obtain ⟨unsent, raw, rfl, read⟩ := fromCache_of_turns coherent turns taken
                exact ⟨unsent, .inr ⟨raw, beq_iff_eq.mp fits, read⟩⟩)
              (fun _ _ same => by cases same))
          exact ⟨linked, flows, dated.stamped, each, rest⟩
      | @stream id call wire input clock turn task fits turns =>
          have before := dated.tasks id _ task
          have replays : ∀ held, call.cached = some held → call.point.Replays :=
            fun held same => before.replays call held rfl same
          obtain ⟨each, rest⟩ := @dated_update env t dated id ⟨.stream turn.call, wire.after turn.send⟩ _
            t.arrivals t.readings rfl (fun _ _ => rfl) (fun _ _ => rfl) (before.turned
              (fun _ _ _ => streamTurns_ttl turns)
              (fun response taken => by
                obtain ⟨unsent, -, held | ⟨raw, rfl, read⟩⟩ := cached_of_streamTurns turns replays taken
                · exact ⟨unsent, .inl held⟩
                · exact ⟨unsent, .inr ⟨raw, beq_iff_eq.mp fits, read⟩⟩)
              (fun later response same held => by
                cases same
                exact (cached_of_streamTurns turns replays held).2.1))
          exact ⟨linked, flows, dated.stamped, each, rest⟩
      | @expire key =>
          refine ⟨linked, flows, fun digest raw found => ?_, dated.tasks, dated.blank⟩
          change t.world.store.erase key digest.text = _ at found
          by_cases same : digest.text = key
          · rw [same, Store.erase_self] at found
            cases found
          · rw [Store.erase_of_ne _ same] at found
            exact dated.stamped digest raw found
      | limit =>
          refine ⟨linked, flows, fun digest raw found => ?_, dated.tasks, dated.blank⟩
          exact dated.stamped digest raw
            ((checkPipeline_other _ (digest_ne_rateLimitKey digest _)).symm.trans found)
      | rollback =>
          refine ⟨linked, flows, fun digest raw found => ?_, dated.tasks, dated.blank⟩
          exact dated.stamped digest raw
            ((Redis.execute_other _ _ (digest_ne_rateLimitKey digest _)).symm.trans found)
  | wait nonneg =>
      have after : t.clock ≤ t.clock + _ := le_add_of_nonneg_right nonneg
      refine ⟨dated.linked, dated.flows, fun digest raw found => ?_,
        fun id task there => (dated.tasks id task there).later after, dated.blank⟩
      obtain ⟨past, ttl⟩ := dated.stamped digest raw found
      exact ⟨past.trans after, ttl⟩

theorem dated_init (env : Environment) : DatedWorld.init.Dated env where
  linked := linked_init env Store.empty
  flows := ⟨by simp, by simp [DatedWorld.init, World.init]⟩
  stamped digest raw found := by simp [DatedWorld.init, World.init, Store.empty] at found
  tasks id task there := by simp [DatedWorld.init, World.init] at there
  blank _ _ := rfl

theorem dated_run {actions : List DatedAction}
    (reached : run (DatedWorld.step env) .init actions = some t) : t.Dated env :=
  run_induction_of_step (P := fun _ t => t.Dated env) (dated_init env)
    (fun _ _ _ _ _ dated moved => dated_step dated moved) reached

end Run

/-! ## Freshness -/

/-- **No answer from the cache is too old.** In every state of every run, whatever is lost, cancelled or
forgotten, a call that has a response from the cache, to return or to replay, was given its text by
Redis since it came, less than `CACHE_TTL_SECONDS` after the text was written. -/
theorem cache_fresh (env : Environment) (actions : List DatedAction) (t : DatedWorld)
    (reached : run (DatedWorld.step env) .init actions = some t) : t.Fresh env := by
  intro id frame wire response task taken
  have dated := (dated_run reached).tasks id _ task
  obtain ⟨-, given, same, read⟩ := dated.handed response taken
  obtain ⟨fresh, come, past⟩ := dated.fresh given same
  exact ⟨given, same, read, fresh, come, past⟩

/-- A request is answered by a provider and stored; after some minutes the same request comes to
another process, which takes the answer from the cache just in time. -/
def hittingLate : List DatedAction :=
  (hitting.take (hitting.length - 3)).map .act ++ [.wait 200] ++
    (hitting.drop (hitting.length - 3)).map .act

/-- The theorem about this run, at the end of which the second call has its response from the cache. -/
theorem cache_fresh_hittingLate :
    ∃ t, run (DatedWorld.step demoEnvironment) .init hittingLate = some t ∧ t.Fresh demoEnvironment ∧
      t.clock = 200 := by
  have runs : ((run (DatedWorld.step demoEnvironment) .init hittingLate).map
      DatedWorld.clock) = some 200 := by decide +kernel
  obtain ⟨t, reached, clock⟩ := Option.map_eq_some_iff.mp runs
  exact ⟨t, reached, cache_fresh demoEnvironment hittingLate t reached, clock⟩

end LlmGateway
