import LlmGateway.Cluster.Calls

/-!
# What a call can be handed

A response reaches a call from Redis, from a future in flight or from its own provider
call, and it reaches Redis only through the cache write of a call. So what holds of
every response a provider call produces, and survives the way through the codec, holds of
every response that a call is handed.

* `Sends` lists the commands of a call: all of them are about its cache key or about the
  lock of that key.
* `World.Flows` is the invariant, for a predicate `good` on responses and a predicate `entry` on
  the texts under a cache key. `flows_step` says that a step keeps it when what
  the step produces is good.
* `World.Linked` is what it rests on: a follower waits for a call of its own process and
  key, and a resolved future holds what the chain of its creator ended with.
-/

set_option autoImplicit false

namespace LlmGateway

open LlmGateway.Library
open LlmGateway.Library.Redis (Command Reply Store)

variable {env : Environment}

/-! ## Calls -/

section Turn

variable {id : CallId} {process : Process} {call : ChatCall} {clock : Clock} {input : Input}
  {turn : Turn}

/-- A call waits for the future that it found in the table. -/
theorem turns_follow {leader : CallId} (turns : Turns env id process call clock input turn)
    (point : turn.call.point = .follow leader) : process.entry = some leader := by
  cases turns with
  | join missed entry waiting => cases point; exact entry
  | _ => cases point

/-- What a chain ended with does not change. -/
theorem turns_chain {ending : ChainEnding} (coherent : call.Coherent)
    (chain : call.chain = some ending) (turns : Turns env id process call clock input turn) :
    turn.call.chain = some ending := by
  rcases turns_table turns with ⟨leads, -, -⟩ | ⟨-, -, -, same⟩ | ⟨inside, -, -, -⟩
  · rw [leads.chain coherent] at chain
    cases chain
  · rw [same, chain]
  · cases point : call.point with
    | execute attempt =>
        simp only [ChatCall.Coherent, point] at coherent
        rw [coherent] at chain
        cases chain
    | _ => rw [point] at inside; cases inside

/-- An answer of a provider ends the chain. -/
theorem turns_answered {response : ChatResponse}
    (turns : Turns env id process call clock (.attempt (.answered response)) turn) :
    call.point.executing = true ∧
      ∃ provider, turn.call.chain = some (.returned provider response) := by
  cases turns with
  | retry point moved =>
      obtain ⟨error, wrong, -⟩ := Attempt.resume_next moved
      cases wrong
  | returnedLocked point ended | returnedFree point ended | returnedClash point ended =>
      obtain ⟨same, -⟩ := Attempt.resume_returned ended
      cases same
      exact ⟨by rw [point]; rfl, _, rfl⟩
  | raisedLocked point ended | raisedFree point ended =>
      rcases Attempt.resume_raised ended with ⟨name, wrong, -⟩ | ⟨error, failure, wrong, -⟩ <;>
        cases wrong
  | join missed | unknown missed | contend missed => cases missed
  | followed awaits | followedRaise awaits => obtain ⟨⟨⟩, -⟩ := awaits
  | poll waits => cases waits
  | lead gives => obtain ⟨⟨⟩, -⟩ := gives

end Turn

/-- A call goes on with the arguments it had, and what its chain ended with stays. -/
theorem call_step {w next : World} {action : Action} (coherent : w.Coherent)
    (moved : w.step env action = some next) {id : CallId} {call : ChatCall}
    (running : w.call id = some call) :
    ∃ later, next.call id = some later ∧ SameArguments call later ∧
      ∀ ending, call.chain = some ending → later.chain = some ending := by
  have unchanged : next.call id = w.call id → ∃ later, next.call id = some later ∧
      SameArguments call later ∧
        ∀ ending, call.chain = some ending → later.chain = some ending := fun same =>
    ⟨call, same.trans running, ⟨rfl, rfl, rfl, rfl⟩, fun _ chain => chain⟩
  cases moves_of_step moved with
  | starts fresh calls inflight futures =>
      refine unchanged ?_
      rw [calls, Function.update_of_ne]
      rintro rfl
      rw [fresh] at running
      cases running
  | stays _ calls inflight futures => exact unchanged (by rw [calls])
  | @turns acting call' input clock turn _ before turns calls inflight futures =>
      by_cases same : id = acting
      · subst same
        obtain rfl := Option.some.inj (running.symm.trans before)
        exact ⟨turn.call, by rw [calls, Function.update_self], turns_arguments turns,
          fun ending chain => turns_chain (coherent id call running) chain turns⟩
      · exact unchanged (by rw [calls, Function.update_of_ne same])

/-! ## Generators -/

/-- The call of `_stream_response` with this number. -/
def World.stream (w : World) (id : CallId) : Option StreamCall :=
  match w.tasks id with
  | some ⟨.stream call, _⟩ => some call
  | _ => none

theorem World.stream_eq_some {w : World} {id : CallId} {call : StreamCall} :
    w.stream id = some call ↔ ∃ wire, w.tasks id = some ⟨.stream call, wire⟩ := by
  unfold World.stream
  split
  · rename_i other wire task
    simp [task]
  · rename_i notStream
    simp only [reduceCtorEq, false_iff, not_exists]
    exact fun wire task => notStream call wire task

/-- A generator has nothing to write before its stream has come to its end. -/
def StreamCall.Coherent (call : StreamCall) : Prop :=
  match call.point with
  | .cacheSet => call.success = true
  | .done _ => call.written.isSome = true → call.success = true
  | _ => call.success = false ∧ call.written = none

section StreamTurn

variable {call : StreamCall} {clock : StreamClock} {input : StreamInput} {turn : StreamTurn}

/-- The arguments of a generator do not change. -/
theorem streamTurns_arguments (turns : StreamTurns env call clock input turn) :
    turn.call.request = call.request ∧ turn.call.virtualKeyId = call.virtualKeyId := by
  cases turns <;> exact ⟨rfl, rfl⟩

theorem streamTurns_cacheKey (turns : StreamTurns env call clock input turn) :
    turn.call.cacheKey env = call.cacheKey env := by
  rw [StreamCall.cacheKey, StreamCall.cacheKey, (streamTurns_arguments turns).1,
    (streamTurns_arguments turns).2]

theorem Gains.point {provider : BaseProvider} {line : String} (gains : Gains call provider line input) :
    (∃ attempt, call.point = .connect attempt) ∨ call.point = .read := by
  rcases gains with ⟨point, -⟩ | ⟨point, -⟩
  · exact .inl ⟨_, point⟩
  · exact .inr point

theorem Seeks.point {attempted : List String} {lastError : Option ProviderError}
    {candidates : List BaseProvider} (seeks : Seeks call attempted lastError candidates input) :
    call.point = .cacheGet ∨ call.point = .discard ∨ ∃ attempt, call.point = .connect attempt := by
  rcases seeks with ⟨⟨point, -⟩ | point, -, -, -⟩ | ⟨point, -, -, -⟩ | ⟨point, -, -, -⟩
  · exact .inl point
  · exact .inr (.inl point)
  · exact .inr (.inr ⟨_, point⟩)
  · exact .inr (.inr ⟨_, point⟩)

/-- A generator whose stream has not come to its end. -/
theorem StreamCall.Coherent.unfinished (coherent : call.Coherent) {point : StreamPoint}
    (at_ : call.point = point) (open_ : point ≠ .cacheSet ∧ ∀ ending, point ≠ .done ending) :
    call.success = false ∧ call.written = none := by
  unfold StreamCall.Coherent at coherent
  split at coherent
  · rename_i here
    exact absurd (at_.symm.trans here) open_.1
  · rename_i ending here
    exact absurd (at_.symm.trans here) (open_.2 ending)
  · exact coherent

theorem streamTurns_coherent (coherent : call.Coherent)
    (turns : StreamTurns env call clock input turn) : turn.call.Coherent := by
  -- the call before the turn, where it has nothing to write
  have before : ∀ {point : StreamPoint}, call.point = point →
      (point ≠ .cacheSet ∧ ∀ ending, point ≠ .done ending) →
        call.success = false ∧ call.written = none := coherent.unfinished
  have ends : call.success = false ∧ call.written = none →
      call.written.isSome = true → call.success = true := by
    rintro ⟨-, written⟩ some_
    rw [written] at some_
    cases some_
  cases turns with
  | hit point | unreadable point | replay point | interrupted point | pulled point =>
      exact before point (by simp)
  | hitCrash point | replayed point | replayRefused point | replayLost point | reported point =>
      exact ends (before point (by simp))
  | connect seeks | unavailable seeks =>
      rcases seeks.point with point | point | ⟨attempt, point⟩ <;> exact before point (by simp)
  | relay gains =>
      rcases gains.point with ⟨attempt, point⟩ | point <;> exact before point (by simp)
  | relayCrash gains =>
      rcases gains.point with ⟨attempt, point⟩ | point <;> exact ends (before point (by simp))
  | crash point =>
      rcases point with ⟨attempt, point⟩ | point <;> exact ends (before point (by simp))
  | stored => exact rfl
  | ended | refused => exact fun _ => rfl
  | saved point =>
      simp only [StreamCall.Coherent, point] at coherent
      exact fun _ => coherent
  | stopped running =>
      intro some_
      unfold StreamCall.Coherent at coherent
      split at coherent
      · exact coherent
      · exact coherent some_
      · exact ends coherent some_

/-- What was written stays. -/
theorem streamTurns_kept (coherent : call.Coherent)
    (turns : StreamTurns env call clock input turn) :
    (call.success = true → turn.call.success = true) ∧
      ∀ response, call.written = some response → turn.call.written = some response := by
  cases turns with
  | stored point =>
      refine ⟨fun _ => rfl, fun response written => ?_⟩
      rw [(coherent.unfinished point (by simp)).2] at written
      cases written
  | ended | refused => exact ⟨fun _ => rfl, fun _ written => written⟩
  | _ => exact ⟨id, fun _ written => written⟩

/-- A response is written when the stream has come to its end, and only then. -/
theorem streamTurns_written {response : ChatResponse}
    (turns : StreamTurns env call clock input turn) (written : turn.call.written = some response) :
    call.written = some response ∨ input = .event .exhausted ∧ turn.call.success = true := by
  cases turns with
  | stored => exact .inr ⟨rfl, rfl⟩
  | _ => exact .inl written

end StreamTurn

/-- A generator goes on with the arguments it had, and what it wrote stays. -/
theorem stream_step {w next : World} {action : Action}
    (coherent : ∀ id call, w.stream id = some call → call.Coherent)
    (moved : w.step env action = some next) {id : CallId} {call : StreamCall}
    (running : w.stream id = some call) :
    ∃ later, next.stream id = some later ∧ later.request = call.request ∧
      later.virtualKeyId = call.virtualKeyId ∧ (call.success = true → later.success = true) ∧
        ∀ response, call.written = some response → later.written = some response := by
  obtain ⟨wire, task⟩ := World.stream_eq_some.mp running
  have kept : ∀ wire', next.tasks id = some ⟨.stream call, wire'⟩ → ∃ later,
      next.stream id = some later ∧ later.request = call.request ∧
        later.virtualKeyId = call.virtualKeyId ∧ (call.success = true → later.success = true) ∧
          ∀ response, call.written = some response → later.written = some response :=
    fun wire' now =>
      ⟨call, World.stream_eq_some.mpr ⟨wire', now⟩, rfl, rfl, fun done => done, fun _ same => same⟩
  cases steps_of_step moved with
  | @start other replica request registry virtualKeyId fresh
  | @startStream other request registry virtualKeyId requestId fresh =>
      refine kept wire (Eq.trans (Function.update_of_ne ?_ _ _) task)
      rintro rfl
      rw [task] at fresh
      cases fresh
  | @serve other frame command delivery sent =>
      by_cases same : id = other
      · subst same
        obtain ⟨rfl, rfl⟩ := Task.mk.inj (Option.some.inj (task.symm.trans sent))
        cases delivery <;> exact kept _ (Function.update_self _ _ _)
      · cases delivery <;> exact kept wire (Eq.trans (Function.update_of_ne same _ _) task)
  | @chat other call' wire' input clock turn there fits turns =>
      refine kept wire (Eq.trans (Function.update_of_ne ?_ _ _) task)
      rintro rfl
      rw [task] at there
      cases there
  | @stream other call' wire' input clock turn there fits turns =>
      by_cases same : id = other
      · subst same
        obtain ⟨frames, rfl⟩ := Task.mk.inj (Option.some.inj (task.symm.trans there))
        obtain rfl := Frame.stream.inj frames
        have arguments := streamTurns_arguments turns
        have written := streamTurns_kept (coherent id call running) turns
        exact ⟨turn.call, World.stream_eq_some.mpr ⟨_, Function.update_self _ _ _⟩, arguments.1,
          arguments.2, written.1, written.2⟩
      · exact kept wire (Eq.trans (Function.update_of_ne same _ _) task)
  | expire | limit | rollback => exact kept wire task

/-- A step of a run without streams starts none. -/
theorem streams_step {w next : World} {action : Action} (streams : ∀ id, w.stream id = none)
    (unstreamed : action.opensStream = false) (moved : w.step env action = some next) (id : CallId) :
    next.stream id = none := by
  by_contra present
  obtain ⟨call, running⟩ := Option.ne_none_iff_exists'.mp present
  obtain ⟨wire, there⟩ := World.stream_eq_some.mp running
  have before : ∀ wire, w.tasks id ≠ some ⟨.stream call, wire⟩ := fun wire there => by
    have running : w.stream id = some call := World.stream_eq_some.mpr ⟨wire, there⟩
    rw [streams id] at running
    cases running
  cases steps_of_step moved with
  | start =>
      simp only [World.spawn, Function.update_apply] at there
      split_ifs at there
      · cases there
      · exact before wire there
  | startStream => cases unstreamed
  | @serve other frame command delivery task =>
      cases delivery <;> simp only [World.deliver, Function.update_apply] at there <;>
        split_ifs at there with same
      all_goals
        first
        | exact before wire there
        | (obtain rfl := same
           cases there
           exact before _ task)
  | chat =>
      simp only [World.applyTurn, Function.update_apply] at there
      split_ifs at there
      · cases there
      · exact before wire there
  | @stream other call' wire' input clock turn task =>
      have running : w.stream other = some call' := World.stream_eq_some.mpr ⟨wire', task⟩
      rw [streams other] at running
      cases running
  | expire | limit | rollback => exact before wire there

/-! ## Followers and futures -/

/-- Who follows a future follows a call of its own process and cache key, a resolved
future holds what the chain of its creator ended with, and the local variables of every
generator are coherent. -/
structure World.Linked (env : Environment) (w : World) : Prop where
  sound : w.Sound env
  joined : ∀ id call leader, w.call id = some call → call.point = .follow leader →
    ∃ creator, w.call leader = some creator ∧ creator.slot env = call.slot env
  resolved : ∀ id state, w.futures id = some state → state ≠ .pending → state ≠ .cancelled →
    ∃ creator, w.call id = some creator ∧ Told creator.chain state
  streams : ∀ id call, w.stream id = some call → call.Coherent

theorem linked_init (env : Environment) (store : Store) : (World.init store).Linked env where
  sound := sound_init env store
  joined id call leader running := by simp [World.init, World.call] at running
  resolved id state future := by simp [World.init] at future
  streams id call running := by simp [World.init, World.stream] at running

theorem linked_step {w next : World} {action : Action} (linked : w.Linked env)
    (moved : w.step env action = some next) : next.Linked env := by
  have coherent := linked.sound.coherent
  refine ⟨sound_step linked.sound moved, ?_, ?_, ?_⟩
  · intro id call leader running point
    -- the leader is a call of the state before, and it still has the same place
    have kept : ∀ creator, w.call leader = some creator → creator.slot env = call.slot env →
        ∃ creator, next.call leader = some creator ∧ creator.slot env = call.slot env := by
      intro creator there place
      obtain ⟨later, now, same, -⟩ := call_step coherent moved there
      exact ⟨later, now, (same.slot env).trans place⟩
    have before : w.call id = some call → ∃ creator, next.call leader = some creator ∧
        creator.slot env = call.slot env := by
      intro old
      obtain ⟨creator, there, place⟩ := linked.joined id call leader old point
      exact kept creator there place
    cases moves_of_step moved with
    | starts fresh calls inflight futures =>
        rw [calls, Function.update_apply] at running
        split_ifs at running with same
        · obtain rfl := Option.some.inj running
          cases point
        · exact before running
    | stays _ calls inflight futures => exact before (calls ▸ running)
    | @turns acting call' input clock turn _ found turns calls inflight futures =>
        rw [calls, Function.update_apply] at running
        split_ifs at running with same
        · obtain rfl := Option.some.inj running
          obtain ⟨creator, there, place, -⟩ :=
            linked.sound.tabled _ leader (turns_follow turns point)
          exact kept creator there (place.trans ((turns_arguments turns).slot env).symm)
        · exact before running
  · intro id state future decided uncancelled
    have before : w.futures id = some state →
        ∃ creator, next.call id = some creator ∧ Told creator.chain state := by
      intro old
      obtain ⟨creator, there, told⟩ := linked.resolved id state old decided uncancelled
      obtain ⟨later, now, -, chain⟩ := call_step coherent moved there
      refine ⟨later, now, ?_⟩
      generalize ended : creator.chain = ending at told
      cases told with
      | result provider response => rw [chain _ ended]; exact .result provider response
      | exception exception => rw [chain _ ended]; exact .exception exception
    cases moves_of_step moved with
    | starts fresh calls inflight futures => exact before (futures ▸ future)
    | stays _ calls inflight futures => exact before (futures ▸ future)
    | @turns acting call' input clock turn _ found turns calls inflight futures =>
        rw [futures] at future
        rcases turns_futures (coherent acting call' found) turns with kept | ⟨-, created⟩ |
          ⟨pending, resolved, told⟩ | ⟨-, point, pending, cancelled⟩
        · exact before ((congrFun kept id).symm.trans future)
        · rw [created, Function.update_apply] at future
          split_ifs at future with same
          · exact absurd (Option.some.inj future).symm decided
          · exact before future
        · rw [resolved, Function.update_apply] at future
          split_ifs at future with same
          · obtain rfl := Option.some.inj future
            exact ⟨turn.call, by rw [calls, same, Function.update_self], told⟩
          · exact before future
        · rw [cancelled, Function.update_apply] at future
          split_ifs at future with same
          · exact absurd (Option.some.inj future).symm uncancelled
          · exact before future
  · intro id call running
    obtain ⟨wire, task⟩ := World.stream_eq_some.mp running
    -- a generator that this step does not run
    have before : ∀ wire', w.tasks id = some ⟨.stream call, wire'⟩ → call.Coherent :=
      fun wire' there => linked.streams id call (World.stream_eq_some.mpr ⟨wire', there⟩)
    cases steps_of_step moved with
    | start fresh =>
        simp only [World.spawn, Function.update_apply] at task
        split_ifs at task
        · cases task
        · exact before wire task
    | startStream fresh =>
        simp only [World.spawn, Function.update_apply] at task
        split_ifs at task
        · cases task
          exact ⟨rfl, rfl⟩
        · exact before wire task
    | @serve other frame command delivery sent =>
        cases delivery <;> simp only [World.deliver, Function.update_apply] at task <;>
          split_ifs at task with same
        all_goals
          first
          | exact before wire task
          | (obtain rfl := same
             cases task
             exact before _ sent)
    | chat there fits turns =>
        simp only [World.applyTurn, Function.update_apply] at task
        split_ifs at task
        · cases task
        · exact before wire task
    | @stream other call' wire' input clock turn there fits turns =>
        simp only [World.applyStreamTurn, Function.update_apply] at task
        split_ifs at task with same
        · cases task
          exact streamTurns_coherent
            (linked.streams other call' (World.stream_eq_some.mpr ⟨wire', there⟩)) turns
        · exact before wire task
    | expire | limit | rollback => exact before wire task

/-- What a call reads from a resolved future is what a chain of its own process and key ended
with. -/
theorem World.Linked.creator {w : World} (linked : w.Linked env) {id leader : CallId}
    {call : ChatCall} {input : Input} {state : FutureState} (running : w.call id = some call)
    (awaits : Awaits (w.process env call) call leader input)
    (future : w.futures leader = some state) (decided : state ≠ .pending)
    (uncancelled : state ≠ .cancelled) :
    ∃ creator, w.call leader = some creator ∧ creator.slot env = call.slot env ∧
      Told creator.chain state := by
  obtain ⟨creator, there, told⟩ := linked.resolved leader _ future decided uncancelled
  refine ⟨creator, there, ?_, told⟩
  rcases awaits with ⟨-, entry⟩ | point
  · obtain ⟨found, at_, place, -⟩ := linked.sound.tabled _ leader entry
    obtain rfl := Option.some.inj (there.symm.trans at_)
    exact place
  · obtain ⟨found, at_, place⟩ := linked.joined id call leader running point
    obtain rfl := Option.some.inj (there.symm.trans at_)
    exact place

/-- A result that a call reads comes from a chain of its own process and key. -/
theorem World.Linked.awaited {w : World} (linked : w.Linked env) {id leader : CallId}
    {call : ChatCall} {input : Input} {response : ChatResponse} (running : w.call id = some call)
    (awaits : Awaits (w.process env call) call leader input)
    (result : w.futures leader = some (.result response)) :
    ∃ creator provider, w.call leader = some creator ∧ creator.slot env = call.slot env ∧
      creator.chain = some (.returned provider response) := by
  obtain ⟨creator, there, place, told⟩ := linked.creator running awaits result (by simp) (by simp)
  generalize ended : creator.chain = ending at told
  cases told with
  | result provider => exact ⟨creator, provider, there, place, ended⟩

/-! ## The commands of a call -/

/-- The cache key of a call. -/
def Frame.cacheKey (env : Environment) : Frame → String
  | .chat call => call.cacheKey env
  | .stream call => call.cacheKey env

/-- The digest that the cache key of a call is. -/
def Frame.digest (env : Environment) : Frame → HexDigest
  | .chat call => env.sha256 (cacheKeyBody call.request (some (.int call.virtualKeyId)))
  | .stream call => env.sha256 (cacheKeyBody call.request (some (.int call.virtualKeyId)))

theorem Frame.digest_text (env : Environment) (frame : Frame) :
    (frame.digest env).text = frame.cacheKey env := by
  cases frame <;> rfl

/-- **The commands that a call of this cache key sends.** What it writes under the key
satisfies `entry`. -/
inductive Sends (entry : String → String → Prop) (cacheKey : String) : Command → Prop
  | get : Sends entry cacheKey (.get cacheKey)
  | delete : Sends entry cacheKey (.delete cacheKey)
  | store {raw : String} {expireSeconds : ℤ} (written : entry cacheKey raw) :
      Sends entry cacheKey (.set cacheKey raw false expireSeconds)
  | acquire {token : String} {expireSeconds : ℤ} :
      Sends entry cacheKey (.set (lockKey cacheKey) token true expireSeconds)
  | release {token : String} : Sends entry cacheKey (.compareAndDelete (lockKey cacheKey) token)

/-- A command of a call leaves the texts under the digests as they should be. -/
theorem Sends.stored {entry : String → String → Prop} {frame : Frame} {command : Command}
    {store : Store} (sends : Sends entry (frame.cacheKey env) command)
    (stored : ∀ (digest : HexDigest) raw, store digest.text = some (.text raw) →
      entry digest.text raw)
    (digest : HexDigest) (raw : String)
    (found : (Redis.execute store command).1 digest.text = some (.text raw)) :
    entry digest.text raw := by
  have other : digest.text ≠ command.key → entry digest.text raw := fun ne =>
    stored digest raw (Redis.execute_other store command ne ▸ found)
  cases sends with
  | get => exact stored digest raw (by rwa [Redis.execute_get_store] at found)
  | delete =>
      by_cases same : digest.text = frame.cacheKey env
      · rw [same, Redis.execute_delete_self] at found
        cases found
      · exact other same
  | store written =>
      by_cases same : digest.text = frame.cacheKey env
      · rcases Redis.execute_set_self store (frame.cacheKey env) _ false _ with put | kept
        · rw [same, put] at found
          cases found
          exact same ▸ written
        · exact stored digest raw (kept ▸ found)
      · exact other same
  | acquire | release => exact other (digest_ne_lockKey _ _)

/-- Only a read is answered with a text, the one under the key. -/
theorem Sends.get_of_bulk {entry : String → String → Prop} {cacheKey raw : String}
    {command : Command} {store : Store} (sends : Sends entry cacheKey command)
    (replied : (Redis.execute store command).2 = .bulk raw) :
    command = .get cacheKey ∧ store cacheKey = some (.text raw) := by
  cases sends with
  | get => exact ⟨rfl, Redis.execute_get_bulk replied⟩
  | delete | store | acquire | release =>
      simp only [Redis.execute] at replied
      repeat' split at replied
      all_goals cases replied

/-- What a call of this cache key reads is an entry of the key. -/
theorem Sends.read {entry : String → String → Prop} {frame : Frame} {command : Command}
    {store : Store} (sends : Sends entry (frame.cacheKey env) command)
    (stored : ∀ (digest : HexDigest) raw, store digest.text = some (.text raw) →
      entry digest.text raw)
    {raw : String} (replied : (Redis.execute store command).2 = .bulk raw) :
    entry (frame.cacheKey env) raw := by
  rw [← frame.digest_text]
  exact stored _ raw (by rw [frame.digest_text]; exact (sends.get_of_bulk replied).2)

/-! ## What holds of everything that circulates -/

/-- What a call has in hand. -/
structure ChatCall.Holds (env : Environment) (good : String → ChatResponse → Prop)
    (call : ChatCall) : Prop where
  chain : ∀ provider response, call.chain = some (.returned provider response) →
    good (call.cacheKey env) response
  done : ∀ response, call.point = .done (.returned response) → good (call.cacheKey env) response

structure StreamCall.Holds (env : Environment) (good : String → ChatResponse → Prop)
    (call : StreamCall) : Prop where
  cached : ∀ response, call.cached = some response → good (call.cacheKey env) response
  written : ∀ response, call.written = some response → good (call.cacheKey env) response

def Frame.Holds (env : Environment) (good : String → ChatResponse → Prop) : Frame → Prop
  | .chat call => call.Holds env good
  | .stream call => call.Holds env good

/-- A call with its command, in a world where everything that circulates is good. -/
structure Task.Flows (env : Environment) (good : String → ChatResponse → Prop)
    (entry : String → String → Prop) (task : Task) : Prop where
  holds : task.frame.Holds env good
  sent : ∀ command, task.wire = .sent command → Sends entry (task.frame.cacheKey env) command
  replied : ∀ raw, task.wire = .replied (.bulk raw) → entry (task.frame.cacheKey env) raw

/-- **Everything that circulates is good.** -/
structure World.Flows (env : Environment) (good : String → ChatResponse → Prop)
    (entry : String → String → Prop) (w : World) : Prop where
  stored : ∀ (digest : HexDigest) raw, w.store digest.text = some (.text raw) →
    entry digest.text raw
  tasks : ∀ id task, w.tasks id = some task → task.Flows env good entry

/-- A good response is dumped to an entry, and an entry is read as a good response. -/
structure Lawful (env : Environment) (good : String → ChatResponse → Prop)
    (entry : String → String → Prop) : Prop where
  dumped : ∀ key response, good key response → entry key (env.codec.modelDumpJson response)
  read : ∀ key raw response, entry key raw → parseEntry env raw = some response →
    good key response

/-- What a step produces: a provider has answered a call, or a stream has come to its end
and its response is written to the cache. -/
inductive Produces (env : Environment) : Action → World → String → ChatResponse → Prop
  | chat {id : CallId} {call : ChatCall} {provider : BaseProvider} {clock : Clock}
      {response : ChatResponse} {next : World} (running : next.call id = some call)
      (chain : call.chain = some (.returned provider response)) :
      Produces env (.chat id (.attempt (.answered response)) clock) next (call.cacheKey env) response
  | stream {id : CallId} {call : StreamCall} {clock : StreamClock} {response : ChatResponse}
      {next : World} (running : next.stream id = some call) (success : call.success = true)
      (written : call.written = some response) :
      Produces env (.stream id (.event .exhausted) clock) next (call.cacheKey env) response

section Turn

variable {good : String → ChatResponse → Prop} {entry : String → String → Prop} {id : CallId}
  {process : Process} {call : ChatCall} {clock : Clock} {input : Input} {turn : Turn}

/-- Nothing but an answer of a provider is new to a call. -/
def Answers (env : Environment) (good : String → ChatResponse → Prop) (call : ChatCall)
    (input : Input) : Prop :=
  ∀ response, input = .attempt (.answered response) → good (call.cacheKey env) response

theorem Answers.returned {outcome : AttemptOutcome} {attempt : Attempt} {provider : BaseProvider}
    {response : ChatResponse} (answers : Answers env good call (.attempt outcome))
    (ended : attempt.resume call.request outcome = .inr (.returned provider response)) :
    good (call.cacheKey env) response := by
  obtain ⟨rfl, -⟩ := Attempt.resume_returned ended
  exact answers response rfl

/-- The commands of a turn. -/
theorem turns_send {command : Command} (lawful : Lawful env good entry) (coherent : call.Coherent)
    (holds : call.Holds env good) (answers : Answers env good call input)
    (turns : Turns env id process call clock input turn) (send : turn.send = some command) :
    Sends entry (call.cacheKey env) command := by
  cases turns with
  | unreadable => cases send; exact .delete
  | contend => cases send; exact .acquire
  | poll => cases send; exact .get
  | returnedLocked | raisedLocked | cancelledLocked => cases send; exact .release
  | returnedFree point ended =>
      cases send
      exact .store (lawful.dumped _ _ (answers.returned ended))
  | released point pending =>
      cases send
      simp only [ChatCall.Coherent, point] at coherent
      exact .store (lawful.dumped _ _ (holds.chain _ _ coherent))
  | _ => cases send

/-- What a call has in hand after a turn. -/
theorem turns_holds (coherent : call.Coherent) (holds : call.Holds env good)
    (answers : Answers env good call input)
    (read : ∀ raw response, input = .reply (.bulk raw) → parseEntry env raw = some response →
      good (call.cacheKey env) response)
    (followed : ∀ leader response, Awaits process call leader input →
      process.futures leader = some (.result response) → good (call.cacheKey env) response)
    (turns : Turns env id process call clock input turn) : turn.call.Holds env good := by
  -- a call that ends with what it was given
  have finished : ∀ (ended : ChatCall) (outcome : Outcome), ended.cacheKey env = call.cacheKey env →
      (∀ provider response, ended.chain = some (.returned provider response) →
        good (call.cacheKey env) response) →
      (∀ response, outcome = .returned response → good (call.cacheKey env) response) →
        (ended.finish outcome).Holds env good := by
    intro ended outcome same chain returned
    refine ⟨fun provider response given => ?_, fun response point => ?_⟩
    · exact same ▸ chain provider response given
    · exact same ▸ returned response (Point.done.inj point)
  -- a call that goes on
  have proceeds : ∀ next : ChatCall, next.cacheKey env = call.cacheKey env →
      next.chain = call.chain → (∀ outcome, next.point ≠ .done outcome) →
        next.Holds env good := by
    intro next same chain running
    refine ⟨fun provider response given => ?_, fun response point => absurd point (running _)⟩
    exact same ▸ holds.chain provider response (chain ▸ given)
  cases turns with
  | hit point parsed settles | waited point parsed settles =>
      refine finished call _ rfl holds.chain ?_
      rintro response rfl
      cases settles
      exact read _ _ rfl parsed
  | followed awaits result settles =>
      refine finished _ _ rfl holds.chain ?_
      rintro response rfl
      cases settles
      exact followed _ _ awaits result
  | settled point settles =>
      refine finished call _ rfl holds.chain ?_
      rintro response rfl
      simp only [ChatCall.Coherent, point] at coherent
      cases settles
      exact holds.chain _ _ coherent
  | followedRaise | unknown | releasedClash | releasedRaise | cancelledFollow
  | cancelledElsewhere => exact finished _ _ rfl holds.chain (by simp)
  | returnedLocked point ended | returnedFree point ended =>
      refine ⟨?_, by simp⟩
      rintro provider response same
      cases same
      exact answers.returned ended
  | returnedClash point ended =>
      refine finished _ _ rfl ?_ (by simp)
      rintro provider response same
      cases same
      exact answers.returned ended
  | raisedFree | cancelledFree => exact finished _ _ rfl (by simp) (by simp)
  | raisedLocked | cancelledLocked => exact ⟨by simp, by simp⟩
  | unreadable | join | contend | poll | pause | granted | lead | retry | released =>
      exact proceeds _ rfl rfl (by simp)

end Turn

section StreamTurn

variable {good : String → ChatResponse → Prop} {entry : String → String → Prop}
  {call : StreamCall} {clock : StreamClock} {input : StreamInput} {turn : StreamTurn}

/-- The commands of a turn of a generator. -/
theorem streamTurns_send {command : Command} (lawful : Lawful env good entry)
    (produced : ∀ response, turn.call.written = some response → good (call.cacheKey env) response)
    (turns : StreamTurns env call clock input turn) (send : turn.send = some command) :
    Sends entry (call.cacheKey env) command := by
  cases turns with
  | unreadable => cases send; exact .delete
  | stored => cases send; exact .store (lawful.dumped _ _ (produced _ rfl))
  | _ => cases send

/-- What a generator has in hand after a turn. -/
theorem streamTurns_holds (holds : call.Holds env good)
    (produced : ∀ response, turn.call.written = some response → good (call.cacheKey env) response)
    (read : ∀ raw response, input = .reply (.bulk raw) → parseEntry env raw = some response →
      good (call.cacheKey env) response)
    (turns : StreamTurns env call clock input turn) : turn.call.Holds env good := by
  refine ⟨fun response given => ?_, fun response given => ?_⟩
  · rw [streamTurns_cacheKey turns]
    cases turns with
    | hit point parsed replay => cases given; exact read _ _ rfl parsed
    | hitCrash point parsed empty => cases given; exact read _ _ rfl parsed
    | _ => exact holds.cached response given
  · rw [streamTurns_cacheKey turns]
    exact produced response given

end StreamTurn

/-! ## One step -/

section Step

variable {good : String → ChatResponse → Prop} {entry : String → String → Prop} {w next : World}
  {action : Action}

theorem Wire.carries_eq {wire : Wire} {reply : Reply} (fits : wire.carries reply = true) :
    wire = .replied reply := by
  simpa [Wire.carries] using fits

/-- What is on its way after a turn. -/
theorem Wire.after_eq {wire : Wire} {send : Option Command} {command : Command}
    (sent : wire.after send = .sent command) : send = some command ∨ wire = .sent command := by
  unfold Wire.after at sent
  split at sent
  · cases sent; exact .inl rfl
  · split at sent
    · cases sent; exact .inr rfl
    · cases sent

theorem Wire.after_ne_replied (wire : Wire) (send : Option Command) (reply : Reply) :
    wire.after send ≠ .replied reply := by
  unfold Wire.after
  split
  · simp
  · split <;> simp

/-- The tasks of the world after a step on one of them. -/
theorem flows_update {tasks : CallId → Option Task} {id : CallId} {task : Task}
    (flows : ∀ id task, tasks id = some task → task.Flows env good entry)
    (changed : task.Flows env good entry) (other : CallId) (found : Task)
    (there : Function.update tasks id (some task) other = some found) :
    found.Flows env good entry := by
  rw [Function.update_apply] at there
  split_ifs at there with same
  · obtain rfl := Option.some.inj there
    exact changed
  · exact flows other found there

/-- A new call has nothing in hand. -/
theorem flows_fresh (frame : Frame) (holds : frame.Holds env good) :
    Task.Flows env good entry ⟨frame, .sent (.get (frame.cacheKey env))⟩ := by
  refine ⟨holds, fun command sent => ?_, fun raw replied => ?_⟩
  · cases sent
    exact .get
  · cases replied

theorem flows_deliver {id : CallId} {frame : Frame} {command : Command} {delivery : Delivery}
    (flows : w.Flows env good entry) (task : w.tasks id = some ⟨frame, .sent command⟩) :
    (w.deliver id frame command delivery).Flows env good entry := by
  have old := flows.tasks id _ task
  have sends := old.sent command rfl
  have replied : ∀ reply : Reply, (∀ raw, reply = .bulk raw → entry (frame.cacheKey env) raw) →
      Task.Flows env good entry ⟨frame, .replied reply⟩ := by
    intro reply read
    refine ⟨old.holds, fun other sent => ?_, fun raw given => ?_⟩
    · cases sent
    · exact read raw (Wire.replied.inj given)
  have executed := sends.stored flows.stored
  cases delivery with
  | answered =>
      exact ⟨executed, flows_update flows.tasks (replied _ fun raw given =>
        sends.read flows.stored given)⟩
  | lost => exact ⟨executed, flows_update flows.tasks (replied _ (by simp))⟩
  | refused => exact ⟨flows.stored, flows_update flows.tasks (replied _ (by simp))⟩

/-- The check of a rate limit leaves every other key alone. -/
theorem checkPipeline_other (store : Store) {virtualKeyId : ℤ} {now : ℚ} {member key : String}
    (ne : key ≠ rateLimitKey virtualKeyId) :
    (Redis.executeAll store (checkPipeline env.settings virtualKeyId now member)).1 key =
      store key := by
  refine Redis.executeAll_other _ _ fun command listed same => ne ?_
  simp only [checkPipeline, List.mem_cons, List.not_mem_nil, or_false] at listed
  rcases listed with rfl | rfl | rfl | rfl <;> exact same

/-- Commands on other keys leave the texts under the digests alone. -/
theorem flows_store {store : Store} (flows : w.Flows env good entry)
    (other : ∀ digest : HexDigest, store digest.text = w.store digest.text ∨
      store digest.text = none) : { w with store := store }.Flows env good entry := by
  refine ⟨fun digest raw found => ?_, flows.tasks⟩
  rcases other digest with same | vacant
  · exact flows.stored digest raw (same ▸ found)
  · exact absurd (vacant.symm.trans found) (by simp)

/-- **A step keeps everything that circulates good**, when what it produces is good. -/
theorem flows_step (lawful : Lawful env good entry) (linked : w.Linked env)
    (flows : w.Flows env good entry)
    (moved : w.step env action = some next)
    (produces : ∀ key response, Produces env action next key response → good key response) :
    next.Flows env good entry := by
  cases steps_of_step moved with
  | start fresh =>
      exact ⟨flows.stored, flows_update flows.tasks (flows_fresh (.chat _)
        ⟨by simp [ChatCall.start], by simp [ChatCall.start]⟩)⟩
  | startStream fresh =>
      exact ⟨flows.stored, flows_update flows.tasks (flows_fresh (.stream _)
        ⟨by simp [StreamCall.start], by simp [StreamCall.start]⟩)⟩
  | serve task => exact flows_deliver flows task
  | @chat id call wire input clock turn task fits turns =>
      refine ⟨flows.stored, flows_update flows.tasks ?_⟩
      have running : w.call id = some call := World.call_eq_some.mpr ⟨wire, task⟩
      have old := flows.tasks id _ task
      have holds : call.Holds env good := old.holds
      have coherent := linked.sound.coherent id call running
      have key := (turns_arguments turns).cacheKey env
      have answers : Answers env good call input := by
        rintro response rfl
        obtain ⟨-, provider, chain⟩ := turns_answered turns
        have after := call_applyTurn env w id wire clock.latencyMs turn
        exact key ▸ produces _ _ (.chat (by rw [after, Function.update_self]) chain)
      have read : ∀ raw response, input = .reply (.bulk raw) → parseEntry env raw = some response →
          good (call.cacheKey env) response := by
        rintro raw response rfl parsed
        exact lawful.read _ _ _ (old.replied raw (Wire.carries_eq fits)) parsed
      have followed : ∀ leader response, Awaits (w.process env call) call leader input →
          w.futures leader = some (.result response) → good (call.cacheKey env) response := by
        intro leader response awaits result
        obtain ⟨creator, provider, there, place, chain⟩ := linked.awaited running awaits result
        obtain ⟨leading, task⟩ := World.call_eq_some.mp there
        have given : creator.Holds env good := (flows.tasks leader _ task).holds
        have same : creator.cacheKey env = call.cacheKey env := congrArg Prod.snd place
        exact same ▸ given.chain provider response chain
      refine ⟨turns_holds coherent holds answers read followed turns, fun command sent => ?_,
        fun raw replied => absurd replied (Wire.after_ne_replied _ _ _)⟩
      change Sends entry (turn.call.cacheKey env) command
      rw [key]
      rcases Wire.after_eq sent with new | kept
      · exact turns_send lawful coherent holds answers turns new
      · exact old.sent command kept
  | @stream id call wire input clock turn task fits turns =>
      refine ⟨flows.stored, flows_update flows.tasks ?_⟩
      have old := flows.tasks id _ task
      have holds : call.Holds env good := old.holds
      have key := streamTurns_cacheKey turns
      have read : ∀ raw response, input = .reply (.bulk raw) → parseEntry env raw = some response →
          good (call.cacheKey env) response := by
        rintro raw response rfl parsed
        exact lawful.read _ _ _ (old.replied raw (Wire.carries_eq fits)) parsed
      have produced : ∀ response, turn.call.written = some response →
          good (call.cacheKey env) response := by
        intro response written
        rcases streamTurns_written turns written with before | ⟨rfl, success⟩
        · exact holds.written response before
        · have after : (w.applyStreamTurn id wire turn).stream id = some turn.call :=
            World.stream_eq_some.mpr ⟨_, Function.update_self _ _ _⟩
          exact key ▸ produces _ _ (.stream after success written)
      refine ⟨streamTurns_holds holds produced read turns, fun command sent => ?_,
        fun raw replied => absurd replied (Wire.after_ne_replied _ _ _)⟩
      change Sends entry (turn.call.cacheKey env) command
      rw [key]
      rcases Wire.after_eq sent with new | kept
      · exact streamTurns_send lawful produced turns new
      · exact old.sent command kept
  | @expire key =>
      refine flows_store flows fun digest => ?_
      by_cases same : digest.text = key
      · exact .inr (by rw [same, Store.erase_self])
      · exact .inl (w.store.erase_of_ne same)
  | limit =>
      exact flows_store flows fun digest =>
        .inl (checkPipeline_other _ (digest_ne_rateLimitKey digest _))
  | rollback =>
      exact flows_store flows fun digest =>
        .inl (Redis.execute_other _ _ (digest_ne_rateLimitKey digest _))

/-- A weaker predicate circulates where a stronger one does. -/
theorem World.Flows.mono {good' : String → ChatResponse → Prop} {entry' : String → String → Prop}
    (flows : w.Flows env good entry) (responses : ∀ key response, good key response → good' key response)
    (texts : ∀ key raw, entry key raw → entry' key raw) : w.Flows env good' entry' := by
  refine ⟨fun digest raw found => texts _ _ (flows.stored digest raw found), fun id task there => ?_⟩
  obtain ⟨holds, sent, replied⟩ := flows.tasks id task there
  refine ⟨?_, fun command given => ?_, fun raw given => texts _ _ (replied raw given)⟩
  · obtain ⟨frame, wire⟩ := task
    cases frame with
    | chat call =>
        have holds : call.Holds env good := holds
        exact ⟨fun provider response same => responses _ _ (holds.chain provider response same),
          fun response point => responses _ _ (holds.done response point)⟩
    | stream call =>
        have holds : call.Holds env good := holds
        exact ⟨fun response same => responses _ _ (holds.cached response same),
          fun response same => responses _ _ (holds.written response same)⟩
  · cases sent command given with
    | get => exact .get
    | delete => exact .delete
    | store written => exact .store (texts _ _ written)
    | acquire => exact .acquire
    | release => exact .release

end Step

/-! ## Counts that can be billed -/

/-- Counts that can be billed. -/
def Billable (_ : String) (response : ChatResponse) : Prop := response.usage.Billable

/-- A text that is read as a response with such counts, if at all. -/
def BillableEntry (env : Environment) (_ raw : String) : Prop :=
  ∀ response, parseEntry env raw = some response → response.usage.Billable

/-- What the codec reads back of billable counts is billable. -/
def Codec.KeepsCounts (codec : Codec) : Prop :=
  ∀ response read, response.usage.Billable →
    codec.modelValidateJson (codec.modelDumpJson response) = some read → read.usage.Billable

/-- The compact codec reads back the counts it wrote. -/
theorem jsonCodec_keepsCounts : jsonCodec.KeepsCounts := fun response read counts parsed => by
  rw [jsonCodec_inverse response] at parsed
  exact Option.some.inj parsed ▸ counts

/-- No stream, and no answer of a provider with counts that cannot be billed. -/
def Action.Counted : Action → Prop
  | .startStream _ _ _ _ _ => False
  | .chat _ (.attempt (.answered response)) _ => response.usage.Billable
  | _ => True

theorem Action.Counted.unstreamed {action : Action} (counted : action.Counted) :
    action.opensStream = false := by
  cases action <;> first | rfl | cases counted

/-- Nothing reaches a call whose counts cannot be billed. -/
structure World.Counted (env : Environment) (w : World) : Prop where
  linked : w.Linked env
  flows : w.Flows env Billable (BillableEntry env)
  streams : ∀ id, w.stream id = none

theorem counted_step {w next : World} {action : Action} (keeps : env.codec.KeepsCounts)
    (holds : w.Counted env) (moved : w.step env action = some next) (counted : action.Counted) :
    next.Counted env := by
  have lawful : Lawful env Billable (BillableEntry env) :=
    ⟨fun _ response counts read => keeps response read counts, fun _ _ response entry => entry response⟩
  have unstreamed := streams_step holds.streams counted.unstreamed moved
  refine ⟨linked_step holds.linked moved, flows_step lawful holds.linked holds.flows moved ?_,
    unstreamed⟩
  intro key response produces
  cases produces with
  | chat => exact counted
  | stream running => rw [unstreamed] at running; cases running

/-- **Billable answers circulate alone**, from a cache of billable entries. -/
theorem counted_run {store : Store} {actions : List Action} {w : World}
    (keeps : env.codec.KeepsCounts)
    (billable : ∀ (digest : HexDigest) raw, store digest.text = some (.text raw) →
      BillableEntry env digest.text raw)
    (counted : ∀ action ∈ actions, action.Counted)
    (reached : run (World.step env) (.init store) actions = some w) : w.Counted env := by
  have initial : (World.init store).Counted env :=
    ⟨linked_init env store, ⟨billable, by simp [World.init]⟩, by simp [World.init, World.stream]⟩
  exact invariant initial (fun _ _ _ holds moved met => counted_step keeps holds moved met)
    (throughout_of_actions counted _) reached

/-- The result of a future that is awaited can be billed. -/
theorem World.Counted.awaited {w : World} {id leader : CallId} {call : ChatCall} {input : Input}
    {response : ChatResponse} (counted : w.Counted env) (running : w.call id = some call)
    (awaits : Awaits (w.process env call) call leader input)
    (result : w.futures leader = some (.result response)) : response.usage.Billable := by
  obtain ⟨creator, provider, there, -, chain⟩ := counted.linked.awaited running awaits result
  obtain ⟨wire, task⟩ := World.call_eq_some.mp there
  have given : creator.Holds env Billable := (counted.flows.tasks leader _ task).holds
  exact given.chain provider response chain

end LlmGateway
