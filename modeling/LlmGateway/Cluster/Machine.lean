import LlmGateway.Core.RateLimiter
import LlmGateway.Library.Runs
import LlmGateway.Routers.Chat

/-!
# Replicas sharing one Redis

Any number of processes serve requests over one Redis. The state is the store, the
in-flight table and the futures of every process, the suspended calls, and the background
tasks scheduled so far. Each step belongs to one call or to Redis:

* a call starts;
* Redis executes the command a call has sent, and its reply arrives or is lost, or the
  command never reaches Redis (`Delivery`);
* a call goes on with what it was waiting for, or is cancelled;
* a key expires, or the rate limiter uses its own keys.

Steps of different calls come in any order. Two calls of one process never run at the same
time: a call runs from one `await` to the next in one step.

A command that a cancelled call has sent may still be executed.
-/

set_option autoImplicit false

namespace LlmGateway

open LlmGateway.Library
open LlmGateway.Library.Redis (Command Reply Store)

/-! ## State -/

/-- The command of a call on its way to Redis and back. -/
inductive Wire where
  | idle
  | sent (command : Command)
  | replied (reply : Reply)
deriving DecidableEq

/-- A call of one of the two endpoints. -/
inductive Frame where
  | chat (call : ChatCall)
  | stream (call : StreamCall)

/-- A call with its command. -/
structure Task where
  frame : Frame
  wire : Wire

/-- A place of an in-flight table: the process and the cache key. -/
abbrev Slot := ReplicaId × String

/-- The state of all replicas and of Redis. -/
structure World where
  store : Store
  inflight : Slot → Option CallId
  futures : CallId → Option FutureState
  tasks : CallId → Option Task
  scheduled : List (CallId × UsageTask)

/-- Before the first request. -/
def World.init (store : Store) : World :=
  ⟨store, fun _ => none, fun _ => none, fun _ => none, []⟩

/-! ## Actions -/

/-- What becomes of a command: it is executed and answered, it is executed and the reply
is lost, or it never arrives. In the last two cases the client raises `RedisError`. -/
inductive Delivery where
  | answered
  | lost
  | refused
deriving DecidableEq

/-- What is left of the store after a command that may not arrive. -/
def Delivery.apply (delivery : Delivery) (store : Store) (command : Command) : Store :=
  match delivery with
  | .answered | .lost => (Redis.execute store command).1
  | .refused => store

inductive Action where
  | start (id : CallId) (replica : ReplicaId) (request : ChatRequest) (registry : ProviderRegistry)
      (virtualKeyId : ℤ)
  | startStream (id : CallId) (request : ChatRequest) (registry : ProviderRegistry)
      (virtualKeyId : ℤ) (requestId : Option String)
  | serve (id : CallId) (delivery : Delivery)
  | chat (id : CallId) (input : Input) (clock : Clock)
  | stream (id : CallId) (input : StreamInput) (clock : StreamClock)
  | expire (key : String)
  | limit (virtualKeyId : ℤ) (now : ℚ) (member : String)
  | rollback (virtualKeyId : ℤ) (member : String)

/-- Redis executes the command and answers, if the action is about a command. -/
def Action.answered : Action → Bool
  | .serve _ delivery => delivery == .answered
  | _ => true

/-- The action cancels a call of `handle_chat_completion`. -/
def Action.cancels : Action → Bool
  | .chat _ .cancel _ => true
  | _ => false

/-- The action starts a call of `_stream_response`. -/
def Action.opensStream : Action → Bool
  | .startStream _ _ _ _ _ => true
  | _ => false

/-- Redis is available all through a run. -/
def RedisUp (actions : List Action) : Prop := ∀ action ∈ actions, action.answered = true

instance (actions : List Action) : Decidable (RedisUp actions) :=
  inferInstanceAs (Decidable (∀ action ∈ actions, action.answered = true))

/-- No call is cancelled in a run. -/
def Uncancelled (actions : List Action) : Prop := ∀ action ∈ actions, action.cancels = false

instance (actions : List Action) : Decidable (Uncancelled actions) :=
  inferInstanceAs (Decidable (∀ action ∈ actions, action.cancels = false))

/-! ## Steps -/

namespace Wire

/-- A reply is the one that has arrived. -/
def carries (wire : Wire) (reply : Reply) : Bool := wire == .replied reply

/-- After a turn: the new command, or what is left of the old one. -/
def after (wire : Wire) : Option Command → Wire
  | some command => .sent command
  | none =>
      match wire with
      | .sent command => .sent command
      | _ => .idle

end Wire

/-- The input fits what has arrived. -/
def Input.fits (wire : Wire) : Input → Bool
  | .reply given => wire.carries given
  | _ => true

def StreamInput.fits (wire : Wire) : StreamInput → Bool
  | .reply given => wire.carries given
  | _ => true

/-- The place of a call's cache key in the table of its process. -/
def ChatCall.slot (env : Environment) (call : ChatCall) : Slot := (call.replica, call.cacheKey env)

namespace World

variable (env : Environment) (w : World)

/-- What a call sees of its process. -/
def process (call : ChatCall) : Process := ⟨w.inflight (call.slot env), w.futures⟩

/-- The world after a turn of `handle_chat_completion`. -/
def applyTurn (id : CallId) (wire : Wire) (latencyMs : ℕ) (turn : Turn) : World where
  store := w.store
  inflight := Function.update w.inflight (turn.call.slot env) turn.process.entry
  futures := turn.process.futures
  tasks := Function.update w.tasks id (some ⟨.chat turn.call, wire.after turn.send⟩)
  scheduled := w.scheduled ++ (turn.tasks latencyMs).map fun task => (id, task)

/-- The world after a turn of `_stream_response`. -/
def applyStreamTurn (id : CallId) (wire : Wire) (turn : StreamTurn) : World :=
  { w with
    tasks := Function.update w.tasks id (some ⟨.stream turn.call, wire.after turn.send⟩)
    scheduled := w.scheduled ++ turn.schedule.map fun task => (id, task) }

/-- The world with a new call, which has sent the read of its cache key. -/
def spawn (id : CallId) (frame : Frame) (cacheKey : String) : World :=
  { w with tasks := Function.update w.tasks id (some ⟨frame, .sent (.get cacheKey)⟩) }

/-- Redis and the network deal with a command. -/
def deliver (id : CallId) (frame : Frame) (command : Command) (delivery : Delivery) : World :=
  match delivery with
  | .answered =>
      { w with
        store := (Redis.execute w.store command).1
        tasks := Function.update w.tasks id
          (some ⟨frame, .replied (Redis.execute w.store command).2⟩) }
  | .lost =>
      { w with
        store := (Redis.execute w.store command).1
        tasks := Function.update w.tasks id (some ⟨frame, .replied .error⟩) }
  | .refused => { w with tasks := Function.update w.tasks id (some ⟨frame, .replied .error⟩) }

/-- **One step.** Nothing when the action is not possible. -/
def step : Action → Option World
  | .start id replica request registry virtualKeyId =>
      match w.tasks id with
      | some _ => none
      | none =>
          let call := ChatCall.start replica request registry virtualKeyId
          some (w.spawn id (.chat call) (call.cacheKey env))
  | .startStream id request registry virtualKeyId requestId =>
      match w.tasks id with
      | some _ => none
      | none =>
          let call := StreamCall.start request registry virtualKeyId requestId
          some (w.spawn id (.stream call) (call.cacheKey env))
  | .serve id delivery =>
      match w.tasks id with
      | some ⟨frame, .sent command⟩ => some (w.deliver id frame command delivery)
      | _ => none
  | .chat id input clock =>
      match w.tasks id with
      | some ⟨.chat call, wire⟩ =>
          if input.fits wire then
            (call.resume env id (w.process env call) clock input).map
              (w.applyTurn env id wire clock.latencyMs)
          else none
      | _ => none
  | .stream id input clock =>
      match w.tasks id with
      | some ⟨.stream call, wire⟩ =>
          if input.fits wire then
            (call.resume env clock input).map (w.applyStreamTurn id wire)
          else none
      | _ => none
  | .expire key => some { w with store := w.store.erase key }
  | .limit virtualKeyId now member =>
      some
        { w with
          store := (Redis.executeAll w.store
            (checkPipeline env.settings virtualKeyId now member)).1 }
  | .rollback virtualKeyId member =>
      some { w with store := (Redis.execute w.store (rollbackCommand virtualKeyId member)).1 }

end World

/-! ## What a step is -/

/-- **The steps**, one constructor for each action. -/
inductive Steps (env : Environment) (w : World) : Action → World → Prop
  | start {id : CallId} {replica : ReplicaId} {request : ChatRequest}
      {registry : ProviderRegistry} {virtualKeyId : ℤ} (fresh : w.tasks id = none) :
      Steps env w (.start id replica request registry virtualKeyId)
        (w.spawn id (.chat (.start replica request registry virtualKeyId))
          ((ChatCall.start replica request registry virtualKeyId).cacheKey env))
  | startStream {id : CallId} {request : ChatRequest} {registry : ProviderRegistry}
      {virtualKeyId : ℤ} {requestId : Option String} (fresh : w.tasks id = none) :
      Steps env w (.startStream id request registry virtualKeyId requestId)
        (w.spawn id (.stream (.start request registry virtualKeyId requestId))
          ((StreamCall.start request registry virtualKeyId requestId).cacheKey env))
  | serve {id : CallId} {frame : Frame} {command : Command} {delivery : Delivery}
      (task : w.tasks id = some ⟨frame, .sent command⟩) :
      Steps env w (.serve id delivery) (w.deliver id frame command delivery)
  | chat {id : CallId} {call : ChatCall} {wire : Wire} {input : Input} {clock : Clock}
      {turn : Turn} (task : w.tasks id = some ⟨.chat call, wire⟩) (fits : input.fits wire = true)
      (turns : Turns env id (w.process env call) call clock input turn) :
      Steps env w (.chat id input clock) (w.applyTurn env id wire clock.latencyMs turn)
  | stream {id : CallId} {call : StreamCall} {wire : Wire} {input : StreamInput}
      {clock : StreamClock} {turn : StreamTurn}
      (task : w.tasks id = some ⟨.stream call, wire⟩) (fits : input.fits wire = true)
      (turns : StreamTurns env call clock input turn) :
      Steps env w (.stream id input clock) (w.applyStreamTurn id wire turn)
  | expire {key : String} : Steps env w (.expire key) { w with store := w.store.erase key }
  | limit {virtualKeyId : ℤ} {now : ℚ} {member : String} :
      Steps env w (.limit virtualKeyId now member)
        { w with
          store := (Redis.executeAll w.store
            (checkPipeline env.settings virtualKeyId now member)).1 }
  | rollback {virtualKeyId : ℤ} {member : String} :
      Steps env w (.rollback virtualKeyId member)
        { w with store := (Redis.execute w.store (rollbackCommand virtualKeyId member)).1 }

/-- Every step of the machine is one of them. -/
theorem steps_of_step {env : Environment} {w next : World} {action : Action}
    (moved : w.step env action = some next) : Steps env w action next := by
  cases action with
  | start id replica request registry virtualKeyId =>
      simp only [World.step] at moved
      split at moved
      · cases moved
      · rename_i fresh
        cases moved
        exact .start fresh
  | startStream id request registry virtualKeyId requestId =>
      simp only [World.step] at moved
      split at moved
      · cases moved
      · rename_i fresh
        cases moved
        exact .startStream fresh
  | serve id delivery =>
      simp only [World.step] at moved
      split at moved
      · rename_i frame command task
        cases moved
        exact .serve task
      · cases moved
  | chat id input clock =>
      simp only [World.step] at moved
      split at moved
      · rename_i call wire task
        split at moved
        · rename_i fits
          obtain ⟨turn, resumed, rfl⟩ := Option.map_eq_some_iff.mp moved
          exact .chat task fits (turns_of_resume resumed)
        · cases moved
      · cases moved
  | stream id input clock =>
      simp only [World.step] at moved
      split at moved
      · rename_i call wire task
        split at moved
        · rename_i fits
          obtain ⟨turn, resumed, rfl⟩ := Option.map_eq_some_iff.mp moved
          exact .stream task fits (streamTurns_of_resume resumed)
        · cases moved
      · cases moved
  | expire key => cases moved; exact .expire
  | limit virtualKeyId now member => cases moved; exact .limit
  | rollback virtualKeyId member => cases moved; exact .rollback

end LlmGateway
