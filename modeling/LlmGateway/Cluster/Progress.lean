import LlmGateway.Cluster.InflightTable
import LlmGateway.Cluster.Flow
import LlmGateway.Library.Potential
import Mathlib.Algebra.Order.BigOperators.Group.Finset

/-!
# Every call comes to its end

No call of the gateway goes on by itself: it waits for Redis, for a provider, for its pause,
for its consumer, or for the future of another call. Three results say that this is enough for every
call to end.

* `work_bounded`: a call takes no more steps than its candidates, its early pauses and the lines of
  its provider allow. `ChatCall.remaining` and `StreamCall.remaining` are the steps that are left,
  as a potential of the runs.
* `no_deadlock`: a call that has not ended can go on, or it awaits the future of a call that can
  go on, or it awaits the future of a call that was cancelled.
* `completes`: every run without a cancellation can be continued until all its calls have
  ended, whatever has happened before, in as many steps as its calls have left.
-/

set_option autoImplicit false

namespace LlmGateway

open LlmGateway.Library
open LlmGateway.Library.Redis (Command Reply Store)

variable {env : Environment}

/-! ## What one step does to the tasks -/

/-- The call that an action is a step of: it starts, Redis deals with its command, or it takes an
input. -/
def Action.owner : Action → Option CallId
  | .start id _ _ _ _ | .startStream id _ _ _ _ | .serve id _ | .chat id _ _ | .stream id _ _ => some id
  | .expire _ | .limit _ _ _ | .rollback _ _ => none

/-- **What a step does to the tasks.** -/
inductive Schedules (env : Environment) (w : World) : Action → World → Prop
  | starts {id : CallId} {replica : ReplicaId} {request : ChatRequest}
      {registry : ProviderRegistry} {virtualKeyId : ℤ} {key : String} {next : World}
      (fresh : w.tasks id = none)
      (tasks : next.tasks = Function.update w.tasks id
        (some ⟨.chat (.start replica request registry virtualKeyId), .sent (.get key)⟩)) :
      Schedules env w (.start id replica request registry virtualKeyId) next
  | opens {id : CallId} {request : ChatRequest} {registry : ProviderRegistry}
      {virtualKeyId : ℤ} {requestId : Option String} {key : String} {next : World}
      (fresh : w.tasks id = none)
      (tasks : next.tasks = Function.update w.tasks id
        (some ⟨.stream (.start request registry virtualKeyId requestId), .sent (.get key)⟩)) :
      Schedules env w (.startStream id request registry virtualKeyId requestId) next
  | serves {id : CallId} {delivery : Delivery} {frame : Frame} {command : Command} {reply : Reply}
      {next : World} (task : w.tasks id = some ⟨frame, .sent command⟩)
      (tasks : next.tasks = Function.update w.tasks id (some ⟨frame, .replied reply⟩)) :
      Schedules env w (.serve id delivery) next
  | turns {id : CallId} {call : ChatCall} {wire : Wire} {input : Input} {clock : Clock} {turn : Turn}
      {next : World} (task : w.tasks id = some ⟨.chat call, wire⟩) (fits : input.fits wire = true)
      (turns : Turns env id (w.process env call) call clock input turn)
      (tasks : next.tasks =
        Function.update w.tasks id (some ⟨.chat turn.call, wire.after turn.send⟩)) :
      Schedules env w (.chat id input clock) next
  | goes {id : CallId} {call : StreamCall} {wire : Wire} {input : StreamInput}
      {clock : StreamClock} {turn : StreamTurn} {next : World}
      (task : w.tasks id = some ⟨.stream call, wire⟩) (fits : input.fits wire = true)
      (turns : StreamTurns env call clock input turn)
      (tasks : next.tasks =
        Function.update w.tasks id (some ⟨.stream turn.call, wire.after turn.send⟩)) :
      Schedules env w (.stream id input clock) next
  | rests {action : Action} {next : World} (elsewhere : action.owner = none)
      (tasks : next.tasks = w.tasks) : Schedules env w action next

theorem schedules_of_step {w next : World} {action : Action}
    (moved : w.step env action = some next) : Schedules env w action next := by
  cases steps_of_step moved with
  | start fresh => exact .starts fresh rfl
  | startStream fresh => exact .opens fresh rfl
  | @serve id frame command delivery task =>
      cases delivery with
      | answered => exact .serves task rfl
      | lost => exact .serves task rfl
      | refused => exact .serves task rfl
  | chat task fits turns => exact .turns task fits turns rfl
  | stream task fits turns => exact .goes task fits turns rfl
  | expire => exact .rests rfl rfl
  | limit => exact .rests rfl rfl
  | rollback => exact .rests rfl rfl

/-! ## The steps that a call has left -/

/-- The steps a call has left from an `await`, when its pauses end late. A command counts twice:
it is served, then its reply is taken. -/
def Point.remaining (candidates : ℕ) : Point → ℕ
  | .cacheGet => candidates + 12
  | .discard => candidates + 10
  | .follow _ => 1
  | .acquire _ rest => rest.length + 9
  | .poll _ rest => rest.length + 7
  | .sleep _ rest => rest.length + 6
  | .execute attempt => attempt.rest.length + 5
  | .release _ => 3
  | .cacheSet _ _ => 1
  | .done _ => 0

def ChatCall.remaining (call : ChatCall) : ℕ :=
  call.point.remaining (selectProviders call.registry call.request.model).length

/-- The steps a generator has left, when its provider gives no more lines. -/
def StreamPoint.remaining (candidates : ℕ) : StreamPoint → ℕ
  | .cacheGet => candidates + 6
  | .discard => candidates + 4
  | .replay rest => rest.length + 1
  | .connect attempt => attempt.rest.length + 4
  | .relay => 4
  | .read => 3
  | .report => 1
  | .cacheSet => 1
  | .done _ => 0

def StreamCall.remaining (call : StreamCall) : ℕ :=
  call.point.remaining (selectProviders call.registry call.request.model).length

def Frame.remaining : Frame → ℕ
  | .chat call => call.remaining
  | .stream call => call.remaining

/-- A command that has been sent is yet to be served. -/
def Wire.remaining : Wire → ℕ
  | .sent _ => 1
  | .idle | .replied _ => 0

/-- The steps that the call with this number has left. -/
def World.remaining (w : World) (id : CallId) : ℕ :=
  match w.tasks id with
  | some task => task.frame.remaining + task.wire.remaining
  | none => 0

/-- A call pauses once more, its deadline not having passed. -/
def Action.pausesEarly (id : CallId) : Action → ℕ
  | .chat other .slept clock => if other = id ∧ clock.late = false then 1 else 0
  | _ => 0

/-- The provider of a generator gives a line. -/
def Action.givesLine (id : CallId) : Action → ℕ
  | .stream other (.event (.line _)) _ => if other = id then 1 else 0
  | _ => 0

/-- What a call has at its start. -/
def Action.opens (id : CallId) : Action → ℕ
  | .start other _ request registry _ =>
      if other = id then (selectProviders registry request.model).length + 14 else 0
  | .startStream other request registry _ _ =>
      if other = id then (selectProviders registry request.model).length + 8 else 0
  | _ => 0

/-- The steps that an action allows the call with this number. -/
def Action.allows (id : CallId) (action : Action) : ℕ :=
  action.opens id + 3 * action.pausesEarly id + 2 * action.givesLine id

/-- An action is one step of its call. -/
def Action.steps (id : CallId) (action : Action) : ℕ := if action.owner = some id then 1 else 0

/-- An action that is no step of a call allows it nothing. -/
theorem Action.allows_of_owner {id : CallId} {action : Action} (other : action.owner ≠ some id) :
    action.opens id = 0 ∧ action.pausesEarly id = 0 ∧ action.givesLine id = 0 := by
  have foreign : ∀ {owner}, action.owner = some owner → owner ≠ id := by
    rintro owner same rfl
    exact other same
  cases action with
  | start | startStream => simp [opens, pausesEarly, givesLine, foreign rfl]
  | chat _ input => cases input <;> simp [opens, pausesEarly, givesLine, foreign rfl]
  | stream _ input =>
      cases input with
      | event event => cases event <;> simp [opens, pausesEarly, givesLine, foreign rfl]
      | reply | pull | stop => exact ⟨rfl, rfl, rfl⟩
  | serve | expire | limit | rollback => exact ⟨rfl, rfl, rfl⟩

section Turn

variable {id : CallId} {process : Process} {call : ChatCall} {clock : Clock} {input : Input}
  {turn : Turn}

/-- The pause that a chat input ends early. -/
def Input.allows (clock : Clock) : Input → ℕ
  | .slept => if clock.late = false then 3 else 0
  | _ => 0

/-- What a turn has left is paid for, the command it sends included. -/
theorem turns_remaining (turns : Turns env id process call clock input turn) :
    turn.call.remaining + (if turn.send.isSome then 2 else 1) ≤
      call.remaining + input.allows clock := by
  cases turns with
  | hit point | waited point | unreadable point | pause point | released point
  | releasedClash point | releasedRaise point | settled point | granted point
  | returnedLocked point | returnedFree point | returnedClash point | raisedLocked point
  | raisedFree point | cancelledFollow point | cancelledLocked point | cancelledFree point =>
      simp only [ChatCall.remaining, ChatCall.finish, Point.remaining, point, Attempt.start,
        Option.isSome_some, Option.isSome_none, if_true, Bool.false_eq_true, if_false]
      omega
  | join missed | unknown missed =>
      rcases missed.point with point | point <;>
        simp only [ChatCall.remaining, ChatCall.finish, Point.remaining, point,
          Option.isSome_none, Bool.false_eq_true, if_false] <;> omega
  | contend missed _ candidates =>
      rcases missed.point with point | point <;>
        simp only [ChatCall.remaining, Point.remaining, point, candidates, List.length_cons,
          Option.isSome_some, if_true] <;> omega
  | followed awaits | followedRaise awaits =>
      rcases awaits.point with point | point | point <;>
        simp [ChatCall.remaining, ChatCall.finish, Point.remaining, point] <;> omega
  | poll waits early =>
      -- a pause that ends early goes back to the read
      rcases waits with ⟨point, lost⟩ | point <;>
        simp [ChatCall.remaining, Point.remaining, point, Input.allows, early]
  | lead gives =>
      rcases gives with ⟨⟨point, -⟩ | point, -⟩ | point | point <;>
        simp [ChatCall.remaining, Point.remaining, Attempt.start, point] <;> omega
  | retry point moved =>
      obtain ⟨error, -, rest, -⟩ := Attempt.resume_next moved
      simp only [ChatCall.remaining, Point.remaining, point, rest, List.length_cons,
        Option.isSome_none, Bool.false_eq_true, if_false]
      omega
  | cancelledElsewhere outside running =>
      have positive : 0 < call.remaining := by
        unfold ChatCall.remaining
        cases point : call.point with
        | done outcome => exact absurd point (running outcome)
        | _ => simp [Point.remaining]
      simp only [ChatCall.remaining, ChatCall.finish, Point.remaining, Option.isSome_none,
        Bool.false_eq_true, if_false] at positive ⊢
      omega

end Turn

section StreamTurn

variable {call : StreamCall} {clock : StreamClock} {input : StreamInput} {turn : StreamTurn}

/-- The line that an input brings. -/
def StreamInput.allows : StreamInput → ℕ
  | .event (.line _) => 2
  | _ => 0

theorem registry_of_streamTurns (turns : StreamTurns env call clock input turn) :
    turn.call.registry = call.registry := by
  cases turns <;> rfl

theorem Seeks.remaining {attempted : List String} {lastError : Option ProviderError}
    {candidates : List BaseProvider} (seeks : Seeks call attempted lastError candidates input) :
    candidates.length + 4 ≤ call.remaining := by
  rcases seeks with ⟨missed, -, -, selected⟩ | ⟨point, -, -, rest⟩ | ⟨point, -, -, rest⟩
  · rcases missed with ⟨point, -⟩ | point <;>
      simp only [StreamCall.remaining, StreamPoint.remaining, point, selected] <;> omega
  all_goals simp [StreamCall.remaining, StreamPoint.remaining, point, rest]

theorem Gains.remaining {provider : BaseProvider} {line : String}
    (gains : Gains call provider line input) : 5 ≤ call.remaining + input.allows := by
  rcases gains with ⟨point, -⟩ | ⟨point, -⟩ <;>
    simp only [StreamCall.remaining, StreamPoint.remaining, StreamInput.allows, point] <;> omega

/-- What a turn of a generator has left is paid for, the command it sends included. -/
theorem streamTurns_remaining (turns : StreamTurns env call clock input turn) :
    turn.call.remaining + (if turn.send.isSome then 2 else 1) ≤ call.remaining + input.allows := by
  cases turns with
  | hit point read replay =>
      rename_i cached line rest
      have short : rest.length = 3 := by
        unfold synthesizeCachedStream at replay
        split at replay
        · cases replay
        · cases replay
          rfl
      simp only [StreamCall.remaining, StreamPoint.remaining, point, short, Option.isSome_none,
        Bool.false_eq_true, if_false]
      omega
  | connect seeks =>
      have paid := seeks.remaining
      rw [List.length_cons] at paid
      simp only [StreamCall.remaining, StreamPoint.remaining, Option.isSome_none,
        Bool.false_eq_true, if_false] at paid ⊢
      omega
  | unavailable seeks =>
      have paid := seeks.remaining
      simp only [StreamCall.remaining, StreamPoint.remaining, Option.isSome_none,
        Bool.false_eq_true, if_false] at paid ⊢
      omega
  | relay gains | relayCrash gains =>
      have paid := gains.remaining
      simp only [StreamCall.remaining, StreamPoint.remaining, StreamCall.serving,
        StreamCall.finish, Option.isSome_none, Bool.false_eq_true, if_false] at paid ⊢
      omega
  | crash point =>
      rcases point with ⟨attempt, point⟩ | point <;>
        simp only [StreamCall.remaining, StreamPoint.remaining, StreamCall.finish, point,
          Option.isSome_none, Bool.false_eq_true, if_false] <;> omega
  | hitCrash point | unreadable point | replay point | replayed point | replayRefused point
  | replayLost point | interrupted point | stored point | ended point | refused point
  | pulled point | reported point | saved point =>
      simp only [StreamCall.remaining, StreamPoint.remaining, StreamCall.finish, point,
        Option.isSome_some, Option.isSome_none, Bool.false_eq_true, if_true, if_false,
        List.length_cons, List.length_nil]
      omega
  | stopped running =>
      have positive : 0 < call.remaining := by
        unfold StreamCall.remaining
        cases point : call.point with
        | done ending => exact absurd point (running ending)
        | _ => simp [StreamPoint.remaining]
      simp only [StreamCall.remaining, StreamCall.finish, StreamPoint.remaining,
        Option.isSome_none, Bool.false_eq_true, if_false] at positive ⊢
      omega

end StreamTurn

/-- A command that is sent leaves two steps, one more than the step that sends it costs. -/
theorem Wire.after_remaining (wire : Wire) (send : Option Command) :
    (wire.after send).remaining + 1 ≤ wire.remaining + (if send.isSome then 2 else 1) := by
  cases send with
  | some command => simp [Wire.after, Wire.remaining]
  | none => cases wire <;> simp [Wire.after, Wire.remaining]

theorem World.remaining_of_task {w : World} {id : CallId} {task : Task}
    (there : w.tasks id = some task) :
    w.remaining id = task.frame.remaining + task.wire.remaining := by
  unfold World.remaining
  rw [there]

theorem World.remaining_of_update {w next : World} {id : CallId} {task : Task}
    (tasks : next.tasks = Function.update w.tasks id (some task)) :
    next.remaining id = task.frame.remaining + task.wire.remaining :=
  World.remaining_of_task (by rw [tasks, Function.update_self])

/-- A step of another call leaves the task of this one. -/
theorem tasks_of_owner {w next : World} {action : Action} (moved : w.step env action = some next)
    {id : CallId} (other : action.owner ≠ some id) : next.tasks id = w.tasks id := by
  cases schedules_of_step moved with
  | rests _ tasks => rw [tasks]
  | starts _ tasks | opens _ tasks | serves _ tasks | turns _ _ _ tasks | goes _ _ _ tasks =>
      rw [tasks, Function.update_of_ne]
      rintro rfl
      exact other rfl

/-- **A step of a call is paid for** by what the call has left and what the action allows. -/
theorem remaining_step {w next : World} {action : Action} (moved : w.step env action = some next)
    (id : CallId) : action.steps id + next.remaining id ≤ w.remaining id + action.allows id := by
  by_cases own : action.owner = some id
  · cases schedules_of_step moved with
    | starts fresh tasks =>
        obtain rfl := Option.some.inj own
        rw [World.remaining_of_update tasks]
        simp only [Action.steps, Action.owner, Action.allows, Action.opens, Frame.remaining,
          ChatCall.remaining, ChatCall.start, Point.remaining, Wire.remaining, if_true]
        omega
    | opens fresh tasks =>
        obtain rfl := Option.some.inj own
        rw [World.remaining_of_update tasks]
        simp only [Action.steps, Action.owner, Action.allows, Action.opens, Frame.remaining,
          StreamCall.remaining, StreamCall.start, StreamPoint.remaining, Wire.remaining, if_true]
        omega
    | serves task tasks =>
        obtain rfl := Option.some.inj own
        rw [World.remaining_of_update tasks, World.remaining_of_task task]
        simp only [Action.steps, Action.owner, if_true, Wire.remaining]
        omega
    | @turns other call wire input clock turn _ task fits turns tasks =>
        obtain rfl := Option.some.inj own
        rw [World.remaining_of_update tasks, World.remaining_of_task task]
        have paid := turns_remaining turns
        have sent := wire.after_remaining turn.send
        have allowed : input.allows clock ≤ (Action.chat other input clock).allows other := by
          cases input with
          | slept =>
              simp only [Input.allows, Action.allows, Action.pausesEarly, true_and]
              split <;> omega
          | reply | resolved | attempt | cancel => simp [Input.allows]
        simp only [Action.steps, Action.owner, if_true, Frame.remaining]
        omega
    | @goes other call wire input clock turn _ task fits turns tasks =>
        obtain rfl := Option.some.inj own
        rw [World.remaining_of_update tasks, World.remaining_of_task task]
        have paid := streamTurns_remaining turns
        have sent := wire.after_remaining turn.send
        have allowed : input.allows ≤ (Action.stream other input clock).allows other := by
          cases input with
          | event event => cases event <;> simp [StreamInput.allows, Action.allows, Action.givesLine]
          | reply | pull | stop => simp [StreamInput.allows]
        simp only [Action.steps, Action.owner, if_true, Frame.remaining]
        omega
    | rests elsewhere tasks => rw [elsewhere] at own; cases own
  · have same : next.remaining id = w.remaining id := by
      unfold World.remaining
      rw [tasks_of_owner moved own]
    rw [Action.steps, if_neg own, same]
    omega

/-! ## No call runs on for ever -/

/-- What the actions of a run allow a call: once the steps it has at its start, then more for each
early pause and each line. -/
def World.Allowed (w : World) (id : CallId) (allowed pauses lines : ℕ) : Prop :=
  match w.tasks id with
  | none => allowed = 0 ∧ pauses = 0 ∧ lines = 0
  | some ⟨.chat call, _⟩ =>
      allowed = (selectProviders call.registry call.request.model).length + 14 + 3 * pauses
  | some ⟨.stream call, _⟩ =>
      allowed = (selectProviders call.registry call.request.model).length + 8 + 2 * lines

theorem allowed_run {store : Store} {actions : List Action} {w : World}
    (reached : run (World.step env) (.init store) actions = some w) (id : CallId) :
    w.Allowed id (total (Action.allows id) actions) (total (Action.pausesEarly id) actions)
      (total (Action.givesLine id) actions) := by
  refine run_induction_of_step (P := fun actions w => w.Allowed id (total (Action.allows id) actions)
    (total (Action.pausesEarly id) actions) (total (Action.givesLine id) actions))
    ⟨rfl, rfl, rfl⟩ ?_ reached
  intro actions w action next _ allowed moved
  simp only [total_snoc]
  by_cases own : action.owner = some id
  · cases schedules_of_step moved with
    | starts fresh tasks =>
        obtain rfl := Option.some.inj own
        simp only [World.Allowed, fresh] at allowed
        simp only [World.Allowed, tasks, Function.update_self, Action.allows, Action.opens,
          Action.pausesEarly, Action.givesLine, ChatCall.start, if_true]
        omega
    | opens fresh tasks =>
        obtain rfl := Option.some.inj own
        simp only [World.Allowed, fresh] at allowed
        simp only [World.Allowed, tasks, Function.update_self, Action.allows, Action.opens,
          Action.pausesEarly, Action.givesLine, StreamCall.start, if_true]
        omega
    | @serves _ _ frame _ _ _ task tasks =>
        obtain rfl := Option.some.inj own
        cases frame with
        | chat call | stream call =>
            simp only [World.Allowed, task] at allowed
            simp only [World.Allowed, tasks, Function.update_self]
            exact allowed
    | turns task fits turns tasks =>
        obtain rfl := Option.some.inj own
        have arguments := turns_arguments turns
        simp only [World.Allowed, task] at allowed
        simp only [World.Allowed, tasks, Function.update_self, Action.allows, Action.opens,
          Action.givesLine, arguments.registry, arguments.request]
        omega
    | goes task fits turns tasks =>
        obtain rfl := Option.some.inj own
        simp only [World.Allowed, task] at allowed
        simp only [World.Allowed, tasks, Function.update_self, Action.allows, Action.opens,
          Action.pausesEarly, streamTurns_arguments turns, registry_of_streamTurns turns]
        omega
    | rests elsewhere tasks => rw [elsewhere] at own; cases own
  · obtain ⟨opens, pauses, lines⟩ := Action.allows_of_owner own
    simp only [Action.allows, opens, pauses, lines, Nat.mul_zero, Nat.add_zero]
    unfold World.Allowed at allowed ⊢
    rwa [tasks_of_owner moved own]

/-- **A call takes boundedly many steps**, whatever Redis, the providers, its consumer and the
other calls do: one for each candidate, a constant number of others, three for each pause that ends
before its deadline, and two for each line that its provider gives. -/
theorem work_bounded (env : Environment) (store : Store) (actions : List Action) (w : World)
    (reached : run (World.step env) (.init store) actions = some w) (id : CallId) :
    (∀ call, w.call id = some call → total (Action.steps id) actions ≤
        (selectProviders call.registry call.request.model).length + 14 +
          3 * total (Action.pausesEarly id) actions) ∧
      ∀ call, w.stream id = some call → total (Action.steps id) actions ≤
        (selectProviders call.registry call.request.model).length + 8 +
          2 * total (Action.givesLine id) actions := by
  have paid : total (Action.steps id) actions + w.remaining id ≤
      (World.init store).remaining id + total (Action.allows id) actions :=
    @amortised _ _ _ (Action.steps id) (Action.allows id) (World.remaining · id) (fun _ => True) _
      trivial (fun _ _ _ _ _ => trivial) (fun _ _ _ _ moved => remaining_step moved id) _ _ reached
  have nothing : (World.init store).remaining id = 0 := rfl
  have allowed := allowed_run reached id
  constructor
  · intro call running
    obtain ⟨wire, task⟩ := World.call_eq_some.mp running
    simp only [World.Allowed, task] at allowed
    omega
  · intro call running
    obtain ⟨wire, task⟩ := World.stream_eq_some.mp running
    simp only [World.Allowed, task] at allowed
    omega

/-- The theorem about the second of two calls, which joins the first. -/
theorem work_bounded_joining :
    ∃ w, run (World.step demoEnvironment) (.init .empty) (joining demoResponse) = some w ∧
      (∀ call, w.call 1 = some call → total (Action.steps 1) (joining demoResponse) ≤
        (selectProviders call.registry call.request.model).length + 14 +
          3 * total (Action.pausesEarly 1) (joining demoResponse)) ∧
        ∀ call, w.stream 1 = some call → total (Action.steps 1) (joining demoResponse) ≤
          (selectProviders call.registry call.request.model).length + 8 +
            2 * total (Action.givesLine 1) (joining demoResponse) := by
  have arrives : (run (World.step demoEnvironment) (.init .empty) (joining demoResponse)).isSome =
      true := by decide +kernel
  obtain ⟨w, reached⟩ := Option.isSome_iff_exists.mp arrives
  exact ⟨w, reached, work_bounded demoEnvironment .empty (joining demoResponse) w reached 1⟩

/-! ## A call that has not ended -/

/-- The call awaits the reply to a command. -/
def Point.awaitsReply : Point → Bool
  | .cacheGet | .discard | .acquire _ _ | .poll _ _ | .release _ | .cacheSet _ _ => true
  | .follow _ | .sleep _ _ | .execute _ | .done _ => false

def StreamPoint.awaitsReply : StreamPoint → Bool
  | .cacheGet | .discard | .cacheSet => true
  | .replay _ | .connect _ | .relay | .read | .report | .done _ => false

def Frame.awaitsReply : Frame → Bool
  | .chat call => call.point.awaitsReply
  | .stream call => call.point.awaitsReply

/-- The call has returned, raised or been stopped. -/
def Frame.Ended : Frame → Prop
  | .chat call => ∃ outcome, call.point = .done outcome
  | .stream call => ∃ ending, call.point = .done ending

/-- A turn leads to the await of a reply exactly when it sends a command. -/
theorem turns_awaitsReply {id : CallId} {process : Process} {call : ChatCall} {clock : Clock}
    {input : Input} {turn : Turn} (turns : Turns env id process call clock input turn) :
    turn.call.point.awaitsReply = true ↔ turn.send ≠ none := by
  cases turns <;> simp [Point.awaitsReply, ChatCall.finish]

theorem streamTurns_awaitsReply {call : StreamCall} {clock : StreamClock} {input : StreamInput}
    {turn : StreamTurn} (turns : StreamTurns env call clock input turn) :
    turn.call.point.awaitsReply = true ↔ turn.send ≠ none := by
  cases turns <;> simp [StreamPoint.awaitsReply, StreamCall.finish]

/-- A generator has the provider whose lines it relays. -/
def StreamCall.Served (call : StreamCall) : Prop :=
  call.point = .relay ∨ call.point = .read → call.servingProvider ≠ none

theorem streamTurns_served {call : StreamCall} {clock : StreamClock} {input : StreamInput}
    {turn : StreamTurn} (served : call.Served) (turns : StreamTurns env call clock input turn) :
    turn.call.Served := by
  cases turns with
  | relay => simp [StreamCall.Served, StreamCall.serving]
  | pulled point => exact fun _ => served (.inl point)
  | hit | hitCrash | unreadable | connect | unavailable | replay | replayed | replayRefused
  | replayLost | relayCrash | crash | interrupted | stored | ended | refused | reported | saved
  | stopped => simp [StreamCall.Served, StreamCall.finish]

/-- A call that awaits a reply has a command on its way, a followed future exists, and a
generator that relays has a provider. -/
structure World.Poised (env : Environment) (w : World) : Prop where
  sound : w.Sound env
  wired : ∀ id frame wire, w.tasks id = some ⟨frame, wire⟩ → frame.awaitsReply = true → wire ≠ .idle
  followed : ∀ id call leader, w.call id = some call → call.point = .follow leader →
    w.futures leader ≠ none
  served : ∀ id call, w.stream id = some call → call.Served

theorem poised_init (env : Environment) (store : Store) : (World.init store).Poised env where
  sound := sound_init env store
  wired id frame wire task := by simp [World.init] at task
  followed id call leader running := by simp [World.init, World.call] at running
  served id call running := by simp [World.init, World.stream] at running

theorem Wire.after_ne_idle {wire : Wire} {send : Option Command} (sends : send ≠ none) :
    wire.after send ≠ .idle := by
  obtain ⟨command, rfl⟩ := Option.ne_none_iff_exists'.mp sends
  simp [Wire.after]

theorem wired_step {w next : World} {action : Action} (poised : w.Poised env)
    (moved : w.step env action = some next) {id : CallId} {frame : Frame} {wire : Wire}
    (there : next.tasks id = some ⟨frame, wire⟩) (awaits : frame.awaitsReply = true) :
    wire ≠ .idle := by
  by_cases own : action.owner = some id
  · cases schedules_of_step moved with
    | starts fresh tasks | opens fresh tasks | serves task tasks =>
        obtain rfl := Option.some.inj own
        rw [tasks, Function.update_self] at there
        cases there
        simp
    | turns task fits turns tasks =>
        obtain rfl := Option.some.inj own
        rw [tasks, Function.update_self] at there
        cases there
        exact Wire.after_ne_idle ((turns_awaitsReply turns).mp awaits)
    | goes task fits turns tasks =>
        obtain rfl := Option.some.inj own
        rw [tasks, Function.update_self] at there
        cases there
        exact Wire.after_ne_idle ((streamTurns_awaitsReply turns).mp awaits)
    | rests elsewhere tasks => rw [elsewhere] at own; cases own
  · rw [tasks_of_owner moved own] at there
    exact poised.wired id frame wire there awaits

theorem followed_step {w next : World} {action : Action} (poised : w.Poised env)
    (moved : w.step env action = some next) {id leader : CallId} {call : ChatCall}
    (running : next.call id = some call) (point : call.point = .follow leader) :
    next.futures leader ≠ none := by
  have kept : w.futures leader ≠ none → next.futures leader ≠ none :=
    future_step poised.sound.coherent moved
  refine kept ?_
  cases moves_of_step moved with
  | starts fresh calls =>
      rw [calls, Function.update_apply] at running
      split_ifs at running
      · obtain rfl := Option.some.inj running
        cases point
      · exact poised.followed id call leader running point
  | stays _ calls => exact poised.followed id call leader (calls ▸ running) point
  | turns before turns calls =>
      rw [calls, Function.update_apply] at running
      split_ifs at running
      · obtain rfl := Option.some.inj running
        exact poised.sound.entry_future (turns_follow turns point)
      · exact poised.followed id call leader running point

theorem served_step {w next : World} {action : Action} (poised : w.Poised env)
    (moved : w.step env action = some next) {id : CallId} {call : StreamCall}
    (running : next.stream id = some call) : call.Served := by
  obtain ⟨wire, there⟩ := World.stream_eq_some.mp running
  by_cases own : action.owner = some id
  · cases schedules_of_step moved with
    | starts fresh tasks | turns task fits turns tasks =>
        obtain rfl := Option.some.inj own
        rw [tasks, Function.update_self] at there
        cases there
    | opens fresh tasks =>
        obtain rfl := Option.some.inj own
        rw [tasks, Function.update_self] at there
        cases there
        simp [StreamCall.Served, StreamCall.start]
    | serves task tasks =>
        obtain rfl := Option.some.inj own
        rw [tasks, Function.update_self] at there
        cases there
        exact poised.served _ _ (World.stream_eq_some.mpr ⟨_, task⟩)
    | goes task fits turns tasks =>
        obtain rfl := Option.some.inj own
        rw [tasks, Function.update_self] at there
        cases there
        exact streamTurns_served (poised.served _ _ (World.stream_eq_some.mpr ⟨_, task⟩)) turns
    | rests elsewhere tasks => rw [elsewhere] at own; cases own
  · rw [tasks_of_owner moved own] at there
    exact poised.served id call (World.stream_eq_some.mpr ⟨wire, there⟩)

theorem poised_step {w next : World} {action : Action} (poised : w.Poised env)
    (moved : w.step env action = some next) : next.Poised env where
  sound := sound_step poised.sound moved
  wired _ _ _ there awaits := wired_step poised moved there awaits
  followed _ _ _ running point := followed_step poised moved running point
  served _ _ running := served_step poised moved running

/-- An action with which a call goes on that has begun, and which makes it no longer: Redis answers,
a pause ends late, a provider gives no further line. Nobody cancels or stops the call. -/
def Action.proceeds : Action → Bool
  | .serve _ delivery => delivery == .answered
  | .chat _ .cancel _ => false
  | .chat _ .slept clock => clock.late
  | .chat _ _ _ => true
  | .stream _ .stop _ => false
  | .stream _ (.event (.line _)) _ => false
  | .stream _ _ _ => true
  | _ => false

/-- The call with this number can go on. -/
def World.GoesOn (env : Environment) (w : World) (id : CallId) : Prop :=
  ∃ action next, action.proceeds = true ∧ action.owner = some id ∧ w.step env action = some next

theorem goesOn_chat {w : World} {id : CallId} {call : ChatCall} {wire : Wire}
    (task : w.tasks id = some ⟨.chat call, wire⟩) (input : Input) (clock : Clock)
    (fits : input.fits wire = true)
    (proceeds : (Action.chat id input clock).proceeds = true)
    (resumed : (call.resume env id (w.process env call) clock input).isSome = true) :
    w.GoesOn env id := by
  obtain ⟨turn, resumed⟩ := Option.isSome_iff_exists.mp resumed
  refine ⟨.chat id input clock, w.applyTurn env id wire clock.latencyMs turn, proceeds, rfl, ?_⟩
  simp only [World.step, task, fits, if_true, resumed, Option.map_some]

theorem goesOn_stream {w : World} {id : CallId} {call : StreamCall} {wire : Wire}
    (task : w.tasks id = some ⟨.stream call, wire⟩) (input : StreamInput) (clock : StreamClock)
    (fits : input.fits wire = true) (proceeds : (Action.stream id input clock).proceeds = true)
    (resumed : (call.resume env clock input).isSome = true) : w.GoesOn env id := by
  obtain ⟨turn, resumed⟩ := Option.isSome_iff_exists.mp resumed
  refine ⟨.stream id input clock, w.applyStreamTurn id wire turn, proceeds, rfl, ?_⟩
  simp only [World.step, task, fits, if_true, resumed, Option.map_some]

/-- A call that awaits a reply takes every reply. -/
theorem resumeReply_isSome {id : CallId} {process : Process} {call : ChatCall} {clock : Clock}
    (awaits : call.point.awaitsReply = true) (reply : Reply) :
    (call.resumeReply env id process clock reply).isSome = true := by
  unfold ChatCall.resumeReply
  cases point : call.point with
  | follow | sleep | execute | done => rw [point] at awaits; cases awaits
  | cacheGet | acquire | poll | release | discard | cacheSet =>
      dsimp only
      repeat' split
      all_goals rfl

theorem resumeStreamReply_isSome {call : StreamCall} {clock : StreamClock}
    (awaits : call.point.awaitsReply = true) (reply : Reply) :
    (call.resume env clock (.reply reply)).isSome = true := by
  simp only [StreamCall.resume]
  cases point : call.point with
  | replay | connect | relay | read | report | done => rw [point] at awaits; cases awaits
  | cacheGet | discard | cacheSet =>
      dsimp only
      repeat' split
      all_goals rfl

/-- A call whose command is on its way, or has been answered, goes on. -/
theorem goesOn_of_wire {w : World} {id : CallId} {frame : Frame} {wire : Wire}
    (task : w.tasks id = some ⟨frame, wire⟩) (awaits : frame.awaitsReply = true)
    (busy : wire ≠ .idle) : w.GoesOn env id := by
  cases wire with
  | idle => exact absurd rfl busy
  | sent command =>
      exact ⟨.serve id .answered, w.deliver id frame command .answered, rfl, rfl,
        by simp only [World.step, task]⟩
  | replied reply =>
      have arrived : (Wire.replied reply).carries reply = true := by simp [Wire.carries]
      cases frame with
      | chat call =>
          exact goesOn_chat task (.reply reply) overdue arrived rfl (resumeReply_isSome awaits reply)
      | stream call =>
          exact goesOn_stream task (.reply reply) ⟨0, fun _ => 0⟩ arrived rfl
            (resumeStreamReply_isSome awaits reply)

/-- **A call that has not ended** goes on, or it awaits a future that is not done. -/
theorem World.Poised.goesOn {w : World} (poised : w.Poised env) {id : CallId} {frame : Frame}
    {wire : Wire} (task : w.tasks id = some ⟨frame, wire⟩) (running : ¬ frame.Ended) :
    w.GoesOn env id ∨ ∃ call leader, frame = .chat call ∧ call.point = .follow leader ∧
      w.futures leader = some .pending := by
  by_cases awaits : frame.awaitsReply = true
  · exact .inl (goesOn_of_wire task awaits (poised.wired id frame wire task awaits))
  cases frame with
  | chat call =>
      cases point : call.point with
      | cacheGet | discard | acquire | poll | release | cacheSet =>
          simp [Frame.awaitsReply, Point.awaitsReply, point] at awaits
      | done outcome => exact absurd ⟨outcome, point⟩ running
      | sleep first rest =>
          exact .inl (goesOn_chat task .slept overdue rfl rfl
            (by simp [ChatCall.resume, point]))
      | execute attempt =>
          refine .inl (goesOn_chat task (.attempt (.exception "")) overdue rfl rfl ?_)
          simp [ChatCall.resume, point, Attempt.resume]
      | follow leader =>
          -- a future that is done, or that is missing, is not awaited
          cases future : w.futures leader with
          | none =>
              exact absurd future
                (poised.followed id call leader (World.call_eq_some.mpr ⟨wire, task⟩) point)
          | some state =>
              cases state with
              | pending => exact .inr ⟨call, leader, rfl, point, future⟩
              | result | exception | cancelled =>
                  exact .inl (goesOn_chat task .resolved overdue rfl rfl
                    (by simp [ChatCall.resume, point, World.process, future]))
  | stream call =>
      have goes : ∀ input, (∀ wire : Wire, input.fits wire = true) →
          (∀ clock, (Action.stream id input clock).proceeds = true) →
          (∀ clock, (call.resume env clock input).isSome = true) → w.GoesOn env id :=
        fun input fits proceeds resumed =>
          goesOn_stream task input ⟨0, fun _ => 0⟩ (fits wire) (proceeds _) (resumed _)
      cases point : call.point with
      | cacheGet | discard | cacheSet =>
          simp [Frame.awaitsReply, StreamPoint.awaitsReply, point] at awaits
      | done ending => exact absurd ⟨ending, point⟩ running
      | replay | relay | report =>
          exact .inl (goes .pull (fun _ => rfl) (fun _ => rfl) (by simp [StreamCall.resume, point]))
      | connect attempt =>
          exact .inl (goes (.event .exhausted) (fun _ => rfl) (fun _ => rfl)
            (by simp [StreamCall.resume, point]))
      | read =>
          obtain ⟨provider, serving⟩ := Option.ne_none_iff_exists'.mp
            (poised.served id call (World.stream_eq_some.mpr ⟨wire, task⟩) (.inr point))
          exact .inl (goes (.event .exhausted) (fun _ => rfl) (fun _ => rfl)
            (by simp [StreamCall.resume, point, serving]))

/-! ## No deadlock -/

/-- The call with this number has ended. -/
def World.Ended (w : World) (id : CallId) : Prop :=
  ∃ task, w.tasks id = some task ∧ task.frame.Ended

/-- All calls have ended. -/
def World.Idle (w : World) : Prop := ∀ id task, w.tasks id = some task → task.frame.Ended

/-- The creator of a future that is not done awaits no future. -/
theorem World.Sound.creator {w : World} (sound : w.Sound env) {leader : CallId}
    (pending : w.futures leader = some .pending) :
    ∃ creator, w.call leader = some creator ∧ ∀ other, creator.point ≠ .follow other := by
  obtain ⟨creator, there, led⟩ := (sound.owned leader).mp (by rw [pending]; simp)
  refine ⟨creator, there, fun other point => ?_⟩
  have coherent := sound.coherent leader creator there
  simp only [ChatCall.Coherent, point] at coherent
  simp [ChatCall.led, Point.executing, point, coherent.1] at led

/-- Without cancellations the creator of a future that is not done has not ended. -/
theorem World.Calm.creator_runs {w : World} (calm : w.Calm env) {leader : CallId}
    (pending : w.futures leader = some .pending) : ¬ w.Ended leader := by
  rw [calm.mirrored leader] at pending
  obtain ⟨creator, there, resolving⟩ := Option.bind_eq_some_iff.mp pending
  obtain ⟨wire, at_⟩ := World.call_eq_some.mp there
  rintro ⟨task, found, ended⟩
  obtain rfl := Option.some.inj (at_.symm.trans found)
  obtain ⟨outcome, done⟩ := ended
  rcases ChatCall.resolving_iff.mp resolving with inside | ⟨provider, response, release⟩
  · rw [done] at inside
    cases inside
  · rw [done] at release
    cases release

theorem poised_run {store : Store} {actions : List Action} {w : World}
    (reached : run (World.step env) (.init store) actions = some w) : w.Poised env :=
  invariant_of_step (poised_init env store) (fun _ _ _ poised moved => poised_step poised moved)
    reached

/-- The creator of a future that is not done goes on or has ended. -/
theorem World.Poised.creator_goesOn {w : World} (poised : w.Poised env) {leader : CallId}
    (pending : w.futures leader = some .pending) : w.GoesOn env leader ∨ w.Ended leader := by
  obtain ⟨creator, there, apart⟩ := poised.sound.creator pending
  obtain ⟨wire, task⟩ := World.call_eq_some.mp there
  by_cases ended : (Frame.chat creator).Ended
  · exact .inr ⟨_, task, ended⟩
  · rcases poised.goesOn task ended with goes | ⟨call, other, same, point, -⟩
    · exact .inl goes
    · cases same
      exact absurd point (apart other)

/-- Without cancellations some call goes on as long as one has not ended. -/
theorem World.Poised.progress {w : World} (poised : w.Poised env) (calm : w.Calm env)
    (busy : ¬ w.Idle) : ∃ id, w.GoesOn env id := by
  obtain ⟨id, task, there, running⟩ : ∃ id task, w.tasks id = some task ∧ ¬ task.frame.Ended := by
    simpa [World.Idle] using busy
  rcases poised.goesOn there running with goes | ⟨call, leader, -, -, pending⟩
  · exact ⟨id, goes⟩
  · rcases poised.creator_goesOn pending with goes | ended
    · exact ⟨leader, goes⟩
    · exact absurd ended (calm.creator_runs pending)

/-- **No deadlock.** In every state of every run, whatever was lost or cancelled, a call that has
not ended goes on, or it awaits the future of a call that goes on or that has ended. Without
cancellations the latter has not ended, so that all calls have ended when none goes on. -/
theorem no_deadlock (env : Environment) (store : Store) (actions : List Action) (w : World)
    (reached : run (World.step env) (.init store) actions = some w) :
    (∀ id task, w.tasks id = some task → ¬ task.frame.Ended → w.GoesOn env id ∨
      ∃ call leader, task.frame = .chat call ∧ call.point = .follow leader ∧
        w.futures leader = some .pending ∧ (w.GoesOn env leader ∨ w.Ended leader)) ∧
      (Uncancelled actions → (∀ id, ¬ w.GoesOn env id) → w.Idle) := by
  have poised := poised_run reached
  constructor
  · intro id task there running
    rcases poised.goesOn there running with goes | ⟨call, leader, frame, point, pending⟩
    · exact .inl goes
    · exact .inr ⟨call, leader, frame, point, pending, poised.creator_goesOn pending⟩
  · intro uncancelled stuck
    by_contra busy
    obtain ⟨id, goes⟩ := poised.progress (calm_run uncancelled reached) busy
    exact stuck id goes

theorem awaiting_reached :
    ∃ w, run (World.step demoEnvironment) (.init .empty) awaiting = some w := by
  have arrives : (run (World.step demoEnvironment) (.init .empty) awaiting).isSome = true := by
    decide +kernel
  exact Option.isSome_iff_exists.mp arrives

/-- The theorem about a call that awaits the future of another one. -/
theorem no_deadlock_awaiting :
    ∃ w, run (World.step demoEnvironment) (.init .empty) awaiting = some w ∧
      (∀ id task, w.tasks id = some task → ¬ task.frame.Ended → w.GoesOn demoEnvironment id ∨
        ∃ call leader, task.frame = .chat call ∧ call.point = .follow leader ∧
          w.futures leader = some .pending ∧ (w.GoesOn demoEnvironment leader ∨ w.Ended leader)) ∧
        (Uncancelled awaiting → (∀ id, ¬ w.GoesOn demoEnvironment id) → w.Idle) := by
  obtain ⟨w, reached⟩ := awaiting_reached
  exact ⟨w, reached, no_deadlock demoEnvironment .empty awaiting w reached⟩

/-! ## Every run can be completed -/

/-- The calls of a run. -/
def callers (actions : List Action) : Finset CallId := (actions.filterMap Action.owner).toFinset

theorem callers_run {store : Store} {actions : List Action} {w : World}
    (reached : run (World.step env) (.init store) actions = some w) {id : CallId}
    (begun : w.tasks id ≠ none) : id ∈ callers actions := by
  refine run_induction_of_step (P := fun actions w => ∀ id, w.tasks id ≠ none → id ∈ callers actions)
    (by simp [World.init]) ?_ reached id begun
  intro actions w action next _ known moved id begun
  simp only [callers, List.filterMap_append, List.toFinset_append, Finset.mem_union]
  by_cases own : action.owner = some id
  · exact .inr (by simp [own])
  · exact .inl (known id (tasks_of_owner moved own ▸ begun))

/-- What a call goes on with is one step of it and allows no more. -/
theorem Action.allows_of_proceeds {action : Action} (proceeds : action.proceeds = true) :
    (∃ id, action.owner = some id) ∧ action.cancels = false ∧ ∀ id, action.allows id = 0 := by
  cases action with
  | start | startStream | expire | limit | rollback => cases proceeds
  | serve id => exact ⟨⟨id, rfl⟩, rfl, fun _ => rfl⟩
  | chat id input clock =>
      cases input with
      | cancel => cases proceeds
      | slept =>
          have late : clock.late = true := proceeds
          exact ⟨⟨id, rfl⟩, rfl, fun other => by simp [allows, opens, pausesEarly, givesLine, late]⟩
      | reply | resolved | attempt => exact ⟨⟨id, rfl⟩, rfl, fun _ => rfl⟩
  | stream id input =>
      cases input with
      | stop => cases proceeds
      | event event =>
          cases event with
          | line => cases proceeds
          | exhausted | providerError | exception => exact ⟨⟨id, rfl⟩, rfl, fun _ => rfl⟩
      | reply | pull => exact ⟨⟨id, rfl⟩, rfl, fun _ => rfl⟩

/-- The steps that some calls have left. -/
def World.left (w : World) (ids : Finset CallId) : ℕ := ∑ id ∈ ids, w.remaining id

/-- Only a call that has begun goes on. -/
theorem begun_of_proceeds {w next : World} {action : Action} (moved : w.step env action = some next)
    (proceeds : action.proceeds = true) {id : CallId} (own : action.owner = some id) :
    w.tasks id ≠ none := by
  cases schedules_of_step moved with
  | starts | opens => cases proceeds
  | serves task | turns task | goes task =>
      obtain rfl := Option.some.inj own
      rw [task]
      simp
  | rests elsewhere => rw [elsewhere] at own; cases own

/-- A call that goes on has one step less left, and the others have as many as before. -/
theorem left_lt {w next : World} {action : Action} (moved : w.step env action = some next)
    (proceeds : action.proceeds = true) {ids : Finset CallId}
    (known : ∀ id, w.tasks id ≠ none → id ∈ ids) : next.left ids < w.left ids := by
  obtain ⟨⟨id, own⟩, -, nothing⟩ := Action.allows_of_proceeds proceeds
  refine Finset.sum_lt_sum (fun other _ => ?_) ⟨id, known id (begun_of_proceeds moved proceeds own), ?_⟩
  · have paid := remaining_step moved other
    rw [nothing other] at paid
    omega
  · have paid := remaining_step moved id
    rw [nothing id, Action.steps, if_pos own] at paid
    omega

/-- **Every run without a cancellation can be completed**: its calls go on, nobody cancelling or
stopping them, until all have ended, in at most as many steps as they have left. -/
theorem completes (env : Environment) (store : Store) (actions : List Action) (w : World)
    (uncancelled : Uncancelled actions)
    (reached : run (World.step env) (.init store) actions = some w) :
    ∃ more last, (∀ action ∈ more, action.proceeds = true) ∧ run (World.step env) w more = some last ∧
      last.Idle ∧ more.length ≤ w.left (callers actions) := by
  -- what holds of the states that the continuation goes through
  let Known : World → Prop := fun w =>
    w.Poised env ∧ w.Calm env ∧ ∀ id, w.tasks id ≠ none → id ∈ callers actions
  have lowers : ∀ w action next, Known w → action.proceeds = true → w.step env action = some next →
      Known next ∧ next.left (callers actions) < w.left (callers actions) := by
    rintro w action next ⟨poised, calm, known⟩ proceeds moved
    obtain ⟨-, quiet, -⟩ := Action.allows_of_proceeds proceeds
    refine ⟨⟨poised_step poised moved, calm_step calm moved quiet, fun id begun => ?_⟩,
      left_lt moved proceeds known⟩
    by_cases own : action.owner = some id
    · exact known id (begun_of_proceeds moved proceeds own)
    · exact known id (tasks_of_owner moved own ▸ begun)
  have advances : ∀ w, Known w → ¬ w.Idle →
      ∃ action next, action.proceeds = true ∧ w.step env action = some next := by
    rintro w ⟨poised, calm, -⟩ busy
    obtain ⟨id, action, next, proceeds, -, moved⟩ := poised.progress calm busy
    exact ⟨action, next, proceeds, moved⟩
  obtain ⟨more, last, proceeds, there, -, idle, short⟩ := exists_completion lowers advances
    ⟨poised_run reached, calm_run uncancelled reached, fun id begun => callers_run reached begun⟩
  exact ⟨more, last, proceeds, there, idle, short⟩

/-- The theorem about a call that awaits the future of another one. -/
theorem completes_awaiting :
    ∃ w more last, run (World.step demoEnvironment) (.init .empty) awaiting = some w ∧
      (∀ action ∈ more, action.proceeds = true) ∧
        run (World.step demoEnvironment) w more = some last ∧ last.Idle ∧
          more.length ≤ w.left (callers awaiting) := by
  obtain ⟨w, reached⟩ := awaiting_reached
  obtain ⟨more, last, completed⟩ :=
    completes demoEnvironment .empty awaiting w (by decide) reached
  exact ⟨w, more, last, reached, completed⟩

end LlmGateway
