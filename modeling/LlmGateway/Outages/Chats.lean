import LlmGateway.Cluster.Accounting
import LlmGateway.Library.Keeping
import LlmGateway.Outages.Direct

/-!
# Chats while Redis is down

Any number of processes, no cancellations, and a Redis that fails at any command it is sent, with
or without having executed it. A call of `handle_chat_completion` then ends with the exception of
an empty candidate list, with what its own chain or the chain of its leader ended with, or with
an entry that was in Redis under its key; and its future is resolved and out of the table
(`World.Served`).

There is one way to break this. A call that is about to return a response records its
usage first, and the counters of the metrics refuse a negative count and one that is too large
for a double. `served_iff` says that there is no other one.

A call whose commands all fail, and that has no twin in its process, ends as `directChat` does
on the same answers of the providers, with the same records (`direct_chat`).
-/

set_option autoImplicit false

namespace LlmGateway

open LlmGateway.Library
open LlmGateway.Library.Redis (Command Reply Store)

variable {env : Environment}

/-! ## What is promised -/

/-- A text that parses as this response was in Redis under the key at some moment of the run. -/
def WasStored (env : Environment) (store : Store) (actions : List Action) (key : String)
    (response : ChatResponse) : Prop :=
  ∃ before after state raw, actions = before ++ after ∧
    run (World.step env) (.init store) before = some state ∧
      state.store key = some (.text raw) ∧ parseEntry env raw = some response

/-- **Where the outcome of a call comes from.** -/
inductive Explains (env : Environment) (store : Store) (actions : List Action) (w : World)
    (call : ChatCall) : Outcome → Prop
  | unknown (candidates : selectProviders call.registry call.request.model = []) :
      Explains env store actions w call (.raised (noCandidate call.request.model))
  | own {provider : BaseProvider} {response : ChatResponse}
      (chain : call.chain = some (.returned provider response)) :
      Explains env store actions w call (.returned response)
  | ownRaised {exception : PyException} (chain : call.chain = some (.raised exception)) :
      Explains env store actions w call (.raised exception)
  | leader {leader : CallId} {creator : ChatCall} {provider : BaseProvider}
      {response : ChatResponse} (joined : call.inflight = some leader)
      (there : w.call leader = some creator) (place : creator.slot env = call.slot env)
      (chain : creator.chain = some (.returned provider response)) :
      Explains env store actions w call (.returned response)
  | leaderRaised {leader : CallId} {creator : ChatCall} {exception : PyException}
      (joined : call.inflight = some leader) (there : w.call leader = some creator)
      (place : creator.slot env = call.slot env)
      (chain : creator.chain = some (.raised exception)) :
      Explains env store actions w call (.raised exception)
  | entry {response : ChatResponse}
      (stored : WasStored env store actions (call.cacheKey env) response) :
      Explains env store actions w call (.returned response)

/-- What every call is promised that has ended. -/
structure World.Served (env : Environment) (store : Store) (actions : List Action) (w : World) :
    Prop where
  /-- Its outcome is one that it may have. -/
  explained : ∀ id call outcome, w.call id = some call → call.point = .done outcome →
    Explains env store actions w call outcome
  /-- The future that it registered is resolved. -/
  resolved : ∀ id call outcome, w.call id = some call → call.point = .done outcome →
    call.led = true → ∃ state, w.futures id = some state ∧ state ≠ .pending
  /-- The future that it registered is out of the table. -/
  removed : ∀ id call outcome, w.call id = some call → call.point = .done outcome →
    ∀ slot, w.inflight slot ≠ some id

/-- The requests of a run come with the registry of the factory, or with another one whose
prices are not negative. -/
def Action.Configured : Action → Prop
  | .start _ _ _ registry _ => registry.Admissible
  | _ => True

/-! ## Histories -/

section Histories

variable {store : Store} {actions : List Action} {action : Action} {w next : World}

theorem WasStored.step {key : String} {response : ChatResponse}
    (stored : WasStored env store actions key response) :
    WasStored env store (actions ++ [action]) key response := by
  obtain ⟨before, after, state, raw, rfl, reached, there, parsed⟩ := stored
  exact ⟨before, after ++ [action], state, raw, by simp, reached, there, parsed⟩

/-- An outcome stays explained. -/
theorem Explains.step {call : ChatCall} {outcome : Outcome} (coherent : w.Coherent)
    (moved : w.step env action = some next)
    (explains : Explains env store actions w call outcome) :
    Explains env store (actions ++ [action]) next call outcome := by
  cases explains with
  | unknown candidates => exact .unknown candidates
  | own chain => exact .own chain
  | ownRaised chain => exact .ownRaised chain
  | leader joined there place chain =>
      obtain ⟨later, now, same, kept⟩ := call_step coherent moved there
      exact .leader joined now ((same.slot env).trans place) (kept _ chain)
  | leaderRaised joined there place chain =>
      obtain ⟨later, now, same, kept⟩ := call_step coherent moved there
      exact .leaderRaised joined now ((same.slot env).trans place) (kept _ chain)
  | entry stored => exact .entry stored.step

end Histories

/-! ## Turns -/

/-- A call that raises after its chain raises what its chain raised. -/
def ChatCall.Straight (call : ChatCall) : Prop :=
  ∀ exception, call.point = .release (.raised exception) → call.chain = some (.raised exception)

section Turn

variable {id : CallId} {process : Process} {call : ChatCall} {clock : Clock} {input : Input}
  {turn : Turn}

theorem turns_straight (told : process.futures id = call.future) (uncancelled : input ≠ .cancel)
    (turns : Turns env id process call clock input turn) : turn.call.Straight := by
  intro exception point
  cases turns with
  | raisedLocked here ended fails =>
      cases point
      cases fails with
      | told => rfl
      | clash decided => exact absurd (by rw [told]; simp [ChatCall.future, here]) decided
  | cancelledLocked => exact absurd rfl uncancelled
  | _ => cases point

/-- **How a call ends**, in a run without cancellations. -/
theorem turns_explained {store : Store} {actions : List Action} {w : World} {outcome : Outcome}
    (calm : w.Calm env) (linked : w.Linked env) (running : w.call id = some call)
    (straight : call.Straight) (priced : call.Priced) (uncancelled : input ≠ .cancel)
    (read : ∀ raw response, input = .reply (.bulk raw) → parseEntry env raw = some response →
      WasStored env store actions (call.cacheKey env) response)
    (billable : ∀ response, Returns env w call input response → response.usage.Billable)
    (turns : Turns env id (w.process env call) call clock input turn)
    (ended : turn.call.point = .done outcome) :
    Explains env store actions w turn.call outcome := by
  have told : (w.process env call).futures id = call.future := calm.mirrored.of_call running
  cases turns with
  | hit point parsed settles =>
      cases ended
      have counts := billable _ (.inl (.hit point parsed))
      obtain rfl := settles.returned_iff.mpr (emitMetric_cacheRecord.mpr counts)
      exact .entry (read _ _ rfl parsed)
  | waited point parsed settles =>
      cases ended
      have counts := billable _ (.inl (.waited point parsed))
      obtain rfl := settles.returned_iff.mpr (emitMetric_cacheRecord.mpr counts)
      exact .entry (read _ _ rfl parsed)
  | followed awaits result settles =>
      cases ended
      have counts := billable _ (.inl (.future awaits result))
      obtain rfl := settles.returned_iff.mpr (emitMetric_cacheRecord.mpr counts)
      obtain ⟨creator, provider, there, place, chain⟩ := linked.awaited running awaits result
      exact .leader rfl there place chain
  | followedRaise awaits raises =>
      cases ended
      generalize state : (w.process env call).futures _ = future at raises
      cases raises with
      | exception exception =>
          obtain ⟨creator, there, place, chain⟩ :=
            linked.creator running awaits state (by simp) (by simp)
          generalize same : creator.chain = ending at chain
          cases chain
          exact .leaderRaised rfl there place same
      | cancelled => exact absurd state (calm.mirrored.not_cancelled _)
  | unknown missed entry candidates =>
      cases ended
      exact .unknown candidates
  | returnedClash point _ _ decided =>
      exact absurd (by rw [told]; simp [ChatCall.future, point]) decided
  | raisedFree point _ fails =>
      cases ended
      cases fails with
      | told => exact .ownRaised rfl
      | clash decided => exact absurd (by rw [told]; simp [ChatCall.future, point]) decided
  | releasedClash point decided =>
      exact absurd (by rw [told]; simp [ChatCall.future, point]) decided
  | releasedRaise point =>
      cases ended
      exact .ownRaised (straight _ point)
  | settled point settles =>
      cases ended
      have coherent := calm.sound.coherent id call running
      simp only [ChatCall.Coherent, point] at coherent
      have counts := billable _ (.inr ⟨_, point⟩)
      have admissible := priced.providers _ (by rw [point]; exact List.mem_singleton_self _)
      obtain rfl := settles.returned_iff.mpr ((emitMetric_priced (admissible.priced _)).mpr counts)
      exact .own coherent
  | cancelledFollow | cancelledLocked | cancelledFree | cancelledElsewhere =>
      exact absurd rfl uncancelled
  | _ => cases ended

end Turn

/-! ## Runs -/

/-- What holds after the actions of a run without cancellations. -/
structure World.Steady (env : Environment) (store : Store) (actions : List Action) (w : World) :
    Prop where
  calm : w.Calm env
  linked : w.Linked env
  flows : w.Flows env (fun _ _ => True) fun _ _ => True
  replied : ∀ id task raw response, w.tasks id = some task → task.wire = .replied (.bulk raw) →
    parseEntry env raw = some response →
      WasStored env store actions (task.frame.cacheKey env) response
  straight : ∀ id call, w.call id = some call → call.Straight
  priced : ∀ id call, w.call id = some call → call.Priced

theorem steady_init (env : Environment) (store : Store) :
    (World.init store).Steady env store [] where
  calm := calm_init env store
  linked := linked_init env store
  flows := ⟨by simp, by simp [World.init]⟩
  replied := by simp [World.init]
  straight := by simp [World.init, World.call]
  priced := by simp [World.init, World.call]

section Step

variable {store : Store} {actions : List Action} {action : Action} {w next : World}

theorem replied_step (steady : w.Steady env store actions)
    (reached : run (World.step env) (.init store) actions = some w)
    (moved : w.step env action = some next) {id : CallId} {task : Task} {raw : String}
    {response : ChatResponse} (there : next.tasks id = some task)
    (replied : task.wire = .replied (.bulk raw)) (parsed : parseEntry env raw = some response) :
    WasStored env store (actions ++ [action]) (task.frame.cacheKey env) response := by
  have old : w.tasks id = some task → WasStored env store (actions ++ [action])
      (task.frame.cacheKey env) response := fun before =>
    (steady.replied id task raw response before replied parsed).step
  cases steps_of_step moved with
  | start | startStream =>
      simp only [World.spawn, Function.update_apply] at there
      split_ifs at there
      · cases there
        cases replied
      · exact old there
  | @serve other frame command delivery sent =>
      have sends := (steady.flows.tasks other _ sent).sent command rfl
      cases delivery <;> simp only [World.deliver, Function.update_apply] at there <;>
        split_ifs at there
      all_goals
        first
        | exact old there
        | cases there
      · exact ⟨actions, [_], w, raw, rfl, reached, (sends.get_of_bulk (Wire.replied.inj replied)).2,
          parsed⟩
      · cases replied
      · cases replied
  | chat task fits turns =>
      simp only [World.applyTurn, Function.update_apply] at there
      split_ifs at there
      · cases there
        exact absurd replied (Wire.after_ne_replied _ _ _)
      · exact old there
  | stream task fits turns =>
      simp only [World.applyStreamTurn, Function.update_apply] at there
      split_ifs at there
      · cases there
        exact absurd replied (Wire.after_ne_replied _ _ _)
      · exact old there
  | expire | limit | rollback => exact old there

theorem steady_step (steady : w.Steady env store actions)
    (reached : run (World.step env) (.init store) actions = some w)
    (moved : w.step env action = some next) (uncancelled : action.cancels = false)
    (configured : action.Configured) : next.Steady env store (actions ++ [action]) := by
  refine ⟨calm_step steady.calm moved uncancelled, linked_step steady.linked moved, ?_,
    fun id task raw response => replied_step steady reached moved, ?_, ?_⟩
  · exact flows_step ⟨fun _ _ _ => trivial, fun _ _ _ _ _ => trivial⟩ steady.linked steady.flows
      moved fun _ _ _ => trivial
  · intro other found there
    cases moves_of_step moved with
    | starts fresh calls =>
        rw [calls, Function.update_apply] at there
        split_ifs at there
        · cases there
          intro exception point
          cases point
        · exact steady.straight other found there
    | stays far calls => exact steady.straight other found (calls ▸ there)
    | @turns id call input clock turn _ running turns calls =>
        rw [calls, Function.update_apply] at there
        split_ifs at there
        · cases there
          exact turns_straight (steady.calm.mirrored.of_call running)
            (by rintro rfl; cases uncancelled) turns
        · exact steady.straight other found there
  · intro other found there
    cases moves_of_step moved with
    | starts fresh calls =>
        rw [calls, Function.update_apply] at there
        split_ifs at there
        · cases there
          exact ⟨configured, by simp [ChatCall.start, Point.providers]⟩
        · exact steady.priced other found there
    | stays far calls => exact steady.priced other found (calls ▸ there)
    | @turns id call input clock turn _ running turns calls =>
        rw [calls, Function.update_apply] at there
        split_ifs at there
        · cases there
          exact turns_priced (steady.priced id call running) turns
        · exact steady.priced other found there

theorem steady_run (uncancelled : Uncancelled actions)
    (configured : ∀ action ∈ actions, action.Configured)
    (reached : run (World.step env) (.init store) actions = some w) :
    w.Steady env store actions :=
  run_induction (C := fun _ action _ => action.cancels = false ∧ action.Configured)
    (P := fun actions w => w.Steady env store actions) (steady_init env store)
    (fun _ _ _ _ reached steady moved met => steady_step steady reached moved met.1 met.2)
    ((throughout_of_actions uncancelled _).and (throughout_of_actions configured _)) reached

/-- A step by which billable counts are returned ends a call as promised. -/
theorem explained_step (steady : w.Steady env store actions)
    (explained : ∀ id call outcome, w.call id = some call → call.point = .done outcome →
      Explains env store actions w call outcome)
    (moved : w.step env action = some next) (uncancelled : action.cancels = false)
    (billable : ReturnsBillable env w action next) (id : CallId) (call : ChatCall)
    (outcome : Outcome) (there : next.call id = some call) (ended : call.point = .done outcome) :
    Explains env store (actions ++ [action]) next call outcome := by
  have coherent := steady.linked.sound.coherent
  have old : w.call id = some call → Explains env store (actions ++ [action]) next call outcome :=
    fun before => (explained id call outcome before ended).step coherent moved
  cases steps_of_step moved with
  | start fresh =>
      rw [call_spawn_chat, Function.update_apply] at there
      split_ifs at there
      · cases there
        cases ended
      · exact old there
  | startStream fresh =>
      rw [World.spawn, call_update_stream _ (call_eq_none_of_tasks fresh) (by simp)] at there
      exact old there
  | serve task =>
      rw [call_deliver task] at there
      exact old there
  | @chat other before wire input clock turn task fits turns =>
      have running : w.call other = some before := World.call_eq_some.mpr ⟨wire, task⟩
      rw [call_applyTurn, Function.update_apply] at there
      split_ifs at there
      · cases there
        refine Explains.step coherent moved (turns_explained steady.calm steady.linked running
          (steady.straight other before running) (steady.priced other before running)
          (by rintro rfl; cases uncancelled) ?_
          (fun response => billable other input clock before response rfl running) turns ended)
        rintro raw response rfl parsed
        exact steady.replied other _ raw response task (Wire.carries_eq fits) parsed
      · exact old there
  | @stream other before wire input clock turn task fits turns =>
      have same : (w.applyStreamTurn other wire turn).call = w.call :=
        (call_of_tasks rfl).trans (call_update_stream ⟨.stream turn.call, wire.after turn.send⟩
          (by simp [World.call, task]) (by simp))
      exact old (same ▸ there)
  | expire | limit | rollback => exact old there

/-- In a steady state everything holds but what is said about outcomes. -/
theorem World.Steady.served (steady : w.Steady env store actions)
    (explained : ∀ id call outcome, w.call id = some call → call.point = .done outcome →
      Explains env store actions w call outcome) : w.Served env store actions where
  explained := explained
  resolved id call outcome running point led := by
    have present := (steady.calm.sound.owned id).mpr ⟨call, running, led⟩
    obtain ⟨state, future⟩ := Option.ne_none_iff_exists'.mp present
    refine ⟨state, future, ?_⟩
    rintro rfl
    rw [steady.calm.mirrored.of_call running] at future
    rcases ChatCall.resolving_iff.mp future with inside | ⟨provider, response, release⟩
    · rw [point] at inside
      cases inside
    · rw [point] at release
      cases release
  removed id call outcome running point slot entry := by
    obtain ⟨creator, there, -, inside⟩ := steady.calm.sound.tabled slot id entry
    obtain rfl := Option.some.inj (running.symm.trans there)
    rw [point] at inside
    cases inside

end Step

/-- **Redis outages, exactly.** In a run without cancellations, whatever Redis and the providers
do, every call ends as promised if and only if no call is about to return counts that cannot
be billed. -/
theorem served_iff {store : Store} {actions : List Action} (uncancelled : Uncancelled actions)
    (configured : ∀ action ∈ actions, action.Configured) :
    AlwaysAfter (World.step env) (World.Served env store) (.init store) actions ↔
      Throughout (World.step env) (ReturnsBillable env) (.init store) actions := by
  have steady : ∀ before after state, actions = before ++ after →
      run (World.step env) (.init store) before = some state → state.Steady env store before := by
    intro before after state split reached
    exact steady_run (fun action member => uncancelled action (by simp [split, member]))
      (fun action member => configured action (by simp [split, member])) reached
  constructor
  · intro always before action after state next split reached moved
    have now := steady before (action :: after) state split reached
    have served := always.after_step split reached moved
    rintro id input clock call response rfl running returns
    by_contra unbillable
    cases moves_of_step moved with
    | stays far => exact far id input clock rfl
    | @turns _ call' _ _ turn _ found turns calls =>
        obtain rfl := Option.some.inj (running.symm.trans found)
        have proceeds : input ≠ .cancel := by
          rintro rfl
          have kept := uncancelled (.chat id .cancel clock) (by simp [split])
          cases kept
        obtain ⟨⟨exception, refused, point⟩, unraised, leaders⟩ := turns_refused now.calm
          now.linked running (now.priced id call running) proceeds returns unbillable turns
        have there : next.call id = some turn.call := by rw [calls, Function.update_self]
        cases served.explained id turn.call _ there point with
        | unknown => rcases refused with raised | raised <;> cases raised
        | ownRaised chain => exact unraised _ chain
        | leaderRaised joined creates place chain =>
            obtain ⟨creator, provider, before, returned⟩ := leaders _ joined
            obtain ⟨later, found, -, kept⟩ := call_step now.linked.sound.coherent moved before
            obtain rfl := Option.some.inj (creates.symm.trans found)
            rw [kept _ returned] at chain
            cases chain
  · intro billable before after state split reached
    refine (steady before after state split reached).served ?_
    have explained := run_induction
      (C := fun w action next => (action.cancels = false ∧ action.Configured) ∧
        ReturnsBillable env w action next)
      (P := fun actions w => w.Steady env store actions ∧
        ∀ id call outcome, w.call id = some call → call.point = .done outcome →
          Explains env store actions w call outcome)
      ⟨steady_init env store, by simp [World.init, World.call]⟩
      (fun _ _ _ _ reached holds moved met =>
        ⟨steady_step holds.1 reached moved met.1.1 met.1.2,
          explained_step holds.1 holds.2 moved met.1.1 met.2⟩)
      (((throughout_of_actions (fun action member => uncancelled action (by simp [split, member])) _).and
        (throughout_of_actions (fun action member => configured action (by simp [split, member])) _)).and
        (billable.of_split split)) reached
    exact explained.2

end LlmGateway
