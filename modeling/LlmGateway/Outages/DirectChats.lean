import LlmGateway.Outages.Chats

/-!
# A chat whose commands all fail

The commands of one call fail, and no other call for its key runs in its process while it runs.
Then the call asks its candidates itself, one after the other, and ends as `directChat` does
on the same answers, with the same records (`direct_chat`). Calls of other keys, calls of other
processes and their commands go on as they like.

The invariant `ChatCall.Directly` says where the call stands and what the chain has come to
there.
-/

set_option autoImplicit false

namespace LlmGateway

open LlmGateway.Library
open LlmGateway.Library.Redis (Command Reply Store)

variable {env : Environment}

/-! ## The runs in question -/

/-- While the call runs, no other call for its key runs in its process. -/
def World.Untwinned (env : Environment) (id : CallId) (w : World) : Prop :=
  ∀ call other twin, w.call id = some call → (∀ outcome, call.point ≠ .done outcome) →
    other ≠ id → w.call other = some twin → twin.slot env = call.slot env →
      ∃ outcome, twin.point = .done outcome

/-- Every command of the call fails. -/
def CutOff (id : CallId) (actions : List Action) : Prop :=
  ∀ delivery, .serve id delivery ∈ actions → delivery ≠ .answered

/-- What a provider answers. -/
def Input.attempts : Input → List AttemptOutcome
  | .attempt outcome => [outcome]
  | _ => []

/-- What the providers answer a call, one after the other. -/
def attemptsOf (id : CallId) (actions : List Action) : List AttemptOutcome :=
  actions.flatMap fun
    | .chat other input _ => if other = id then input.attempts else []
    | _ => []

theorem attemptsOf_own (id : CallId) (actions : List Action) (input : Input) (clock : Clock) :
    attemptsOf id (actions ++ [.chat id input clock]) = attemptsOf id actions ++ input.attempts := by
  simp [attemptsOf]

theorem attemptsOf_other {id : CallId} (actions : List Action) {action : Action}
    (other : ∀ input clock, action ≠ .chat id input clock) :
    attemptsOf id (actions ++ [action]) = attemptsOf id actions := by
  rw [attemptsOf, attemptsOf, List.flatMap_append]
  cases action with
  | chat acting input clock =>
      have ne : acting ≠ id := by
        rintro rfl
        exact other input clock rfl
      simp [ne]
  | _ => simp

/-! ## Turns -/

/-- Where a call stands whose commands fail: what the chain of its candidates has come to, and
what it has recorded. -/
def ChatCall.Directly (call : ChatCall) (outcomes : List AttemptOutcome)
    (records : List UsageTask) : Prop :=
  match call.point with
  | .cacheGet => outcomes = [] ∧ records = []
  | .acquire first rest | .poll first rest =>
      selectProviders call.registry call.request.model = first :: rest ∧ call.lockToken = none ∧
        outcomes = [] ∧ records = []
  | .execute attempt =>
      call.lockToken = none ∧ records = [] ∧ ∃ first rest,
        selectProviders call.registry call.request.model = first :: rest ∧
          run (chainStep call.request) (.inl (.start first rest)) outcomes = some (.inl attempt)
  | .cacheSet provider response =>
      records = [] ∧ ∃ first rest,
        selectProviders call.registry call.request.model = first :: rest ∧
          run (chainStep call.request) (.inl (.start first rest)) outcomes =
            some (.inr (.returned provider response))
  | .done outcome => ∃ latencyMs,
      directChat call.request call.registry call.virtualKeyId latencyMs outcomes =
        some (outcome, records)
  | .discard | .follow _ | .sleep _ _ | .release _ => False

section Turn

variable {id : CallId} {process : Process} {call : ChatCall} {clock : Clock} {input : Input}
  {turn : Turn} {outcomes : List AttemptOutcome} {records : List UsageTask}

/-- A chain goes on with the next answer. -/
theorem chain_snoc {request : ChatRequest} {start attempt : Attempt} {outcome : AttemptOutcome}
    {result : Attempt ⊕ ChainEnding}
    (ran : run (chainStep request) (.inl start) outcomes = some (.inl attempt))
    (ended : attempt.resume request outcome = result) :
    run (chainStep request) (.inl start) (outcomes ++ [outcome]) = some result :=
  run_snoc_eq_some.mpr ⟨.inl attempt, ran, congrArg some ended⟩

/-- A chain that has ended is a chat that has ended. -/
theorem directChat_of_chain {request : ChatRequest} {registry : ProviderRegistry}
    {virtualKeyId : ℤ} {latencyMs : ℕ} {first : BaseProvider} {rest : List BaseProvider}
    {ending : ChainEnding} (selected : selectProviders registry request.model = first :: rest)
    (ran : run (chainStep request) (.inl (.start first rest)) outcomes = some (.inr ending)) :
    directChat request registry virtualKeyId latencyMs outcomes =
      some (directEnding request virtualKeyId latencyMs ending) := by
  simp only [directChat, selected, ran]

/-- A response that is returned or refused by the metrics. -/
theorem directEnding_settles {request : ChatRequest} {virtualKeyId : ℤ} {latencyMs : ℕ}
    {provider : BaseProvider} {response : ChatResponse} {outcome : Outcome}
    {schedule : List UsageTask}
    (settles : Settles (buildUsageRecord virtualKeyId provider.config.name
      (provider.config.pricingFor request.model) response.model response.usage latencyMs) response
      outcome schedule) :
    directEnding request virtualKeyId latencyMs (.returned provider response) =
      (outcome, schedule ++ failureRecords request virtualKeyId latencyMs outcome) := by
  cases settles with
  | recorded emitted =>
      simp only [directEnding, recordUsage, emitted]
      rfl
  | refused failed =>
      simp only [directEnding, recordUsage, failed]
      rcases counterError_emitMetric failed with rfl | rfl <;> rfl

/-- A call that stands at its read of the cache and misses it. -/
theorem Misses.directly (missed : Misses call input) (directly : call.Directly outcomes records) :
    call.point = .cacheGet ∧ outcomes = [] ∧ records = [] := by
  rcases missed.point with point | point
  · simp only [ChatCall.Directly, point] at directly
    exact ⟨point, directly⟩
  · simp only [ChatCall.Directly, point] at directly

/-- A call without its lock that looks at the deadline has been refused it. -/
theorem Waits.directly {first : BaseProvider} {rest : List BaseProvider}
    (waits : Waits call first rest input) (directly : call.Directly outcomes records) :
    selectProviders call.registry call.request.model = first :: rest ∧ call.lockToken = none ∧
      outcomes = [] ∧ records = [] ∧ input.attempts = [] := by
  rcases waits with ⟨point, -⟩ | point
  · simp only [ChatCall.Directly, point] at directly
    exact ⟨directly.1, directly.2.1, directly.2.2.1, directly.2.2.2, rfl⟩
  · simp only [ChatCall.Directly, point] at directly

theorem Gives.directly {first : BaseProvider} {rest : List BaseProvider}
    (gives : Gives env call clock first rest input) (directly : call.Directly outcomes records) :
    selectProviders call.registry call.request.model = first :: rest ∧ call.lockToken = none ∧
      outcomes = [] ∧ records = [] ∧ input.attempts = [] := by
  rcases gives with ⟨waits, -⟩ | point | point
  · exact waits.directly directly
  all_goals
    simp only [ChatCall.Directly, point] at directly
    exact ⟨directly.1, directly.2.1, directly.2.2.1, directly.2.2.2, rfl⟩

/-- **A turn of a call whose commands fail.** -/
theorem turns_directly (coherent : call.Coherent) (told : process.futures id = call.future)
    (entry : call.point = .cacheGet → process.entry = none)
    (failed : ∀ reply, input = .reply reply → reply = .error) (uncancelled : input ≠ .cancel)
    (directly : call.Directly outcomes records)
    (turns : Turns env id process call clock input turn) :
    turn.call.Directly (outcomes ++ input.attempts) (records ++ turn.tasks clock.latencyMs) := by
  have at_ : ∀ {point : Point}, call.point = point →
      ({ call with point := point } : ChatCall).Directly outcomes records := by
    rintro point rfl
    exact directly
  cases turns with
  | hit | unreadable | waited | granted => cases failed _ rfl
  | pause point noError => exact absurd (failed _ rfl) noError
  | join missed found =>
      rw [entry (missed.directly directly).1] at found
      cases found
  | followed awaits | followedRaise awaits =>
      rcases awaits with ⟨missed, found⟩ | point
      · rw [entry (missed.directly directly).1] at found
        cases found
      · exact (at_ point).elim
  | unknown missed _ candidates =>
      obtain ⟨-, rfl, rfl⟩ := missed.directly directly
      refine ⟨clock.latencyMs, ?_⟩
      simp only [ChatCall.finish, directChat, candidates]
      rfl
  | contend missed _ candidates =>
      obtain ⟨point, rfl, rfl⟩ := missed.directly directly
      have silent : input.attempts = [] := by cases missed <;> rfl
      rw [silent]
      exact ⟨candidates, (missed.chain coherent).2, rfl, rfl⟩
  | poll waits early =>
      obtain ⟨selected, free, rfl, rfl, silent⟩ := waits.directly directly
      rw [silent]
      exact ⟨selected, free, rfl, rfl⟩
  | lead gives =>
      obtain ⟨selected, free, rfl, rfl, silent⟩ := gives.directly directly
      rw [silent]
      exact ⟨free, rfl, _, _, selected, rfl⟩
  | retry point moved =>
      obtain ⟨free, rfl, first, rest, selected, ran⟩ := at_ point
      exact ⟨free, rfl, first, rest, selected, chain_snoc ran moved⟩
  | returnedFree point ended free pending =>
      obtain ⟨-, rfl, first, rest, selected, ran⟩ := at_ point
      exact ⟨rfl, first, rest, selected, chain_snoc ran ended⟩
  | raisedFree point ended fails free =>
      obtain ⟨-, rfl, first, rest, selected, ran⟩ := at_ point
      cases fails with
      | told =>
          exact ⟨clock.latencyMs, directChat_of_chain selected (chain_snoc ran ended)⟩
      | clash decided => exact absurd (by rw [told]; simp [ChatCall.future, point]) decided
  | returnedClash point _ _ decided =>
      exact absurd (by rw [told]; simp [ChatCall.future, point]) decided
  | returnedLocked point _ locked | raisedLocked point _ _ locked =>
      have free : call.lockToken = none := (at_ point).1
      rw [free] at locked
      cases locked
  | released point | releasedClash point | releasedRaise point => exact (at_ point).elim
  | settled point settles =>
      obtain ⟨rfl, first, rest, selected, ran⟩ := at_ point
      refine ⟨clock.latencyMs, ?_⟩
      simp only [Input.attempts, List.append_nil]
      refine (directChat_of_chain selected ran).trans (congrArg some ?_)
      exact directEnding_settles settles
  | cancelledFollow | cancelledLocked | cancelledFree | cancelledElsewhere =>
      exact absurd rfl uncancelled

end Turn

/-! ## Runs -/

/-- What holds of a call whose commands fail. -/
structure World.Direct (env : Environment) (id : CallId) (actions : List Action) (w : World) :
    Prop where
  calm : w.Calm env
  wire : ∀ task reply, w.tasks id = some task → task.wire = .replied reply → reply = .error
  fresh : w.tasks id = none → attemptsOf id actions = [] ∧ w.recorded id = []
  directly : ∀ call, w.call id = some call →
    call.Directly (attemptsOf id actions) (w.recorded id)

theorem direct_init (env : Environment) (store : Store) (id : CallId) :
    (World.init store).Direct env id [] where
  calm := calm_init env store
  wire := by simp [World.init]
  fresh := by simp [World.init, World.recorded, attemptsOf]
  directly := by simp [World.init, World.call]

section Step

variable {store : Store} {actions : List Action} {action : Action} {w next : World} {id : CallId}

/-- A turn of another generator leaves the records of a call alone. -/
theorem recorded_applyStreamTurn {other : CallId} (ne : id ≠ other) (wire : Wire)
    (turn : StreamTurn) : (w.applyStreamTurn other wire turn).recorded id = w.recorded id := by
  have apart : (turn.schedule.map fun task => (other, task)).filter (fun entry => entry.1 == id) =
      [] := List.filter_eq_nil_iff.mpr (by simp [Ne.symm ne])
  simp [World.recorded, World.applyStreamTurn, List.filter_append, apart]

/-- No entry under the key of a call without a twin that still reads the cache. -/
theorem World.Untwinned.entry (untwinned : w.Untwinned env id) (sound : w.Sound env)
    {call : ChatCall} (running : w.call id = some call) (point : call.point = .cacheGet) :
    (w.process env call).entry = none := by
  by_contra occupied
  obtain ⟨leader, found⟩ := Option.ne_none_iff_exists'.mp occupied
  obtain ⟨creator, there, place, inside⟩ := sound.tabled _ leader found
  by_cases own : leader = id
  · subst own
    obtain rfl := Option.some.inj (running.symm.trans there)
    rw [point] at inside
    cases inside
  · obtain ⟨outcome, ended⟩ :=
      untwinned call leader creator running (by simp [point]) own there place
    rw [ended] at inside
    cases inside

/-- A step that leaves a call and its records alone. -/
theorem World.Direct.unmoved (direct : w.Direct env id actions) (calm : next.Calm env)
    (other : ∀ input clock, action ≠ .chat id input clock) (tasks : next.tasks id = w.tasks id)
    (recorded : next.recorded id = w.recorded id) : next.Direct env id (actions ++ [action]) := by
  have same : next.call id = w.call id := by rw [World.call, World.call, tasks]
  refine ⟨calm, tasks ▸ direct.wire, ?_, ?_⟩
  · rw [attemptsOf_other actions other, recorded, tasks]
    exact direct.fresh
  · rw [attemptsOf_other actions other, recorded, same]
    exact direct.directly

/-- A step after which the call has this task. -/
theorem World.Direct.of_task {task : Task} (calm : next.Calm env)
    (there : next.tasks id = some task) (wire : ∀ reply, task.wire = .replied reply → reply = .error)
    (directly : ∀ call, task.frame = .chat call →
      call.Directly (attemptsOf id actions) (next.recorded id)) : next.Direct env id actions := by
  refine ⟨calm, ?_, ?_, ?_⟩
  · intro found reply at_ replied
    obtain rfl := Option.some.inj (there.symm.trans at_)
    exact wire reply replied
  · intro absent
    cases there.symm.trans absent
  · intro call found
    obtain ⟨own, at_⟩ := World.call_eq_some.mp found
    obtain rfl := Option.some.inj (there.symm.trans at_)
    exact directly call rfl

theorem direct_step (direct : w.Direct env id actions) (moved : w.step env action = some next)
    (uncancelled : action.cancels = false)
    (cut : ∀ delivery, action = .serve id delivery → delivery ≠ .answered)
    (untwinned : w.Untwinned env id) : next.Direct env id (actions ++ [action]) := by
  have calm := calm_step direct.calm moved uncancelled
  cases steps_of_step moved with
  | start fresh =>
      rename_i other replica request registry virtualKeyId
      by_cases same : id = other
      · subst same
        refine .of_task calm (Function.update_self _ _ _) (by simp) fun call own => ?_
        cases own
        rw [attemptsOf_other actions (by simp)]
        exact direct.fresh fresh
      · exact direct.unmoved calm (by simp) (Function.update_of_ne same _ _) rfl
  | startStream fresh =>
      rename_i other request registry virtualKeyId requestId
      by_cases same : id = other
      · subst same
        exact .of_task calm (Function.update_self _ _ _) (by simp) (by simp)
      · exact direct.unmoved calm (by simp) (Function.update_of_ne same _ _) rfl
  | @serve other frame command delivery sent =>
      by_cases same : id = other
      · subst same
        have served : (w.deliver id frame command delivery).tasks id =
            some ⟨frame, .replied .error⟩ := by
          cases delivery with
          | answered => exact absurd rfl (cut .answered rfl)
          | lost | refused => exact Function.update_self _ _ _
        have recorded : (w.deliver id frame command delivery).recorded id = w.recorded id := by
          cases delivery <;> rfl
        refine .of_task calm served (fun reply replied => (Wire.replied.inj replied).symm)
          fun call own => ?_
        cases own
        rw [attemptsOf_other actions (by simp), recorded]
        exact direct.directly call (World.call_eq_some.mpr ⟨_, sent⟩)
      · refine direct.unmoved calm (by simp) ?_ ?_ <;> cases delivery <;>
          first
          | rfl
          | exact Function.update_of_ne same _ _
  | @chat other call wire input clock turn task fits turns =>
      by_cases same : id = other
      · subst same
        have running : w.call id = some call := World.call_eq_some.mpr ⟨wire, task⟩
        refine .of_task calm (Function.update_self _ _ _)
          (fun reply replied => absurd replied (Wire.after_ne_replied _ _ _)) fun after own => ?_
        cases own
        rw [attemptsOf_own, recorded_applyTurn, if_pos rfl]
        refine turns_directly (direct.calm.sound.coherent id call running)
          (direct.calm.mirrored.of_call running)
          (untwinned.entry direct.calm.sound running) ?_ (by rintro rfl; cases uncancelled)
          (direct.directly call running) turns
        rintro reply rfl
        exact direct.wire _ reply task (Wire.carries_eq fits)
      · refine direct.unmoved calm ?_ (Function.update_of_ne same _ _) ?_
        · rintro _ _ ⟨⟩
          exact same rfl
        · rw [recorded_applyTurn, if_neg same, List.append_nil]
  | @stream other call wire input clock turn task fits turns =>
      by_cases same : id = other
      · subst same
        exact .of_task calm (Function.update_self _ _ _)
          (fun reply replied => absurd replied (Wire.after_ne_replied _ _ _)) (by simp)
      · exact direct.unmoved calm (by simp) (Function.update_of_ne same _ _)
          (recorded_applyStreamTurn same wire turn)
  | expire | limit | rollback => exact direct.unmoved calm (by simp) rfl rfl

end Step

/-- **A chat whose commands all fail is a direct provider call**: a call without a twin in its
process has ended as its chain ends on the same answers, with the same records. -/
theorem direct_chat {store : Store} {actions : List Action} {id : CallId} {w : World}
    (uncancelled : Uncancelled actions) (cut : CutOff id actions)
    (untwinned : Always (World.step env) (World.Untwinned env id) (.init store) actions)
    (reached : run (World.step env) (.init store) actions = some w) {call : ChatCall}
    {outcome : Outcome} (running : w.call id = some call) (ended : call.point = .done outcome) :
    ∃ latencyMs, directChat call.request call.registry call.virtualKeyId latencyMs
      (attemptsOf id actions) = some (outcome, w.recorded id) := by
  have direct : w.Direct env id actions := by
    refine run_induction (C := fun w action _ => (action.cancels = false ∧
        ∀ delivery, action = .serve id delivery → delivery ≠ .answered) ∧ w.Untwinned env id)
      (P := fun actions w => w.Direct env id actions) (direct_init env store id)
      (fun _ _ _ _ _ direct moved met => direct_step direct moved met.1.1 met.1.2 met.2) ?_ reached
    refine ((throughout_of_actions uncancelled _).and (throughout_of_actions ?_ _)).and ?_
    · rintro action member delivery rfl
      exact cut delivery member
    · exact throughout_of_always untwinned fun _ _ _ now _ _ => now
  have directly := direct.directly call running
  simpa only [ChatCall.Directly, ended] using directly

/-- A run that starts no other chat has no twin of this one. -/
theorem untwinned_of_alone {store : Store} {actions : List Action} {id : CallId}
    (alone : ∀ action ∈ actions, ∀ other replica request registry virtualKeyId,
      action = .start other replica request registry virtualKeyId → other = id) :
    Always (World.step env) (World.Untwinned env id) (.init store) actions := by
  refine always_of_reached (fun before w met reached => ?_) (throughout_of_actions alone _)
  have absent : ∀ other, other ≠ id → w.call other = none := by
    refine invariant (P := fun w => ∀ other, other ≠ id → w.call other = none) ?_ ?_ met reached
    · simp [World.call, World.init]
    · intro w action next absent moved only other ne
      cases moves_of_step moved with
      | starts fresh calls =>
          rw [calls, Function.update_of_ne fun same => ne (same.trans (only _ _ _ _ _ rfl))]
          exact absent other ne
      | turns running turns calls =>
          rw [calls, Function.update_of_ne]
          · exact absent other ne
          · rintro rfl
            cases running.symm.trans (absent other ne)
      | stays _ calls =>
          rw [calls]
          exact absent other ne
  intro call other twin running _ ne there
  cases there.symm.trans (absent other ne)

end LlmGateway
