import LlmGateway.Cluster.HandOver
import LlmGateway.Cluster.Locking
import LlmGateway.Cluster.Progress

/-!
# No lock stays behind

A call takes the lock of its cache key with its own token, and it releases the lock when its chain
has ended. `locks_released` says that nothing else keeps a lock in Redis: in every state of
every run, whatever is lost or cancelled elsewhere, each lock belongs to a call that is
still under way, or to a call that was itself disturbed, that is, it was cancelled, or a reply to one
of its commands was lost, or a command of it never arrived (`Disturbed`). When Redis is up and nobody
cancels, no lock is left once all calls have ended, and the expiry of the locks is never needed.
-/

set_option autoImplicit false

namespace LlmGateway

open LlmGateway.Library
open LlmGateway.Library.Redis (Command Reply Store)

variable {env : Environment}

/-! ## Who has a lock -/

/-- The call was cancelled, or Redis did not answer one of its commands. -/
def Disturbed (actions : List Action) (id : CallId) : Prop :=
  ∃ action ∈ actions, action.owner = some id ∧ (action.cancels = true ∨ action.answered = false)

theorem Disturbed.snoc {actions : List Action} {id : CallId} (disturbed : Disturbed actions id)
    (action : Action) : Disturbed (actions ++ [action]) id := by
  obtain ⟨other, member, own⟩ := disturbed
  exact ⟨other, List.mem_append_left _ member, own⟩

theorem Disturbed.last {actions : List Action} {action : Action} {id : CallId}
    (own : action.owner = some id) (why : action.cancels = true ∨ action.answered = false) :
    Disturbed (actions ++ [action]) id :=
  ⟨action, List.mem_append_right _ (List.mem_singleton_self action), own, why⟩

/-- A call that has the lock: Redis has granted it, or the call asks the provider with it, or
its release is on its way. -/
inductive ChatCall.Owning (call : ChatCall) : Wire → Prop
  | granted {first : BaseProvider} {rest : List BaseProvider}
      (point : call.point = .acquire first rest) : Owning call (.replied .ok)
  | executing {wire : Wire} {attempt : Attempt} (point : call.point = .execute attempt)
      (locked : call.lockToken ≠ none) : Owning call wire
  | releasing {command : Command} {ending : ChainEnding} (point : call.point = .release ending) :
      Owning call (.sent command)

theorem ChatCall.Owning.running {call : ChatCall} {wire : Wire} (owning : call.Owning wire)
    (outcome : Outcome) : call.point ≠ .done outcome := by
  cases owning with
  | granted point | executing point | releasing point => simp [point]

/-- The token that a command puts under a vacant key is the own one. -/
def Command.Signed (token : String) (command : Command) : Prop :=
  ∀ key given seconds, command = .set key given true seconds → given = token

section Turn

variable {id : CallId} {process : Process} {call : ChatCall} {clock : Clock} {input : Input}
  {turn : Turn} {wire : Wire}

theorem turns_signed {command : Command} (turns : Turns env id process call clock input turn)
    (send : turn.send = some command) : Command.Signed (env.token id) command := by
  intro key given seconds same
  subst same
  cases turns with
  | contend => cases send; rfl
  | _ => cases send

/-- A call keeps the lock until its release is on its way, unless it is cancelled. -/
theorem turns_owning (fits : input.fits wire = true) (uncancelled : input ≠ .cancel)
    (owning : call.Owning wire) (turns : Turns env id process call clock input turn) :
    turn.call.Owning (wire.after turn.send) := by
  -- a call at another await has no lock
  have nowhere : ∀ {point : Point}, call.point = point → (∀ first rest, point ≠ .acquire first rest) →
      (∀ attempt, point ≠ .execute attempt) → (∀ ending, point ≠ .release ending) → False := by
    intro point at_ notAcquire notExecute notRelease
    cases owning with
    | granted here => exact notAcquire _ _ (at_.symm.trans here)
    | executing here => exact notExecute _ (at_.symm.trans here)
    | releasing here => exact notRelease _ (at_.symm.trans here)
  cases turns with
  | granted => exact .executing rfl (by simp)
  | returnedLocked | raisedLocked | cancelledLocked => exact .releasing rfl
  | retry point =>
      cases owning with
      | executing here locked => exact .executing rfl locked
      | granted here | releasing here => rw [point] at here; cases here
  | returnedFree point _ free | returnedClash point _ free | raisedFree point _ _ free =>
      cases owning with
      | executing here locked => exact absurd free locked
      | granted here | releasing here => rw [point] at here; cases here
  | released point | releasedClash point | releasedRaise point =>
      cases owning with
      | releasing here => simp [Input.fits, Wire.carries] at fits
      | granted here | executing here => rw [point] at here; cases here
  | poll waits =>
      rcases waits with ⟨point, lost⟩ | point
      · cases owning with
        | granted here => simp [Input.fits, Wire.carries, Ne.symm lost] at fits
        | executing here | releasing here => rw [point] at here; cases here
      · exact (nowhere point (by simp) (by simp) (by simp)).elim
  | lead gives =>
      rcases gives with ⟨⟨point, lost⟩ | point, -⟩ | point | point
      · cases owning with
        | granted here => simp [Input.fits, Wire.carries, Ne.symm lost] at fits
        | executing here | releasing here => rw [point] at here; cases here
      all_goals exact (nowhere point (by simp) (by simp) (by simp)).elim
  | hit point | unreadable point | pause point | waited point | settled point =>
      exact (nowhere point (by simp) (by simp) (by simp)).elim
  | join missed | unknown missed | contend missed =>
      rcases missed.point with point | point <;>
        exact (nowhere point (by simp) (by simp) (by simp)).elim
  | followed awaits | followedRaise awaits =>
      rcases awaits.point with point | point | point <;>
        exact (nowhere point (by simp) (by simp) (by simp)).elim
  | cancelledFollow | cancelledFree | cancelledElsewhere => exact absurd rfl uncancelled

/-- A call that ends while its command is on its way is cancelled. -/
theorem turns_abandons {command : Command} {outcome : Outcome}
    (expects : call.Expects env id command) (fits : input.fits (.sent command) = true)
    (turns : Turns env id process call clock input turn) (ended : turn.call.point = .done outcome) :
    input = .cancel := by
  have silent : ∀ reply, input ≠ .reply reply := by
    rintro reply rfl
    simp [Input.fits, Wire.carries] at fits
  -- a call that awaits anything but a reply has sent nothing
  have idle : ∀ {point : Point}, call.point = point →
      ((∃ leader, point = .follow leader) ∨ ∃ attempt, point = .execute attempt) → False := by
    rintro point here waits
    unfold ChatCall.Expects at expects
    rcases waits with ⟨leader, rfl⟩ | ⟨attempt, rfl⟩ <;> simp only [here] at expects
  cases turns with
  | hit | waited | releasedClash | releasedRaise | settled => exact absurd rfl (silent _)
  | unknown missed => cases missed <;> exact absurd rfl (silent _)
  | followed awaits | followedRaise awaits =>
      rcases awaits with ⟨missed, -⟩ | point
      · cases missed <;> exact absurd rfl (silent _)
      · exact (idle point (.inl ⟨_, rfl⟩)).elim
  | returnedClash point | raisedFree point => exact (idle point (.inr ⟨_, rfl⟩)).elim
  | cancelledFollow | cancelledFree | cancelledElsewhere => rfl
  | unreadable | join | contend | poll | pause | granted | lead | retry | returnedLocked
  | returnedFree | raisedLocked | released | cancelledLocked => cases ended

end Turn

/-! ## The invariant -/

/-- The calls own the locks, and what they have sent is signed and awaited. -/
structure World.Released (env : Environment) (actions : List Action) (w : World) : Prop where
  linked : w.Linked env
  disciplined : w.Disciplined env
  flows : w.Flows env (fun _ _ => True) fun _ _ => True
  signed : ∀ id call command, w.tasks id = some ⟨.chat call, .sent command⟩ →
    Command.Signed (env.token id) command
  abandoned : ∀ id call command outcome, w.tasks id = some ⟨.chat call, .sent command⟩ →
    call.point = .done outcome → Disturbed actions id
  plain : ∀ id call command, w.tasks id = some ⟨.stream call, .sent command⟩ →
    command.key = call.cacheKey env
  owned : ∀ key, w.store (lockKey key) ≠ none → ∃ id call wire,
    w.tasks id = some ⟨.chat call, wire⟩ ∧ call.cacheKey env = key ∧
      w.store (lockKey key) = some (.text (env.token id)) ∧
        (call.Owning wire ∨ Disturbed actions id)

theorem released_init {store : Store} (unlocked : Unlocked store) :
    (World.init store).Released env [] where
  linked := linked_init env store
  disciplined := disciplined_init store
  flows := ⟨fun _ _ _ => trivial, by simp [World.init]⟩
  signed := by simp [World.init]
  abandoned := by simp [World.init]
  plain := by simp [World.init]
  owned key held := absurd (unlocked key) held

theorem lawful_true : Lawful env (fun _ _ => True) fun _ _ => True :=
  ⟨fun _ _ _ => trivial, fun _ _ _ _ _ => trivial⟩

section Step

variable {w next : World} {action : Action} {actions : List Action}

theorem signed_step (released : w.Released env actions) (moved : w.step env action = some next)
    {id : CallId} {call : ChatCall} {command : Command}
    (there : next.tasks id = some ⟨.chat call, .sent command⟩) :
    Command.Signed (env.token id) command := by
  by_cases own : action.owner = some id
  · cases schedules_of_step moved with
    | starts fresh tasks | opens fresh tasks =>
        obtain rfl := Option.some.inj own
        rw [tasks, Function.update_self] at there
        cases there
        try exact fun key given seconds same => by cases same
    | serves task tasks =>
        obtain rfl := Option.some.inj own
        rw [tasks, Function.update_self] at there
        cases there
    | @turns _ call' wire _ _ turn _ task fits turns tasks =>
        obtain rfl := Option.some.inj own
        rw [tasks, Function.update_self] at there
        obtain ⟨-, after⟩ := Task.mk.inj (Option.some.inj there)
        rcases Wire.after_eq after with send | kept
        · exact turns_signed turns send
        · exact released.signed _ call' command (kept ▸ task)
    | goes task fits turns tasks =>
        obtain rfl := Option.some.inj own
        rw [tasks, Function.update_self] at there
        cases there
    | rests elsewhere tasks => rw [elsewhere] at own; cases own
  · rw [tasks_of_owner moved own] at there
    exact released.signed id call command there

theorem abandoned_step (released : w.Released env actions) (moved : w.step env action = some next)
    {id : CallId} {call : ChatCall} {command : Command} {outcome : Outcome}
    (there : next.tasks id = some ⟨.chat call, .sent command⟩) (ended : call.point = .done outcome) :
    Disturbed (actions ++ [action]) id := by
  by_cases own : action.owner = some id
  · cases schedules_of_step moved with
    | starts fresh tasks | opens fresh tasks | serves task tasks | goes task fits turns tasks =>
        obtain rfl := Option.some.inj own
        rw [tasks, Function.update_self] at there
        cases there
        try cases ended
    | @turns other call' wire input clock turn _ task fits turns tasks =>
        obtain rfl := Option.some.inj own
        rw [tasks, Function.update_self] at there
        obtain ⟨frames, after⟩ := Task.mk.inj (Option.some.inj there)
        obtain rfl := Frame.chat.inj frames
        rcases Wire.after_eq after with send | rfl
        · have awaits := (turns_awaitsReply turns).mpr (by rw [send]; simp)
          rw [ended] at awaits
          cases awaits
        · obtain rfl := turns_abandons (released.disciplined.expects _ call' command task) fits turns
            ended
          exact .last rfl (.inl rfl)
    | rests elsewhere tasks => rw [elsewhere] at own; cases own
  · rw [tasks_of_owner moved own] at there
    exact (released.abandoned id call command outcome there ended).snoc action

theorem plain_step (released : w.Released env actions) (moved : w.step env action = some next)
    {id : CallId} {call : StreamCall} {command : Command}
    (there : next.tasks id = some ⟨.stream call, .sent command⟩) :
    command.key = call.cacheKey env := by
  by_cases own : action.owner = some id
  · cases steps_of_step moved with
    | start fresh =>
        obtain rfl := Option.some.inj own
        simp [World.spawn] at there
    | startStream fresh =>
        obtain rfl := Option.some.inj own
        simp only [World.spawn, Function.update_self] at there
        cases there
        rfl
    | @serve _ _ _ delivery task =>
        obtain rfl := Option.some.inj own
        cases delivery <;> simp [World.deliver] at there
    | chat task fits turns =>
        obtain rfl := Option.some.inj own
        simp [World.applyTurn] at there
    | @stream _ call' wire _ _ turn task fits turns =>
        obtain rfl := Option.some.inj own
        simp only [World.applyStreamTurn, Function.update_self] at there
        obtain ⟨frames, after⟩ := Task.mk.inj (Option.some.inj there)
        obtain rfl := Frame.stream.inj frames
        rw [streamTurns_cacheKey turns]
        rcases Wire.after_eq after with send | rfl
        · cases turns with
          | unreadable | stored => cases send; rfl
          | _ => cases send
        · exact released.plain _ call' command task
    | expire | limit | rollback => cases own
  · rw [tasks_of_owner moved own] at there
    exact released.plain id call command there

/-- Who has a lock keeps it, is disturbed, or has its release executed. -/
theorem owner_step (released : w.Released env actions) (moved : w.step env action = some next)
    {id : CallId} {call : ChatCall} {wire : Wire} (task : w.tasks id = some ⟨.chat call, wire⟩)
    (has : call.Owning wire ∨ Disturbed actions id) :
    (∃ later wire', next.tasks id = some ⟨.chat later, wire'⟩ ∧
      later.cacheKey env = call.cacheKey env ∧
        (later.Owning wire' ∨ Disturbed (actions ++ [action]) id)) ∨
      action = .serve id .answered ∧
        wire = .sent (releaseCommand (call.cacheKey env) (env.token id)) := by
  by_cases own : action.owner = some id
  · cases schedules_of_step moved with
    | starts fresh | opens fresh =>
        obtain rfl := Option.some.inj own
        rw [fresh] at task
        cases task
    | @serves other delivery frame command reply _ there tasks =>
        obtain rfl := Option.some.inj own
        cases there.symm.trans task
        have kept : ∀ later : Disturbed (actions ++ [.serve other delivery]) other,
            ∃ found wire', next.tasks other = some ⟨.chat found, wire'⟩ ∧
              found.cacheKey env = call.cacheKey env ∧
                (found.Owning wire' ∨ Disturbed (actions ++ [.serve other delivery]) other) :=
          fun later => ⟨call, .replied reply, by rw [tasks, Function.update_self], rfl, .inr later⟩
        rcases has with owning | disturbed
        · have expects := released.disciplined.expects other call command there
          cases owning with
          | executing point => simp only [ChatCall.Expects, point] at expects
          | releasing point =>
              simp only [ChatCall.Expects, point] at expects
              subst expects
              cases delivery with
              | answered => exact .inr ⟨rfl, rfl⟩
              | lost | refused => exact .inl (kept (.last rfl (.inr rfl)))
        · exact .inl (kept (disturbed.snoc _))
    | @turns other _ _ input clock turn _ there fits turns tasks =>
        obtain rfl := Option.some.inj own
        cases there.symm.trans task
        refine .inl ⟨turn.call, wire.after turn.send, by rw [tasks, Function.update_self],
          (turns_arguments turns).cacheKey env, ?_⟩
        rcases has with owning | disturbed
        · by_cases cancelled : input = .cancel
          · exact .inr (.last rfl (.inl (by rw [cancelled]; rfl)))
          · exact .inl (turns_owning fits cancelled owning turns)
        · exact .inr (disturbed.snoc _)
    | goes there =>
        obtain rfl := Option.some.inj own
        cases there.symm.trans task
    | rests elsewhere tasks => rw [elsewhere] at own; cases own
  · refine .inl ⟨call, wire, by rw [tasks_of_owner moved own, task], rfl, ?_⟩
    exact has.imp_right fun disturbed => disturbed.snoc action

theorem store_of_deliver (w : World) (id : CallId) (frame : Frame) (command : Command)
    (delivery : Delivery) :
    (w.deliver id frame command delivery).store = delivery.apply w.store command := by
  cases delivery <;> rfl

/-- A lock that a command puts is signed by the call that sent it. -/
theorem lock_executed (released : w.Released env actions) {id : CallId} {frame : Frame}
    {command : Command} (task : w.tasks id = some ⟨frame, .sent command⟩) {key : String}
    (changed : (Redis.execute w.store command).1 (lockKey key) ≠ w.store (lockKey key))
    (held : (Redis.execute w.store command).1 (lockKey key) ≠ none) :
    ∃ call seconds, frame = .chat call ∧ call.cacheKey env = key ∧
      command = .set (lockKey key) (env.token id) true seconds ∧
        (Redis.execute w.store command).2 = .ok ∧
          (Redis.execute w.store command).1 (lockKey key) = some (.text (env.token id)) := by
  have about : lockKey key = command.key := by
    by_contra other
    exact changed (Redis.execute_other w.store command other)
  have apart : lockKey key ≠ frame.cacheKey env := by
    rw [← frame.digest_text]
    exact (digest_ne_lockKey _ _).symm
  have sends : Sends _ (frame.cacheKey env) command :=
    (released.flows.tasks id _ task).sent command rfl
  cases frame with
  | stream call => exact absurd (about.trans (released.plain id call command task)) apart
  | chat call =>
      have signed := released.signed id call command task
      cases sends with
      | get | delete | store => exact absurd about apart
      | @acquire token seconds =>
          obtain rfl := signed _ _ _ rfl
          obtain rfl := lockKey_injective about
          refine ⟨call, seconds, rfl, rfl, rfl, ?_⟩
          by_cases vacant : w.store (lockKey ((Frame.chat call).cacheKey env)) = none
          · by_cases positive : seconds ≤ 0
            · exact absurd (by simp [Redis.execute, positive]) changed
            · simp [Redis.execute, positive, vacant]
          · exact absurd (by rw [Redis.execute_setIfAbsent_occupied vacant]) changed
      | @release token =>
          rw [about] at changed held
          rcases Redis.execute_compareAndDelete_self w.store (lockKey (call.cacheKey env)) token with
            kept | ⟨-, erased⟩
          · exact absurd (congrFun kept _) changed
          · exact absurd ((congrFun erased _).trans (w.store.erase_self _)) held

/-- **A step keeps the locks owned.** -/
theorem locks_step (released : w.Released env actions) (moved : w.step env action = some next)
    {key : String} (held : next.store (lockKey key) ≠ none) :
    ∃ id call wire, next.tasks id = some ⟨.chat call, wire⟩ ∧ call.cacheKey env = key ∧
      next.store (lockKey key) = some (.text (env.token id)) ∧
        (call.Owning wire ∨ Disturbed (actions ++ [action]) id) := by
  -- a lock that was there before has its owner, unless this step deletes it
  have old : next.store (lockKey key) = w.store (lockKey key) →
      ∃ id call wire, next.tasks id = some ⟨.chat call, wire⟩ ∧ call.cacheKey env = key ∧
        next.store (lockKey key) = some (.text (env.token id)) ∧
          (call.Owning wire ∨ Disturbed (actions ++ [action]) id) := by
    intro same
    obtain ⟨id, call, wire, task, rfl, token, has⟩ := released.owned key (same ▸ held)
    rcases owner_step released moved task has with ⟨later, wire', there, key, has⟩ | ⟨rfl, rfl⟩
    · exact ⟨id, later, wire', there, key, same.trans token, has⟩
    · refine absurd ?_ held
      cases steps_of_step moved with
      | serve sent =>
          cases sent.symm.trans task
          rw [store_of_deliver]
          simp [Delivery.apply, releaseCommand, Redis.execute, token]
  cases steps_of_step moved with
  | start | startStream | chat | stream => exact old rfl
  | @serve id frame command delivery task =>
      by_cases same : (w.deliver id frame command delivery).store (lockKey key) =
          w.store (lockKey key)
      · exact old same
      have executed : delivery ≠ .refused := by
        rintro rfl
        exact same rfl
      have store : (w.deliver id frame command delivery).store =
          (Redis.execute w.store command).1 := by
        cases delivery with
        | answered | lost => rfl
        | refused => exact absurd rfl executed
      rw [store] at same held ⊢
      obtain ⟨call, seconds, rfl, rfl, sent, ok, token⟩ := lock_executed released task same held
      cases delivery with
      | refused => exact absurd rfl executed
      | lost => exact ⟨id, call, _, Function.update_self _ _ _, rfl, token, .inr (.last rfl (.inr rfl))⟩
      | answered =>
          refine ⟨id, call, _, Function.update_self _ _ _, rfl, token, ?_⟩
          rw [ok]
          -- only a call that asks for the lock, or one that was cancelled then, has sent this
          have expects := released.disciplined.expects id call command task
          subst sent
          cases point : call.point with
          | acquire first rest => exact .inl (.granted point)
          | done outcome => exact .inr ((released.abandoned id call _ outcome task point).snoc _)
          | cacheGet | poll | discard | release | cacheSet | follow | sleep | execute =>
              simp [ChatCall.Expects, point, releaseCommand, storeCommand] at expects
  | @expire other =>
      by_cases same : lockKey key = other
      · subst same
        exact absurd (w.store.erase_self _) held
      · exact old (w.store.erase_of_ne same)
  | limit => exact old (checkPipeline_other _ (lockKey_ne_rateLimitKey _ _))
  | rollback => exact old (Redis.execute_other _ _ (lockKey_ne_rateLimitKey _ _))

theorem released_step (released : w.Released env actions) (moved : w.step env action = some next) :
    next.Released env (actions ++ [action]) where
  linked := linked_step released.linked moved
  disciplined := disciplined_step released.disciplined moved
  flows := flows_step lawful_true released.linked released.flows moved fun _ _ _ => trivial
  signed _ _ _ there := signed_step released moved there
  abandoned _ _ _ _ there ended := abandoned_step released moved there ended
  plain _ _ _ there := plain_step released moved there
  owned _ held := locks_step released moved held

end Step

theorem released_run {store : Store} {actions : List Action} {w : World} (unlocked : Unlocked store)
    (reached : run (World.step env) (.init store) actions = some w) : w.Released env actions :=
  run_induction_of_step (P := fun actions w => w.Released env actions) (released_init unlocked)
    (fun _ _ _ _ _ released moved => released_step released moved) reached

/-- **No lock stays behind.** In every state of every run over a store without locks, a lock has the
token of a call with its cache key that is under way or was disturbed. So when Redis is up and
nobody cancels, there is no lock once all calls have ended, although none has expired. -/
theorem locks_released (env : Environment) (store : Store) (unlocked : Unlocked store)
    (actions : List Action) (w : World)
    (reached : run (World.step env) (.init store) actions = some w) :
    (∀ key, w.store (lockKey key) ≠ none → ∃ id call, w.call id = some call ∧
      call.cacheKey env = key ∧ w.store (lockKey key) = some (.text (env.token id)) ∧
        ((∀ outcome, call.point ≠ .done outcome) ∨ Disturbed actions id)) ∧
      (RedisUp actions → Uncancelled actions → w.Idle → Unlocked w.store) := by
  have released := released_run unlocked reached
  constructor
  · intro key held
    obtain ⟨id, call, wire, task, same, token, has⟩ := released.owned key held
    exact ⟨id, call, World.call_eq_some.mpr ⟨wire, task⟩, same, token,
      has.imp_left ChatCall.Owning.running⟩
  · intro up calm idle key
    by_contra held
    obtain ⟨id, call, wire, task, -, -, owning | ⟨action, member, -, cancelled | unanswered⟩⟩ :=
      released.owned key held
    · obtain ⟨outcome, done⟩ := idle id _ task
      exact owning.running outcome done
    · rw [calm action member] at cancelled
      cases cancelled
    · rw [up action member] at unanswered
      cases unanswered

/-- The theorem about a call with the lock and a second one that waits for it. -/
theorem locks_released_awaiting :
    ∃ w, run (World.step demoEnvironment) (.init .empty) awaiting = some w ∧
      (∀ key, w.store (lockKey key) ≠ none → ∃ id call, w.call id = some call ∧
        call.cacheKey demoEnvironment = key ∧
          w.store (lockKey key) = some (.text (demoEnvironment.token id)) ∧
            ((∀ outcome, call.point ≠ .done outcome) ∨ Disturbed awaiting id)) ∧
        (RedisUp awaiting → Uncancelled awaiting → w.Idle → Unlocked w.store) := by
  obtain ⟨w, reached⟩ := awaiting_reached
  exact ⟨w, reached, locks_released demoEnvironment .empty (fun _ => rfl) awaiting w reached⟩

end LlmGateway
