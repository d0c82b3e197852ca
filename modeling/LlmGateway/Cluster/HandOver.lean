import LlmGateway.Cluster.Flow

/-!
# Handing a result over to another replica

The Redis lock lets one replica call the provider while the others wait for its cache entry.
Redis is up, no entry expires, and no lock expires while its holder calls the provider
(`Sheltered`). Even so two lock holders can both succeed: a holder releases the lock
before it writes the entry, and a replica that has seen no entry asks for the lock later,
without looking again (`released_before_stored`).

`hand_over` is what does hold. In a run in which the lock is granted only while the cache has no
entry and no earlier holder has yet to write one (`GrantsFresh`), one lock
holder at most succeeds for each cache key, and no request goes on to call the provider
with the lock after another holder has succeeded.
-/

set_option autoImplicit false

namespace LlmGateway

open LlmGateway.Library
open LlmGateway.Library.Redis (Command Reply Store)

variable {env : Environment}

/-! ## The command of a suspended call -/

/-- The command that a call has sent, by where it is suspended. A call that was cancelled may
have left any command, but no release of a lock that is not its own. -/
def ChatCall.Expects (env : Environment) (id : CallId) (call : ChatCall) (command : Command) :
    Prop :=
  match call.point with
  | .cacheGet | .poll _ _ => command = .get (call.cacheKey env)
  | .discard => command = .delete (call.cacheKey env)
  | .acquire first rest => command =
      acquireCommand (call.cacheKey env) (env.token id) (lockTtlSeconds (first :: rest))
  | .release _ => command = releaseCommand (call.cacheKey env) (env.token id)
  | .cacheSet _ response => command = storeCommand env (call.cacheKey env) response
  | .done _ => ∀ key token, command = .compareAndDelete key token → token = env.token id
  | .follow _ | .sleep _ _ | .execute _ => False

/-- A call holds no token but its own. -/
def ChatCall.Tokened (env : Environment) (id : CallId) (call : ChatCall) : Prop :=
  ∀ token, call.lockToken = some token → token = env.token id

section Turn

variable {id : CallId} {process : Process} {call : ChatCall} {clock : Clock} {input : Input}
  {turn : Turn}

theorem turns_tokened (tokened : call.Tokened env id)
    (turns : Turns env id process call clock input turn) : turn.call.Tokened env id := by
  cases turns with
  | granted => exact fun token same => (Option.some.inj same).symm
  | _ => exact tokened

/-- What a turn sends is what the call expects. -/
theorem turns_expects {command : Command} (tokened : call.Tokened env id)
    (turns : Turns env id process call clock input turn) (send : turn.send = some command) :
    turn.call.Expects env id command := by
  cases turns with
  | unreadable | contend | poll | returnedFree | released => cases send; exact rfl
  | returnedLocked point ended locked =>
      cases send
      rw [tokened _ locked]
      exact rfl
  | raisedLocked point ended fails locked =>
      cases send
      rw [tokened _ locked]
      exact rfl
  | cancelledLocked point locked =>
      cases send
      rw [tokened _ locked]
      exact rfl
  | _ => cases send

/-- A call that goes on while its command is under way was cancelled. -/
theorem turns_expects_kept {command : Command} (expects : call.Expects env id command)
    (silent : ∀ reply, input ≠ .reply reply)
    (turns : Turns env id process call clock input turn) (unsent : turn.send = none) :
    turn.call.Expects env id command := by
  -- where a call waits for something else, it has sent nothing
  have idle : ∀ {point : Point}, call.point = point →
      ((∃ leader, point = .follow leader) ∨ (∃ first rest, point = .sleep first rest) ∨
        ∃ attempt, point = .execute attempt) → False := by
    rintro point here waits
    unfold ChatCall.Expects at expects
    rcases waits with ⟨leader, rfl⟩ | ⟨first, rest, rfl⟩ | ⟨attempt, rfl⟩ <;>
      simp only [here] at expects
  cases turns with
  | hit | unreadable | pause | waited | granted | released | releasedClash | releasedRaise
  | settled => exact absurd rfl (silent _)
  | join missed | unknown missed | contend missed => cases missed <;> exact absurd rfl (silent _)
  | followed awaits | followedRaise awaits =>
      rcases awaits with ⟨missed, -⟩ | point
      · cases missed <;> exact absurd rfl (silent _)
      · exact (idle point (.inl ⟨_, rfl⟩)).elim
  | poll => cases unsent
  | lead gives =>
      rcases gives with ⟨⟨point, -⟩ | point, -⟩ | point | point
      · exact absurd rfl (silent _)
      · exact (idle point (.inr (.inl ⟨_, _, rfl⟩))).elim
      · exact absurd rfl (silent _)
      · exact absurd rfl (silent _)
  | retry point | returnedLocked point | returnedFree point | returnedClash point
  | raisedLocked point | raisedFree point | cancelledLocked point | cancelledFree point =>
      exact (idle point (.inr (.inr ⟨_, rfl⟩))).elim
  | cancelledFollow point => exact (idle point (.inl ⟨_, rfl⟩)).elim
  | cancelledElsewhere outside running =>
      intro key token same
      subst same
      unfold ChatCall.Expects at expects
      split at expects
      all_goals
        first
        | exact (Command.compareAndDelete.inj expects).2
        | cases expects
        | exact expects key token rfl

end Turn

/-- Every call has the command on its way that it expects, and no token but its own. -/
structure World.Disciplined (env : Environment) (w : World) : Prop where
  tokened : ∀ id call, w.call id = some call → call.Tokened env id
  expects : ∀ id call command, w.tasks id = some ⟨.chat call, .sent command⟩ →
    call.Expects env id command

theorem disciplined_init (store : Store) : (World.init store).Disciplined env where
  tokened id call running := by simp [World.init, World.call] at running
  expects id call command task := by simp [World.init] at task

theorem disciplined_step {w next : World} {action : Action} (disciplined : w.Disciplined env)
    (moved : w.step env action = some next) : next.Disciplined env := by
  constructor
  · intro other found there
    cases moves_of_step moved with
    | starts fresh calls inflight futures =>
        rw [calls, Function.update_apply] at there
        split_ifs at there
        · obtain rfl := Option.some.inj there
          simp [ChatCall.Tokened, ChatCall.start]
        · exact disciplined.tokened other found there
    | stays _ calls inflight futures => exact disciplined.tokened other found (calls ▸ there)
    | @turns id call input clock turn _ running turns calls inflight futures =>
        rw [calls, Function.update_apply] at there
        split_ifs at there with same
        · obtain rfl := Option.some.inj there
          exact same ▸ turns_tokened (disciplined.tokened id call running) turns
        · exact disciplined.tokened other found there
  · intro other found command there
    have old : w.tasks other = some ⟨.chat found, .sent command⟩ → _ :=
      disciplined.expects other found command
    cases steps_of_step moved with
    | start | startStream =>
        simp only [World.spawn, Function.update_apply] at there
        split_ifs at there
        · cases there
          try exact rfl
        · exact old there
    | @serve id frame command' delivery task =>
        cases delivery <;> simp only [World.deliver, Function.update_apply] at there <;>
          split_ifs at there
        all_goals first | exact old there | cases there
    | @chat id call wire input clock turn task fits turns =>
        simp only [World.applyTurn, Function.update_apply] at there
        split_ifs at there with same
        · obtain ⟨frames, after⟩ := Task.mk.inj (Option.some.inj there)
          obtain rfl := Frame.chat.inj frames
          have tokened := disciplined.tokened id call (World.call_eq_some.mpr ⟨wire, task⟩)
          rw [same]
          cases send : turn.send with
          | some sent =>
              rw [send] at after
              obtain rfl := Wire.sent.inj after
              exact turns_expects tokened turns send
          | none =>
              rw [send] at after
              have kept : wire = .sent command := by
                rcases Wire.after_eq after with new | kept
                · cases new
                · exact kept
              subst kept
              refine turns_expects_kept (disciplined.expects id call command task) ?_ turns send
              rintro reply rfl
              simp [Input.fits, Wire.carries] at fits
        · exact old there
    | @stream id call wire input clock turn task fits turns =>
        simp only [World.applyStreamTurn, Function.update_apply] at there
        split_ifs at there
        · cases there
        · exact old there
    | expire | limit | rollback => exact old there

/-! ## Lock holders -/

/-- The chain of the call ended with a response. -/
def ChatCall.Answered (call : ChatCall) : Prop :=
  ∃ provider response, call.chain = some (.returned provider response)

/-- A call that obtained the lock and whose provider call succeeded. -/
def ChatCall.Successful (call : ChatCall) : Prop := call.lockToken ≠ none ∧ call.Answered

/-- A call that holds the lock for its provider call: Redis has granted the lock, and the
chain has not ended. -/
inductive ChatCall.Holding (call : ChatCall) : Wire → Prop
  | granted {first : BaseProvider} {rest : List BaseProvider}
      (point : call.point = .acquire first rest) : Holding call (.replied .ok)
  | executing {wire : Wire} (inside : call.point.executing = true)
      (locked : call.lockToken ≠ none) : Holding call wire

/-- How a call ends that has been through its cache write: it returns, or a counter refuses
its record. -/
def Outcome.settled : Outcome → Bool
  | .returned _ => true
  | .raised exception => decide (CounterError exception)

/-- The call has been through its cache write. -/
def ChatCall.Settled (call : ChatCall) : Prop :=
  ∃ outcome, call.point = .done outcome ∧ outcome.settled = true

/-- Redis has executed the cache write of the call. -/
inductive ChatCall.Stored (call : ChatCall) : Wire → Prop
  | written {provider : BaseProvider} {response : ChatResponse} {reply : Reply}
      (point : call.point = .cacheSet provider response) : Stored call (.replied reply)
  | settled {wire : Wire} (settled : call.Settled) (answered : call.Answered) : Stored call wire

section Turn

variable {id : CallId} {process : Process} {call : ChatCall} {clock : Clock} {input : Input}
  {turn : Turn} {wire : Wire}

theorem Holding.not_answered (coherent : call.Coherent) (holding : call.Holding wire) :
    ¬ call.Answered := by
  rintro ⟨provider, response, chain⟩
  cases holding with
  | granted point =>
      simp only [ChatCall.Coherent, point] at coherent
      rw [coherent.1] at chain
      cases chain
  | executing inside locked =>
      cases point : call.point with
      | execute attempt =>
          simp only [ChatCall.Coherent, point] at coherent
          rw [coherent] at chain
          cases chain
      | _ => rw [point] at inside; cases inside

/-- Who holds the lock after a turn held it before. -/
theorem turns_holding (coherent : call.Coherent) (fits : input.fits wire = true)
    (turns : Turns env id process call clock input turn)
    (holding : turn.call.Holding (wire.after turn.send)) : call.Holding wire := by
  generalize sent : wire.after turn.send = left at holding
  cases holding with
  | granted point => exact absurd sent (Wire.after_ne_replied _ _ _)
  | executing inside locked =>
      cases turns with
      | granted point =>
          obtain rfl := Wire.carries_eq fits
          exact .granted point
      | lead gives => exact absurd (gives.chain coherent).2 locked
      | retry point => exact .executing (by rw [point]; rfl) locked
      | _ => cases inside

/-- Who has succeeded with the lock after a turn had succeeded before, or was calling the
provider. -/
theorem turns_successful (coherent : call.Coherent)
    (turns : Turns env id process call clock input turn) (successful : turn.call.Successful) :
    call.Successful ∨ call.point.executing = true ∧ call.lockToken ≠ none := by
  obtain ⟨locked, provider, response, chain⟩ := successful
  cases turns with
  | granted point =>
      simp only [ChatCall.Coherent, point] at coherent
      rw [coherent.1] at chain
      cases chain
  | returnedLocked point | raisedLocked point | cancelledLocked point =>
      exact .inr ⟨by rw [point]; rfl, locked⟩
  | returnedFree _ _ free | returnedClash _ _ free => exact absurd free locked
  | raisedFree | cancelledFree => cases chain
  | _ => exact .inl ⟨locked, provider, response, chain⟩

theorem Settles.settled {record : UsageRecord} {response : ChatResponse} {outcome : Outcome}
    {schedule : List UsageTask} (settles : Settles record response outcome schedule) :
    outcome.settled = true := by
  cases settles with
  | recorded => rfl
  | refused failed => exact decide_eq_true (counterError_emitMetric failed)

/-- A call that has not asked a provider has no answer. -/
theorem not_answered_of_early (coherent : call.Coherent) (early : call.point.early = true) :
    ¬ call.Answered := by
  rintro ⟨provider, response, chain⟩
  cases point : call.point <;> rw [point] at early <;> cases early <;>
    simp_all [ChatCall.Coherent]

/-- Whose write is executed after a turn had it executed before. -/
theorem turns_stored (coherent : call.Coherent) (fits : input.fits wire = true)
    (turns : Turns env id process call clock input turn)
    (stored : turn.call.Stored (wire.after turn.send)) : call.Stored wire := by
  generalize sent : wire.after turn.send = left at stored
  cases stored with
  | written point => exact absurd sent (Wire.after_ne_replied _ _ _)
  | settled settled answered =>
      obtain ⟨outcome, point, done⟩ := settled
      -- a call that ends early has no answer
      have early : call.point.early = true → turn.call.chain = call.chain →
          call.Stored wire := by
        intro early same
        obtain ⟨provider, response, chain⟩ := answered
        exact absurd ⟨provider, response, same.symm.trans chain⟩
          (not_answered_of_early coherent early)
      cases turns with
      | hit here | waited here => exact early (by rw [here]; rfl) rfl
      | followed awaits | followedRaise awaits =>
          rcases awaits with ⟨missed, -⟩ | here
          · rcases missed.point with here | here <;> exact early (by rw [here]; rfl) rfl
          · exact early (by rw [here]; rfl) rfl
      | unknown missed =>
          rcases missed.point with here | here <;> exact early (by rw [here]; rfl) rfl
      | settled here =>
          obtain rfl := Wire.carries_eq fits
          exact .written here
      | releasedRaise here =>
          simp only [ChatCall.Coherent, here] at coherent
          obtain ⟨provider, response, chain⟩ := answered
          obtain ⟨exception, raised⟩ := coherent
          rw [ChatCall.finish, raised] at chain
          cases chain
      | raisedFree =>
          obtain ⟨provider, response, chain⟩ := answered
          cases chain
      | returnedClash | releasedClash | cancelledFollow | cancelledFree | cancelledElsewhere =>
          cases point
          cases done
      | _ => cases point

end Turn

/-! ## The invariant -/

/-- A text that validates. -/
def Readable (env : Environment) (_ raw : String) : Prop := (parseEntry env raw).isSome = true

/-- The cache has an entry for the key. -/
def Cached (store : Store) (cacheKey : String) : Prop :=
  ∃ raw, store cacheKey = some (.text raw)

/-- Redis answers every command, no entry expires, and no lock expires while its holder
calls the provider; there are no streaming requests. -/
def Sheltered (env : Environment) (w : World) (action : Action) (_ : World) : Prop :=
  match action with
  | .serve _ delivery => delivery = .answered
  | .startStream _ _ _ _ _ => False
  | .expire key => (∀ digest : HexDigest, key ≠ digest.text) ∧
      ∀ id call wire, w.tasks id = some ⟨.chat call, wire⟩ → call.Holding wire →
        key ≠ lockKey (call.cacheKey env)
  | _ => True

/-- When Redis grants a lock, the cache has no entry for the key, and every holder that has
succeeded has been through its cache write. -/
def GrantsFresh (env : Environment) (w : World) (action : Action) (_ : World) : Prop :=
  ∀ id call first rest command, action = .serve id .answered →
    w.tasks id = some ⟨.chat call, .sent command⟩ → call.point = .acquire first rest →
      (Redis.execute w.store command).2 = .ok →
        ¬ Cached w.store (call.cacheKey env) ∧
          ∀ other holder, w.call other = some holder →
            holder.cacheKey env = call.cacheKey env → holder.Successful → holder.Settled

/-- What the calls know about the locks and the entries: a held lock is there with the token
of its holder, an executed write is there, and a holder is alone with a success. -/
structure World.Locked (env : Environment) (w : World) : Prop where
  locked : ∀ id call wire, w.tasks id = some ⟨.chat call, wire⟩ → call.Holding wire →
    w.store (lockKey (call.cacheKey env)) = some (.text (env.token id))
  stored : ∀ id call wire, w.tasks id = some ⟨.chat call, wire⟩ → call.Stored wire →
    Cached w.store (call.cacheKey env)
  exclusive : ∀ id call other found wire, w.call id = some call → call.Successful →
    w.tasks other = some ⟨.chat found, wire⟩ → found.cacheKey env = call.cacheKey env →
      ¬ found.Holding wire
  single : ∀ id call other found, w.call id = some call → w.call other = some found →
    call.Successful → found.Successful → found.cacheKey env = call.cacheKey env → id = other

/-- What holds in a run where locks are granted fresh. -/
structure World.Guarded (env : Environment) (w : World) : Prop extends World.Locked env w where
  linked : w.Linked env
  disciplined : w.Disciplined env
  flows : w.Flows env (fun _ _ => True) (Readable env)
  streams : ∀ id, w.stream id = none
  undeleted : ∀ id frame key, w.tasks id ≠ some ⟨frame, .sent (.delete key)⟩

/-- Holders of one key are one call. -/
theorem World.Locked.holder_unique {w : World} (distinct : Function.Injective env.token)
    (guarded : w.Locked env) {id other : CallId} {call found : ChatCall} {wire wire' : Wire}
    (task : w.tasks id = some ⟨.chat call, wire⟩) (task' : w.tasks other = some ⟨.chat found, wire'⟩)
    (holding : call.Holding wire) (holding' : found.Holding wire')
    (same : found.cacheKey env = call.cacheKey env) : id = other := by
  have mine := guarded.locked id call wire task holding
  have theirs := guarded.locked other found wire' task' holding'
  rw [same, mine] at theirs
  exact distinct (Redis.Value.text.inj (Option.some.inj theirs))

/-! ### What a command leaves in place -/

section Command

variable {entry : String → String → Prop} {frame : Frame} {command : Command} {store : Store}

/-- An entry stays, when nothing is deleted. -/
theorem Sends.keeps_entry (sends : Sends entry (frame.cacheKey env) command)
    (undeleted : ∀ key, command ≠ .delete key) (digest : HexDigest)
    (present : Cached store digest.text) : Cached (Redis.execute store command).1 digest.text := by
  have other : digest.text ≠ command.key → Cached (Redis.execute store command).1 digest.text :=
    fun ne => by rwa [Cached, Redis.execute_other store command ne]
  cases sends with
  | get => rwa [Redis.execute_get_store]
  | delete => exact absurd rfl (undeleted _)
  | @store raw expireSeconds written =>
      by_cases same : digest.text = frame.cacheKey env
      · rcases Redis.execute_set_self store (frame.cacheKey env) raw false expireSeconds with
          put | kept
        · exact ⟨raw, same ▸ put⟩
        · rwa [kept]
      · exact other same
  | acquire | release => exact other (digest_ne_lockKey _ _)

/-- A lock stays that is held with another token. -/
theorem Sends.keeps_lock {cacheKey token : String} (sends : Sends entry (frame.cacheKey env) command)
    (foreign : ∀ key released, command = .compareAndDelete key released → released ≠ token)
    (held : store (lockKey cacheKey) = some (.text token)) :
    (Redis.execute store command).1 (lockKey cacheKey) = some (.text token) := by
  have other : lockKey cacheKey ≠ command.key →
      (Redis.execute store command).1 (lockKey cacheKey) = some (.text token) :=
    fun ne => by rwa [Redis.execute_other store command ne]
  have apart : lockKey cacheKey ≠ frame.cacheKey env := by
    rw [← frame.digest_text]
    exact (digest_ne_lockKey _ _).symm
  cases sends with
  | get => rwa [Redis.execute_get_store]
  | delete | store => exact other apart
  | @acquire mine expireSeconds =>
      by_cases same : lockKey cacheKey = lockKey (frame.cacheKey env)
      · rw [Redis.execute_setIfAbsent_occupied (by rw [← same, held]; simp), held]
      · exact other same
  | @release mine =>
      by_cases same : lockKey cacheKey = lockKey (frame.cacheKey env)
      · rcases Redis.execute_compareAndDelete_self store (lockKey (frame.cacheKey env)) mine with
          kept | ⟨owned, -⟩
        · rw [kept, held]
        · rw [← same, held] at owned
          exact absurd (Redis.Value.text.inj (Option.some.inj owned)).symm (foreign _ _ rfl)
      · exact other same

end Command

/-! ### Steps -/

section Step

variable {w next : World} {action : Action}

theorem Sheltered.unstreamed (sheltered : Sheltered env w action next) :
    action.opensStream = false := by
  cases action <;> first | rfl | exact sheltered.elim

theorem lawful_readable (readable : env.codec.Readable) :
    Lawful env (fun _ _ => True) (Readable env) where
  dumped _ response _ := readable response
  read _ _ _ _ _ := trivial

/-- An unreadable entry is never read, so none is deleted. -/
theorem undeleted_step (guarded : w.Guarded env) (moved : w.step env action = some next)
    (id : CallId) (frame : Frame) (key : String) :
    next.tasks id ≠ some ⟨frame, .sent (.delete key)⟩ := by
  intro there
  have old := guarded.undeleted id frame key
  cases steps_of_step moved with
  | start | startStream =>
      simp only [World.spawn, Function.update_apply] at there
      split_ifs at there
      · cases there
      · exact old there
  | @serve other frame' command delivery task =>
      cases delivery <;> simp only [World.deliver, Function.update_apply] at there <;>
        split_ifs at there
      all_goals first | exact old there | cases there
  | @chat other call wire input clock turn task fits turns =>
      simp only [World.applyTurn, Function.update_apply] at there
      split_ifs at there
      · obtain ⟨rfl, after⟩ := Task.mk.inj (Option.some.inj there)
        rcases Wire.after_eq after with new | rfl
        · cases turns with
          | unreadable point unread =>
              obtain rfl := Wire.carries_eq fits
              have entry : Readable env _ _ := (guarded.flows.tasks other _ task).replied _ rfl
              rw [Readable, unread] at entry
              cases entry
          | _ => cases new
        · exact guarded.undeleted other _ key task
      · exact old there
  | @stream other call wire input clock turn task =>
      have running : w.stream other = some call := World.stream_eq_some.mpr ⟨wire, task⟩
      rw [guarded.streams other] at running
      cases running
  | expire | limit | rollback => exact old there

/-- The digest that the cache key of a call is. -/
theorem ChatCall.exists_digest (env : Environment) (call : ChatCall) :
    ∃ digest : HexDigest, digest.text = call.cacheKey env :=
  ⟨Frame.digest env (.chat call), rfl⟩

/-- A step that leaves the calls alone and takes neither an entry nor a held lock away. -/
theorem locked_store {store : Store} (guarded : w.Locked env)
    (entries : ∀ digest : HexDigest, Cached w.store digest.text → Cached store digest.text)
    (locks : ∀ id call wire, w.tasks id = some ⟨.chat call, wire⟩ → call.Holding wire →
      store (lockKey (call.cacheKey env)) = w.store (lockKey (call.cacheKey env))) :
    { w with store := store }.Locked env where
  locked id call wire task holding :=
    (locks id call wire task holding).trans (guarded.locked id call wire task holding)
  stored id call wire task stored := by
    obtain ⟨digest, same⟩ := call.exists_digest env
    exact same ▸ entries digest (same ▸ guarded.stored id call wire task stored)
  exclusive := guarded.exclusive
  single := guarded.single

/-- A call that has just started has no lock, no answer and nothing stored. -/
theorem locked_start {id : CallId} {call : ChatCall} {cacheKey : String} (guarded : w.Locked env)
    (begin_ : call.point = .cacheGet) (unlocked : call.lockToken = none) :
    (w.spawn id (.chat call) cacheKey).Locked env := by
  have calls := call_spawn_chat w id call cacheKey
  have unheld : ∀ wire, ¬ call.Holding wire := by
    rintro wire (⟨point⟩ | ⟨-, locked⟩)
    · rw [begin_] at point
      cases point
    · exact locked unlocked
  have unstored : ∀ wire, ¬ call.Stored wire := by
    rintro wire (⟨point⟩ | ⟨⟨outcome, point, -⟩, -⟩) <;> rw [begin_] at point <;> cases point
  have unsuccessful : ¬ call.Successful := fun successful => successful.1 unlocked
  have tasks : ∀ other found wire,
      (w.spawn id (.chat call) cacheKey).tasks other = some ⟨.chat found, wire⟩ →
        found = call ∨ w.tasks other = some ⟨.chat found, wire⟩ := by
    intro other found wire there
    simp only [World.spawn, Function.update_apply] at there
    split_ifs at there
    · cases there
      exact .inl rfl
    · exact .inr there
  have running : ∀ other found, (w.spawn id (.chat call) cacheKey).call other = some found →
      found = call ∨ w.call other = some found := by
    intro other found there
    rw [calls, Function.update_apply] at there
    split_ifs at there
    · exact .inl (Option.some.inj there).symm
    · exact .inr there
  refine ⟨fun other found wire there holding => ?_, fun other found wire there stored => ?_,
    fun other found another also wire there successful task same holding => ?_,
    fun other found another also there those successful succeeded same => ?_⟩
  · rcases tasks other found wire there with rfl | old
    · exact absurd holding (unheld wire)
    · exact guarded.locked other found wire old holding
  · rcases tasks other found wire there with rfl | old
    · exact absurd stored (unstored wire)
    · exact guarded.stored other found wire old stored
  · rcases running other found there with rfl | old
    · exact unsuccessful successful
    · rcases tasks another also wire task with rfl | before
      · exact unheld wire holding
      · exact guarded.exclusive other found another also wire old successful before same holding
  · rcases running other found there with rfl | old
    · exact absurd successful unsuccessful
    · rcases running another also those with rfl | before
      · exact absurd succeeded unsuccessful
      · exact guarded.single other found another also old before successful succeeded same

/-- Where a call stands whose command is under way, when Redis has executed it. -/
theorem locked_serve {id : CallId} {frame : Frame} {command : Command}
    (distinct : Function.Injective env.token) (positive : 0 < env.settings.cacheTtlSeconds)
    (guarded : w.Guarded env) (task : w.tasks id = some ⟨frame, .sent command⟩)
    (fresh : GrantsFresh env w (.serve id .answered) next) :
    (w.deliver id frame command .answered).Locked env := by
  cases frame with
  | stream call =>
      have running : w.stream id = some call := World.stream_eq_some.mpr ⟨_, task⟩
      rw [guarded.streams id] at running
      cases running
  | chat call =>
      have running : w.call id = some call := World.call_eq_some.mpr ⟨_, task⟩
      have sends := (guarded.flows.tasks id _ task).sent command rfl
      have expects := guarded.disciplined.expects id call command task
      have calls := call_deliver task .answered
      have undeleted : ∀ key, command ≠ .delete key := by
        rintro key rfl
        exact guarded.undeleted id _ key task
      -- the call itself, when it is handed the lock
      have granted : ∀ reply, (Redis.execute w.store command).2 = reply →
          call.Holding (.replied reply) →
          (∃ first rest, call.point = .acquire first rest) ∧ reply = .ok ∧
            (Redis.execute w.store command).1 (lockKey (call.cacheKey env)) =
              some (.text (env.token id)) := by
        intro reply replied holding
        cases holding with
        | @granted first rest point =>
            simp only [ChatCall.Expects, point] at expects
            subst expects
            refine ⟨⟨first, rest, point⟩, rfl, ?_⟩
            rw [acquireCommand, (Redis.execute_setIfAbsent_ok replied).2, Store.put_self]
        | executing inside locked =>
            cases point : call.point with
            | execute attempt => simp only [ChatCall.Expects, point] at expects
            | _ => rw [point] at inside; cases inside
      refine ⟨fun other found wire there holding => ?_, fun other found wire there stored => ?_,
        fun other found another also wire there successful both same holding => ?_, ?_⟩
      · simp only [World.deliver, Function.update_apply] at there
        split_ifs at there with same
        · cases there
          rw [same]
          exact (granted _ rfl holding).2.2
        · refine sends.keeps_lock ?_ (guarded.locked other found wire there holding)
          rintro key released rfl
          have mine : released = env.token id := by
            unfold ChatCall.Expects at expects
            split at expects
            all_goals first | cases expects; done | skip
            · exact (Command.compareAndDelete.inj expects).2
            · exact expects key released rfl
          rw [mine]
          exact fun equal => same (distinct equal).symm
      · obtain ⟨digest, key⟩ := found.exists_digest env
        simp only [World.deliver, Function.update_apply] at there
        split_ifs at there
        · cases there
          cases stored with
          | @written provider response reply point =>
              simp only [ChatCall.Expects, point] at expects
              subst expects
              refine ⟨env.codec.modelDumpJson response, ?_⟩
              change (Redis.execute w.store (storeCommand env _ response)).1 _ = _
              rw [storeCommand, Redis.execute_set_put positive, Store.put_self]
          | settled settled answered =>
              exact key ▸ sends.keeps_entry undeleted digest
                (key ▸ guarded.stored id call _ task (.settled settled answered))
        · exact key ▸ sends.keeps_entry undeleted digest
            (key ▸ guarded.stored other found wire there stored)
      · rw [calls] at there
        simp only [World.deliver, Function.update_apply] at both
        split_ifs at both
        · cases both
          obtain ⟨⟨first, rest, point⟩, ok, -⟩ := granted _ rfl holding
          obtain ⟨absent, settled⟩ := fresh id call first rest command rfl task point ok
          obtain ⟨wire', before⟩ := World.call_eq_some.mp there
          have done := settled other found there same.symm successful
          have entry := guarded.stored other found wire' before (.settled done successful.2)
          exact absent (same ▸ entry)
        · exact guarded.exclusive other found another also wire there successful both same holding
      · intro other found another also there those
        rw [calls] at there those
        exact guarded.single other found another also there those

/-- Where a call stands after a turn. -/
theorem locked_turn {id : CallId} {call : ChatCall} {wire : Wire} {input : Input} {clock : Clock}
    {turn : Turn} (distinct : Function.Injective env.token) (guarded : w.Guarded env)
    (task : w.tasks id = some ⟨.chat call, wire⟩) (fits : input.fits wire = true)
    (turns : Turns env id (w.process env call) call clock input turn) :
    (w.applyTurn env id wire clock.latencyMs turn).Locked env := by
  have running : w.call id = some call := World.call_eq_some.mpr ⟨wire, task⟩
  have coherent := guarded.linked.sound.coherent id call running
  have key := (turns_arguments turns).cacheKey env
  have calls := call_applyTurn env w id wire clock.latencyMs turn
  have after : ∀ other found left,
      (w.applyTurn env id wire clock.latencyMs turn).tasks other = some ⟨.chat found, left⟩ →
        (other = id ∧ found = turn.call ∧ left = wire.after turn.send) ∨
          other ≠ id ∧ w.tasks other = some ⟨.chat found, left⟩ := by
    intro other found left there
    simp only [World.applyTurn, Function.update_apply] at there
    split_ifs at there with same
    · cases there
      exact .inl ⟨same, rfl, rfl⟩
    · exact .inr ⟨same, there⟩
  have goes : ∀ other found, (w.applyTurn env id wire clock.latencyMs turn).call other = some found →
      (other = id ∧ found = turn.call) ∨ other ≠ id ∧ w.call other = some found := by
    intro other found there
    rw [calls, Function.update_apply] at there
    split_ifs at there with same
    · exact .inl ⟨same, (Option.some.inj there).symm⟩
    · exact .inr ⟨same, there⟩
  -- a success of this turn, against a holder or a success that was there before
  have won : turn.call.Successful → call.Successful ∨ call.Holding wire := by
    intro successful
    rcases turns_successful coherent turns successful with before | ⟨inside, locked⟩
    · exact .inl before
    · exact .inr (.executing inside locked)
  refine ⟨fun other found left there holding => ?_, fun other found left there stored => ?_,
    fun other found another also left there successful both same holding => ?_,
    fun other found another also there those successful succeeded same => ?_⟩
  · rcases after other found left there with ⟨rfl, rfl, rfl⟩ | ⟨-, old⟩
    · rw [key]
      exact guarded.locked _ call wire task (turns_holding coherent fits turns holding)
    · exact guarded.locked other found left old holding
  · rcases after other found left there with ⟨rfl, rfl, rfl⟩ | ⟨-, old⟩
    · rw [key]
      exact guarded.stored _ call wire task (turns_stored coherent fits turns stored)
    · exact guarded.stored other found left old stored
  · rcases goes other found there with ⟨rfl, rfl⟩ | ⟨elsewhere, old⟩ <;>
      rcases after another also left both with ⟨rfl, rfl, rfl⟩ | ⟨apart, before⟩
    · exact Holding.not_answered (turns_coherent coherent turns) holding successful.2
    · rw [key] at same
      rcases won successful with earlier | held
      · exact guarded.exclusive _ call another also left running earlier before same holding
      · exact apart (guarded.holder_unique distinct before task holding held same.symm)
    · rw [key] at same
      exact guarded.exclusive other found _ call wire old successful task same
        (turns_holding coherent fits turns holding)
    · exact guarded.exclusive other found another also left old successful before same holding
  · rcases goes other found there with ⟨rfl, rfl⟩ | ⟨elsewhere, old⟩ <;>
      rcases goes another also those with ⟨rfl, rfl⟩ | ⟨apart, before⟩
    · rfl
    · rw [key] at same
      rcases won successful with earlier | held
      · exact guarded.single _ call another also running before earlier succeeded same
      · exact absurd held (guarded.exclusive another also _ call wire before succeeded task
          same.symm)
    · rw [key] at same
      rcases won succeeded with earlier | held
      · exact guarded.single other found _ call old running successful earlier same
      · exact absurd held (guarded.exclusive other found _ call wire old successful task same)
    · exact guarded.single other found another also old before successful succeeded same

theorem guarded_step (distinct : Function.Injective env.token)
    (positive : 0 < env.settings.cacheTtlSeconds) (readable : env.codec.Readable)
    (guarded : w.Guarded env) (moved : w.step env action = some next)
    (sheltered : Sheltered env w action next) (fresh : GrantsFresh env w action next) :
    next.Guarded env := by
  have locked : next.Locked env := by
    cases steps_of_step moved with
    | start => exact locked_start guarded.toLocked rfl rfl
    | startStream => exact sheltered.elim
    | @serve id frame command delivery task =>
        obtain rfl : delivery = .answered := sheltered
        exact locked_serve distinct positive guarded task fresh
    | chat task fits turns => exact locked_turn distinct guarded task fits turns
    | @stream id call wire input clock turn task =>
        have running : w.stream id = some call := World.stream_eq_some.mpr ⟨wire, task⟩
        rw [guarded.streams id] at running
        cases running
    | expire =>
        refine locked_store guarded.toLocked (fun digest entry => ?_) fun id call wire task held => ?_
        · rwa [Cached, w.store.erase_of_ne (sheltered.1 digest).symm]
        · exact w.store.erase_of_ne (sheltered.2 id call wire task held).symm
    | @limit virtualKeyId now member =>
        refine locked_store guarded.toLocked (fun digest entry => ?_) fun id call wire task held => ?_
        · rwa [Cached, checkPipeline_other _ (digest_ne_rateLimitKey digest virtualKeyId)]
        · exact checkPipeline_other _ (lockKey_ne_rateLimitKey _ _)
    | @rollback virtualKeyId member =>
        refine locked_store guarded.toLocked (fun digest entry => ?_) fun id call wire task held => ?_
        · rwa [Cached, Redis.execute_other _ _ (digest_ne_rateLimitKey digest virtualKeyId)]
        · exact Redis.execute_other _ _ (lockKey_ne_rateLimitKey _ _)
  exact
    { toLocked := locked
      linked := linked_step guarded.linked moved
      disciplined := disciplined_step guarded.disciplined moved
      flows := flows_step (lawful_readable readable) guarded.linked guarded.flows moved
        fun _ _ _ => trivial
      streams := streams_step guarded.streams sheltered.unstreamed moved
      undeleted := undeleted_step guarded moved }

end Step

/-! ## The hand-over -/

/-- At most one lock holder of each cache key has succeeded. -/
def World.SingleSuccess (env : Environment) (w : World) : Prop :=
  ∀ id call other found, w.call id = some call → w.call other = some found → call.Successful →
    found.Successful → found.cacheKey env = call.cacheKey env → id = other

/-- A request that goes on to call the provider with the lock does so while no other
holder has succeeded. -/
def CallsFirst (env : Environment) (w : World) (action : Action) (_ : World) : Prop :=
  ∀ id clock call first rest, action = .chat id (.reply .ok) clock → w.call id = some call →
    call.point = .acquire first rest → ∀ other holder, w.call other = some holder →
      holder.cacheKey env = call.cacheKey env → ¬ holder.Successful

theorem callsFirst_of_guarded {w next : World} {action : Action} (guarded : w.Guarded env)
    (moved : w.step env action = some next) : CallsFirst env w action next := by
  rintro id clock call first rest rfl running point other holder there same successful
  cases steps_of_step moved with
  | @chat _ call' wire _ _ turn task fits turns =>
      obtain rfl : call = call' :=
        Option.some.inj (running.symm.trans (World.call_eq_some.mpr ⟨wire, task⟩))
      obtain rfl := Wire.carries_eq fits
      exact guarded.exclusive other holder id call _ there successful task same.symm
        (.granted point)

theorem guarded_run {store : Store} {actions : List Action} {w : World}
    (distinct : Function.Injective env.token) (positive : 0 < env.settings.cacheTtlSeconds)
    (readable : env.codec.Readable)
    (entries : ∀ (digest : HexDigest) raw, store digest.text = some (.text raw) →
      Readable env digest.text raw)
    (sheltered : Throughout (World.step env) (Sheltered env) (.init store) actions)
    (fresh : Throughout (World.step env) (GrantsFresh env) (.init store) actions)
    (reached : run (World.step env) (.init store) actions = some w) : w.Guarded env := by
  have initial : (World.init store).Guarded env :=
    { locked := by simp [World.init]
      stored := by simp [World.init]
      exclusive := by simp [World.init]
      single := by simp [World.init, World.call]
      linked := linked_init env store
      disciplined := disciplined_init store
      flows := ⟨entries, by simp [World.init]⟩
      streams := by simp [World.init, World.stream]
      undeleted := by simp [World.init] }
  exact invariant initial
    (fun _ _ _ guarded moved met =>
      guarded_step distinct positive readable guarded moved met.1 met.2)
    (sheltered.and fresh) reached

/-- **Hand-over.** Redis is up, no entry expires and no lock while its holder calls the
provider; tokens are distinct and entries readable. In a run in which locks are granted
only while the cache has no entry and no successful holder has yet to write one, at most one
lock holder succeeds for each cache key, and none calls the provider after another one has
succeeded. -/
theorem hand_over (env : Environment) (distinct : Function.Injective env.token)
    (positive : 0 < env.settings.cacheTtlSeconds) (readable : env.codec.Readable) (store : Store)
    (entries : ∀ (digest : HexDigest) raw, store digest.text = some (.text raw) →
      Readable env digest.text raw)
    (actions : List Action)
    (sheltered : Throughout (World.step env) (Sheltered env) (.init store) actions)
    (fresh : Throughout (World.step env) (GrantsFresh env) (.init store) actions) :
    Always (World.step env) (World.SingleSuccess env) (.init store) actions ∧
      Throughout (World.step env) (CallsFirst env) (.init store) actions := by
  have guarded : ∀ before after state, actions = before ++ after →
      run (World.step env) (.init store) before = some state → state.Guarded env := by
    intro before after state split reached
    subst split
    exact guarded_run distinct positive readable entries (sheltered.of_split rfl) (fresh.of_split rfl)
      reached
  constructor
  · intro before after state split reached
    exact (guarded before after state split reached).single
  · intro before action after state next split reached moved
    exact callsFirst_of_guarded (guarded before _ state split reached) moved

/-! ### Runs without an answer -/

/-- The action is no answer of a provider and no end of a stream. -/
def Action.unanswered : Action → Bool
  | .chat _ (.attempt (.answered _)) _ | .stream _ (.event .exhausted) _ => false
  | _ => true

/-- The action meets `Sheltered` in every state. -/
def Action.plain : Action → Bool
  | .serve _ delivery => delivery == .answered
  | .startStream _ _ _ _ _ | .expire _ => false
  | _ => true

theorem sheltered_of_plain {actions : List Action} (plain : ∀ action ∈ actions, action.plain = true)
    (start : World) : Throughout (World.step env) (Sheltered env) start actions := by
  refine (throughout_of_actions plain start).mono fun state action next met => ?_
  cases action with
  | serve id delivery => simpa [Action.plain, Sheltered] using met
  | startStream | expire => cases met
  | start | chat | stream | limit | rollback => trivial

/-- Where no provider has answered, every lock is granted fresh. -/
theorem grantsFresh_of_unanswered {actions : List Action}
    (unanswered : ∀ action ∈ actions, action.unanswered = true) :
    Throughout (World.step env) (GrantsFresh env) (.init Store.empty) actions := by
  have lawful : Lawful env (fun _ _ => False) (fun _ _ => False) :=
    ⟨fun _ _ good => good, fun _ _ _ entry _ => entry⟩
  intro before action after state next split reached moved
  have nothing : state.Linked env ∧ state.Flows env (fun _ _ => False) (fun _ _ => False) :=
    invariant (C := fun _ action _ => action.unanswered = true)
      (P := fun w => w.Linked env ∧ w.Flows env (fun _ _ => False) (fun _ _ => False))
      ⟨linked_init env Store.empty, by simp [World.init, Store.empty], by simp [World.init]⟩
      (fun w action next holds moved met => ⟨linked_step holds.1 moved,
        flows_step lawful holds.1 holds.2 moved
          fun key response produces => by cases produces <;> cases met⟩)
      (throughout_of_actions (fun other member => unanswered other (by simp [split, member])) _)
      reached
  rintro id call first rest command rfl task point granted
  constructor
  · rintro ⟨raw, found⟩
    obtain ⟨digest, same⟩ := call.exists_digest env
    exact nothing.2.stored digest raw (same ▸ found)
  · rintro other holder there same ⟨locked, provider, response, chain⟩
    obtain ⟨wire, found⟩ := World.call_eq_some.mp there
    have holds : holder.Holds env fun _ _ => False := (nothing.2.tasks other _ found).holds
    exact (holds.chain provider response chain).elim

/-- The action grants no lock. -/
def grantsNone (w : World) : Action → Bool
  | .serve id .answered =>
      match w.tasks id with
      | some ⟨.chat call, _⟩ =>
          match call.point with
          | .acquire _ _ => false
          | _ => true
      | _ => true
  | _ => true

theorem grantsFresh_of_grantsNone (w : World) (action : Action) (next : World)
    (ungranted : grantsNone w action = true) : GrantsFresh env w action next := by
  rintro id call first rest command rfl task point -
  simp [grantsNone, task, point] at ungranted

theorem demoToken_injective : Function.Injective demoToken := by
  intro first second same
  have digits : Nat.toDigits 10 (10 ^ 15 + first) = Nat.toDigits 10 (10 ^ 15 + second) :=
    String.ofList_inj.mp same
  have values := congrArg (fun digits => Nat.ofDigitChars 10 digits 0) digits
  rw [Nat.ofDigitChars_ten_toDigits, Nat.ofDigitChars_ten_toDigits] at values
  exact Nat.add_left_cancel values

/-- The provider fails for a lock holder, and another replica obtains the lock after it. -/
def failingOver : List Action :=
  [arrive 0 0, arrive 1 1] ++ exchange 0 .nil early ++ exchange 1 .nil early ++
    exchange 0 .ok early ++
    [.chat 0 (.attempt (.providerError ⟨.timeout, "timed out", "openai"⟩)) early] ++
    exchange 0 (.integer 1) early ++ exchange 1 .ok early

/-- The provider answers the second holder, which releases the lock and writes the entry. -/
def failedOver : List Action :=
  [.chat 1 (.attempt (.answered demoResponse)) early] ++ exchange 1 (.integer 1) early ++
    exchange 1 .ok early

/-- A call that has held a lock has returned. -/
def returnedLocked (id : CallId) (w : World) : Bool :=
  match w.call id with
  | some call => call.lockToken.isSome &&
      match call.chain, call.point with
      | some (.returned _ _), .done (.returned _) => true
      | _, _ => false
  | none => false

/-- A run in which the lock is granted twice, and the second holder succeeds. -/
theorem hand_over_failedOver :
    (∃ w, run (World.step demoEnvironment) (.init Store.empty) (failingOver ++ failedOver) = some w ∧
      returnedLocked 1 w = true) ∧
      Always (World.step demoEnvironment) (World.SingleSuccess demoEnvironment)
        (.init Store.empty) (failingOver ++ failedOver) ∧
      Throughout (World.step demoEnvironment) (CallsFirst demoEnvironment)
        (.init Store.empty) (failingOver ++ failedOver) := by
  have last : (run (World.step demoEnvironment) (.init Store.empty)
      (failingOver ++ failedOver)).any (returnedLocked 1) = true := by decide +kernel
  have calm : (run (World.step demoEnvironment) (.init Store.empty) failingOver).any
      (fun w => passes (World.step demoEnvironment) grantsNone w failedOver) = true := by
    decide +kernel
  obtain ⟨w, reached, passed⟩ := (Option.any_eq_true _ _).mp calm
  refine ⟨(Option.any_eq_true _ _).mp last, hand_over demoEnvironment demoToken_injective
    (by decide) jsonCodec_inverse.readable Store.empty (by simp [Store.empty])
    (failingOver ++ failedOver) (sheltered_of_plain (by decide) _) ?_⟩
  exact (grantsFresh_of_unanswered (by decide)).append reached
    (throughout_of_passes grantsFresh_of_grantsNone passed)

/-- Two replicas have seen no entry. The first one obtains the lock, is answered by the provider
and releases the lock; before it writes the entry, the second one obtains the lock and
calls the provider again. -/
def releasedEarly : List Action :=
  [arrive 0 0, arrive 1 1] ++ exchange 0 .nil early ++ exchange 1 .nil early ++
    exchange 0 .ok early ++ [.chat 0 (.attempt (.answered demoResponse)) early, .serve 0 .answered] ++
    exchange 1 .ok early ++ [.chat 1 (.attempt (.answered demoResponse)) early]

/-- Two calls of one cache key hold a token and have a response of a provider. -/
def bothSucceeded (id other : CallId) (w : World) : Bool :=
  match w.call id, w.call other with
  | some call, some found =>
      call.lockToken.isSome && found.lockToken.isSome &&
        (found.cacheKey demoEnvironment == call.cacheKey demoEnvironment) &&
        (match call.chain, found.chain with
        | some (.returned _ _), some (.returned _ _) => true
        | _, _ => false)
  | _, _ => false

/-- **Two lock holders succeed**, although Redis is up and nothing expires or is cancelled. -/
theorem released_before_stored :
    (∀ action ∈ releasedEarly, action.plain = true) ∧ Uncancelled releasedEarly ∧
      ¬ Always (World.step demoEnvironment) (World.SingleSuccess demoEnvironment)
        (.init Store.empty) releasedEarly := by
  refine ⟨by decide, by decide, not_always_of_last (bothSucceeded 0 1) ?_ (by decide +kernel)⟩
  intro w both single
  unfold bothSucceeded at both
  split at both
  · rename_i call found running there
    simp only [Bool.and_eq_true, beq_iff_eq, Option.isSome_iff_ne_none] at both
    obtain ⟨⟨⟨mine, theirs⟩, same⟩, answered⟩ := both
    split at answered
    · rename_i first firstResponse second secondResponse chain chain'
      have equal := single 0 call 1 found running there ⟨mine, _, _, chain⟩
        ⟨theirs, _, _, chain'⟩ same
      cases equal
    · cases answered
  · cases both

end LlmGateway
