import LlmGateway.Cluster.Flow

/-!
# Provenance and tenant isolation

Any number of processes share one Redis, which holds nothing at first. Whatever fails,
expires or is cancelled, and in whatever order the calls of both endpoints go on, a response that
is handed to a call was produced by a provider call that ended without an exception and was
made for a request of the same virtual key with the same dump (`provenance`).

The invariant is that of `Flow`, for the predicate "produced for this cache key". A cache
key stands for one virtual key and one dump as long as the digest does not collide on
the texts that were hashed in the run (`CollisionFree`).
-/

set_option autoImplicit false

namespace LlmGateway

open LlmGateway.Library
open LlmGateway.Library.Redis (Command Reply Store)

variable {env : Environment}

/-! ## Requests that are alike -/

namespace Frame

def request : Frame → ChatRequest
  | .chat call => call.request
  | .stream call => call.request

def virtualKeyId : Frame → ℤ
  | .chat call => call.virtualKeyId
  | .stream call => call.virtualKeyId

/-- The text that is hashed for a call. -/
def body (frame : Frame) : String := cacheKeyBody frame.request (some (.int frame.virtualKeyId))

theorem body_eq {frame other : Frame} (requests : other.request = frame.request)
    (virtualKeyIds : other.virtualKeyId = frame.virtualKeyId) : other.body = frame.body := by
  rw [body, body, requests, virtualKeyIds]

/-- A call for the same virtual key and for a request with the same dump, hence with the
same `stream` flag. -/
structure Like (frame other : Frame) : Prop where
  virtualKeyId : other.virtualKeyId = frame.virtualKeyId
  modelDump : Json.Same other.request.modelDump frame.request.modelDump
  stream : other.request.stream = frame.request.stream

/-- The call has a response to write to the cache: its provider call ended without an
exception. -/
def Succeeded (response : ChatResponse) : Frame → Prop
  | .chat call => ∃ provider, call.chain = some (.returned provider response)
  | .stream call => call.success = true ∧ call.written = some response

end Frame

/-- The text that is hashed for the request of a new call. -/
def Action.body : Action → Option String
  | .start _ _ request _ virtualKeyId | .startStream _ request _ virtualKeyId _ =>
      some (cacheKeyBody request (some (.int virtualKeyId)))
  | _ => none

/-- The digest does not collide on the requests of a run. -/
def CollisionFree (env : Environment) (actions : List Action) : Prop :=
  ∀ first ∈ actions.filterMap Action.body, ∀ second ∈ actions.filterMap Action.body,
    env.sha256 first = env.sha256 second → first = second

instance : DecidableEq HexDigest := fun first second =>
  decidable_of_iff (first.text = second.text) (HexDigest.ext_iff).symm

instance (actions : List Action) : Decidable (CollisionFree env actions) :=
  inferInstanceAs (Decidable (∀ first ∈ actions.filterMap Action.body,
    ∀ second ∈ actions.filterMap Action.body, env.sha256 first = env.sha256 second → first = second))

/-! ## Production -/

/-- **A response was produced for a call.** A provider has answered the call, or the stream
of the call has come to its end without an exception. -/
inductive Produced (actions : List Action) (w : World) (made : Frame → Prop)
    (response : ChatResponse) : Prop
  | chat {id : CallId} {call : ChatCall} {provider : BaseProvider} {clock : Clock}
      (running : w.call id = some call) (chain : call.chain = some (.returned provider response))
      (answered : .chat id (.attempt (.answered response)) clock ∈ actions)
      (fit : made (.chat call)) : Produced actions w made response
  | stream {id : CallId} {call : StreamCall} {clock : StreamClock}
      (running : w.stream id = some call) (success : call.success = true)
      (written : call.written = some response)
      (ended : .stream id (.event .exhausted) clock ∈ actions)
      (fit : made (.stream call)) : Produced actions w made response

/-- A response that was produced for a cache key. -/
def Good (env : Environment) (actions : List Action) (w : World) (key : String)
    (response : ChatResponse) : Prop :=
  Produced actions w (fun frame => frame.cacheKey env = key) response

/-- The text of a response that was produced for a cache key. -/
def Entry (env : Environment) (actions : List Action) (w : World) (key raw : String) : Prop :=
  ∃ response, raw = env.codec.modelDumpJson response ∧ Good env actions w key response

/-- Where the codec reads back what it dumped, an entry is read as what was produced. -/
theorem lawful_of_inverse (inverse : env.codec.Inverse) (actions : List Action) (w : World) :
    Lawful env (Good env actions w) (Entry env actions w) where
  dumped _ response good := ⟨response, rfl, good⟩
  read key raw response entry parsed := by
    obtain ⟨written, rfl, good⟩ := entry
    have same : written = response :=
      Option.some.inj ((inverse written).symm.trans parsed)
    exact same ▸ good

section Step

variable {w next : World} {action : Action} {actions : List Action}

/-- What was produced stays produced. -/
theorem good_step (linked : w.Linked env) (moved : w.step env action = some next) {key : String}
    {response : ChatResponse} (good : Good env actions w key response) :
    Good env (actions ++ [action]) next key response := by
  rcases good with ⟨running, chain, answered, made⟩ | ⟨running, success, written, ended, made⟩
  · obtain ⟨later, now, same, kept⟩ := call_step linked.sound.coherent moved running
    exact .chat now (kept _ chain) (List.mem_append_left _ answered) ((same.cacheKey env).trans made)
  · obtain ⟨later, now, request, virtualKeyId, done, kept⟩ :=
      stream_step linked.streams moved running
    refine .stream now (done success) (kept _ written) (List.mem_append_left _ ended) ?_
    change later.cacheKey env = key
    rw [StreamCall.cacheKey, request, virtualKeyId]
    exact made

theorem entry_step (linked : w.Linked env) (moved : w.step env action = some next) {key raw : String}
    (entry : Entry env actions w key raw) : Entry env (actions ++ [action]) next key raw := by
  obtain ⟨response, dumped, good⟩ := entry
  exact ⟨response, dumped, good_step linked moved good⟩

/-- What a step produces is produced after it. -/
theorem good_of_produces {key : String} {response : ChatResponse}
    (produces : Produces env action next key response) :
    Good env (actions ++ [action]) next key response := by
  cases produces with
  | chat running chain =>
      exact .chat running chain (List.mem_append_right _ (List.mem_singleton_self _)) rfl
  | stream running success written =>
      exact .stream running success written (List.mem_append_right _ (List.mem_singleton_self _))
        rfl

/-! ## Cache writes -/

/-- A call that writes to the cache writes what its own provider call produced. -/
def World.Writes (env : Environment) (w : World) : Prop :=
  ∀ id frame key raw expireSeconds,
    w.tasks id = some ⟨frame, .sent (.set key raw false expireSeconds)⟩ →
      ∃ response, frame.Succeeded response ∧ raw = env.codec.modelDumpJson response

/-- A turn that writes to the cache. -/
theorem turns_write {id : CallId} {process : Process} {call : ChatCall} {clock : Clock}
    {input : Input} {turn : Turn} {key raw : String} {expireSeconds : ℤ} (coherent : call.Coherent)
    (turns : Turns env id process call clock input turn)
    (send : turn.send = some (.set key raw false expireSeconds)) :
    ∃ response, (Frame.chat turn.call).Succeeded response ∧
      raw = env.codec.modelDumpJson response := by
  cases turns with
  | returnedFree => cases send; exact ⟨_, ⟨_, rfl⟩, rfl⟩
  | released point =>
      cases send
      simp only [ChatCall.Coherent, point] at coherent
      exact ⟨_, ⟨_, coherent⟩, rfl⟩
  | _ => cases send

theorem streamTurns_write {call : StreamCall} {clock : StreamClock} {input : StreamInput}
    {turn : StreamTurn} {key raw : String} {expireSeconds : ℤ}
    (turns : StreamTurns env call clock input turn)
    (send : turn.send = some (.set key raw false expireSeconds)) :
    ∃ response, (Frame.stream turn.call).Succeeded response ∧
      raw = env.codec.modelDumpJson response := by
  cases turns with
  | stored => cases send; exact ⟨_, ⟨rfl, rfl⟩, rfl⟩
  | _ => cases send

theorem writes_step (linked : w.Linked env) (writes : w.Writes env)
    (moved : w.step env action = some next) : next.Writes env := by
  intro other frame key raw expireSeconds there
  -- a command that was on its way before the step
  have old : w.tasks other = some ⟨frame, .sent (.set key raw false expireSeconds)⟩ → _ :=
    writes other frame key raw expireSeconds
  cases steps_of_step moved with
  | start | startStream =>
      simp only [World.spawn, Function.update_apply] at there
      split_ifs at there
      · cases there
      · exact old there
  | @serve id frame' command delivery task =>
      cases delivery <;> simp only [World.deliver, Function.update_apply] at there <;>
        split_ifs at there
      all_goals first | exact old there | cases there
  | @chat id call wire input clock turn task fits turns =>
      simp only [World.applyTurn, Function.update_apply] at there
      split_ifs at there with same
      · obtain ⟨rfl, after⟩ := Task.mk.inj (Option.some.inj there)
        have coherent := linked.sound.coherent id call (World.call_eq_some.mpr ⟨wire, task⟩)
        rcases Wire.after_eq after with new | rfl
        · exact turns_write coherent turns new
        · obtain ⟨response, ⟨provider, chain⟩, dumped⟩ := writes _ _ _ _ _ task
          exact ⟨response, ⟨provider, turns_chain coherent chain turns⟩, dumped⟩
      · exact old there
  | @stream id call wire input clock turn task fits turns =>
      simp only [World.applyStreamTurn, Function.update_apply] at there
      split_ifs at there with same
      · obtain ⟨rfl, after⟩ := Task.mk.inj (Option.some.inj there)
        have coherent := linked.streams id call (World.stream_eq_some.mpr ⟨wire, task⟩)
        rcases Wire.after_eq after with new | rfl
        · exact streamTurns_write turns new
        · obtain ⟨response, ⟨success, written⟩, dumped⟩ := writes _ _ _ _ _ task
          have kept := streamTurns_kept coherent turns
          exact ⟨response, ⟨kept.1 success, kept.2 response written⟩, dumped⟩
      · exact old there
  | expire | limit | rollback => exact old there

/-! ## The texts that are hashed -/

/-- The call was started by an action of the run. -/
def World.Started (actions : List Action) (w : World) : Prop :=
  ∀ id task, w.tasks id = some task → task.frame.body ∈ actions.filterMap Action.body

theorem started_step (started : w.Started actions) (moved : w.step env action = some next) :
    next.Started (actions ++ [action]) := by
  intro other found there
  rw [List.filterMap_append, List.mem_append]
  cases steps_of_step moved with
  | start | startStream =>
      simp only [World.spawn, Function.update_apply] at there
      split_ifs at there
      · cases there
        exact .inr (by simp [Action.body, Frame.body, Frame.request, Frame.virtualKeyId,
          ChatCall.start, StreamCall.start])
      · exact .inl (started other found there)
  | @serve id frame command delivery task =>
      have member : frame.body ∈ actions.filterMap Action.body :=
        started id ⟨frame, .sent command⟩ task
      cases delivery <;> simp only [World.deliver, Function.update_apply] at there <;>
        split_ifs at there
      all_goals first | exact .inl (started other found there) | skip
      all_goals
        obtain rfl := Option.some.inj there
        exact .inl member
  | @chat id call wire input clock turn task fits turns =>
      have member : (Frame.chat call).body ∈ actions.filterMap Action.body :=
        started id ⟨.chat call, wire⟩ task
      have same := turns_arguments turns
      have bodies : (Frame.chat turn.call).body = (Frame.chat call).body :=
        Frame.body_eq same.request same.virtualKeyId
      simp only [World.applyTurn, Function.update_apply] at there
      split_ifs at there
      · obtain rfl := Option.some.inj there
        exact .inl (bodies ▸ member)
      · exact .inl (started other found there)
  | @stream id call wire input clock turn task fits turns =>
      have member : (Frame.stream call).body ∈ actions.filterMap Action.body :=
        started id ⟨.stream call, wire⟩ task
      have same := streamTurns_arguments turns
      have bodies : (Frame.stream turn.call).body = (Frame.stream call).body :=
        Frame.body_eq same.1 same.2
      simp only [World.applyStreamTurn, Function.update_apply] at there
      split_ifs at there
      · obtain rfl := Option.some.inj there
        exact .inl (bodies ▸ member)
      · exact .inl (started other found there)
  | expire | limit | rollback => exact .inl (started other found there)

end Step

/-! ## The invariant of a run -/

/-- What holds after the actions of a run. -/
structure World.Traced (env : Environment) (actions : List Action) (w : World) : Prop where
  linked : w.Linked env
  flows : w.Flows env (Good env actions w) (Entry env actions w)
  writes : w.Writes env
  started : w.Started actions

theorem traced_init (env : Environment) : (World.init Store.empty).Traced env [] where
  linked := linked_init env Store.empty
  flows := ⟨by simp [World.init, Store.empty], by simp [World.init]⟩
  writes := by simp [World.Writes, World.init]
  started := by simp [World.Started, World.init]

theorem traced_step (inverse : env.codec.Inverse) {w next : World} {action : Action}
    {actions : List Action} (traced : w.Traced env actions)
    (moved : w.step env action = some next) : next.Traced env (actions ++ [action]) where
  linked := linked_step traced.linked moved
  flows := flows_step (lawful_of_inverse inverse _ _) traced.linked
    (traced.flows.mono (fun _ _ good => good_step traced.linked moved good)
      fun _ _ entry => entry_step traced.linked moved entry) moved fun _ _ => good_of_produces
  writes := writes_step traced.linked traced.writes moved
  started := started_step traced.started moved

theorem traced_run (inverse : env.codec.Inverse) {actions : List Action} {w : World}
    (reached : run (World.step env) (.init Store.empty) actions = some w) : w.Traced env actions :=
  run_induction_of_step (P := fun actions w => w.Traced env actions) (traced_init env)
    (fun _ _ _ _ _ traced moved => traced_step inverse traced moved) reached

/-! ## Provenance -/

/-- What a call was handed, and what the calls do with Redis. -/
structure World.Provenance (env : Environment) (actions : List Action) (w : World) : Prop where
  /-- A response that `handle_chat_completion` returns, from wherever it has it. -/
  returned : ∀ id call response, w.call id = some call → call.point = .done (.returned response) →
    Produced actions w (Frame.Like (.chat call)) response
  /-- A response that `_stream_response` replays. -/
  replayed : ∀ id call response, w.stream id = some call → call.cached = some response →
    Produced actions w (Frame.Like (.stream call)) response
  /-- A text in the cache. -/
  entries : ∀ (digest : HexDigest) raw, w.store digest.text = some (.text raw) →
    ∃ response, raw = env.codec.modelDumpJson response ∧
      Produced actions w (fun frame => frame.cacheKey env = digest.text) response
  /-- A write to the cache on its way: the provider call of the writing call ended without
  an exception, with the response that is written. -/
  writes : ∀ id frame key raw expireSeconds,
    w.tasks id = some ⟨frame, .sent (.set key raw false expireSeconds)⟩ →
      key = frame.cacheKey env ∧
        ∃ response, frame.Succeeded response ∧ raw = env.codec.modelDumpJson response
  /-- A read on its way: it is not about a lock or a rate limit. -/
  reads : ∀ id frame key, w.tasks id = some ⟨frame, .sent (.get key)⟩ →
    key = frame.cacheKey env ∧ (∀ cacheKey, key ≠ lockKey cacheKey) ∧
      ∀ virtualKeyId, key ≠ rateLimitKey virtualKeyId

/-- Calls of one cache key are alike, where the digest does not collide. -/
theorem World.Started.like {w : World} {actions : List Action} (started : w.Started actions)
    (collisionFree : CollisionFree env actions) {id other : CallId} {task later : Task}
    (there : w.tasks id = some task) (also : w.tasks other = some later)
    (same : later.frame.cacheKey env = task.frame.cacheKey env) : task.frame.Like later.frame := by
  have key : ∀ frame : Frame, frame.cacheKey env =
      buildCacheKey env frame.request (some (.int frame.virtualKeyId)) := by
    intro frame
    cases frame <;> rfl
  rw [key, key] at same
  obtain ⟨spaces, dumps⟩ := same_of_buildCacheKey
    (collisionFree _ (started other later also) _ (started id task there)) same
  exact ⟨Namespace.int.inj (Option.some.inj spaces), dumps, ChatRequest.stream_of_same dumps⟩

theorem World.Traced.produced {w : World} {actions : List Action} (traced : w.Traced env actions)
    (collisionFree : CollisionFree env actions) {id : CallId} {task : Task}
    (there : w.tasks id = some task) {response : ChatResponse}
    (good : Good env actions w (task.frame.cacheKey env) response) :
    Produced actions w task.frame.Like response := by
  rcases good with ⟨running, chain, answered, made⟩ | ⟨running, success, written, ended, made⟩
  · obtain ⟨wire, also⟩ := World.call_eq_some.mp running
    exact .chat running chain answered (traced.started.like collisionFree there also made)
  · obtain ⟨wire, also⟩ := World.stream_eq_some.mp running
    exact .stream running success written ended
      (traced.started.like collisionFree there also made)

/-- **Provenance and isolation.** Redis is empty at first, the digest does not collide on
the requests of the run, and validation reads back what was dumped. Then every response
that a call is handed was produced, without an exception, for a request of the same
virtual key with the same dump; nothing else is ever written to the cache, and no lock and no rate
limit is read as a response. -/
theorem provenance (env : Environment) (inverse : env.codec.Inverse) (actions : List Action)
    (collisionFree : CollisionFree env actions) (w : World)
    (reached : run (World.step env) (.init Store.empty) actions = some w) :
    w.Provenance env actions := by
  have traced := traced_run inverse reached
  constructor
  · intro id call response running point
    obtain ⟨wire, there⟩ := World.call_eq_some.mp running
    have holds : call.Holds env _ := (traced.flows.tasks id _ there).holds
    exact traced.produced collisionFree there (holds.done response point)
  · intro id call response running cached
    obtain ⟨wire, there⟩ := World.stream_eq_some.mp running
    have holds : call.Holds env _ := (traced.flows.tasks id _ there).holds
    exact traced.produced collisionFree there (holds.cached response cached)
  · exact fun digest raw found => traced.flows.stored digest raw found
  · intro id frame key raw expireSeconds there
    refine ⟨?_, traced.writes id frame key raw expireSeconds there⟩
    have sends : Sends (Entry env actions w) (frame.cacheKey env)
        (.set key raw false expireSeconds) := (traced.flows.tasks id _ there).sent _ rfl
    cases sends
    rfl
  · intro id frame key there
    have sends : Sends (Entry env actions w) (frame.cacheKey env) (.get key) :=
      (traced.flows.tasks id _ there).sent _ rfl
    cases sends
    rw [← frame.digest_text]
    exact ⟨rfl, digest_ne_lockKey _, digest_ne_rateLimitKey _⟩

/-- A request is answered by a provider and stored; then the same request comes to another
process, which has the answer from the cache. -/
def hitting : List Action :=
  answering demoResponse ++ [arrive 1 1] ++
    exchange 1 (.bulk (jsonCodec.modelDumpJson demoResponse)) early

/-- The theorem about a run with a cache hit. -/
theorem provenance_hitting :
    ∃ w, run (World.step demoEnvironment) (.init Store.empty) hitting = some w ∧
      w.Provenance demoEnvironment hitting := by
  have runs : (run (World.step demoEnvironment) (.init Store.empty) hitting).isSome = true := by
    decide +kernel
  obtain ⟨w, reached⟩ := Option.isSome_iff_exists.mp runs
  exact ⟨w, reached, provenance demoEnvironment jsonCodec_inverse hitting (by decide +kernel) w
    reached⟩

end LlmGateway
