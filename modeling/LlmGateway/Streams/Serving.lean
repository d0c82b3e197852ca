import LlmGateway.Spending.Counts
import LlmGateway.Streams.Relaying
import LlmGateway.Streams.Session

/-!
# A call that is served

Before a call of `_stream_response` has ended, reports an error or replays an entry, it does one of
four things at a turn (`Course`): it waits for the cache, it turns to a candidate, it yields a
line, or it goes on to read. So everything it remembers follows from the lines that it has
yielded (`StreamSession.Live`): the accumulator was fed with them, their usage was captured, and
they came from a provider of the registry.
-/

set_option autoImplicit false

namespace LlmGateway

open LlmGateway.Library
open LlmGateway.Library.Redis (Command Reply)

/-! ## The course of a call -/

/-- The points before the end of the upstream. -/
def StreamPoint.Running : StreamPoint → Prop
  | .cacheGet | .discard | .connect _ | .relay | .read => True
  | .replay _ | .report | .cacheSet | .done _ => False

/-- **What a turn is for the stream.** -/
inductive Course (python : Interpreter) (call : StreamCall) (input : StreamInput) (turn : StreamTurn) : Prop
  | waits (point : call.point = .cacheGet) (same : turn.call = { call with point := .discard })
      (silent : turn.emit = none) (unscheduled : turn.schedule = [])
  | connects {attempted : List String} {lastError : Option ProviderError} {next : BaseProvider}
      {rest : List BaseProvider} (seeks : Seeks call attempted lastError (next :: rest) input)
      (same : turn.call = { call with
        point := .connect ⟨attempted ++ [next.config.name], lastError, next, rest⟩ })
      (silent : turn.emit = none) (unscheduled : turn.schedule = [])
  | relays {provider : BaseProvider} {line : String} {usage : Usage}
      {accumulator : ChunkAccumulator} (gains : Gains call provider line input)
      (captured : captureUsage python line call.usage = .ok usage)
      (fed : ChunkAccumulator.feed python line call.accumulator = .ok () accumulator)
      (same : turn.call = { call.serving provider with usage, accumulator, point := .relay })
      (yields : turn.emit = some line) (unscheduled : turn.schedule = [])
  | reads (point : call.point = .relay) (same : turn.call = { call with point := .read })
      (silent : turn.emit = none) (unscheduled : turn.schedule = [])
  | leaves (left : ¬ turn.call.point.Running)

theorem course_of_turns {env : Environment} {call : StreamCall} {clock : StreamClock}
    {input : StreamInput} {turn : StreamTurn} (turns : StreamTurns env call clock input turn) :
    Course env.python call input turn := by
  cases turns with
  | unreadable point => exact .waits point rfl rfl rfl
  | connect seeks => exact .connects seeks rfl rfl rfl
  | relay gains captured fed => exact .relays gains captured fed rfl rfl rfl
  | pulled point => exact .reads point rfl rfl rfl
  | _ => exact .leaves id

/-! ## What is remembered -/

/-- The candidates of the call are providers of the registry. -/
def Attempt.Within (registry : ProviderRegistry) (attempt : Attempt) : Prop :=
  attempt.current ∈ registry.all ∧ ∀ provider ∈ attempt.rest, provider ∈ registry.all

/-- Nothing was relayed yet. -/
structure StreamSession.Untouched (s : StreamSession) : Prop where
  output : s.output = []
  serving : s.call.servingProvider = none
  usage : s.call.usage = {}
  accumulator : s.call.accumulator = {}

/-- A provider of the registry is relayed. -/
structure StreamSession.Relayed (python : Interpreter) (registry : ProviderRegistry) (s : StreamSession) :
    Prop where
  serving : ∃ provider ∈ registry.all, s.call.servingProvider = some provider
  captured : captureAll python s.output = .ok s.call.usage
  fed : s.output.forM (ChunkAccumulator.feed python) {} = .ok () s.call.accumulator

/-- **What a running call remembers.** -/
structure StreamSession.Live (python : Interpreter) (registry : ProviderRegistry) (s : StreamSession) :
    Prop where
  same : s.call.registry = registry
  before : s.call.point = .cacheGet ∨ s.call.point = .discard → s.Untouched
  connecting : ∀ attempt, s.call.point = .connect attempt → s.Untouched ∧ attempt.Within registry
  serving : s.call.point = .relay ∨ s.call.point = .read → s.Relayed python registry

section Steps

variable {env : Environment} {upstreams : ℕ → Upstream} {registry : ProviderRegistry}
  {s next : StreamSession} {action : StreamAction}

theorem streamTurns_registry {call : StreamCall} {clock : StreamClock} {input : StreamInput}
    {turn : StreamTurn} (turns : StreamTurns env call clock input turn) :
    turn.call.registry = call.registry := by
  cases turns <;> rfl

/-- The candidates that come next. -/
theorem within_of_seeks {attempted : List String} {lastError : Option ProviderError}
    {candidates : List BaseProvider} {input : StreamInput} (live : s.Live env.python registry)
    (seeks : Seeks s.call attempted lastError candidates input) :
    s.Untouched ∧ ∀ provider ∈ candidates, provider ∈ registry.all := by
  cases seeks with
  | missed missed _ _ selected =>
      refine ⟨live.before ?_, fun provider member => ?_⟩
      · cases missed with
        | read point => exact .inl point
        | discarded point => exact .inr point
      · rw [← selected, live.same] at member
        exact (mem_selectProviders.mp member).1
  | empty point _ _ rest =>
      obtain ⟨untouched, within⟩ := live.connecting _ point
      exact ⟨untouched, rest ▸ within.2⟩
  | failed point _ _ rest =>
      obtain ⟨untouched, within⟩ := live.connecting _ point
      exact ⟨untouched, rest ▸ within.2⟩

theorem captureAll_append {python : Interpreter} {lines : List String} {line : String}
    {current usage : Usage} (before : captureAll python lines = .ok current)
    (captured : captureUsage python line current = .ok usage) :
    captureAll python (lines ++ [line]) = .ok usage := by
  unfold captureAll at before ⊢
  rw [List.foldlM_append, before]
  simp only [bind, Except.bind, List.foldlM_cons, captured]
  rfl

/-- What was relayed before a line. -/
theorem relayed_of_gains {provider : BaseProvider} {line : String} {input : StreamInput}
    (live : s.Live env.python registry) (gains : Gains s.call provider line input) :
    provider ∈ registry.all ∧ s.call.servingProvider.getD provider = provider ∧
      captureAll env.python s.output = .ok s.call.usage ∧
        s.output.forM (ChunkAccumulator.feed env.python) {} = .ok () s.call.accumulator := by
  cases gains with
  | first point current =>
      obtain ⟨⟨output, serving, usage, accumulator⟩, within⟩ := live.connecting _ point
      rw [output, serving, usage, accumulator]
      exact ⟨current ▸ within.1, rfl, rfl, rfl⟩
  | next point serving =>
      obtain ⟨⟨other, member, same⟩, captured, fed⟩ := live.serving (.inr point)
      obtain rfl := Option.some.inj (same.symm.trans serving)
      exact ⟨member, by rw [same]; rfl, captured, fed⟩

/-- **A step** keeps what a running call remembers. -/
theorem live_step (live : s.Live env.python registry) (moved : s.step env upstreams action = some next) :
    next.Live env.python registry := by
  obtain ⟨input, clock, relay, turn, -, resumed, rfl⟩ := turn_of_streamStep moved
  have turns := streamTurns_of_resume resumed
  have same : (s.take upstreams relay turn).call.registry = registry := by
    rw [take_call, streamTurns_registry turns, live.same]
  refine ⟨same, fun point => ?_, fun attempt point => ?_, fun point => ?_⟩ <;>
    rw [take_call] at point
  · cases course_of_turns turns with
    | waits before known silent =>
        obtain ⟨output, serving, usage, accumulator⟩ := live.before (.inl before)
        constructor <;> simp [known, silent, output, serving, usage, accumulator]
    | connects _ known => simp [known] at point
    | relays _ _ _ known => simp [known] at point
    | reads _ known => simp [known] at point
    | leaves left => rcases point with point | point <;> exact absurd (by rw [point]; trivial) left
  · cases course_of_turns turns with
    | waits _ known => simp [known] at point
    | connects seeks known silent =>
        obtain ⟨⟨output, serving, usage, accumulator⟩, within⟩ := within_of_seeks live seeks
        rw [known] at point
        cases point
        obtain ⟨current, rest⟩ := List.forall_mem_cons.mp within
        refine ⟨?_, current, rest⟩
        constructor <;> simp [known, silent, output, serving, usage, accumulator]
    | relays _ _ _ known => simp [known] at point
    | reads _ known => simp [known] at point
    | leaves left => exact absurd (by rw [point]; trivial) left
  · cases course_of_turns turns with
    | waits _ known => simp [known] at point
    | connects _ known => simp [known] at point
    | relays gains captured fed known yields =>
        obtain ⟨within, serving, before, started⟩ := relayed_of_gains live gains
        constructor
        · exact ⟨_, within, by rw [take_call, known]; simp [StreamCall.serving, serving]⟩
        · rw [take_output, take_call, known, yields]
          exact captureAll_append before captured
        · rw [take_output, take_call, known, yields]
          exact forM_snoc started fed
    | reads before known silent =>
        obtain ⟨serving, captured, fed⟩ := live.serving (.inl before)
        constructor <;> simpa [known, silent] using by assumption
    | leaves left => rcases point with point | point <;> exact absurd (by rw [point]; trivial) left

end Steps

theorem live_init (env : Environment) (request : ChatRequest) (registry : ProviderRegistry)
    (virtualKeyId : ℤ) (requestId : Option String) :
    (StreamSession.init env request registry virtualKeyId requestId).Live env.python registry where
  same := rfl
  before _ := ⟨rfl, rfl, rfl, rfl⟩
  connecting attempt point := by simp [StreamSession.init, StreamCall.start] at point
  serving point := by simp [StreamSession.init, StreamCall.start] at point

/-- **Every running call** remembers what it has relayed. -/
theorem live_run {env : Environment} {upstreams : ℕ → Upstream} {request : ChatRequest}
    {registry : ProviderRegistry} {virtualKeyId : ℤ} {requestId : Option String}
    {actions : List StreamAction} {s : StreamSession}
    (reached : run (StreamSession.step env upstreams)
      (.init env request registry virtualKeyId requestId) actions = some s) : s.Live env.python registry :=
  invariant_of_step (live_init env request registry virtualKeyId requestId)
    (fun _ _ _ live moved => live_step live moved) reached

/-- The record of a stream from an admissible provider is emitted, if its counts can be billed. -/
theorem StreamSession.Relayed.emits {python : Interpreter} {registry : ProviderRegistry}
    {s : StreamSession} (relayed : s.Relayed python registry) (admissible : registry.Admissible)
    {provider : BaseProvider} (serving : s.call.servingProvider = some provider)
    (counts : s.call.usage.Billable) (latencyMs : ℕ) :
    emitMetric (streamRecord s.call.virtualKeyId provider s.call.request.model s.call.usage latencyMs) =
      .ok () := by
  obtain ⟨⟨other, member, same⟩, -, -⟩ := relayed
  obtain rfl := Option.some.inj (same.symm.trans serving)
  have priced := (admissible other member).priced s.call.request.model
  exact emitMetric_ok counts.prompt counts.completion
    (Decimal.nonneg_add (tokenCost_nonneg priced.input counts.prompt.1)
      (tokenCost_nonneg priced.output counts.completion.1))

/-- It is not emitted without. -/
theorem billable_of_emits {provider : BaseProvider} {virtualKeyId : ℤ} {model : String} {usage : Usage}
    {latencyMs : ℕ}
    (emitted : emitMetric (streamRecord virtualKeyId provider model usage latencyMs) = .ok ()) :
    usage.Billable :=
  billable_of_emitMetric emitted

end LlmGateway
