import LlmGateway.Streams.Unbroken

/-!
# One record for each stream

A call of `_stream_response` schedules the record of its request at one place of each branch: after
the last line of the upstream, after the last line of a replay, or before an error event. A consumer
that stops earlier is not seen by any of them, and neither is an entry that cannot be replayed or
billed, a line that the interpreter cannot decode, or a usage that cannot be billed. In all other runs
there is exactly one record (`accounted_iff`).
-/

set_option autoImplicit false

namespace LlmGateway

open LlmGateway.Library
open LlmGateway.Library.Redis (Reply)

/-! ## Records -/

/-- **One record was scheduled**, the one that the course of the call asks for. -/
inductive StreamSession.Accounted (python : Interpreter) (s : StreamSession) : Prop
  | replayed (cached : ChatResponse) (latencyMs : ℕ) (hit : s.call.cached = some cached)
      (records : s.scheduled = [.persistUsage (cacheRecord s.call.virtualKeyId cached latencyMs)]) :
      StreamSession.Accounted python s
  | relayed (provider : BaseProvider) (latencyMs : ℕ) (missed : s.call.cached = none)
      (success : s.call.success = true) (serving : s.call.servingProvider = some provider)
      (captured : captureAll python s.output = .ok s.call.usage)
      (records : s.scheduled = [.persistUsage (streamRecord s.call.virtualKeyId provider
        s.call.request.model s.call.usage latencyMs)]) :
      StreamSession.Accounted python s
  | failed (latencyMs : ℕ) (errorType : String) (missed : s.call.cached = none)
      (unsuccessful : s.call.success = false)
      (records : s.scheduled =
        [recordFailedRequest s.call.virtualKeyId s.call.request.model latencyMs errorType]) :
      StreamSession.Accounted python s

/-- The providers stream chunks of the OpenAI format and raise nothing but `ProviderError`s. -/
def StreamsChunks (python : Interpreter) (s : StreamSession) (action : StreamAction)
    (_next : StreamSession) : Prop :=
  ∀ clock relay, action = .advance clock → s.relay = some relay →
    (∀ exception, (relay.next python).1 ≠ .exception exception) ∧
      ∀ text, (relay.next python).1 = .line text → ShapedLine python text

/-- The consumer stops only where the record has been scheduled; an entry that is found has a choice
and counts that can be billed; no line is nested too deeply for the interpreter; and at the end of the
lines the usage can be billed. -/
def StreamCall.Spares (env : Environment) (call : StreamCall) : StreamInput → Prop
  | .stop => call.point = .report ∨ call.point = .cacheSet
  | .reply (.bulk raw) => call.point = .cacheGet → ∀ cached, parseEntry env raw = some cached →
      cached.choices ≠ [] ∧ cached.usage.Billable
  | .event (.line line) => ∃ read, lineChunk env.python line = .ok read
  | .event .exhausted => call.point = .read → call.usage.Billable
  | _ => True

/-- **The condition on each step.** -/
def Careful (env : Environment) (s : StreamSession) (action : StreamAction) (_next : StreamSession) :
    Prop :=
  ∀ input clock relay, s.input env action = some (input, clock, relay) → s.call.Spares env input

/-! ## What has been scheduled -/

/-- The points after the record. -/
def StreamPoint.Closed : StreamPoint → Prop
  | .report | .cacheSet | .done _ => True
  | .cacheGet | .discard | .replay _ | .connect _ | .relay | .read => False

theorem StreamPoint.Running.not_closed {point : StreamPoint} (running : point.Running) :
    ¬ point.Closed := by
  intro closed
  cases point <;> first | exact running | exact closed

/-- A call that has not lost its record. -/
inductive StreamSession.Regular (python : Interpreter) (s : StreamSession) : Prop
  | running (running : s.call.point.Running) (unscheduled : s.scheduled = [])
      (missed : s.call.cached = none) (unsuccessful : s.call.success = false) :
      StreamSession.Regular python s
  | replaying {rest : List String} {cached : ChatResponse} (point : s.call.point = .replay rest)
      (hit : s.call.cached = some cached) (unscheduled : s.scheduled = [])
      (billable : cached.usage.Billable) : StreamSession.Regular python s
  | closed (closed : s.call.point.Closed) (accounted : s.Accounted python) :
      StreamSession.Regular python s

/-- A call that has lost its record. -/
inductive StreamSession.Lost (s : StreamSession) : Prop
  | replaying {rest : List String} {cached : ChatResponse} (point : s.call.point = .replay rest)
      (hit : s.call.cached = some cached) (unscheduled : s.scheduled = [])
      (unbillable : ¬ cached.usage.Billable) : StreamSession.Lost s
  | ended {ending : StreamEnding} (point : s.call.point = .done ending)
      (unscheduled : s.scheduled = []) : StreamSession.Lost s

section Steps

variable {env : Environment} {upstreams : ℕ → Upstream} {registry : ProviderRegistry}
  {s next : StreamSession} {action : StreamAction} {python : Interpreter}

/-- Nothing was recorded before the end of the upstream. -/
theorem StreamSession.Regular.unrecorded (regular : s.Regular python) (running : s.call.point.Running) :
    s.scheduled = [] ∧ s.call.cached = none ∧ s.call.success = false := by
  cases regular with
  | running _ unscheduled missed unsuccessful => exact ⟨unscheduled, missed, unsuccessful⟩
  | replaying point =>
      rw [point] at running
      exact running.elim
  | closed closed => exact absurd closed running.not_closed

theorem StreamSession.Regular.replayable {rest : List String} (regular : s.Regular python)
    (point : s.call.point = .replay rest) :
    ∃ cached, s.call.cached = some cached ∧ s.scheduled = [] ∧ cached.usage.Billable := by
  cases regular with
  | running running =>
      rw [point] at running
      exact running.elim
  | replaying _ hit unscheduled billable => exact ⟨_, hit, unscheduled, billable⟩
  | closed closed =>
      rw [point] at closed
      exact closed.elim

theorem StreamSession.Regular.accounted (regular : s.Regular python) (closed : s.call.point.Closed) :
    s.Accounted python := by
  cases regular with
  | running running => exact absurd closed running.not_closed
  | replaying point =>
      rw [point] at closed
      exact closed.elim
  | closed _ accounted => exact accounted

theorem StreamSession.Accounted.scheduled_ne_nil (accounted : s.Accounted python) :
    s.scheduled ≠ [] := by
  cases accounted with
  | replayed _ _ _ records | relayed _ _ _ _ _ _ records | failed _ _ _ _ records =>
      rw [records]
      exact List.cons_ne_nil _ _

/-- The record does not depend on where the call is suspended. -/
theorem StreamSession.Accounted.finish {relay : Option Relay} {ending : StreamEnding}
    (accounted : s.Accounted python) :
    (s.take upstreams relay { call := s.call.finish ending }).Accounted python := by
  cases accounted with
  | replayed cached latencyMs hit records =>
      exact .replayed cached latencyMs (by simpa [StreamCall.finish] using hit)
        (by simpa [StreamCall.finish] using records)
  | relayed provider latencyMs missed success serving captured records =>
      refine .relayed provider latencyMs ?_ ?_ ?_ ?_ ?_
      · simpa [StreamCall.finish] using missed
      · simpa [StreamCall.finish] using success
      · simpa [StreamCall.finish] using serving
      · simpa [StreamCall.finish] using captured
      · simpa [StreamCall.finish] using records
  | failed latencyMs errorType missed unsuccessful records =>
      refine .failed latencyMs errorType ?_ ?_ ?_
      · simpa [StreamCall.finish] using missed
      · simpa [StreamCall.finish] using unsuccessful
      · simpa [StreamCall.finish] using records

section Take

variable {relay : Option Relay} {turn : StreamTurn}

/-- A turn before the end of the upstream. -/
theorem regular_of_running (unscheduled : s.scheduled = []) (running : turn.call.point.Running)
    (silent : turn.schedule = []) (missed : turn.call.cached = none)
    (unsuccessful : turn.call.success = false) : (s.take upstreams relay turn).Regular python :=
  .running (by rwa [take_call]) (by rw [take_scheduled, unscheduled, silent]; rfl)
    (by rwa [take_call]) (by rwa [take_call])

/-- A turn at which the failed request is recorded. -/
theorem regular_of_failed {latencyMs : ℕ} {errorType : String} (unscheduled : s.scheduled = [])
    (closed : turn.call.point.Closed) (missed : turn.call.cached = none)
    (unsuccessful : turn.call.success = false)
    (recorded : turn.schedule =
      [recordFailedRequest turn.call.virtualKeyId turn.call.request.model latencyMs errorType]) :
    (s.take upstreams relay turn).Regular python := by
  refine .closed (by rwa [take_call]) (.failed latencyMs errorType ?_ ?_ ?_)
  · rwa [take_call]
  · rwa [take_call]
  · rw [take_scheduled, take_call, unscheduled, recorded]
    rfl

/-- A turn at which the served request is recorded. -/
theorem regular_of_served {provider : BaseProvider} {latencyMs : ℕ} (unscheduled : s.scheduled = [])
    (closed : turn.call.point.Closed) (missed : turn.call.cached = none)
    (success : turn.call.success = true) (serving : turn.call.servingProvider = some provider)
    (captured : captureAll python s.output = .ok turn.call.usage) (silent : turn.emit = none)
    (recorded : turn.schedule = [.persistUsage (streamRecord turn.call.virtualKeyId provider
      turn.call.request.model turn.call.usage latencyMs)]) :
    (s.take upstreams relay turn).Regular python := by
  refine .closed (by rwa [take_call]) (.relayed provider latencyMs ?_ ?_ ?_ ?_ ?_)
  · rwa [take_call]
  · rwa [take_call]
  · rwa [take_call]
  · rw [take_output, take_call, silent, Option.toList_none, List.append_nil]
    exact captured
  · rw [take_scheduled, take_call, unscheduled, recorded]
    rfl

/-- A turn that ends a call without a record. -/
theorem lost_of_done {ending : StreamEnding} (unscheduled : s.scheduled = [])
    (done : turn.call.point = .done ending) (silent : turn.schedule = []) :
    (s.take upstreams relay turn).Lost :=
  .ended (by rw [take_call]; exact done) (by rw [take_scheduled, unscheduled, silent]; rfl)

end Take

/-- The entry whose replay starts. -/
theorem choices_of_replay {cached : ChatResponse} {created : ℕ → ℤ} {lines : List String}
    (replay : synthesizeCachedStream cached created = .ok lines) : cached.choices ≠ [] := by
  intro empty
  unfold synthesizeCachedStream at replay
  rw [empty] at replay
  cases replay

/-- A point from which a candidate is looked for, or a line is read. -/
theorem running_of_seeks {call : StreamCall} {attempted : List String}
    {lastError : Option ProviderError} {candidates : List BaseProvider} {input : StreamInput}
    (seeks : Seeks call attempted lastError candidates input) :
    call.point.Running ∧ call.Spares env input := by
  cases seeks with
  | missed missed =>
      cases missed with
      | @read reply point absent =>
          rw [point]
          refine ⟨trivial, ?_⟩
          cases reply with
          | bulk raw => exact absurd rfl (absent raw)
          | _ => trivial
      | @discarded reply point =>
          rw [point]
          refine ⟨trivial, ?_⟩
          cases reply with
          | bulk raw =>
              intro reading
              cases point.symm.trans reading
          | _ => trivial
  | empty point =>
      rw [point]
      refine ⟨trivial, fun reading => ?_⟩
      cases point.symm.trans reading
  | failed point =>
      rw [point]
      exact ⟨trivial, trivial⟩

theorem running_of_gains {call : StreamCall} {provider : BaseProvider} {line : String}
    {input : StreamInput} (gains : Gains call provider line input) :
    call.point.Running ∧ input = .event (.line line) := by
  cases gains with
  | first point | next point =>
      rw [point]
      exact ⟨trivial, rfl⟩

/-- A lost record stays lost. -/
theorem lost_step (lost : s.Lost) (moved : s.step env upstreams action = some next) : next.Lost := by
  obtain ⟨input, clock, relay, turn, -, resumed, rfl⟩ := turn_of_streamStep moved
  have turns := streamTurns_of_resume resumed
  cases lost with
  | ended point =>
      have done : s.call.resume env clock input = none := by
        simp only [StreamCall.resume, point]
        cases input <;> rfl
      cases done.symm.trans resumed
  | replaying point hit unscheduled unbillable =>
      cases turns with
      | @replay line rest =>
          exact .replaying (by rw [take_call]) (by simpa using hit) (by simpa using unscheduled)
            unbillable
      | @replayed cached _ again emitted =>
          cases hit.symm.trans again
          exact absurd (emitMetric_cacheRecord.mp emitted) unbillable
      | replayRefused | replayLost => exact lost_of_done unscheduled rfl rfl
      | stopped => exact lost_of_done unscheduled rfl rfl
      | connect seeks | unavailable seeks =>
          have running := (@running_of_seeks env _ _ _ _ _ seeks).1
          rw [point] at running
          exact running.elim
      | relay gains | relayCrash gains =>
          have running := (running_of_gains gains).1
          rw [point] at running
          exact running.elim
      | crash before =>
          rcases before with ⟨attempt, before⟩ | before <;> cases point.symm.trans before
      | hit before | hitCrash before | unreadable before | interrupted before | stored before
      | ended before | refused before | pulled before | reported before | saved before =>
          cases point.symm.trans before

/-- **One step** of a call that has not lost its record loses it exactly if it is not careful. -/
theorem regular_step (live : s.Live env.python registry) (admissible : registry.Admissible)
    (regular : s.Regular env.python) (moved : s.step env upstreams action = some next)
    (streams : StreamsChunks env.python s action next) :
    (Careful env s action next ∧ next.Regular env.python) ∨
      (¬ Careful env s action next ∧ next.Lost) := by
  obtain ⟨input, clock, relay, turn, given, resumed, rfl⟩ := turn_of_streamStep moved
  have careful : Careful env s action (s.take upstreams relay turn) ↔ s.call.Spares env input := by
    refine ⟨fun whole => whole input clock relay given, fun spares other _ _ same => ?_⟩
    cases given.symm.trans same
    exact spares
  rw [careful]
  have turns := streamTurns_of_resume resumed
  cases turns with
  | @hit raw cached line rest point read replay =>
      obtain ⟨unscheduled, -, -⟩ := regular.unrecorded (by rw [point]; trivial)
      have spares : s.call.Spares env (.reply (.bulk raw)) ↔ cached.usage.Billable := by
        refine ⟨fun spares => (spares point cached read).2, fun billable _ other same => ?_⟩
        cases read.symm.trans same
        exact ⟨choices_of_replay replay, billable⟩
      have unscheduled' : (s.take upstreams relay
          { call := { s.call with cached := some cached, point := .replay rest },
            emit := some line }).scheduled = [] := by
        rw [take_scheduled, unscheduled]
        rfl
      rw [spares]
      by_cases billable : cached.usage.Billable
      · exact .inl ⟨billable, .replaying (by rw [take_call]) (by rw [take_call]) unscheduled' billable⟩
      · exact .inr ⟨billable, .replaying (by rw [take_call]) (by rw [take_call]) unscheduled' billable⟩
  | @hitCrash raw cached ending point read empty =>
      obtain ⟨unscheduled, -, -⟩ := regular.unrecorded (by rw [point]; trivial)
      exact .inr ⟨fun spares => (spares point cached read).1 empty, lost_of_done unscheduled rfl rfl⟩
  | unreadable point unread =>
      obtain ⟨unscheduled, missed, unsuccessful⟩ := regular.unrecorded (by rw [point]; trivial)
      refine .inl ⟨fun _ cached read => ?_,
        regular_of_running unscheduled trivial rfl missed unsuccessful⟩
      cases unread.symm.trans read
  | connect seeks =>
      obtain ⟨running, spares⟩ := running_of_seeks seeks
      obtain ⟨unscheduled, missed, unsuccessful⟩ := regular.unrecorded running
      exact .inl ⟨spares, regular_of_running unscheduled trivial rfl missed unsuccessful⟩
  | unavailable seeks =>
      obtain ⟨running, spares⟩ := running_of_seeks seeks
      obtain ⟨unscheduled, missed, unsuccessful⟩ := regular.unrecorded running
      exact .inl ⟨spares, regular_of_failed unscheduled trivial missed unsuccessful rfl⟩
  | replay point =>
      obtain ⟨cached, hit, unscheduled, billable⟩ := regular.replayable point
      exact .inl ⟨trivial, .replaying (by rw [take_call]) (by simpa using hit)
        (by simpa using unscheduled) billable⟩
  | @replayed cached point hit emitted =>
      obtain ⟨other, same, unscheduled, -⟩ := regular.replayable point
      refine .inl ⟨trivial, .closed (by rw [take_call]; trivial) (.replayed cached clock.latencyMs ?_ ?_)⟩
      · simpa [StreamCall.finish] using hit
      · simp [StreamCall.finish, unscheduled]
  | replayRefused point hit failed =>
      obtain ⟨other, same, -, billable⟩ := regular.replayable point
      cases hit.symm.trans same
      cases (emitMetric_cacheRecord.mpr billable).symm.trans failed
  | replayLost point lost =>
      obtain ⟨other, same, -⟩ := regular.replayable point
      cases lost.symm.trans same
  | relay gains captured fed =>
      obtain ⟨running, rfl⟩ := running_of_gains gains
      have spares : ∃ read, lineChunk env.python _ = .ok read :=
        (usable_of_fed fed).imp fun _ read => read.1
      obtain ⟨unscheduled, missed, unsuccessful⟩ := regular.unrecorded running
      exact .inl ⟨spares, regular_of_running unscheduled trivial rfl missed unsuccessful⟩
  | @relayCrash provider line _ usage accumulator exception gains malformed =>
      obtain ⟨running, rfl⟩ := running_of_gains gains
      obtain ⟨old, rfl, there, came⟩ := advance_of_event given
      obtain ⟨unscheduled, -, -⟩ := regular.unrecorded running
      refine .inr ⟨?_, lost_of_done unscheduled rfl rfl⟩
      -- a line of the format that is decoded can be used
      rintro ⟨read, decoded⟩
      have shaped := (streams clock old rfl there).2 line came
      have usable : UsableLine env.python line :=
        ⟨read, decoded, fun chunk same => (shaped chunk (same ▸ decoded)).usable⟩
      obtain ⟨_, captured, -⟩ := (captureUsage_returns_iff env.python line s.call.usage).mpr usable.counted
      obtain ⟨_, fed, -⟩ := (feed_returns_iff env.python line s.call.accumulator).mpr usable
      rcases malformed with failed | ⟨after, failed⟩
      · cases captured.symm.trans failed
      · cases fed.symm.trans failed
  | @crash exception point =>
      obtain ⟨old, rfl, there, came⟩ := advance_of_event given
      exact absurd came ((streams clock old rfl there).1 exception)
  | interrupted point =>
      obtain ⟨unscheduled, missed, unsuccessful⟩ := regular.unrecorded (by rw [point]; trivial)
      exact .inl ⟨trivial, regular_of_failed unscheduled trivial missed unsuccessful rfl⟩
  | stored point serving emitted seen built =>
      obtain ⟨unscheduled, missed, unsuccessful⟩ := regular.unrecorded (by rw [point]; trivial)
      exact .inl ⟨fun _ => billable_of_emits emitted, regular_of_served unscheduled trivial missed rfl
        serving (live.serving (.inr point)).captured rfl rfl⟩
  | ended point serving emitted unstored =>
      obtain ⟨unscheduled, missed, unsuccessful⟩ := regular.unrecorded (by rw [point]; trivial)
      exact .inl ⟨fun _ => billable_of_emits emitted, regular_of_served unscheduled trivial missed rfl
        serving (live.serving (.inr point)).captured rfl rfl⟩
  | refused point serving failed =>
      obtain ⟨unscheduled, -, -⟩ := regular.unrecorded (by rw [point]; trivial)
      refine .inr ⟨fun spares => ?_, lost_of_done unscheduled rfl rfl⟩
      have emitted := (live.serving (.inr point)).emits admissible serving (spares point) clock.latencyMs
      cases emitted.symm.trans failed
  | pulled point =>
      obtain ⟨unscheduled, missed, unsuccessful⟩ := regular.unrecorded (by rw [point]; trivial)
      exact .inl ⟨trivial, regular_of_running unscheduled trivial rfl missed unsuccessful⟩
  | reported point =>
      exact .inl ⟨trivial, .closed (by rw [take_call]; trivial)
        (regular.accounted (by rw [point]; trivial)).finish⟩
  | @saved reply point =>
      have spares : s.call.Spares env (.reply reply) := by
        cases reply with
        | bulk raw =>
            intro reading
            cases point.symm.trans reading
        | _ => trivial
      exact .inl ⟨spares, .closed (by rw [take_call]; trivial)
        (regular.accounted (by rw [point]; trivial)).finish⟩
  | stopped running =>
      by_cases spares : s.call.point = .report ∨ s.call.point = .cacheSet
      · have closed : s.call.point.Closed := by
          rcases spares with point | point <;> rw [point] <;> trivial
        exact .inl ⟨spares, .closed (by rw [take_call]; trivial) (regular.accounted closed).finish⟩
      · refine .inr ⟨spares, lost_of_done ?_ rfl rfl⟩
        cases regular with
        | running _ unscheduled => exact unscheduled
        | replaying _ _ unscheduled => exact unscheduled
        | closed closed =>
            cases point : s.call.point with
            | done ending => exact absurd point (running ending)
            | report => exact absurd (.inl point) spares
            | cacheSet => exact absurd (.inr point) spares
            | _ =>
                rw [point] at closed
                exact closed.elim

end Steps

/-! ## Runs -/

section Runs

variable {env : Environment} {upstreams : ℕ → Upstream} {request : ChatRequest}
  {registry : ProviderRegistry} {virtualKeyId : ℤ} {requestId : Option String}
  {actions : List StreamAction} {s : StreamSession}

/-- **A run** has lost its record exactly if one of its steps was not careful. -/
theorem regular_run (admissible : registry.Admissible)
    (streams : Throughout (StreamSession.step env upstreams) (StreamsChunks env.python)
      (.init env request registry virtualKeyId requestId) actions)
    (reached : run (StreamSession.step env upstreams)
      (.init env request registry virtualKeyId requestId) actions = some s) :
    (Throughout (StreamSession.step env upstreams) (Careful env)
        (.init env request registry virtualKeyId requestId) actions ∧ s.Regular env.python) ∨
      (¬ Throughout (StreamSession.step env upstreams) (Careful env)
        (.init env request registry virtualKeyId requestId) actions ∧ s.Lost) := by
  refine run_induction (C := StreamsChunks env.python) (P := fun actions s =>
    (Throughout (StreamSession.step env upstreams) (Careful env)
        (.init env request registry virtualKeyId requestId) actions ∧ s.Regular env.python) ∨
      (¬ Throughout (StreamSession.step env upstreams) (Careful env)
        (.init env request registry virtualKeyId requestId) actions ∧ s.Lost))
    ?_ (fun actions state action next before kept moved chunks => ?_) streams reached
  · refine .inl ⟨throughout_nil _ _, .running trivial rfl rfl rfl⟩
  · rcases kept with ⟨careful, regular⟩ | ⟨careless, lost⟩
    · rcases regular_step (live_run before) admissible regular moved chunks with
        ⟨here, later⟩ | ⟨here, later⟩
      · exact .inl ⟨careful.snoc before moved here, later⟩
      · exact .inr ⟨fun whole => here (whole.last before moved), later⟩
    · exact .inr ⟨fun whole => careless whole.initial, lost_step lost moved⟩

end Runs

/-- The cache has no entry, a line is relayed, and the consumer stops. -/
def stoppedRun : List StreamAction :=
  [.reply .nil ⟨0, fun _ => 0⟩, .advance ⟨0, fun _ => 0⟩, .stop ⟨0, fun _ => 0⟩]

theorem streamsChunks_stoppedRun :
    Throughout (StreamSession.step demoEnvironment fun _ => endingStream "tool_calls")
      (StreamsChunks .standard) endingStart stoppedRun := by
  have opened : (run (StreamSession.step demoEnvironment fun _ => endingStream "tool_calls") endingStart
      [.reply .nil ⟨0, fun _ => 0⟩]).map (fun s => s.relay.map fun relay => (relay.next .standard).1) =
        some (some (.line (endingLine "tool_calls"))) := by decide +kernel
  intro before action after s next split reached moved clock relay advance there
  subst advance
  have first : before = [.reply .nil ⟨0, fun _ => 0⟩] := by
    rcases before with _ | ⟨first, _ | ⟨second, _ | ⟨third, later⟩⟩⟩ <;> simp [stoppedRun] at split
    rw [split.1]
  subst first
  rw [reached] at opened
  simp only [Option.map_some, there, Option.some.injEq] at opened
  rw [opened]
  refine ⟨fun exception impossible => (nomatch impossible), fun text same => ?_⟩
  cases same
  exact shaped_endingLine .standard "tool_calls"

theorem stoppedRun_ends :
    ∃ s, run (StreamSession.step demoEnvironment fun _ => endingStream "tool_calls") endingStart stoppedRun =
        some s ∧
      s.output = [endingLine "tool_calls"] ∧ s.call.point = .done .stopped ∧ s.scheduled = [] := by
  have ended : (run (StreamSession.step demoEnvironment fun _ => endingStream "tool_calls") endingStart
      stoppedRun).map (fun s => (s.output, s.call.point, s.scheduled)) =
        some ([endingLine "tool_calls"], .done .stopped, []) := by decide +kernel
  obtain ⟨s, reached, seen⟩ := Option.map_eq_some_iff.mp ended
  exact ⟨s, reached, by simpa using seen⟩

end LlmGateway
