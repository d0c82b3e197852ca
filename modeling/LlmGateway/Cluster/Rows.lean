import LlmGateway.Cluster.Accounting
import LlmGateway.Routers.Models
import LlmGateway.Storage.Columns
import LlmGateway.Streams.Serving

/-!
# Rows that fit

Every row of `usage_logs` is logged under one of two texts: a response that is served, from a
provider or from the cache, under the model that it names; a failure and a stream that is relayed
under the model of the request. Nothing bounds either of them, nor the counts that an upstream names.
The other values of a row are small, so in every run the rows fit exactly if those and the latencies
do (`rows_fit_iff`).
-/

set_option autoImplicit false

namespace LlmGateway

open LlmGateway.Library
open LlmGateway.Library.Redis (Command Reply Store)

variable {env : Environment}

/-! ## What is logged -/

/-- What is logged of an ended request. -/
def logged (request : ChatRequest) (latencyMs : ℕ) : Outcome → Option Logged
  | .returned response =>
      some ⟨response.model, response.usage.promptTokens, response.usage.completionTokens, latencyMs⟩
  | .raised (.noProviderAvailable _) | .raised (.providerError _) =>
      some { model := request.model, latencyMs }
  | .raised _ => none

/-- What is logged of a stream: a replay as the cached response, the end of the lines with the usage
that they gave, and a failure without one. -/
def StreamCall.logged (call : StreamCall) (input : StreamInput) (latencyMs : ℕ) : Logged :=
  match call.point, call.cached, input with
  | .replay _, some cached, _ =>
      ⟨cached.model, cached.usage.promptTokens, cached.usage.completionTokens, latencyMs⟩
  | .read, _, .event .exhausted =>
      ⟨call.request.model, call.usage.promptTokens, call.usage.completionTokens, latencyMs⟩
  | _, _, _ => { model := call.request.model, latencyMs }

/-- A step logs something. -/
inductive Logs (env : Environment) (w : World) : Action → Logged → Prop
  | chat {id : CallId} {input : Input} {clock : Clock} {call : ChatCall} {turn : Turn}
      {outcome : Outcome} {entry : Logged} (running : w.call id = some call)
      (resumed : call.resume env id (w.process env call) clock input = some turn)
      (ended : turn.call.point = .done outcome)
      (logs : logged call.request clock.latencyMs outcome = some entry) :
      Logs env w (.chat id input clock) entry
  | stream {id : CallId} {input : StreamInput} {clock : StreamClock} {call : StreamCall}
      {turn : StreamTurn} (running : w.stream id = some call)
      (resumed : call.resume env clock input = some turn) (written : turn.schedule ≠ []) :
      Logs env w (.stream id input clock) (call.logged input clock.latencyMs)

/-- What a step logs fits: the model, the counts and the latency. -/
def LogsFit (env : Environment) (w : World) (action : Action) (_ : World) : Prop :=
  ∀ entry, Logs env w action entry → entry.Fits

/-- The rows that are scheduled fit their columns. -/
def World.RowsFit (w : World) : Prop := ∀ entry ∈ w.scheduled, entry.2.row.Fits

/-- No database drops one of them. -/
def World.RowsStored (w : World) : Prop :=
  ∀ entry ∈ w.scheduled, ∀ db : Database,
    (db.write entry.2).usageLogs = db.usageLogs ++ [entry.2.row]

theorem World.rowsStored_iff (w : World) : w.RowsStored ↔ w.RowsFit :=
  forall₂_congr fun entry _ =>
    ⟨fun stored => (Database.write_stores_iff {} entry.2).mp (stored {}),
      fun fits db => (db.write_stores_iff entry.2).mpr fits⟩

/-- The registries of a run are of the factory, or as moderate, and the keys have ids of the table. -/
def Action.Recordable : Action → Prop
  | .start _ _ _ registry virtualKeyId | .startStream _ _ registry virtualKeyId _ =>
      registry.Recordable ∧ FitsInteger virtualKeyId
  | _ => True

/-! ## Chats -/

section Chat

variable {id : CallId} {process : Process} {call : ChatCall} {clock : Clock} {input : Input}
  {turn : Turn}

/-- How a call closes its books: with the record of a response, or with an exception and nothing
scheduled by itself. -/
inductive Closes (call : ChatCall) (latencyMs : ℕ) (schedule : List UsageTask) : Outcome → Prop
  | settled {providerName : String} {pricing : ModelPricing} {response : ChatResponse} {outcome : Outcome}
      (settles : Settles (buildUsageRecord call.virtualKeyId providerName pricing response.model
        response.usage latencyMs) response outcome schedule)
      (source : (providerName = cacheProviderName ∧ pricing = {}) ∨ ∃ provider ∈ call.point.providers,
        providerName = provider.config.name ∧ pricing = provider.config.pricingFor call.request.model) :
      Closes call latencyMs schedule outcome
  | raised {exception : PyException} (quiet : schedule = []) :
      Closes call latencyMs schedule (.raised exception)

/-- A turn schedules nothing, or it ends the call. -/
theorem turns_closes (turns : Turns env id process call clock input turn) :
    (turn.schedule = [] ∧ ∀ outcome, turn.call.point ≠ .done outcome) ∨
      ∃ outcome, turn.call.point = .done outcome ∧
        Closes call clock.latencyMs turn.schedule outcome := by
  cases turns with
  | hit point read settles | waited point read settles =>
      exact .inr ⟨_, rfl, .settled settles (.inl ⟨rfl, rfl⟩)⟩
  | followed awaits result settles => exact .inr ⟨_, rfl, .settled settles (.inl ⟨rfl, rfl⟩)⟩
  | settled point settles =>
      refine .inr ⟨_, rfl, .settled settles (.inr ⟨_, ?_, rfl, rfl⟩)⟩
      rw [point]
      exact List.mem_singleton_self _
  | followedRaise | unknown | returnedClash | raisedFree | releasedClash | releasedRaise |
    cancelledFollow | cancelledFree | cancelledElsewhere => exact .inr ⟨_, rfl, .raised rfl⟩
  | _ => exact .inl ⟨rfl, by simp⟩

/-- The rows of a failed request are logged under its model, each with a short type. -/
theorem failureRecords_rows (request : ChatRequest) (virtualKeyId : ℤ) (latencyMs : ℕ)
    (exception : PyException) :
    match logged request latencyMs (.raised exception) with
    | some entry => ∃ errorType, FitsString errorTypeWidth errorType ∧
        entry = { model := request.model, latencyMs } ∧
          failureRecords request virtualKeyId latencyMs (.raised exception) =
            [recordFailedRequest virtualKeyId request.model latencyMs errorType]
    | none => failureRecords request virtualKeyId latencyMs (.raised exception) = [] := by
  cases exception with
  | noProviderAvailable failure =>
      simp only [logged, failureRecords]
      split
      · exact ⟨"model_not_found", by decide, trivial, rfl⟩
      · exact ⟨"upstream_error", by decide, trivial, rfl⟩
  | providerError error => exact ⟨"upstream_error", by decide, rfl, rfl⟩
  | _ => rfl

/-- The rows of a call that has closed its books. -/
theorem closes_rows_fit {schedule : List UsageTask} {outcome : Outcome} {latencyMs : ℕ}
    (recordable : ∀ provider ∈ call.point.providers, provider.Recordable)
    (key : FitsInteger call.virtualKeyId) (closes : Closes call latencyMs schedule outcome) :
    (∀ task ∈ schedule ++ failureRecords call.request call.virtualKeyId latencyMs outcome,
        task.row.Fits) ↔
      ∀ entry, logged call.request latencyMs outcome = some entry → entry.Fits := by
  cases closes with
  | @raised exception quiet =>
      have rows := failureRecords_rows call.request call.virtualKeyId latencyMs exception
      rw [quiet, List.nil_append]
      cases logs : logged call.request latencyMs (.raised exception) with
      | none =>
          rw [logs] at rows
          rw [rows]
          simp
      | some entry =>
          rw [logs] at rows
          obtain ⟨errorType, brief, rfl, written⟩ := rows
          rw [written]
          simpa using fits_recordFailedRequest key brief
  | @settled providerName pricing response _ settles source =>
      cases settles with
      | recorded emitted =>
          have row : (UsageTask.persistUsage (buildUsageRecord call.virtualKeyId providerName pricing
              response.model response.usage latencyMs)).row.Fits ↔
                (Logged.mk response.model response.usage.promptTokens response.usage.completionTokens
                  latencyMs).Fits := by
            have counts := billable_of_emitMetric emitted
            rcases source with ⟨rfl, rfl⟩ | ⟨provider, member, rfl, rfl⟩
            · exact fits_persistUsage key (by decide) moderate_free counts
            · exact fits_persistUsage key (recordable provider member).named
                ((recordable provider member).priced _) counts
          have none : failureRecords call.request call.virtualKeyId latencyMs (.returned response) = [] :=
            rfl
          rw [none, List.append_nil]
          simpa [logged] using row
      | refused failed =>
          -- what a counter raises is no failure of a provider
          rcases counterError_emitMetric failed with rfl | rfl <;> simp [failureRecords, logged]

/-- A turn that leaves the call running writes no row by itself. -/
theorem tasks_of_running (quiet : turn.schedule = [])
    (running : ∀ outcome, turn.call.point ≠ .done outcome) (latencyMs : ℕ) :
    turn.tasks latencyMs = [] := by
  unfold Turn.tasks
  rw [quiet, List.nil_append]
  split
  · exact absurd ‹_› (running _)
  · rfl

/-- **The rows of one turn** fit exactly if what is logged does. -/
theorem turns_rows_fit (recordable : ∀ provider ∈ call.point.providers, provider.Recordable)
    (key : FitsInteger call.virtualKeyId) (turns : Turns env id process call clock input turn) :
    (∀ task ∈ turn.tasks clock.latencyMs, task.row.Fits) ↔
      ∀ outcome entry, turn.call.point = .done outcome →
        logged call.request clock.latencyMs outcome = some entry → entry.Fits := by
  rcases turns_closes turns with ⟨quiet, running⟩ | ⟨outcome, ended, closes⟩
  · rw [tasks_of_running quiet running]
    exact iff_of_true (by simp) fun outcome _ ended => absurd ended (running outcome)
  · have tasks : turn.tasks clock.latencyMs = turn.schedule ++
        failureRecords call.request call.virtualKeyId clock.latencyMs outcome := by
      rw [Turn.tasks, ended, (turns_arguments turns).request, (turns_arguments turns).virtualKeyId]
    rw [tasks, closes_rows_fit recordable key closes, ended]
    constructor
    · rintro all _ entry ⟨⟩
      exact all entry
    · exact fun all entry => all outcome entry rfl

end Chat

/-! ## Streams -/

/-- The providers that a generator still deals with. -/
def StreamCall.providers (call : StreamCall) : List BaseProvider :=
  call.servingProvider.toList ++
    match call.point with
    | .connect attempt => attempt.current :: attempt.rest
    | _ => []

/-- The types of the errors that a turn records fit their column. -/
def StreamTurn.Brief (turn : StreamTurn) : Prop :=
  ∀ task ∈ turn.schedule, ∀ text, task.row.errorType = some text → FitsString errorTypeWidth text

section Brief

variable (call : StreamCall) (clock : StreamClock)

theorem brief_of_nil {turn : StreamTurn} (quiet : turn.schedule = []) : turn.Brief := by
  intro task member
  rw [quiet] at member
  cases member

theorem brief_of_record {turn : StreamTurn} {record : UsageRecord}
    (written : turn.schedule = [.persistUsage record]) : turn.Brief := by
  intro task member text error
  rw [written, List.mem_singleton] at member
  subst member
  cases error

theorem brief_fail (message errorType : String) {recorded : String}
    (attempted : Option (List String)) (retryAfter : Option String)
    (brief : FitsString errorTypeWidth recorded) :
    (call.fail clock message errorType recorded attempted retryAfter).Brief := by
  intro task member text error
  obtain rfl := List.mem_singleton.mp member
  cases error
  exact brief

theorem brief_tryNext (attempted : List String) (lastError : Option ProviderError)
    (candidates : List BaseProvider) : (call.tryNext clock attempted lastError candidates).Brief := by
  cases candidates with
  | cons next rest => exact brief_of_nil rfl
  | nil =>
      simp only [StreamCall.tryNext, StreamCall.noProvider]
      split
      · exact brief_fail call clock _ _ _ _ (by decide)
      · exact brief_fail call clock _ _ _ _ (by decide)

theorem brief_providerFailed (error : ProviderError) : (call.providerFailed clock error).Brief := by
  unfold StreamCall.providerFailed
  split <;> exact brief_fail call clock _ _ _ _ (by decide)

theorem brief_relayLine (env : Environment) (provider : BaseProvider) (line : String) :
    (call.relayLine env provider line).Brief := by
  unfold StreamCall.relayLine
  dsimp only
  split
  · exact brief_of_nil rfl
  · split <;> exact brief_of_nil rfl

theorem brief_hit (cached : ChatResponse) : (call.hit clock cached).Brief := by
  unfold StreamCall.hit
  dsimp only
  split <;> exact brief_of_nil rfl

theorem brief_replayNext (rest : List String) : (call.replayNext clock rest).Brief := by
  cases rest with
  | cons line rest => exact brief_of_nil rfl
  | nil =>
      simp only [StreamCall.replayNext]
      split
      · exact brief_of_nil rfl
      · split
        · rename_i task scheduled
          rw [recordUsage_eq_ok scheduled]
          exact brief_of_record rfl
        · exact brief_of_nil rfl

theorem brief_succeed (env : Environment) : (call.succeed env clock).Brief := by
  have closing : ∀ (call : StreamCall) (schedule : List UsageTask),
      (call.closing env clock schedule).schedule = schedule := by
    intro call schedule
    unfold StreamCall.closing
    split
    · split <;> rfl
    · rfl
  unfold StreamCall.succeed
  dsimp only
  split
  · exact brief_of_nil (closing _ _)
  · split
    · exact brief_of_nil rfl
    · rename_i task scheduled
      rw [recordUsage_eq_ok scheduled]
      exact brief_of_record (closing _ _)

/-- **The types of errors** are short, whatever happens. -/
theorem brief_of_resume {call : StreamCall} {clock : StreamClock} {input : StreamInput}
    {turn : StreamTurn} (resumed : call.resume env clock input = some turn) : turn.Brief := by
  unfold StreamCall.resume at resumed
  split at resumed
  · split at resumed
    · split at resumed
      · split at resumed
        · cases resumed
          exact brief_hit call clock _
        · cases resumed
          exact brief_of_nil rfl
      · cases resumed
        exact brief_tryNext call clock _ _ _
    · cases resumed
      exact brief_tryNext call clock _ _ _
    · cases resumed
      exact brief_of_nil rfl
    · cases resumed
  · split at resumed
    · rename_i event _ _ attempt point
      cases resumed
      cases event with
      | line line => exact brief_relayLine call env _ line
      | exhausted | providerError => exact brief_tryNext call clock _ _ _
      | exception => exact brief_of_nil rfl
    · rename_i event _ _ provider point serving
      cases resumed
      cases event with
      | line line => exact brief_relayLine call env _ line
      | exhausted => exact brief_succeed call clock env
      | providerError error => exact brief_providerFailed call clock error
      | exception => exact brief_of_nil rfl
    · cases resumed
  · split at resumed
    · cases resumed
      exact brief_replayNext call clock _
    · cases resumed
      exact brief_of_nil rfl
    · cases resumed
      exact brief_of_nil rfl
    · cases resumed
  · split at resumed
    · cases resumed
    · cases resumed
      exact brief_of_nil rfl

end Brief

section Stream

variable {call : StreamCall} {clock : StreamClock} {input : StreamInput} {turn : StreamTurn}

/-- A turn schedules at most one row, which fits exactly if what is logged does. -/
theorem streamTurns_row (recordable : ∀ provider ∈ call.providers, provider.Recordable)
    (key : FitsInteger call.virtualKeyId) (brief : turn.Brief)
    (turns : StreamTurns env call clock input turn) :
    turn.schedule = [] ∨ ∃ task, turn.schedule = [task] ∧
      (task.row.Fits ↔ (call.logged input clock.latencyMs).Fits) := by
  -- the record of a stream that is served
  have served {provider : BaseProvider} (serving : call.servingProvider = some provider)
      (emitted : emitMetric (streamRecord call.virtualKeyId provider call.request.model call.usage
        clock.latencyMs) = .ok ()) :
      (UsageTask.persistUsage (streamRecord call.virtualKeyId provider call.request.model call.usage
        clock.latencyMs)).row.Fits ↔
          (Logged.mk call.request.model call.usage.promptTokens call.usage.completionTokens
            clock.latencyMs).Fits := by
    have good := recordable provider (by simp [StreamCall.providers, serving])
    exact fits_persistUsage key good.named (good.priced _) (billable_of_emitMetric emitted)
  cases turns with
  | unavailable seeks =>
      refine .inr ⟨_, rfl, ?_⟩
      have logs : call.logged input clock.latencyMs =
          { model := call.request.model, latencyMs := clock.latencyMs } := by
        rcases seeks.point with point | point | ⟨attempt, point⟩ <;> simp [StreamCall.logged, point]
      rw [logs]
      exact fits_recordFailedRequest key (brief _ (List.mem_singleton_self _) _ rfl)
  | interrupted point =>
      refine .inr ⟨_, rfl, ?_⟩
      simp only [StreamCall.logged, point]
      exact fits_recordFailedRequest key (brief _ (List.mem_singleton_self _) _ rfl)
  | replayed point hit emitted =>
      refine .inr ⟨_, rfl, ?_⟩
      simp only [StreamCall.logged, point, hit]
      exact fits_persistUsage key (by decide) moderate_free (emitMetric_cacheRecord.mp emitted)
  | stored point serving emitted | ended point serving emitted =>
      refine .inr ⟨_, rfl, ?_⟩
      simp only [StreamCall.logged, point]
      exact served serving emitted
  | _ => exact .inl rfl

/-- **The rows of one turn** of a generator fit exactly if what is logged does. -/
theorem resume_rows_fit (recordable : ∀ provider ∈ call.providers, provider.Recordable)
    (key : FitsInteger call.virtualKeyId) (resumed : call.resume env clock input = some turn) :
    (∀ task ∈ turn.schedule, task.row.Fits) ↔
      (turn.schedule ≠ [] → (call.logged input clock.latencyMs).Fits) := by
  rcases streamTurns_row recordable key (brief_of_resume resumed) (streamTurns_of_resume resumed) with
    quiet | ⟨task, written, fits⟩
  · simp [quiet]
  · rw [written, ← fits]
    simp

theorem Gains.provider {provider : BaseProvider} {line : String}
    (gains : Gains call provider line input) : provider ∈ call.providers := by
  rcases gains with ⟨point, rfl⟩ | ⟨-, serving⟩
  · simp [StreamCall.providers, point]
  · simp [StreamCall.providers, serving]

theorem Seeks.provider {attempted : List String} {lastError : Option ProviderError}
    {candidates : List BaseProvider} (seeks : Seeks call attempted lastError candidates input)
    {provider : BaseProvider} (member : provider ∈ candidates) :
    provider ∈ call.providers ∨ provider ∈ call.registry.all := by
  have later : ∀ attempt, call.point = .connect attempt → attempt.rest = candidates →
      provider ∈ call.providers := by
    rintro attempt point rfl
    simp [StreamCall.providers, point, member]
  cases seeks with
  | missed missed _ _ selected =>
      rw [← selected] at member
      exact .inr (mem_selectProviders.mp member).1
  | empty point _ _ rest => exact .inl (later _ point rest)
  | failed point _ _ rest => exact .inl (later _ point rest)

/-- A generator deals with providers that it dealt with before, or that it has selected. -/
theorem streamTurns_providers {provider : BaseProvider}
    (turns : StreamTurns env call clock input turn) (member : provider ∈ turn.call.providers) :
    provider ∈ call.providers ∨ provider ∈ call.registry.all := by
  have served : call.servingProvider = some provider →
      provider ∈ call.providers ∨ provider ∈ call.registry.all := by
    intro serving
    exact .inl (by simp [StreamCall.providers, serving])
  -- the provider that is relayed is the one that was, or the one that gave the line
  have relayed : ∀ {source : BaseProvider} {line : String}, Gains call source line input →
      call.servingProvider.getD source = provider →
        provider ∈ call.providers ∨ provider ∈ call.registry.all := by
    rintro source line gains rfl
    cases serving : call.servingProvider with
    | none => exact .inl gains.provider
    | some old => exact .inl (by simp [StreamCall.providers, serving])
  cases turns with
  | connect seeks =>
      rcases List.mem_append.mp member with old | new
      · exact served (by simpa using old)
      · exact seeks.provider new
  | relay gains | relayCrash gains =>
      simp only [StreamCall.providers, StreamCall.serving, StreamCall.finish, Option.toList_some,
        List.append_nil, List.mem_singleton] at member
      exact relayed gains member.symm
  | _ =>
      simp only [StreamCall.providers, StreamCall.finish, List.append_nil] at member
      exact served (by simpa using member)

end Stream

/-! ## Runs -/

/-- The providers of a call are recordable, and the id of its key fits. -/
def Frame.Recordable : Frame → Prop
  | .chat call => (call.registry.Recordable ∧ FitsInteger call.virtualKeyId) ∧
      ∀ provider ∈ call.point.providers, provider.Recordable
  | .stream call => (call.registry.Recordable ∧ FitsInteger call.virtualKeyId) ∧
      ∀ provider ∈ call.providers, provider.Recordable

/-- All calls are so. -/
def World.Recordable (w : World) : Prop := ∀ id task, w.tasks id = some task → task.frame.Recordable

section Runs

variable {w next : World} {action : Action}

theorem World.Recordable.update (recordable : w.Recordable) {frame : Frame} (id : CallId) (wire : Wire)
    (new : frame.Recordable) (other : CallId) (task : Task)
    (there : Function.update w.tasks id (some ⟨frame, wire⟩) other = some task) :
    task.frame.Recordable := by
  rw [Function.update_apply] at there
  split_ifs at there
  · obtain rfl := Option.some.inj there
    exact new
  · exact recordable other task there

theorem recordable_step (recordable : w.Recordable) (started : action.Recordable)
    (moved : w.step env action = some next) : next.Recordable := by
  cases steps_of_step moved with
  | start fresh => exact recordable.update _ _ ⟨started, by simp [ChatCall.start, Point.providers]⟩
  | startStream fresh =>
      exact recordable.update _ _ ⟨started, by simp [StreamCall.start, StreamCall.providers]⟩
  | serve task =>
      rename_i delivery
      cases delivery <;> exact recordable.update _ _ (recordable _ _ task)
  | chat task fits turns =>
      obtain ⟨⟨registry, key⟩, providers⟩ := recordable _ _ task
      have same := turns_arguments turns
      refine recordable.update _ _
        ⟨⟨same.registry ▸ registry, same.virtualKeyId ▸ key⟩, fun provider member => ?_⟩
      exact (turns_providers turns member).elim (providers provider) (registry provider)
  | stream task fits turns =>
      obtain ⟨⟨registry, key⟩, providers⟩ := recordable _ _ task
      have same := streamTurns_registry turns
      refine recordable.update _ _
        ⟨⟨same ▸ registry, (streamTurns_arguments turns).2 ▸ key⟩, fun provider member => ?_⟩
      exact (streamTurns_providers turns member).elim (providers provider) (registry provider)
  | expire | limit | rollback => exact recordable

/-- A step of a call of `handle_chat_completion`. -/
theorem step_chat {id : CallId} {input : Input} {clock : Clock}
    (moved : w.step env (.chat id input clock) = some next) :
    ∃ call wire turn, w.tasks id = some ⟨.chat call, wire⟩ ∧
      call.resume env id (w.process env call) clock input = some turn ∧
        next = w.applyTurn env id wire clock.latencyMs turn := by
  simp only [World.step] at moved
  split at moved
  · rename_i call wire task
    split at moved
    · obtain ⟨turn, resumed, rfl⟩ := Option.map_eq_some_iff.mp moved
      exact ⟨call, wire, turn, task, resumed, rfl⟩
    · cases moved
  · cases moved

/-- A step of a generator. -/
theorem step_stream {id : CallId} {input : StreamInput} {clock : StreamClock}
    (moved : w.step env (.stream id input clock) = some next) :
    ∃ call wire turn, w.tasks id = some ⟨.stream call, wire⟩ ∧
      call.resume env clock input = some turn ∧ next = w.applyStreamTurn id wire turn := by
  simp only [World.step] at moved
  split at moved
  · rename_i call wire task
    split at moved
    · obtain ⟨turn, resumed, rfl⟩ := Option.map_eq_some_iff.mp moved
      exact ⟨call, wire, turn, task, resumed, rfl⟩
    · cases moved
  · cases moved

/-- Rows that are added fit or do not, whoever has written them. -/
theorem rowsFit_append {id : CallId} {tasks : List UsageTask}
    (grown : next.scheduled = w.scheduled ++ tasks.map fun task => (id, task)) :
    next.RowsFit ↔ w.RowsFit ∧ ∀ task ∈ tasks, task.row.Fits := by
  simp [World.RowsFit, grown, or_imp, forall_and]

/-- A chat logs what its turn ends with. -/
theorem logsFit_chat {id : CallId} {input : Input} {clock : Clock} {call : ChatCall} {wire : Wire}
    {turn : Turn} (task : w.tasks id = some ⟨.chat call, wire⟩)
    (resumed : call.resume env id (w.process env call) clock input = some turn) :
    LogsFit env w (.chat id input clock) next ↔
      ∀ outcome entry, turn.call.point = .done outcome →
        logged call.request clock.latencyMs outcome = some entry → entry.Fits := by
  constructor
  · exact fun fits outcome entry ended logs =>
      fits entry (.chat (World.call_eq_some.mpr ⟨wire, task⟩) resumed ended logs)
  · rintro fits entry logs
    cases logs with
    | chat running same ended logs =>
        obtain ⟨_, found⟩ := World.call_eq_some.mp running
        cases task.symm.trans found
        cases resumed.symm.trans same
        exact fits _ entry ended logs

/-- A stream logs when it writes. -/
theorem logsFit_stream {id : CallId} {input : StreamInput} {clock : StreamClock}
    {call : StreamCall} {wire : Wire} {turn : StreamTurn}
    (task : w.tasks id = some ⟨.stream call, wire⟩)
    (resumed : call.resume env clock input = some turn) :
    LogsFit env w (.stream id input clock) next ↔
      (turn.schedule ≠ [] → (call.logged input clock.latencyMs).Fits) := by
  constructor
  · exact fun fits written =>
      fits _ (.stream (World.stream_eq_some.mpr ⟨wire, task⟩) resumed written)
  · rintro fits entry logs
    cases logs with
    | stream running same written =>
        obtain ⟨_, found⟩ := World.stream_eq_some.mp running
        cases task.symm.trans found
        cases resumed.symm.trans same
        exact fits written

/-- What one step adds to the rows. -/
theorem rowsFit_step (recordable : w.Recordable) (moved : w.step env action = some next) :
    next.RowsFit ↔ w.RowsFit ∧ LogsFit env w action next := by
  -- a step that schedules nothing logs nothing
  have quiet : next.scheduled = w.scheduled → (∀ entry, ¬ Logs env w action entry) →
      (next.RowsFit ↔ w.RowsFit ∧ LogsFit env w action next) := by
    intro same silent
    have fits : LogsFit env w action next := fun entry logs => absurd logs (silent entry)
    simp [World.RowsFit, same, fits]
  cases action with
  | chat id input clock =>
      obtain ⟨call, wire, turn, task, resumed, rfl⟩ := step_chat moved
      obtain ⟨⟨-, key⟩, providers⟩ := recordable _ _ task
      rw [logsFit_chat task resumed, ← turns_rows_fit providers key (turns_of_resume resumed)]
      exact rowsFit_append rfl
  | stream id input clock =>
      obtain ⟨call, wire, turn, task, resumed, rfl⟩ := step_stream moved
      obtain ⟨⟨-, key⟩, providers⟩ := recordable _ _ task
      rw [logsFit_stream task resumed, ← resume_rows_fit providers key resumed]
      exact rowsFit_append rfl
  | serve id delivery =>
      refine quiet ?_ (by rintro entry ⟨⟩)
      cases steps_of_step moved
      cases delivery <;> rfl
  | _ =>
      refine quiet ?_ (by rintro entry ⟨⟩)
      cases steps_of_step moved
      rfl

end Runs

/-- A request for a model with a name of 129 characters, which no provider serves. -/
def longModelRequest : ChatRequest :=
  { demoRequest false with model := String.ofList (List.replicate 129 'a') }

/-- The request misses the cache and ends with a 404, which writes a row. -/
def longModelRun : List Action :=
  [.start 0 0 longModelRequest demoRegistry 1] ++ exchange 0 .nil early

/-- What a step of `handle_chat_completion` logs fits. -/
def logsFitting (env : Environment) (w : World) : Action → Bool
  | .chat id input clock =>
      (w.call id).all fun call =>
        (call.resume env id (w.process env call) clock input).all fun turn =>
          match turn.call.point with
          | .done outcome => (logged call.request clock.latencyMs outcome).all fun entry => entry.Fits
          | _ => true
  | .stream _ _ _ => false
  | _ => true

theorem logsFit_of_logsFitting {env : Environment} {w next : World} {action : Action}
    (fitting : logsFitting env w action = true) : LogsFit env w action next := by
  rintro entry logs
  cases logs with
  | chat running resumed ended logs =>
      simpa [logsFitting, running, resumed, ended, logs] using fitting
  | stream => cases fitting

end LlmGateway
