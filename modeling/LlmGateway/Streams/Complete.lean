import LlmGateway.Streams.Completion
import LlmGateway.Streams.Statements

/-!
# Which answers are stored

A call of `_stream_response` takes a stream for a success when its iterator ends without an
exception, and then stores what it has accumulated. Whether the upstream has said that the answer
is complete, or has reported an error inside the stream, is not looked at: a body that is cut off
without a transport error ends like any other, and the Anthropic adapter drops events that it does
not know and makes up the end. So incomplete answers stay out of the cache exactly when no upstream
with a chunk to store ends its body in such a way (`only_complete_iff`).
-/

set_option autoImplicit false

namespace LlmGateway

open LlmGateway.Library
open LlmGateway.Library.Redis (Command Reply)

/-! ## Complete answers -/

/-- The first choice of a chunk has a finish reason. -/
def signalsEnd : Json → Bool
  | .obj members =>
      match got members "choices" with
      | .arr (.obj choice :: _) =>
          match got choice "finish_reason" with
          | .null => false
          | _ => true
      | _ => false
  | _ => false

/-- A payload with an error. -/
def reportsError : Json → Bool
  | .obj members => (Json.lookup "error" members).isSome
  | _ => false

/-- An event of a type. -/
def isEventOf (name : String) : Json → Bool
  | .obj members => isType (got members "type") name
  | _ => false

/-- **The upstream has signalled the end of its answer** and has reported no error: by a finish
reason, or for Anthropic by a `message_delta` and a `message_stop`. -/
def Adapter.completes (adapter : Adapter) (lines : List UpstreamLine) : Bool :=
  match adapter with
  | .openai | .mistral =>
      let chunks := lines.filterMap fun line => lineValue line.text
      chunks.any signalsEnd && !chunks.any reportsError
  | .anthropic =>
      let events := lines.filterMap fun line => lineEvent line.text
      events.any (isEventOf "message_delta") && events.any (isEventOf "message_stop") &&
        !events.any (isEventOf "error")

/-- The provider that is relayed, and the upstream that it relays, which was opened last. -/
def StreamSession.Complete (upstreams : ℕ → Upstream) (s : StreamSession) : Prop :=
  ∃ provider, s.call.servingProvider = some provider ∧
    provider.adapter.completes (upstreams (s.opened - 1)).lines = true

/-- An entry is written only for a complete answer. -/
def StoresComplete (env : Environment) (upstreams : ℕ → Upstream) (s : StreamSession)
    (_action : StreamAction) (next : StreamSession) : Prop :=
  ∀ response, next.commands = s.commands ++ [storeCommand env (s.call.cacheKey env) response] →
    s.Complete upstreams

/-- The iterator ends without an exception after a chunk, the usage can be counted, and a response can
be rebuilt. -/
structure StreamSession.Ends (python : Interpreter) (s : StreamSession) (action : StreamAction) :
    Prop where
  reading : s.call.point = .read
  exhausted : ∃ clock relay, action = .advance clock ∧ s.relay = some relay ∧
    (relay.next python).1 = .exhausted
  counted : s.call.usage.Billable
  seen : s.call.accumulator.sawAnyChunk = true
  completable : s.call.accumulator.Completable

/-- **The condition on each step**: an upstream whose iterator ends so has completed its answer. -/
def EndsComplete (python : Interpreter) (upstreams : ℕ → Upstream) (s : StreamSession)
    (action : StreamAction) (_next : StreamSession) : Prop :=
  s.Ends python action → s.Complete upstreams

section Steps

variable {env : Environment} {upstreams : ℕ → Upstream} {registry : ProviderRegistry}
  {s next : StreamSession} {action : StreamAction}

/-- **When an entry is written**: at the end of the iterator, and nowhere else. -/
theorem writes_iff (live : s.Live env.python registry) (admissible : registry.Admissible)
    (moved : s.step env upstreams action = some next) :
    (∃ response, next.commands = s.commands ++ [storeCommand env (s.call.cacheKey env) response]) ↔
      s.Ends env.python action := by
  obtain ⟨input, clock, relay, turn, given, resumed, rfl⟩ := turn_of_streamStep moved
  have turns := streamTurns_of_resume resumed
  rw [take_commands]
  constructor
  · rintro ⟨response, written⟩
    have sent : turn.send = some (storeCommand env (s.call.cacheKey env) response) := by
      have commands := List.append_cancel_left written
      cases send : turn.send with
      | none =>
          rw [send] at commands
          cases commands
      | some command =>
          rw [send] at commands
          exact congrArg some (List.singleton_inj.mp commands)
    cases turns with
    | stored point serving emitted seen built =>
        obtain ⟨old, advance, there, came⟩ := advance_of_event given
        refine ⟨point, ⟨clock, old, advance, there, came⟩, billable_of_emits emitted, seen, ?_⟩
        rcases toResponse_cases s.call.accumulator (clock.created 0) with ⟨completable, -⟩ | ⟨-, failed⟩
        · exact completable
        · cases built.symm.trans failed
    | _ => cases sent
  · rintro ⟨point, ⟨later, old, rfl, there, came⟩, counted, seen, completable⟩
    have same : s.input env (.advance later) =
        some (.event .exhausted, later, some (old.next env.python).2) := by
      simp [StreamSession.input, there, came]
    cases given.symm.trans same
    cases turns with
    | @stored provider response => exact ⟨response, rfl⟩
    | ended _ _ _ unstored =>
        rcases unstored with unseen | ⟨exception, failed⟩
        · cases seen.symm.trans unseen
        · rcases toResponse_cases s.call.accumulator (clock.created 0) with
            ⟨-, response, built⟩ | ⟨incomplete, -⟩
          · cases built.symm.trans failed
          · exact absurd completable incomplete
    | refused _ _ failed =>
        have emitted := (live.serving (.inr point)).emits admissible ‹_› counted clock.latencyMs
        cases emitted.symm.trans failed
    | connect seeks | unavailable seeks =>
        cases seeks with
        | empty before => cases point.symm.trans before
        | missed missed => cases missed
    | relay gains | relayCrash gains => cases gains

end Steps

/-- **Incomplete answers are never stored**, in a run of `_stream_response`, exactly if each
upstream whose iterator ends without an exception, with an answer to store, has completed it. -/
theorem only_complete_iff (env : Environment) (upstreams : ℕ → Upstream) (request : ChatRequest)
    {registry : ProviderRegistry} (admissible : registry.Admissible) (virtualKeyId : ℤ)
    (requestId : Option String) (actions : List StreamAction) :
    Throughout (StreamSession.step env upstreams) (StoresComplete env upstreams)
        (.init env request registry virtualKeyId requestId) actions ↔
      Throughout (StreamSession.step env upstreams) (EndsComplete env.python upstreams)
        (.init env request registry virtualKeyId requestId) actions := by
  constructor
  · intro stores before action after state next split reached moved ends
    obtain ⟨response, written⟩ := (writes_iff (live_run reached) admissible moved).mpr ends
    exact stores before action after state next split reached moved response written
  · intro complete before action after state next split reached moved response written
    have ends := (writes_iff (live_run reached) admissible moved).mp ⟨response, written⟩
    exact complete before action after state next split reached moved ends

/-- A body that is cut off after a piece of the text. -/
def truncatedStream : Upstream where
  lines := [⟨"data: \x7b\"id\":\"c\",\"model\":\"m\"," ++
    "\"choices\":[\x7b\"delta\":\x7b\"content\":\"Hel\"\x7d\x7d]\x7d", 0⟩]
  ending := .exhausted

/-- The piece is stored as an answer. -/
theorem truncated_stored :
    ¬ Throughout (StreamSession.step demoEnvironment fun _ => truncatedStream)
      (StoresComplete demoEnvironment fun _ => truncatedStream) endingStart
      (endingRun ++ [.advance ⟨0, fun _ => 0⟩]) := by
  intro stores
  have before : (run (StreamSession.step demoEnvironment fun _ => truncatedStream) endingStart
      endingRun).map (fun s => (s.inHand, s.call.usage)) =
        some (⟨.read, truncatedStream.lines.map fun line => line.text ++ "\n\n", true, true,
          some .openai, some .exhausted⟩, {}) := by decide +kernel
  obtain ⟨s, reached, both⟩ := Option.map_eq_some_iff.mp before
  obtain ⟨hand, usage⟩ := Prod.mk.inj both
  obtain ⟨point, -, seen, built, serving, ended⟩ := InHand.mk.inj hand
  obtain ⟨provider, served, adapter⟩ := Option.map_eq_some_iff.mp serving
  obtain ⟨relay, there, exhausted⟩ := Option.map_eq_some_iff.mp ended
  obtain ⟨last, moved⟩ := @exists_advance demoEnvironment (fun _ => truncatedStream) s provider relay
    ⟨0, fun _ => 0⟩ point served there
  have completable : s.call.accumulator.Completable := by
    rcases toResponse_cases s.call.accumulator 0 with ⟨completable, -⟩ | ⟨-, failed⟩
    · exact completable
    · rw [failed] at built
      cases built
  have counted : s.call.usage.Billable := by
    rw [usage]
    decide +kernel
  have ends : s.Ends demoEnvironment.python (.advance ⟨0, fun _ => 0⟩) :=
    ⟨point, ⟨_, relay, rfl, there, exhausted⟩, counted, seen, completable⟩
  have admissible := buildRegistry_admissible { openaiApiKey := some "sk-demo" }
  obtain ⟨response, written⟩ := (writes_iff (live_run reached) admissible moved).mpr ends
  obtain ⟨other, same, completes⟩ :=
    stores endingRun _ [] s last rfl reached moved response written
  cases served.symm.trans same
  have incomplete : Adapter.openai.completes truncatedStream.lines = false := by decide +kernel
  simp only [adapter, incomplete, Bool.false_eq_true] at completes

/-- An answer that stops is stored, and it is complete. -/
theorem only_complete_iff_stop :
    (run (StreamSession.step demoEnvironment fun _ => endingStream "stop") endingStart
        (endingRun ++ [.advance ⟨0, fun _ => 0⟩])).map (fun s => s.call.point) = some .cacheSet ∧
      Throughout (StreamSession.step demoEnvironment fun _ => endingStream "stop")
        (StoresComplete demoEnvironment fun _ => endingStream "stop") endingStart
        (endingRun ++ [.advance ⟨0, fun _ => 0⟩]) := by
  refine ⟨by decide +kernel, (only_complete_iff demoEnvironment (fun _ => endingStream "stop")
    (demoRequest true) (buildRegistry_admissible { openaiApiKey := some "sk-demo" }) 1 none _).mpr ?_⟩
  have passed : passes (StreamSession.step demoEnvironment fun _ => endingStream "stop")
      (fun s _ => s.call.point != .read || s.call.servingProvider.any fun provider =>
        provider.adapter.completes (endingStream "stop").lines) endingStart
      (endingRun ++ [.advance ⟨0, fun _ => 0⟩]) = true := by decide +kernel
  refine throughout_of_passes (fun s _ _ test ends => ?_) passed
  rw [ends.1, bne_self_eq_false, Bool.false_or] at test
  exact (Option.any_eq_true _ _).mp test

end LlmGateway
