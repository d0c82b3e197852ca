import LlmGateway.Routers.Chat

/-!
# Two fallback engines

`execute_with_fallback` goes through the candidates of a chat, and the generator
`stream_chat_completion` of `services/streaming.py` through those of a stream. Here each of them is
run on its own, on providers whose behaviour is given: `ChatRuns` for the calls of a chat,
`StreamRuns` for the iterators of a stream. A run shows the providers that are contacted; that of a
stream also the lines that are yielded.

A call of `_stream_response` does what the generator says (`resume_engine`).
-/

set_option autoImplicit false

namespace LlmGateway

/-! ## Chats -/

/-- The exception of an engine that has no candidate left. -/
def noProviderLeft (request : ChatRequest) (attempted : List String)
    (lastError : Option ProviderError) : NoProviderAvailableError where
  message := noProviderMessage request.model (", ".intercalate attempted)
  attemptedProviders := attempted
  lastError := lastError

/-- `execute_with_fallback` on some candidates, up to the first call. -/
def executeWithFallback (request : ChatRequest) : List BaseProvider → Attempt ⊕ ChainEnding
  | first :: rest => .inl (.start first rest)
  | [] => .inr (.raised (.noProviderAvailable (noProviderLeft request [] none)))

/-- `execute_with_fallback` before the next candidate. -/
def chatState (request : ChatRequest) (attempted : List String) (lastError : Option ProviderError) :
    List BaseProvider → Attempt ⊕ ChainEnding
  | next :: rest => .inl ⟨attempted ++ [next.config.name], lastError, next, rest⟩
  | [] => .inr (.raised (.noProviderAvailable (noProviderLeft request attempted lastError)))

theorem executeWithFallback_eq (request : ChatRequest) (candidates : List BaseProvider) :
    executeWithFallback request candidates = chatState request [] none candidates := by
  cases candidates <;> rfl

theorem skip_eq (request : ChatRequest) (attempt : Attempt) (error : ProviderError) :
    attempt.skip request error =
      chatState request attempt.attempted (some error) attempt.rest := by
  obtain ⟨attempted, lastError, current, rest⟩ := attempt
  cases rest <;> rfl

/-- **A run of the engine** on what the calls of the providers come to: the providers that are
called, and how it ends. -/
inductive ChatRuns (request : ChatRequest) (outcome : BaseProvider → AttemptOutcome) :
    Attempt ⊕ ChainEnding → List BaseProvider → ChainEnding → Prop
  | ended (ending : ChainEnding) : ChatRuns request outcome (.inr ending) [] ending
  | called {attempt : Attempt} {contacted : List BaseProvider} {ending : ChainEnding}
      (later : ChatRuns request outcome (attempt.resume request (outcome attempt.current)) contacted
        ending) :
      ChatRuns request outcome (.inl attempt) (attempt.current :: contacted) ending

/-! ## Candidates that fail -/

/-- The calls of some providers fail with these errors; `fails` is what an error comes to. -/
def Failed {β : Type} (fails : ProviderError → β) (outcome : BaseProvider → β) :
    List BaseProvider → List ProviderError → Prop :=
  List.Forall₂ fun provider error => outcome provider = fails error

/-- Either all candidates fail, or one is the first that does not. -/
theorem failed_or_settles {β : Type} (fails : ProviderError → β) (outcome : BaseProvider → β)
    (candidates : List BaseProvider) :
    (∃ errors, Failed fails outcome candidates errors) ∨
      ∃ before provider after errors, candidates = before ++ provider :: after ∧
        Failed fails outcome before errors ∧ ∀ error, outcome provider ≠ fails error := by
  induction candidates with
  | nil => exact .inl ⟨[], .nil⟩
  | cons head rest ih =>
      by_cases failing : ∃ error, outcome head = fails error
      · obtain ⟨error, here⟩ := failing
        rcases ih with ⟨errors, failed⟩ | ⟨before, provider, after, errors, rfl, failed, settles⟩
        · exact .inl ⟨error :: errors, .cons here failed⟩
        · exact .inr ⟨head :: before, provider, after, error :: errors, rfl, .cons here failed, settles⟩
      · exact .inr ⟨[], head, rest, [], rfl, .nil, fun error same => failing ⟨error, same⟩⟩

/-- The last error after some failures that follow an earlier one. -/
theorem getLast?_cons_or (error : ProviderError) (errors : List ProviderError)
    (lastError : Option ProviderError) :
    (error :: errors).getLast?.or lastError = errors.getLast?.or (some error) := by
  cases errors with
  | nil => rfl
  | cons next later => simp [List.getLast?_cons]

/-- Candidates that fail are called one after the other. -/
theorem ChatRuns.failed {request : ChatRequest} {outcome : BaseProvider → AttemptOutcome}
    {before : List BaseProvider} {errors : List ProviderError}
    (failed : Failed .providerError outcome before errors) {attempted : List String}
    {lastError : Option ProviderError} {rest contacted : List BaseProvider} {ending : ChainEnding}
    (later : ChatRuns request outcome
      (chatState request (attempted ++ before.map (·.config.name)) (errors.getLast?.or lastError) rest)
      contacted ending) :
    ChatRuns request outcome (chatState request attempted lastError (before ++ rest))
      (before ++ contacted) ending := by
  induction failed generalizing attempted lastError with
  | nil => simpa using later
  | @cons head error before errors fails failed ih =>
      rw [getLast?_cons_or, List.map_cons, ← List.singleton_append, ← List.append_assoc] at later
      refine .called ?_
      simp only [fails, Attempt.resume, skip_eq]
      exact ih later

/-! ## Streams -/

/-- `stream_chat_completion` while it awaits the first line of a candidate, while it relays a
provider, and when it has returned or raised. -/
inductive StreamEngine where
  | connect (attempt : Attempt)
  | relay (provider : BaseProvider)
  | ended (exception : Option PyException)

namespace StreamEngine

/-- The next candidate, or `NoProviderAvailableError`. -/
def tryNext (request : ChatRequest) (attempted : List String) (lastError : Option ProviderError) :
    List BaseProvider → StreamEngine
  | next :: rest => .connect ⟨attempted ++ [next.config.name], lastError, next, rest⟩
  | [] => .ended (some (.noProviderAvailable (noProviderLeft request attempted lastError)))

/-- The generator on some candidates, up to the first iterator. -/
def start (request : ChatRequest) (candidates : List BaseProvider) : StreamEngine :=
  tryNext request [] none candidates

/-- The generator goes on with what the open iterator does; it may yield a line. -/
def resume (request : ChatRequest) :
    StreamEngine → StreamEvent → Option (StreamEngine × Option (BaseProvider × String))
  | .connect attempt, .line line => some (.relay attempt.current, some (attempt.current, line))
  | .connect attempt, .exhausted =>
      some (tryNext request attempt.attempted attempt.lastError attempt.rest, none)
  | .connect attempt, .providerError error =>
      some (tryNext request attempt.attempted (some error) attempt.rest, none)
  | .connect _, .exception exception => some (.ended (some exception), none)
  | .relay provider, .line line => some (.relay provider, some (provider, line))
  | .relay _, .exhausted => some (.ended none, none)
  | .relay _, .providerError error => some (.ended (some (.providerError error)), none)
  | .relay _, .exception exception => some (.ended (some exception), none)
  | .ended _, _ => none

end StreamEngine

/-- What can be seen of the generator: it opens the iterator of a provider, or yields a line. -/
inductive EngineAction where
  | contacts (provider : BaseProvider)
  | yields (emitted : BaseProvider × String)
deriving DecidableEq

/-- **A run of the generator** on the iterators of the providers. It keeps what the open iterator
has still to do. -/
inductive StreamRuns (request : ChatRequest) (iterator : BaseProvider → List StreamEvent) :
    StreamEngine → List StreamEvent → List EngineAction → Option PyException → Prop
  | ended (exception : Option PyException) (events : List StreamEvent) :
      StreamRuns request iterator (.ended exception) events [] exception
  | opened {attempt : Attempt} {old events : List StreamEvent} {event : StreamEvent}
      {next : StreamEngine} {emitted : Option (BaseProvider × String)}
      {trace : List EngineAction} {exception : Option PyException}
      (opens : iterator attempt.current = event :: events)
      (resumed : StreamEngine.resume request (.connect attempt) event = some (next, emitted))
      (later : StreamRuns request iterator next events trace exception) :
      StreamRuns request iterator (.connect attempt) old
        (.contacts attempt.current :: (emitted.toList.map .yields ++ trace)) exception
  | read {provider : BaseProvider} {events : List StreamEvent} {event : StreamEvent}
      {next : StreamEngine} {emitted : Option (BaseProvider × String)}
      {trace : List EngineAction} {exception : Option PyException}
      (resumed : StreamEngine.resume request (.relay provider) event = some (next, emitted))
      (later : StreamRuns request iterator next events trace exception) :
      StreamRuns request iterator (.relay provider) (event :: events)
        (emitted.toList.map .yields ++ trace) exception

/-! ## Runs are determined -/

section Unique

variable {request : ChatRequest}

theorem ChatRuns.unique {outcome : BaseProvider → AttemptOutcome} {engine : Attempt ⊕ ChainEnding}
    {contacted others : List BaseProvider} {ending result : ChainEnding}
    (run : ChatRuns request outcome engine contacted ending)
    (other : ChatRuns request outcome engine others result) :
    others = contacted ∧ result = ending := by
  induction run generalizing others with
  | ended ending =>
      cases other with
      | ended => exact ⟨rfl, rfl⟩
  | called later ih =>
      cases other with
      | called otherwise =>
          obtain ⟨rfl, rfl⟩ := ih otherwise
          exact ⟨rfl, rfl⟩

theorem StreamRuns.unique {iterator : BaseProvider → List StreamEvent} {engine : StreamEngine}
    {events : List StreamEvent} {trace actions : List EngineAction}
    {exception raised : Option PyException}
    (run : StreamRuns request iterator engine events trace exception)
    (other : StreamRuns request iterator engine events actions raised) :
    actions = trace ∧ raised = exception := by
  induction run generalizing actions with
  | ended exception events =>
      cases other with
      | ended => exact ⟨rfl, rfl⟩
  | opened opens resumed later ih =>
      cases other with
      | opened opens' resumed' later' =>
          cases opens.symm.trans opens'
          cases resumed.symm.trans resumed'
          obtain ⟨rfl, rfl⟩ := ih later'
          exact ⟨rfl, rfl⟩
  | read resumed later ih =>
      cases other with
      | read resumed' later' =>
          cases resumed.symm.trans resumed'
          obtain ⟨rfl, rfl⟩ := ih later'
          exact ⟨rfl, rfl⟩

end Unique

/-! ## The generator inside a call -/

/-- What `_stream_response` does with what the generator has come to. -/
def StreamCall.handle (env : Environment) (call : StreamCall) (clock : StreamClock) :
    StreamEngine × Option (BaseProvider × String) → StreamTurn
  | (_, some (provider, line)) => call.relayLine env provider line
  | (.connect attempt, none) => { call := { call with point := .connect attempt } }
  | (.ended none, none) => call.succeed env clock
  | (.ended (some (.noProviderAvailable failure)), none) =>
      call.noProvider clock failure.attemptedProviders failure.lastError
  | (.ended (some (.providerError error)), none) => call.providerFailed clock error
  | (.ended (some exception), none) => { call := call.finish (.raised exception) }
  | (.relay _, none) => { call }

section Inside

variable (env : Environment) (call : StreamCall) (clock : StreamClock)

theorem tryNext_engine (attempted : List String) (lastError : Option ProviderError)
    (candidates : List BaseProvider) :
    call.tryNext clock attempted lastError candidates =
      call.handle env clock (.tryNext call.request attempted lastError candidates, none) := by
  cases candidates with
  | cons next rest => rfl
  | nil => rfl

/-- **Before the first line** a call does what the generator says. -/
theorem connected_engine (attempt : Attempt) {event : StreamEvent}
    (known : ∀ exception, event ≠ .exception exception) :
    (StreamEngine.resume call.request (.connect attempt) event).map (call.handle env clock) =
      some (call.connected env clock attempt event) := by
  cases event with
  | line line => rfl
  | exhausted =>
      exact congrArg some (tryNext_engine env call clock attempt.attempted attempt.lastError
        attempt.rest).symm
  | providerError error =>
      exact congrArg some (tryNext_engine env call clock attempt.attempted (some error)
        attempt.rest).symm
  | exception exception => exact absurd rfl (known exception)

/-- **After the first line**, too. -/
theorem readNext_engine (provider : BaseProvider) {event : StreamEvent}
    (known : ∀ exception, event ≠ .exception exception) :
    (StreamEngine.resume call.request (.relay provider) event).map (call.handle env clock) =
      some (call.readNext env clock provider event) := by
  cases event with
  | line | exhausted | providerError => rfl
  | exception exception => exact absurd rfl (known exception)

/-- A miss starts the generator. -/
theorem miss_engine :
    call.miss clock = call.handle env clock
      (.start call.request (selectProviders call.registry call.request.model), none) :=
  tryNext_engine env call clock [] none (selectProviders call.registry call.request.model)

end Inside

/-- The generator inside a call that awaits its iterator. -/
def StreamCall.engine (call : StreamCall) : Option StreamEngine :=
  match call.point, call.servingProvider with
  | .connect attempt, _ => some (.connect attempt)
  | .read, some provider => some (.relay provider)
  | _, _ => none

/-- **A call does what the generator says**: a miss starts it, and whatever the open iterator does, up
to unknown exceptions, resumes it. -/
theorem resume_engine {env : Environment} {call : StreamCall} {clock : StreamClock} {input : StreamInput}
    {turn : StreamTurn} (resumed : call.resume env clock input = some turn) :
    (StreamMisses call input → turn = call.handle env clock
        (.start call.request (selectProviders call.registry call.request.model), none)) ∧
      ∀ event, input = .event event → (∀ exception, event ≠ .exception exception) →
        ∃ engine, call.engine = some engine ∧
          (StreamEngine.resume call.request engine event).map (call.handle env clock) = some turn := by
  constructor
  · intro misses
    cases misses with
    | @read reply point absent =>
        cases reply with
        | bulk raw => exact absurd rfl (absent raw)
        | _ =>
            simp only [StreamCall.resume, point, Option.some.injEq] at resumed
            rw [← resumed, miss_engine env call clock]
    | discarded point =>
        simp only [StreamCall.resume, point, Option.some.injEq] at resumed
        rw [← resumed, miss_engine env call clock]
  · rintro event rfl known
    simp only [StreamCall.resume] at resumed
    split at resumed
    · rename_i attempt point
      refine ⟨.connect attempt, by rw [StreamCall.engine, point], ?_⟩
      rw [connected_engine env call clock attempt known, resumed]
    · rename_i provider point serving
      refine ⟨.relay provider, by rw [StreamCall.engine, point, serving], ?_⟩
      rw [readNext_engine env call clock provider known, resumed]
    · cases resumed

end LlmGateway
