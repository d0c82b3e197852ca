import LlmGateway.Library.Runs
import LlmGateway.Routers.Chat

/-!
# A streaming request and its upstreams

One call of `_stream_response` together with the iterators that it reads. The upstreams are
given once and for all, one for each iterator in the order in which they are opened; everything
an iterator does follows from its upstream. What is left open at each step is the reply of Redis,
the clock, and whether the consumer asks for another line or stops.
-/

set_option autoImplicit false

namespace LlmGateway

open LlmGateway.Library
open LlmGateway.Library.Redis (Command Reply)

/-- A call of `_stream_response` with the iterator that it reads. `opened` counts the iterators;
`output`, `scheduled` and `commands` are what it has yielded, what it has scheduled and what it has
sent to Redis. -/
structure StreamSession where
  call : StreamCall
  relay : Option Relay := none
  opened : ℕ := 0
  output : List String := []
  scheduled : List UsageTask := []
  commands : List Command := []

/-- Redis replies, the iterator is asked for its next line, or the consumer pulls or stops. -/
inductive StreamAction where
  | reply (reply : Reply) (clock : StreamClock)
  | advance (clock : StreamClock)
  | pull (clock : StreamClock)
  | stop (clock : StreamClock)

namespace StreamSession

/-- Before the first step: the read of the cache key has been sent. -/
def init (env : Environment) (request : ChatRequest) (registry : ProviderRegistry)
    (virtualKeyId : ℤ) (requestId : Option String) : StreamSession :=
  let call := StreamCall.start request registry virtualKeyId requestId
  { call, commands := [.get (call.cacheKey env)] }

variable (env : Environment) (upstreams : ℕ → Upstream) (s : StreamSession)

/-- What the generator goes on with, and the iterator afterwards. -/
def input : StreamAction → Option (StreamInput × StreamClock × Option Relay)
  | .reply reply clock => some (.reply reply, clock, s.relay)
  | .advance clock => s.relay.map fun relay =>
      (.event (relay.next env.python).1, clock, some (relay.next env.python).2)
  | .pull clock => some (.pull, clock, s.relay)
  | .stop clock => some (.stop, clock, s.relay)

/-- The session after a turn. A generator that turns to another candidate opens an iterator. -/
def take (relay : Option Relay) (turn : StreamTurn) : StreamSession :=
  let later : StreamSession :=
    { call := turn.call
      relay
      opened := s.opened
      output := s.output ++ turn.emit.toList
      scheduled := s.scheduled ++ turn.schedule
      commands := s.commands ++ turn.send.toList }
  match turn.call.point with
  | .connect attempt =>
      { later with
        relay :=
          some (.start attempt.current.adapter turn.call.request.model (upstreams s.opened))
        opened := s.opened + 1 }
  | _ => later

/-- **One step.** -/
def step (action : StreamAction) : Option StreamSession :=
  (s.input env action).bind fun (input, clock, relay) =>
    (s.call.resume env clock input).map (s.take upstreams relay)

end StreamSession

section Step

variable {env : Environment} {upstreams : ℕ → Upstream} {s next : StreamSession}
  {action : StreamAction}

/-- A step is a turn of the generator. -/
theorem turn_of_streamStep (moved : s.step env upstreams action = some next) :
    ∃ input clock relay turn, s.input env action = some (input, clock, relay) ∧
      s.call.resume env clock input = some turn ∧ next = s.take upstreams relay turn := by
  obtain ⟨⟨input, clock, relay⟩, given, moved⟩ := Option.bind_eq_some_iff.mp moved
  obtain ⟨turn, resumed, same⟩ := Option.map_eq_some_iff.mp moved
  exact ⟨input, clock, relay, turn, given, resumed, same.symm⟩

/-- An event of an iterator comes of a step of that iterator. -/
theorem advance_of_event {event : StreamEvent} {clock : StreamClock} {relay : Option Relay}
    (given : s.input env action = some (.event event, clock, relay)) :
    ∃ old, action = .advance clock ∧ s.relay = some old ∧ (old.next env.python).1 = event := by
  cases action with
  | advance =>
      obtain ⟨old, there, same⟩ := Option.map_eq_some_iff.mp given
      cases same
      exact ⟨old, rfl, there, rfl⟩
  | reply | pull | stop => cases given

variable (upstreams s) (relay : Option Relay) (turn : StreamTurn)

@[simp] theorem take_call : (s.take upstreams relay turn).call = turn.call := by
  unfold StreamSession.take
  dsimp only
  split <;> rfl

@[simp] theorem take_output : (s.take upstreams relay turn).output = s.output ++ turn.emit.toList := by
  unfold StreamSession.take
  dsimp only
  split <;> rfl

@[simp] theorem take_scheduled :
    (s.take upstreams relay turn).scheduled = s.scheduled ++ turn.schedule := by
  unfold StreamSession.take
  dsimp only
  split <;> rfl

@[simp] theorem take_commands :
    (s.take upstreams relay turn).commands = s.commands ++ turn.send.toList := by
  unfold StreamSession.take
  dsimp only
  split <;> rfl

/-- The iterator is the old one or a new one. -/
theorem take_relay {found : Relay} (there : (s.take upstreams relay turn).relay = some found) :
    relay = some found ∨ ∃ attempt, turn.call.point = .connect attempt ∧
      found = .start attempt.current.adapter turn.call.request.model (upstreams s.opened) := by
  unfold StreamSession.take at there
  dsimp only at there
  split at there
  · rename_i attempt point
    exact .inr ⟨attempt, point, (Option.some.inj there).symm⟩
  · exact .inl there

end Step

end LlmGateway
