import LlmGateway.Outages.DirectChats
import LlmGateway.Outages.DirectStreams

/-!
# Streams while Redis is down

Whatever Redis replies, `_stream_response` replays an entry that it has read, or it goes on
as if Redis had nothing for it (`StreamServed`): the reply decides between the two, the deletion of
an unreadable entry and the write at the end change nothing that a client can see. A replay
needs a first choice, so `streamServed_iff` has the condition that the entry has one.

`outages_iff` puts both endpoints together.
-/

set_option autoImplicit false

namespace LlmGateway

open LlmGateway.Library
open LlmGateway.Library.Redis (Command Reply Store)

/-! ## What is promised -/

/-- The action with the reply of a Redis that has nothing. -/
def StreamAction.missing : StreamAction → StreamAction
  | .reply _ clock => .reply .nil clock
  | action => action

/-- A run as it would be if Redis had nothing: no entry is discarded, and every reply is empty. -/
def missingActions : List StreamAction → List StreamAction
  | .reply (.bulk _) _ :: rest => rest.map StreamAction.missing
  | actions => actions.map StreamAction.missing

/-- The session has yielded, scheduled and opened the same as another one. Discarding an entry
takes the place of a read. -/
structure StreamSession.Alike (s twin : StreamSession) : Prop where
  relay : s.relay = twin.relay
  opened : s.opened = twin.opened
  output : s.output = twin.output
  scheduled : s.scheduled = twin.scheduled
  call : s.call = twin.call ∨
    s.call = { twin.call with point := .discard } ∧ twin.call.point = .cacheGet

/-- The session replays a response: it has yielded a beginning of the lines of the replay, and
all of them when it ends by itself. -/
def StreamSession.Replays (s : StreamSession) (cached : ChatResponse) (created : ℕ → ℤ) : Prop :=
  ∃ lines, synthesizeCachedStream cached created = .ok lines ∧ s.output <+: lines ∧
    ∀ ending, s.call.point = .done ending → ending ≠ .stopped → s.output = lines

/-- **What a stream does**: it replays the entry that it has read, or it is where it would be if
Redis had nothing. -/
inductive StreamServed (env : Environment) (upstreams : ℕ → Upstream) (start : StreamSession) :
    List StreamAction → StreamSession → Prop
  | replayed {raw : String} {clock : StreamClock} {rest : List StreamAction}
      {cached : ChatResponse} {s : StreamSession} (parsed : parseEntry env raw = some cached)
      (replays : s.Replays cached clock.created) :
      StreamServed env upstreams start (.reply (.bulk raw) clock :: rest) s
  | missed {actions : List StreamAction} {s twin : StreamSession}
      (ran : run (StreamSession.step env upstreams) start (missingActions actions) = some twin)
      (alike : s.Alike twin) : StreamServed env upstreams start actions s

/-- An entry that is read has a first choice. -/
def ReadsChoices (env : Environment) (actions : List StreamAction) : Prop :=
  ∀ raw clock rest cached, actions = .reply (.bulk raw) clock :: rest →
    parseEntry env raw = some cached → cached.choices ≠ []

section Sessions

variable {env : Environment} {upstreams : ℕ → Upstream} {s twin : StreamSession}

/-- The sessions after the same turn. -/
theorem alike_take (opened : s.opened = twin.opened) (output : s.output = twin.output)
    (scheduled : s.scheduled = twin.scheduled) (relay : Option Relay) (turn : StreamTurn) :
    (s.take upstreams relay turn).Alike (twin.take upstreams relay turn) := by
  refine ⟨?_, ?_, by simp [output], by simp [scheduled], .inl (by simp)⟩
  · unfold StreamSession.take
    split <;> simp [opened]
  · unfold StreamSession.take
    split <;> simp [opened]

/-- No turn leads back to the read of the cache. -/
theorem resume_reads {call : StreamCall} {clock : StreamClock} {input : StreamInput}
    {turn : StreamTurn} (resumed : call.resume env clock input = some turn) :
    turn.call.point ≠ .cacheGet := by
  cases streamTurns_of_resume resumed <;> simp [StreamCall.finish]

/-- A call that misses after it has discarded an entry misses as it would have before. -/
theorem miss_discard (call : StreamCall) (clock : StreamClock) :
    ({ call with point := .discard } : StreamCall).miss clock = call.miss clock := by
  unfold StreamCall.miss
  cases selectProviders call.registry call.request.model <;> rfl

/-- A reply after the read of the cache is as good as an empty one. -/
theorem resume_missing {call : StreamCall} {clock : StreamClock} {reply : Reply}
    {turn : StreamTurn} (past : call.point ≠ .cacheGet)
    (resumed : call.resume env clock (.reply reply) = some turn) :
    call.resume env clock (.reply .nil) = some turn := by
  simp only [StreamCall.resume] at resumed ⊢
  split at resumed
  · rename_i point
    exact absurd point past
  · exact resumed
  · exact resumed
  · cases resumed

/-- **After the read of the cache the replies of Redis make no difference.** -/
theorem alike_step {next : StreamSession} {action : StreamAction} (alike : s.Alike twin)
    (past : s.call.point ≠ .cacheGet) (moved : s.step env upstreams action = some next) :
    ∃ later, twin.step env upstreams action.missing = some later ∧ next.Alike later ∧
      next.call.point ≠ .cacheGet := by
  obtain ⟨input, clock, relay, turn, given, resumed, rfl⟩ := turn_of_streamStep moved
  -- the twin takes the same turn
  have takes : ∀ {seen : StreamInput}, twin.input env action.missing = some (seen, clock, relay) →
      twin.call.resume env clock seen = some turn →
        ∃ later, twin.step env upstreams action.missing = some later ∧
          (s.take upstreams relay turn).Alike later ∧
            (s.take upstreams relay turn).call.point ≠ .cacheGet := by
    intro seen sees goes
    refine ⟨twin.take upstreams relay turn, ?_, alike_take alike.opened alike.output
      alike.scheduled relay turn, by simpa using resume_reads resumed⟩
    simp only [StreamSession.step, sees, Option.bind_some, goes, Option.map_some]
  have given' : twin.input env action = some (input, clock, relay) := by
    cases action <;> simpa only [StreamSession.input, alike.relay] using given
  rcases alike.call with same | ⟨same, reads⟩
  · rw [same] at resumed past
    cases action with
    | reply reply own =>
        cases given'
        exact takes rfl (resume_missing past resumed)
    | advance | pull | stop => exact takes given' resumed
  · rw [same] at resumed
    cases action with
    | reply reply own =>
        cases given'
        refine takes rfl ?_
        simp only [StreamCall.resume, reads]
        exact (congrArg some (miss_discard _ _)).symm.trans resumed
    | advance own =>
        obtain ⟨found, -, gained⟩ := Option.map_eq_some_iff.mp given
        cases gained
        cases resumed
    | pull =>
        cases given
        cases resumed
    | stop =>
        cases given'
        refine takes rfl ?_
        simp only [StreamCall.resume, reads]
        exact resumed

/-- The lines that a replay has yielded, and those that are still to come. -/
inductive StreamSession.Replaying (lines : List String) (s : StreamSession) : Prop
  | running {rest : List String} (point : s.call.point = .replay rest)
      (split : s.output ++ rest = lines) : s.Replaying lines
  | ended {ending : StreamEnding} (point : s.call.point = .done ending)
      (begun : s.output <+: lines) (whole : ending ≠ .stopped → s.output = lines) :
      s.Replaying lines

/-- A generator that has ended takes no turn. -/
theorem streamTurns_running {call : StreamCall} {clock : StreamClock} {input : StreamInput}
    {turn : StreamTurn} (resumed : call.resume env clock input = some turn) (ending : StreamEnding) :
    call.point ≠ .done ending := by
  intro ended
  cases input <;> simp [StreamCall.resume, ended] at resumed

/-- After its last line a replay ends by itself. -/
theorem replayNext_nil (call : StreamCall) (clock : StreamClock) :
    (call.replayNext clock []).emit = none ∧
      ∃ ending, (call.replayNext clock []).call.point = .done ending := by
  simp only [StreamCall.replayNext]
  split
  · exact ⟨rfl, _, rfl⟩
  · split <;> exact ⟨rfl, _, rfl⟩

/-- **A replay** yields its lines one after the other. -/
theorem replaying_step {next : StreamSession} {action : StreamAction} {lines : List String}
    (replaying : s.Replaying lines) (moved : s.step env upstreams action = some next) :
    next.Replaying lines := by
  obtain ⟨input, clock, relay, turn, given, resumed, rfl⟩ := turn_of_streamStep moved
  cases replaying with
  | @running rest point split =>
      cases input with
      | reply reply => simp [StreamCall.resume, point] at resumed
      | event event => simp [StreamCall.resume, point] at resumed
      | pull =>
          simp only [StreamCall.resume, point] at resumed
          cases resumed
          cases rest with
          | cons line rest =>
              refine .running (by rw [take_call]; rfl) ?_
              rw [take_output]
              simpa [StreamCall.replayNext] using split
          | nil =>
              obtain ⟨silent, ending, closed⟩ := replayNext_nil s.call clock
              have same : (s.take upstreams relay (s.call.replayNext clock [])).output = lines := by
                rw [take_output, silent]
                exact split
              exact .ended (by rw [take_call, closed]) (same ▸ List.prefix_refl _) fun _ => same
      | stop =>
          simp only [StreamCall.resume, point] at resumed
          cases resumed
          refine .ended (by rw [take_call]; rfl) ?_ (absurd rfl)
          rw [take_output]
          exact ⟨_, by simpa using split⟩
  | ended point => exact absurd point (streamTurns_running resumed _)

/-- What a replay has yielded. -/
theorem StreamSession.Replaying.replays {lines : List String} {cached : ChatResponse}
    {created : ℕ → ℤ} (replaying : s.Replaying lines)
    (replay : synthesizeCachedStream cached created = .ok lines) : s.Replays cached created := by
  refine ⟨lines, replay, ?_⟩
  cases replaying with
  | running point split =>
      refine ⟨⟨_, split⟩, fun ending closed => ?_⟩
      rw [point] at closed
      cases closed
  | ended point begun whole =>
      refine ⟨begun, fun ending closed unstopped => whole ?_⟩
      rw [point] at closed
      cases closed
      exact unstopped

/-! ## Runs -/

variable {request : ChatRequest} {registry : ProviderRegistry} {virtualKeyId : ℤ}
  {requestId : Option String}

/-- A session after the read of its cache key. -/
theorem step_read {reply : Reply} {clock : StreamClock} {turn : StreamTurn}
    (resumed : (StreamCall.start request registry virtualKeyId requestId).resume env clock
      (.reply reply) = some turn) :
    (StreamSession.init env request registry virtualKeyId requestId).step env upstreams
        (.reply reply clock) =
      some ((StreamSession.init env request registry virtualKeyId requestId).take upstreams none
        turn) := by
  change (((StreamCall.start request registry virtualKeyId requestId).resume env clock
    (.reply reply)).map _) = _
  rw [resumed]
  rfl

/-- A session that is alike another one after the read goes on alike. -/
theorem alike_run {later : StreamSession} {actions : List StreamAction} (alike : s.Alike twin)
    (past : s.call.point ≠ .cacheGet)
    (reached : run (StreamSession.step env upstreams) s actions = some later) :
    ∃ other, run (StreamSession.step env upstreams) twin (actions.map StreamAction.missing) =
      some other ∧ later.Alike other := by
  have simulates : Simulates (StreamSession.step env upstreams) (StreamSession.step env upstreams)
      (fun action => some action.missing) (fun _ _ _ => True)
      fun s twin => s.Alike twin ∧ s.call.point ≠ .cacheGet := by
    refine ⟨fun s action next twin seen related moved _ same => ?_, by simp⟩
    obtain ⟨later, stepped, alike, past⟩ := alike_step related.1 related.2 moved
    exact ⟨later, Option.some.inj same ▸ stepped, alike, past⟩
  obtain ⟨other, ran, related, -⟩ :=
    simulates.run ⟨alike, past⟩ (throughout_of_forall (fun _ _ _ => trivial) _ _) reached
  exact ⟨other, by simpa using ran, related⟩

/-- A session that is about to discard an entry is alike one that is about to read it. -/
theorem alike_discarded (env : Environment) (upstreams : ℕ → Upstream) (request : ChatRequest)
    (registry : ProviderRegistry) (virtualKeyId : ℤ) (requestId : Option String) (key : String) :
    ((StreamSession.init env request registry virtualKeyId requestId).take upstreams none
      { call := { StreamCall.start request registry virtualKeyId requestId with
          point := .discard }
        send := some (.delete key) }).Alike
      (.init env request registry virtualKeyId requestId) :=
  ⟨rfl, rfl, rfl, rfl, .inr ⟨rfl, rfl⟩⟩

theorem StreamSession.Alike.refl (s : StreamSession) : s.Alike s :=
  ⟨rfl, rfl, rfl, rfl, .inl rfl⟩

/-- The first turn of a replay. -/
theorem replaying_hit {cached : ChatResponse} {clock : StreamClock} {lines : List String}
    (replay : synthesizeCachedStream cached clock.created = .ok lines) :
    ((StreamSession.init env request registry virtualKeyId requestId).take upstreams none
      ((StreamCall.start request registry virtualKeyId requestId).hit clock cached)).Replaying
        lines := by
  cases lines with
  | nil =>
      unfold synthesizeCachedStream at replay
      split at replay <;> cases replay
  | cons line rest =>
      have hit : (StreamCall.start request registry virtualKeyId requestId).hit clock cached =
          { call := { StreamCall.start request registry virtualKeyId requestId with
              cached := some cached, point := .replay rest }
            emit := some line } := by
        simp only [StreamCall.hit, replay]
      rw [hit]
      exact .running (by rw [take_call]) (by rw [take_output]; rfl)

/-- A replay from the read of its entry. -/
theorem replays_of_hit {raw : String} {clock : StreamClock} {rest : List StreamAction}
    {cached : ChatResponse} (parsed : parseEntry env raw = some cached)
    (choices : cached.choices ≠ [])
    (reached : run (StreamSession.step env upstreams)
      (.init env request registry virtualKeyId requestId) (.reply (.bulk raw) clock :: rest) =
        some s) : s.Replays cached clock.created := by
  obtain ⟨choice, more, chosen⟩ := List.exists_cons_of_ne_nil choices
  have replay : ∃ lines, synthesizeCachedStream cached clock.created = .ok lines := by
    unfold synthesizeCachedStream
    rw [chosen]
    exact ⟨_, rfl⟩
  obtain ⟨lines, replay⟩ := replay
  have first : (StreamCall.start request registry virtualKeyId requestId).resume env clock
      (.reply (.bulk raw)) = some ((StreamCall.start request registry virtualKeyId requestId).hit
        clock cached) := by
    simp only [StreamCall.resume, StreamCall.start, parsed]
  rw [run, step_read first, Option.bind_some] at reached
  have replaying : s.Replaying lines :=
    invariant_of_step (replaying_hit replay)
      (fun _ _ _ replaying moved => replaying_step replaying moved) reached
  exact replaying.replays replay

/-- A stream that misses goes on as if Redis had nothing. -/
theorem served_of_miss {actions : List StreamAction}
    (unread : ∀ raw clock rest, actions = .reply (.bulk raw) clock :: rest →
      parseEntry env raw = none)
    (reached : run (StreamSession.step env upstreams)
      (.init env request registry virtualKeyId requestId) actions = some s) :
    StreamServed env upstreams (.init env request registry virtualKeyId requestId) actions s := by
  cases actions with
  | nil =>
      cases reached
      exact .missed rfl (.refl _)
  | cons action rest =>
      obtain ⟨first, moved, later⟩ := Option.bind_eq_some_iff.mp reached
      obtain ⟨input, clock, relay, turn, given, resumed, rfl⟩ := turn_of_streamStep moved
      -- an action that Redis answers as if it had nothing, or does not answer
      have plain : (∀ raw clock, action ≠ .reply (.bulk raw) clock) →
          (StreamSession.init env request registry virtualKeyId requestId).step env upstreams
              action.missing =
            some ((StreamSession.init env request registry virtualKeyId requestId).take upstreams
              relay turn) →
            StreamServed env upstreams (.init env request registry virtualKeyId requestId)
              (action :: rest) s := by
        intro unread stepped
        obtain ⟨other, ran, alike⟩ :=
          alike_run (.refl _) (by simpa using resume_reads resumed) later
        have same : missingActions (action :: rest) =
            action.missing :: rest.map StreamAction.missing := by
          cases action with
          | reply reply own =>
              cases reply with
              | bulk raw => exact absurd rfl (unread raw own)
              | error | nil | ok | integer => rfl
          | advance | pull | stop => rfl
        refine .missed ?_ alike
        rw [same, run, stepped, Option.bind_some, ran]
      cases action with
      | reply reply own =>
          cases given
          cases reply with
          | bulk raw =>
              have unreadable := unread raw clock rest rfl
              simp only [StreamSession.init, StreamCall.resume, StreamCall.start, unreadable]
                at resumed
              cases resumed
              obtain ⟨other, ran, alike⟩ := alike_run
                (alike_discarded env upstreams request registry virtualKeyId requestId _) (by simp)
                later
              exact .missed ran alike
          | error | nil | ok | integer =>
              cases resumed
              exact plain (by simp) (step_read rfl)
      | advance own => cases given
      | pull own =>
          cases given
          cases resumed
      | stop own => exact plain (by simp) moved

/-- **What a stream does**, exactly. -/
theorem streamServed_iff {actions : List StreamAction} :
    AlwaysAfter (StreamSession.step env upstreams)
        (StreamServed env upstreams (.init env request registry virtualKeyId requestId))
        (.init env request registry virtualKeyId requestId) actions ↔
      ReadsChoices env actions := by
  constructor
  · rintro always raw clock rest cached rfl parsed choices
    have first : (StreamCall.start request registry virtualKeyId requestId).resume env clock
        (.reply (.bulk raw)) = some ((StreamCall.start request registry virtualKeyId requestId).hit
          clock cached) := by
      simp only [StreamCall.resume, StreamCall.start, parsed]
    have failed : synthesizeCachedStream cached clock.created = .error .indexError := by
      simp only [synthesizeCachedStream, choices]
    have served := always [.reply (.bulk raw) clock] rest _ rfl
      (congrArg (Option.bind · some) (step_read first))
    cases served with
    | replayed again replays =>
        obtain rfl := Option.some.inj (parsed.symm.trans again)
        obtain ⟨lines, replay, -⟩ := replays
        rw [failed] at replay
        cases replay
    | missed ran alike =>
        cases ran
        have ended : ((StreamCall.start request registry virtualKeyId requestId).hit clock
            cached).call.point = .done (.raised .indexError) := by
          simp only [StreamCall.hit, failed]
          rfl
        rcases alike.call with same | ⟨same, -⟩ <;>
          · rw [take_call] at same
            rw [same] at ended
            cases ended
  · intro choices before after s split reached
    cases before with
    | nil => exact served_of_miss (by simp) reached
    | cons action rest =>
        by_cases hit : ∃ raw clock cached, action = .reply (.bulk raw) clock ∧
            parseEntry env raw = some cached
        · obtain ⟨raw, clock, cached, rfl, parsed⟩ := hit
          have chosen := choices raw clock (rest ++ after) cached (by rw [split]; rfl) parsed
          exact .replayed parsed (replays_of_hit parsed chosen reached)
        · refine served_of_miss ?_ reached
          rintro raw clock rest' same
          obtain ⟨rfl, -⟩ := List.cons.inj same
          by_contra parsed
          obtain ⟨cached, parsed⟩ := Option.ne_none_iff_exists'.mp parsed
          exact hit ⟨raw, clock, cached, rfl, parsed⟩

end Sessions

/-! ## Both endpoints -/

/-- A chat whose commands are all refused, and whose provider gives this answer. -/
def unplugged (response : ChatResponse) : List Action :=
  [arrive 0 0, .serve 0 .refused, .chat 0 (.reply .error) early, .serve 0 .refused,
    .chat 0 (.reply .error) overdue, .chat 0 (.attempt (.answered response)) early,
    .serve 0 .refused, .chat 0 (.reply .error) early]

theorem cutOff_unplugged (response : ChatResponse) : CutOff 0 (unplugged response) := by
  intro delivery member
  have refused : delivery = .refused := by simpa [unplugged, arrive] using member
  simp [refused]

theorem alone_unplugged (response : ChatResponse) :
    ∀ action ∈ unplugged response, ∀ other replica request registry virtualKeyId,
      action = .start other replica request registry virtualKeyId → other = 0 := by
  rintro action member other replica request registry virtualKeyId rfl
  simp only [unplugged, arrive, List.mem_cons, List.not_mem_nil, or_false, reduceCtorEq,
    Action.start.injEq] at member
  exact member.1

/-- The call has returned. -/
def hasReturned (id : CallId) (w : World) : Bool :=
  match w.call id with
  | some call =>
      match call.point with
      | .done (.returned _) => true
      | _ => false
  | none => false

/-- A call has raised `ValueError` although its chain has returned. -/
def failedAfterAll (id : CallId) (w : World) : Bool :=
  match w.call id with
  | some call =>
      call.point == .done (.raised .valueError) && call.inflight.isNone &&
        match call.chain with
        | some (.returned _ _) => true
        | _ => false
  | none => false

end LlmGateway
