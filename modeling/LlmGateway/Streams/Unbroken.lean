import LlmGateway.Streams.Completion

/-!
# Lines that break a stream

A line of an upstream can end `_stream_response` with an exception that no handler takes: the
adapter cannot translate it, or one of the two readers of the relayed line cannot use it, or what
has been read by the last line cannot be counted, or makes no response. Nothing else that an upstream
sends does (`lines_ignored_iff`).
-/

set_option autoImplicit false

namespace LlmGateway

open LlmGateway.Library
open LlmGateway.Library.Redis (Reply)

/-! ## Conditions -/

/-- The transport of the upstream raises something unknown after the last line. -/
def Relay.Crashes (python : Interpreter) (relay : Relay) : Prop :=
  relay.AtEnd python ∧ ∃ name, relay.upstream.ending = .crashed name

/-- The iterator does not make the call raise, unless its transport does. -/
def Unbroken (python : Interpreter) (s : StreamSession) (action : StreamAction) (next : StreamSession) :
    Prop :=
  ∀ clock relay, action = .advance clock → s.relay = some relay → ¬ relay.Crashes python →
    ∀ exception, next.call.point ≠ .done (.raised exception)

/-- What the iterator reads can be used: the adapter translates the line, the line that it yields
is a chunk if it is JSON, and at the end the usage can be counted and a response rebuilt. -/
structure StreamSession.CanUse (python : Interpreter) (s : StreamSession) (relay : Relay) : Prop where
  translated : ∀ line, relay.Heeds python line → relay.adapter.Translatable python relay.state line
  used : ∀ text, (relay.next python).1 = .line text → UsableLine python text
  counted : (relay.next python).1 = .exhausted → s.call.point = .read → s.call.usage.Billable
  completed : (relay.next python).1 = .exhausted → s.call.point = .read →
    s.call.accumulator.sawAnyChunk = true → s.call.accumulator.Completable

/-- The condition on each step of the iterator. -/
def Sound (python : Interpreter) (s : StreamSession) (action : StreamAction) (_next : StreamSession) :
    Prop :=
  ∀ clock relay, action = .advance clock → s.relay = some relay → s.CanUse python relay

/-! ## One turn -/

section Turns

variable {env : Environment} {call : StreamCall} {clock : StreamClock}

/-- A call that has raised. -/
def StreamTurn.Raises (turn : StreamTurn) : Prop :=
  ∃ exception, turn.call.point = .done (.raised exception)

theorem tryNext_not_raises (attempted : List String) (lastError : Option ProviderError)
    (candidates : List BaseProvider) :
    ¬ (call.tryNext clock attempted lastError candidates).Raises := by
  rintro ⟨exception, raised⟩
  cases candidates with
  | cons next rest => cases raised
  | nil =>
      simp only [StreamCall.tryNext, StreamCall.noProvider] at raised
      split at raised <;> cases raised

theorem providerFailed_not_raises (error : ProviderError) :
    ¬ (call.providerFailed clock error).Raises := by
  rintro ⟨exception, raised⟩
  unfold StreamCall.providerFailed at raised
  split at raised <;> cases raised

/-- **A line that is looked at** raises exactly when it is no usable chunk. -/
theorem relayLine_raises_iff (provider : BaseProvider) (line : String) :
    (call.relayLine env provider line).Raises ↔ ¬ UsableLine env.python line := by
  constructor
  · rintro ⟨exception, raised⟩ usable
    obtain ⟨usage, captured, -⟩ := (captureUsage_returns_iff env.python line call.usage).mpr usable.counted
    obtain ⟨after, fed, -⟩ := (feed_returns_iff env.python line call.accumulator).mpr usable
    simp only [StreamCall.relayLine, captured, fed] at raised
    cases raised
  · intro unusable
    unfold StreamCall.relayLine StreamTurn.Raises
    dsimp only
    cases captured : captureUsage env.python line call.usage with
    | error exception => exact ⟨exception, rfl⟩
    | ok usage =>
        cases fed : ChunkAccumulator.feed env.python line call.accumulator with
        | error exception after => exact ⟨exception, rfl⟩
        | ok _ after =>
            exact absurd (usable_of_fed fed) unusable

end Turns

/-! ## One step -/

section Steps

variable {env : Environment} {upstreams : ℕ → Upstream} {registry : ProviderRegistry}
  {s next : StreamSession} {relay : Relay} {clock : StreamClock} {python : Interpreter}

/-- There is one line that an iterator heeds next. -/
theorem first_heard {P : UpstreamLine → Prop} {before others after rest : List UpstreamLine}
    {line other : UpstreamLine} (same : before ++ line :: after = others ++ other :: rest)
    (quiet : ∀ line ∈ before, P line) (silent : ∀ line ∈ others, P line) (heard : ¬ P line)
    (loud : ¬ P other) : line = other := by
  induction before generalizing others with
  | nil =>
      cases others with
      | nil => exact (List.cons.inj same).1
      | cons first later =>
          obtain rfl : line = first := (List.cons.inj same).1
          exact absurd (silent line List.mem_cons_self) heard
  | cons first later ih =>
      cases others with
      | nil =>
          obtain rfl : first = other := (List.cons.inj same).1
          exact absurd (quiet first List.mem_cons_self) loud
      | cons second more =>
          exact ih (List.cons.inj same).2 (fun line member => quiet line (List.mem_cons_of_mem _ member))
            (fun line member => silent line (List.mem_cons_of_mem _ member))

theorem Relay.Heeds.unique {line other : UpstreamLine} (first : relay.Heeds python line)
    (second : relay.Heeds python other) : line = other := by
  obtain ⟨before, after, split, quiet, heard⟩ := first
  obtain ⟨others, rest, again, silent, loud⟩ := second
  exact first_heard (split.symm.trans again) quiet silent heard loud

theorem Relay.Heeds.not_atEnd {line : UpstreamLine} (heeds : relay.Heeds python line) :
    ¬ relay.AtEnd python := by
  intro atEnd
  obtain ⟨before, after, split, -, heard⟩ := heeds
  exact heard (atEnd line (by simp [split]))

/-- What makes a call raise. -/
def StreamSession.Refuses (python : Interpreter) (s : StreamSession) : StreamEvent → Prop
  | .line text => ¬ UsableLine python text
  | .exhausted => s.call.point = .read ∧ (¬ s.call.usage.Billable ∨
      s.call.accumulator.sawAnyChunk = true ∧ ¬ s.call.accumulator.Completable)
  | .providerError _ => False
  | .exception _ => True

/-- **What an iterator does to the call**: it raises for a line that cannot be used, for one that
cannot be translated, for a transport that crashes, and for an answer that cannot be counted or makes
no response. -/
theorem advance_raises_iff (live : s.Live env.python registry) (admissible : registry.Admissible)
    (there : s.relay = some relay) (moved : s.step env upstreams (.advance clock) = some next) :
    (∃ exception, next.call.point = .done (.raised exception)) ↔
      s.Refuses env.python (relay.next env.python).1 := by
  obtain ⟨input, _, _, turn, given, resumed, rfl⟩ := turn_of_streamStep moved
  have same : s.input env (.advance clock) =
      some (.event (relay.next env.python).1, clock, some (relay.next env.python).2) := by
    simp [StreamSession.input, there]
  cases given.symm.trans same
  rw [take_call]
  change turn.Raises ↔ _
  simp only [StreamCall.resume] at resumed
  split at resumed
  · rename_i attempt point
    cases resumed
    cases (relay.next env.python).1 with
    | line text => exact relayLine_raises_iff _ _
    | exhausted =>
        refine ⟨fun raises => absurd raises (tryNext_not_raises _ _ _), fun refused => ?_⟩
        rw [refused.1] at point
        cases point
    | providerError error => exact ⟨tryNext_not_raises _ _ _, False.elim⟩
    | exception exception => exact ⟨fun _ => trivial, fun _ => ⟨exception, rfl⟩⟩
  · rename_i provider point serving
    cases resumed
    cases (relay.next env.python).1 with
    | line text => exact relayLine_raises_iff _ _
    | exhausted =>
        have emits := emits_iff live admissible point serving clock.latencyMs
        have raises := @succeed_raises_iff env s.call clock provider serving
        rw [ne_eq, emits] at raises
        exact ⟨fun raised => ⟨point, raises.mp raised⟩, fun refused => raises.mpr refused.2⟩
    | providerError error => exact ⟨providerFailed_not_raises _, False.elim⟩
    | exception exception => exact ⟨fun _ => trivial, fun _ => ⟨exception, rfl⟩⟩
  · cases resumed

/-- What is read can be used, unless the call raises for it. -/
theorem canUse_iff {event : StreamEvent} (given : (relay.next python).1 = event)
    (gives : relay.Gives python event) :
    s.CanUse python relay ↔ (¬ relay.Crashes python → ¬ s.Refuses python event) := by
  have running (ended : relay.AtEnd python) (line : UpstreamLine) (heeds : relay.Heeds python line) :
      relay.adapter.Translatable python relay.state line := absurd ended heeds.not_atEnd
  have alive {line : UpstreamLine} (heeds : relay.Heeds python line) : ¬ relay.Crashes python :=
    fun crashes => heeds.not_atEnd crashes.1
  cases gives with
  | line heeds usable text =>
      constructor
      · exact fun canUse _ refused => refused (canUse.used text given)
      · intro calm
        refine ⟨fun other heeded => heeded.unique heeds ▸ usable, fun other same => ?_,
          fun same => ?_, fun same => ?_⟩
        · obtain rfl := StreamEvent.line.inj (given.symm.trans same)
          exact not_not.mp (calm (alive heeds))
        · cases given.symm.trans same
        · cases given.symm.trans same
  | raised heeds unusable exception =>
      exact ⟨fun canUse _ => absurd (canUse.translated _ heeds) unusable,
        fun calm => absurd trivial (calm (alive heeds))⟩
  | closed atEnd exhausted =>
      constructor
      · exact fun canUse _ refused => refused (canUse.used doneLine given)
      · intro calm
        refine ⟨running atEnd, fun other same => ?_, fun same => ?_, fun same => ?_⟩
        · obtain rfl := StreamEvent.line.inj (given.symm.trans same)
          exact not_not.mp (calm fun ⟨_, _, crashed⟩ => (by cases exhausted.symm.trans crashed))
        · cases given.symm.trans same
        · cases given.symm.trans same
  | exhausted atEnd exhausted =>
      constructor
      · rintro canUse - ⟨point, uncounted | ⟨seen, incomplete⟩⟩
        · exact uncounted (canUse.counted given point)
        · exact incomplete (canUse.completed given point seen)
      · intro calm
        have fine := calm fun ⟨_, _, crashed⟩ => (by cases exhausted.symm.trans crashed)
        refine ⟨running atEnd, fun other same => ?_, fun _ point => ?_, fun _ point seen => ?_⟩
        · cases given.symm.trans same
        · by_contra uncounted
          exact fine ⟨point, .inl uncounted⟩
        · by_contra incomplete
          exact fine ⟨point, .inr ⟨seen, incomplete⟩⟩
  | failed atEnd =>
      exact ⟨fun _ _ => id, fun _ => ⟨running atEnd, fun other same => (by cases given.symm.trans same),
        fun same => (by cases given.symm.trans same), fun same => (by cases given.symm.trans same)⟩⟩
  | @crashed name atEnd crashed =>
      exact ⟨fun _ alive => absurd ⟨atEnd, name, crashed⟩ alive,
        fun _ => ⟨running atEnd, fun other same => (by cases given.symm.trans same),
          fun same => (by cases given.symm.trans same), fun same => (by cases given.symm.trans same)⟩⟩

/-- **A step of the iterator is unbroken** exactly when what it reads can be used. -/
theorem unbroken_iff {action : StreamAction} (live : s.Live env.python registry)
    (admissible : registry.Admissible) (moved : s.step env upstreams action = some next) :
    Unbroken env.python s action next ↔ Sound env.python s action next := by
  refine forall_congr' fun clock => forall_congr' fun relay => forall_congr' fun advance =>
    forall_congr' fun there => ?_
  subst advance
  rw [canUse_iff rfl (relay_next_gives env.python relay), ← advance_raises_iff live admissible there moved,
    not_exists]

end Steps

/-- **Which lines break a stream.** `capture_usage` returns on a line, and keeps its argument unless
the line states a usage, exactly when the payload is a chunk for it or no JSON; `feed` likewise; and
in every run of `_stream_response` the iterators raise nothing, apart from `ProviderError`s, exactly
when each line can be translated and used and each answer can be counted and rebuilt at its end. -/
theorem lines_ignored_iff (env : Environment) (upstreams : ℕ → Upstream) (request : ChatRequest)
    {registry : ProviderRegistry} (admissible : registry.Admissible) (virtualKeyId : ℤ)
    (requestId : Option String) (actions : List StreamAction) :
    (∀ (line : String) (current : Usage),
        (∃ usage, captureUsage env.python line current = .ok usage ∧
            (¬ StatesUsage line → usage = current)) ↔ CountedLine env.python line) ∧
      (∀ (line : String) (accumulator : ChunkAccumulator),
        (∃ after, ChunkAccumulator.feed env.python line accumulator = .ok () after ∧
            (¬ StatesChunk line → after = accumulator)) ↔ UsableLine env.python line) ∧
      (Throughout (StreamSession.step env upstreams) (Unbroken env.python)
          (.init env request registry virtualKeyId requestId) actions ↔
        Throughout (StreamSession.step env upstreams) (Sound env.python)
          (.init env request registry virtualKeyId requestId) actions) := by
  refine ⟨captureUsage_returns_iff env.python, feed_returns_iff env.python, ?_, ?_⟩
  · intro calm before action after state next split reached moved
    exact (unbroken_iff (live_run reached) admissible moved).mp
      (calm before action after state next split reached moved)
  · intro sound before action after state next split reached moved
    exact (unbroken_iff (live_run reached) admissible moved).mpr
      (sound before action after state next split reached moved)

/-- A data line whose payload is a number. -/
def bareNumber : Upstream where
  lines := [⟨"data: 5", 0⟩]
  ending := .exhausted

def bareNumberStart : StreamSession :=
  .init demoEnvironment (demoRequest true) (buildRegistry { openaiApiKey := some "sk-demo" }) 1 none

theorem captureUsage_bareNumber :
    ¬ ∃ usage, captureUsage demoEnvironment.python "data: 5" {} = .ok usage := by
  have captured : captureUsage demoEnvironment.python "data: 5" {} = .error .attributeError := by
    decide +kernel
  rintro ⟨usage, same⟩
  cases captured.symm.trans same

theorem feed_bareNumber :
    ¬ ∃ after, ChunkAccumulator.feed demoEnvironment.python "data: 5" {} = .ok () after := by
  have fed : (match ChunkAccumulator.feed demoEnvironment.python "data: 5" {} with
      | .ok _ _ => true
      | .error _ _ => false) = false := by decide +kernel
  rintro ⟨after, same⟩
  rw [same] at fed
  cases fed

/-- Both readers raise on it, and so does the call. -/
theorem bare_number_raises :
    (¬ ∃ usage, captureUsage demoEnvironment.python "data: 5" {} = .ok usage) ∧
      (¬ ∃ after, ChunkAccumulator.feed demoEnvironment.python "data: 5" {} = .ok () after) ∧
        ¬ Throughout (StreamSession.step demoEnvironment fun _ => bareNumber)
          (Unbroken demoEnvironment.python) bareNumberStart
          [.reply .nil ⟨0, fun _ => 0⟩, .advance ⟨0, fun _ => 0⟩] := by
  refine ⟨captureUsage_bareNumber, feed_bareNumber, fun calm => ?_⟩
  have before : (run (StreamSession.step demoEnvironment fun _ => bareNumber) bareNumberStart
      [.reply .nil ⟨0, fun _ => 0⟩]).map (fun s => s.relay.map fun relay => relay.upstream.ending) =
        some (some .exhausted) := by decide +kernel
  have after : (run (StreamSession.step demoEnvironment fun _ => bareNumber) bareNumberStart
      ([.reply .nil ⟨0, fun _ => 0⟩] ++ [.advance ⟨0, fun _ => 0⟩])).map (fun s => s.call.point) =
        some (.done (.raised .attributeError)) := by decide +kernel
  obtain ⟨last, whole, point⟩ := Option.map_eq_some_iff.mp after
  obtain ⟨s, reached, moved⟩ := run_snoc_eq_some.mp whole
  rw [reached] at before
  obtain ⟨relay, there, ending⟩ := Option.map_eq_some_iff.mp (Option.some.inj before)
  refine calm [.reply .nil ⟨0, fun _ => 0⟩] _ [] s last rfl reached moved _ relay rfl there ?_ _ point
  rintro ⟨-, name, crashed⟩
  cases ending.symm.trans crashed

/-- Neither reader can use the line; a run breaks when it is read. -/
theorem lines_ignored_iff_bare_number :
    ¬ CountedLine demoEnvironment.python "data: 5" ∧ ¬ UsableLine demoEnvironment.python "data: 5" ∧
      Throughout (StreamSession.step demoEnvironment fun _ => bareNumber)
        (Unbroken demoEnvironment.python) bareNumberStart [.reply .nil ⟨0, fun _ => 0⟩] := by
  obtain ⟨captures, feeds, breaks⟩ := lines_ignored_iff demoEnvironment (fun _ => bareNumber)
    (demoRequest true) (buildRegistry_admissible { openaiApiKey := some "sk-demo" }) 1 none
    [.reply .nil ⟨0, fun _ => 0⟩]
  refine ⟨fun counted => ?_, fun usable => ?_, breaks.mpr ?_⟩
  · obtain ⟨usage, captured, -⟩ := (captures "data: 5" {}).mpr counted
    exact captureUsage_bareNumber ⟨usage, captured⟩
  · obtain ⟨after, fed, -⟩ := (feeds "data: 5" {}).mpr usable
    exact feed_bareNumber ⟨after, fed⟩
  · have waits : Throughout (StreamSession.step demoEnvironment fun _ => bareNumber)
        (fun _ action _ => ∀ clock, action ≠ .advance clock) bareNumberStart
        [.reply .nil ⟨0, fun _ => 0⟩] := throughout_of_actions (by simp) _
    exact waits.mono fun _ _ _ others clock _ advance => absurd advance (others clock)

end LlmGateway
