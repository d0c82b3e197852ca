import LlmGateway.Streams.Billing
import LlmGateway.Streams.Lines
import LlmGateway.Streams.Serving
import LlmGateway.Streams.Usable

/-!
# The end of a stream

When the last line has been relayed, `_stream_response` records the usage and rebuilds a response
for the cache. The accumulator took over what the chunks said, whatever their types and however
long the content, and only the construction of the response validates it
(`ChunkAccumulator.Completable`). The client has the whole answer by then.

For chunks of the OpenAI format, this can go wrong in several ways: a count is too large for a
counter, the content is longer than a message of a request may be, a text has a surrogate without its
other half, or the finish reason is none of the three that a response knows (`completion_iff`).
-/

set_option autoImplicit false

namespace LlmGateway

open LlmGateway.Library
open LlmGateway.Library.Redis (Reply)

/-! ## Rebuilding a response -/

/-- What `to_response` needs. -/
structure ChunkAccumulator.Completable (accumulator : ChunkAccumulator) : Prop where
  identified : ∃ text, orElse accumulator.id (.str "chatcmpl-cached") = .str text
  named : ∃ text, accumulator.model = .str text
  ended : ∃ reason : FinishReason, accumulator.finishReason = .str reason.toString
  written : ∃ content, scalarText accumulator.content = some content ∧ content.length ≤ maxContentLength

section Response

variable {accumulator : ChunkAccumulator} {created : ℤ}

theorem ofString_eq_some {text : String} {reason : FinishReason}
    (read : FinishReason.ofString text = some reason) : text = reason.toString := by
  unfold FinishReason.ofString at read
  split_ifs at read with stop length filter
  · cases read
    exact stop
  · cases read
    exact length
  · cases read
    exact filter

/-- What is rebuilt of texts. -/
theorem toResponse_of_texts {id model reason content : String} {finishReason : FinishReason}
    (identified : orElse accumulator.id (.str "chatcmpl-cached") = .str id)
    (named : accumulator.model = .str model) (ended : accumulator.finishReason = .str reason)
    (known : FinishReason.ofString reason = some finishReason)
    (written : scalarText accumulator.content = some content)
    (bounded : content.length ≤ maxContentLength) :
    accumulator.toResponse created =
      .ok
        { id, created, model
          choices := [{ message := ⟨.assistant, content, bounded⟩, finishReason }]
          usage := accumulator.usage } := by
  unfold ChunkAccumulator.toResponse
  rw [identified, named, ended]
  simp only [known, written, bounded, ↓reduceDIte]

/-- **A response is rebuilt** from an accumulator with a valid content, and from no other. -/
theorem toResponse_cases (accumulator : ChunkAccumulator) (created : ℤ) :
    (accumulator.Completable ∧ ∃ response, accumulator.toResponse created = .ok response) ∨
      (¬ accumulator.Completable ∧ accumulator.toResponse created = .error .valueError) := by
  by_cases complete : accumulator.Completable
  · obtain ⟨id, identified⟩ := complete.identified
    obtain ⟨model, named⟩ := complete.named
    obtain ⟨reason, ended⟩ := complete.ended
    obtain ⟨content, written, bounded⟩ := complete.written
    exact .inl ⟨complete, _, toResponse_of_texts identified named ended
      (FinishReason.ofString_toString reason) written bounded⟩
  · refine .inr ⟨complete, ?_⟩
    unfold ChunkAccumulator.toResponse
    split
    · rename_i id model reason identified named ended
      split
      · rename_i finishReason content known written
        split_ifs with bounded
        · have text := ofString_eq_some known
          exact absurd ⟨⟨id, identified⟩, ⟨model, named⟩, ⟨finishReason, text ▸ ended⟩, content, written,
            bounded⟩ complete
        · rfl
      · rfl
    · rfl

/-- **After the last line**: an exception comes of a record that cannot be counted, or of a response
that cannot be rebuilt, and of nothing else. -/
theorem succeed_raises_iff {env : Environment} {call : StreamCall} {clock : StreamClock}
    {provider : BaseProvider} (serving : call.servingProvider = some provider) :
    (∃ exception, (call.succeed env clock).call.point = .done (.raised exception)) ↔
      emitMetric (streamRecord call.virtualKeyId provider call.request.model call.usage
          clock.latencyMs) ≠ .ok () ∨
        call.accumulator.sawAnyChunk = true ∧ ¬ call.accumulator.Completable := by
  cases emitted : emitMetric (streamRecord call.virtualKeyId provider call.request.model call.usage
      clock.latencyMs) with
  | error exception =>
      simp [StreamCall.succeed, serving, scheduleStreamUsage, recordUsage, emitted, bind, Except.bind,
        StreamCall.finish]
  | ok =>
      simp only [StreamCall.succeed, serving, scheduleStreamUsage, recordUsage, emitted, bind, Except.bind,
        pure, Except.pure, StreamCall.closing]
      cases call.accumulator.sawAnyChunk with
      | false => simp [StreamCall.finish]
      | true =>
          rcases toResponse_cases call.accumulator (clock.created 0) with
            ⟨complete, response, built⟩ | ⟨incomplete, failed⟩
          · simp [built, complete]
          · simp [failed, incomplete, StreamCall.finish]

end Response

/-! ## Chunks of the format -/

/-- A text, or `null`, or missing. -/
def TextOrNull (value : Json) : Prop := value = .null ∨ IsText value

/-- An integer, or `null`, or missing. -/
def IntOrNull (value : Json) : Prop := value = .null ∨ ∃ n, value = .int n

def ShapedUsage (usage : Json) : Prop :=
  usage = .null ∨ ∃ members, usage = .obj members ∧ IntOrNull (got members "prompt_tokens") ∧
    IntOrNull (got members "completion_tokens") ∧ IntOrNull (got members "total_tokens")

def ShapedDelta (delta : Json) : Prop :=
  delta = .null ∨ ∃ members, delta = .obj members ∧ TextOrNull (got members "content")

def ShapedChoices (choices : Json) : Prop :=
  choices = .null ∨ choices = .arr [] ∨ ∃ choice rest, choices = .arr (.obj choice :: rest) ∧
    ShapedDelta (got choice "delta") ∧ TextOrNull (got choice "finish_reason")

/-- A chunk of the OpenAI format. The finish reason is any text. -/
def ShapedChunk (chunk : Json) : Prop :=
  ∃ members, chunk = .obj members ∧ TextOrNull (got members "id") ∧ TextOrNull (got members "model") ∧
    ShapedChoices (got members "choices") ∧ ShapedUsage (got members "usage")

/-- What the line is decoded to, if it is JSON, is a chunk of the format. -/
def ShapedLine (python : Interpreter) (line : String) : Prop :=
  ∀ chunk, lineChunk python line = .ok (some chunk) → ShapedChunk chunk

section Shapes

variable {value : Json}

theorem TextOrNull.content (shaped : TextOrNull value) : UsableContent value := by
  rcases shaped with rfl | text
  · exact fun present => (by cases present)
  · exact fun _ => text

theorem IntOrNull.countable (shaped : IntOrNull value) : Countable value := by
  rcases shaped with rfl | ⟨n, rfl⟩ <;> exact fun text same => (by cases same)

theorem ShapedUsage.usable (shaped : ShapedUsage value) : UsableUsage value := by
  rcases shaped with rfl | ⟨given, rfl, prompt, completion, total⟩
  · exact fun members same => (by cases same)
  · rintro members ⟨⟩
    exact ⟨prompt.countable, completion.countable, total.countable⟩

theorem ShapedChoices.usable (shaped : ShapedChoices value) : UsableChoices value := by
  rcases shaped with rfl | rfl | ⟨choice, rest, rfl, delta, -⟩
  · exact fun present => (by cases present)
  · exact fun present => (by cases present)
  · refine fun _ => ⟨choice, rest, rfl, fun present => ?_⟩
    rcases delta with absent | ⟨members, same, content⟩
    · rw [absent] at present
      cases present
    · exact ⟨members, same, content.content⟩

/-- A chunk of the format can be fed. -/
theorem ShapedChunk.usable (shaped : ShapedChunk value) : UsableChunk value := by
  obtain ⟨members, same, -, -, choices, usage⟩ := shaped
  exact ⟨members, same, choices.usable, usage.usable⟩

end Shapes

/-! ## What is accumulated -/

/-- The last value that is true, if there is one, is a text that UTF-8 can carry. -/
def LastWritten (values : List Json) : Prop :=
  ∀ value, (values.filterMap ifTruthy).getLast? = some value → ∃ text, value = .str text

/-- The last identity and the last model can be written, and so can the content, which is no longer
than a message may be; and the last finish reason is one of the three. -/
structure FitsResponse (readings : List ChunkReading) : Prop where
  id : LastWritten (readings.map ChunkReading.id)
  model : LastWritten (readings.map ChunkReading.model)
  content : ∃ content, scalarText (readings.map ChunkReading.content).flatten = some content ∧
    content.length ≤ maxContentLength
  reason : ∀ value, (readings.filterMap ChunkReading.finishReason).getLast? = some value →
    ∃ reason : FinishReason, value = .str reason.toString

/-- A counter can grow by the last counts. -/
structure FitsCounters (counts : List CountsReading) : Prop where
  prompt : FitsCounter (kept CountsReading.prompt counts)
  completion : FitsCounter (kept CountsReading.completion counts)

/-- What some lines say can be counted, and it fits into a response, if they have a chunk. -/
def Presentable (python : Interpreter) (lines : List String) : Prop :=
  ∀ readings, readingsOf python lines = some readings →
    FitsCounters (countsOf readings) ∧ (readings = [] ∨ FitsResponse readings)

section Accumulated

/-- The last of some values that are true, with a default. -/
def lastTruthy (values : List Json) (default : Json) : Json := (values.filterMap ifTruthy).getLastD default

theorem lastTruthy_cons (value : Json) (values : List Json) (default : Json) :
    lastTruthy (value :: values) default = lastTruthy values (orElse value default) := by
  unfold lastTruthy orElse
  rcases ifTruthy_cases value with ⟨absent, nothing⟩ | ⟨present, same⟩
  · rw [List.filterMap_cons_none nothing, if_neg (by simp [absent])]
  · rw [List.filterMap_cons_some same, List.getLastD_cons, if_pos present]

/-- **What some readings are accumulated to.** -/
theorem accumulated_foldl (readings : List ChunkReading) (accumulator : ChunkAccumulator) :
    (readings.foldl ChunkAccumulator.absorb accumulator).id =
        lastTruthy (readings.map ChunkReading.id) accumulator.id ∧
      (readings.foldl ChunkAccumulator.absorb accumulator).model =
        lastTruthy (readings.map ChunkReading.model) accumulator.model ∧
      (readings.foldl ChunkAccumulator.absorb accumulator).content =
        accumulator.content ++ (readings.map ChunkReading.content).flatten ∧
      (readings.foldl ChunkAccumulator.absorb accumulator).finishReason =
        (readings.filterMap ChunkReading.finishReason).getLastD accumulator.finishReason ∧
      (readings.foldl ChunkAccumulator.absorb accumulator).sawAnyChunk =
        (accumulator.sawAnyChunk || !readings.isEmpty) := by
  induction readings generalizing accumulator with
  | nil => simp [lastTruthy]
  | cons reading rest ih =>
      obtain ⟨id, model, content, reason, seen⟩ := ih (accumulator.absorb reading)
      simp only [List.foldl_cons, List.map_cons, lastTruthy_cons]
      refine ⟨id, model, ?_, ?_, ?_⟩
      · rw [content, List.flatten_cons, ← List.append_assoc]
        rfl
      · rw [reason]
        cases given : reading.finishReason with
        | none => simp [ChunkAccumulator.absorb, List.filterMap_cons_none given, given]
        | some value =>
            rw [List.filterMap_cons_some given, List.getLastD_cons, ChunkAccumulator.absorb, given]
            rfl
      · rw [seen]
        simp [ChunkAccumulator.absorb]

/-- The last value is a text, if the default is one. -/
theorem lastTruthy_text {values : List Json} {text : String} :
    (∃ last, lastTruthy values (.str text) = .str last) ↔ LastWritten values := by
  unfold lastTruthy LastWritten
  rw [List.getLastD_eq_getLast?]
  cases (values.filterMap ifTruthy).getLast? with
  | none => simp
  | some value => simp

/-- An identity is rebuilt if the last one is a text. -/
theorem identified_iff (values : List Json) :
    (∃ text, orElse (lastTruthy values (.str "")) (.str "chatcmpl-cached") = .str text) ↔
      LastWritten values := by
  rw [← @lastTruthy_text values ""]
  have last : ∀ value, lastTruthy values (.str "") = value →
      ((∃ text, orElse value (.str "chatcmpl-cached") = .str text) ↔ ∃ text, value = .str text) := by
    intro value same
    unfold orElse
    split_ifs with present
    · exact Iff.rfl
    · refine ⟨fun _ => ?_, fun _ => ⟨_, rfl⟩⟩
      -- a value that is false is the default
      unfold lastTruthy at same
      rw [List.getLastD_eq_getLast?] at same
      cases given : (values.filterMap ifTruthy).getLast? with
      | none => exact ⟨"", by rw [← same, given]; rfl⟩
      | some other =>
          obtain ⟨origin, -, kept⟩ := List.mem_filterMap.mp (List.mem_of_getLast? given)
          rw [given, Option.getD_some] at same
          rcases ifTruthy_cases origin with ⟨-, nothing⟩ | ⟨true_, here⟩
          · cases nothing.symm.trans kept
          · obtain rfl := Option.some.inj (here.symm.trans kept)
            exact absurd (same ▸ true_) present
  exact last _ rfl

/-- **What is accumulated is rebuilt** when it fits into a response. -/
theorem completable_foldl (readings : List ChunkReading) :
    (readings.foldl ChunkAccumulator.absorb {}).Completable ↔ FitsResponse readings := by
  obtain ⟨id, model, content, reason, -⟩ := accumulated_foldl readings {}
  have ended : (∃ finishReason : FinishReason, (readings.foldl ChunkAccumulator.absorb {}).finishReason =
      .str finishReason.toString) ↔ ∀ value,
        (readings.filterMap ChunkReading.finishReason).getLast? = some value →
          ∃ finishReason : FinishReason, value = .str finishReason.toString := by
    rw [reason, List.getLastD_eq_getLast?]
    cases (readings.filterMap ChunkReading.finishReason).getLast? with
    | none =>
        refine ⟨fun _ _ impossible => ?_, fun _ => ⟨.stop, rfl⟩⟩
        cases impossible
    | some value => simp
  constructor
  · intro complete
    refine ⟨(identified_iff _).mp (id ▸ complete.identified), lastTruthy_text.mp (model ▸ complete.named),
      ?_, ended.mp complete.ended⟩
    have written := complete.written
    rwa [content, List.nil_append] at written
  · intro fits
    refine ⟨id ▸ (identified_iff _).mpr fits.id, model ▸ lastTruthy_text.mpr fits.model,
      ended.mpr fits.reason, ?_⟩
    rw [content, List.nil_append]
    exact fits.content

/-- Lines whose completion raises are those that cannot be presented. -/
theorem refused_iff {python : Interpreter} {lines : List String} {accumulator : ChunkAccumulator}
    {usage : Usage} (fed : lines.forM (ChunkAccumulator.feed python) {} = .ok () accumulator)
    (captured : captureAll python lines = .ok usage) :
    (¬ usage.Billable ∨ accumulator.sawAnyChunk = true ∧ ¬ accumulator.Completable) ↔
      ¬ Presentable python lines := by
  have ends := forM_feed_reading python lines {}
  cases read : readingsOf python lines with
  | none =>
      rw [read, fed] at ends
      cases ends
  | some readings =>
      rw [read, fed] at ends
      cases ends
      have billed := foldlM_captureUsage_reading read {}
      rw [foldl_usageAbsorb] at billed
      obtain rfl := Except.ok.inj (billed.symm.trans captured)
      obtain ⟨prompt, completion⟩ := billedUsage_kept (countsOf readings)
      have counted : (billedUsage (countsOf readings)).Billable ↔ FitsCounters (countsOf readings) :=
        ⟨fun counts => ⟨prompt ▸ counts.prompt, completion ▸ counts.completion⟩,
          fun counts => ⟨prompt ▸ counts.prompt, completion ▸ counts.completion⟩⟩
      have presentable : Presentable python lines ↔
          FitsCounters (countsOf readings) ∧ (readings = [] ∨ FitsResponse readings) := by
        unfold Presentable
        rw [read]
        exact ⟨fun all => all readings rfl, fun fits _ same => Option.some.inj same ▸ fits⟩
      obtain ⟨-, -, -, -, seen⟩ := accumulated_foldl readings {}
      rw [presentable, completable_foldl, not_and_or, not_or]
      refine or_congr (not_congr counted) (and_congr_left fun _ => ?_)
      rw [seen]
      simp

end Accumulated

/-! ## Runs -/

/-- The end of the iterator is reached after the last line, or the entry has been written. -/
inductive StreamSession.Completes (python : Interpreter) (s : StreamSession) : StreamAction → Prop
  | last {relay : Relay} {clock : StreamClock} (point : s.call.point = .read)
      (there : s.relay = some relay) (exhausted : (relay.next python).1 = .exhausted) :
      Completes python s (.advance clock)
  | saved {reply : Reply} {clock : StreamClock} (point : s.call.point = .cacheSet) :
      Completes python s (.reply reply clock)

/-- The completion of a stream of the format raises nothing. -/
def EndsCleanly (python : Interpreter) (s : StreamSession) (action : StreamAction)
    (next : StreamSession) : Prop :=
  (∀ line ∈ s.output, ShapedLine python line) → s.Completes python action →
    ∀ exception, next.call.point ≠ .done (.raised exception)

/-- The stream of the format that is completed can be counted and fits into a response. -/
def EndsPresentably (python : Interpreter) (s : StreamSession) (action : StreamAction)
    (_next : StreamSession) : Prop :=
  (∀ line ∈ s.output, ShapedLine python line) → s.Completes python action → s.call.point = .read →
    Presentable python s.output

section Runs

variable {env : Environment} {upstreams : ℕ → Upstream} {registry : ProviderRegistry}
  {s next : StreamSession} {action : StreamAction}

/-- A call that reads can ask its iterator. -/
theorem exists_advance {provider : BaseProvider} {relay : Relay} {clock : StreamClock}
    (point : s.call.point = .read) (serving : s.call.servingProvider = some provider)
    (there : s.relay = some relay) : ∃ next, s.step env upstreams (.advance clock) = some next := by
  simp [StreamSession.step, StreamSession.input, there, StreamCall.resume, point, serving]

/-- The turn at the end of the iterator. -/
theorem advance_exhausted {relay : Relay} {clock : StreamClock} (live : s.Live env.python registry)
    (point : s.call.point = .read) (there : s.relay = some relay)
    (exhausted : (relay.next env.python).1 = .exhausted)
    (moved : s.step env upstreams (.advance clock) = some next) :
    next.call = (s.call.succeed env clock).call := by
  obtain ⟨provider, -, serving⟩ := (live.serving (.inr point)).serving
  obtain ⟨input, _, _, turn, given, resumed, rfl⟩ := turn_of_streamStep moved
  have same :
      s.input env (.advance clock) = some (.event .exhausted, clock, some (relay.next env.python).2) := by
    simp [StreamSession.input, there, exhausted]
  cases given.symm.trans same
  simp only [StreamCall.resume, point, serving, StreamCall.readNext, Option.some.injEq] at resumed
  rw [take_call, resumed]

/-- The turn after the entry has been written. -/
theorem reply_saved {reply : Reply} {clock : StreamClock} (point : s.call.point = .cacheSet)
    (moved : s.step env upstreams (.reply reply clock) = some next) :
    next.call.point = .done .returned := by
  obtain ⟨input, _, _, turn, given, resumed, rfl⟩ := turn_of_streamStep moved
  cases given
  simp only [StreamCall.resume, point, Option.some.injEq] at resumed
  rw [take_call, ← resumed]
  rfl

/-- The record of a stream that is served is emitted exactly if its counts can be billed. -/
theorem emits_iff (live : s.Live env.python registry) (admissible : registry.Admissible)
    (point : s.call.point = .read) {provider : BaseProvider}
    (serving : s.call.servingProvider = some provider) (latencyMs : ℕ) :
    emitMetric (streamRecord s.call.virtualKeyId provider s.call.request.model s.call.usage latencyMs) =
        .ok () ↔ s.call.usage.Billable :=
  ⟨billable_of_emits, fun counts =>
    (live.serving (.inr point)).emits admissible serving counts latencyMs⟩

/-- **A completion raises nothing** exactly when the stream can be counted and fits into a response. -/
theorem endsCleanly_iff (live : s.Live env.python registry) (admissible : registry.Admissible)
    (moved : s.step env upstreams action = some next) :
    EndsCleanly env.python s action next ↔ EndsPresentably env.python s action next := by
  refine forall_congr' fun _ => ?_
  -- the turn at the end of the iterator
  have last {relay : Relay} {clock : StreamClock} (point : s.call.point = .read)
      (there : s.relay = some relay) (exhausted : (relay.next env.python).1 = .exhausted)
      (moved : s.step env upstreams (.advance clock) = some next) :
      (∃ exception, next.call.point = .done (.raised exception)) ↔ ¬ Presentable env.python s.output := by
    have relayed := live.serving (.inr point)
    obtain ⟨provider, -, serving⟩ := relayed.serving
    rw [advance_exhausted live point there exhausted moved, succeed_raises_iff serving,
      ne_eq, emits_iff live admissible point serving, refused_iff relayed.fed relayed.captured]
  constructor
  · intro clean completes point
    cases completes with
    | saved saving => cases point.symm.trans saving
    | last _ there exhausted =>
        by_contra unpresentable
        obtain ⟨exception, raised⟩ := (last point there exhausted moved).mpr unpresentable
        exact clean (.last point there exhausted) exception raised
  · intro presentable completes exception raised
    cases completes with
    | saved saving =>
        rw [reply_saved saving moved] at raised
        cases raised
    | last point there exhausted =>
        exact (last point there exhausted moved).mp ⟨exception, raised⟩
          (presentable (.last point there exhausted) point)

end Runs

/-- **The completion of a stream**: in a run of `_stream_response` whose streams are chunks of the
OpenAI format, with texts of any length, any finish reason and any counts, every completion is clean
exactly when the streams that are completed can be counted and fit into a response. -/
theorem completion_iff (env : Environment) (upstreams : ℕ → Upstream) (request : ChatRequest)
    {registry : ProviderRegistry} (admissible : registry.Admissible) (virtualKeyId : ℤ)
    (requestId : Option String) (actions : List StreamAction) :
    Throughout (StreamSession.step env upstreams) (EndsCleanly env.python)
        (.init env request registry virtualKeyId requestId) actions ↔
      Throughout (StreamSession.step env upstreams) (EndsPresentably env.python)
        (.init env request registry virtualKeyId requestId) actions := by
  constructor
  · intro clean before action after state next split reached moved
    exact (endsCleanly_iff (live_run reached) admissible moved).mp
      (clean before action after state next split reached moved)
  · intro presentable before action after state next split reached moved
    exact (endsCleanly_iff (live_run reached) admissible moved).mpr
      (presentable before action after state next split reached moved)

/-- A chunk that ends an answer for some reason. -/
def endingLine (reason : String) : String :=
  sseChunk 0 (.str "chatcmpl-1") (.str "gpt-4o") .null .null (.str reason)

theorem lineChunk_endingLine (python : Interpreter) (reason : String) :
    lineChunk python (endingLine reason) = .ok (some
      (chunkObject 0 (.str "chatcmpl-1") (.str "gpt-4o") .null .null (.str reason) none)) :=
  lineChunk_sseChunk (keyed_chunkObject trivial trivial trivial trivial trivial (by simp))
    (takes_chunkObject (by decide) (Json.flat_str _) (Json.flat_str _) Json.flat_null Json.flat_null
      (Json.flat_str _) (fun _ same => by cases same))

theorem shaped_endingLine (python : Interpreter) (reason : String) :
    ShapedLine python (endingLine reason) := by
  intro chunk there
  cases (lineChunk_endingLine python reason).symm.trans there
  exact ⟨_, rfl, .inr trivial, .inr trivial,
    .inr (.inr ⟨_, _, rfl, .inr ⟨_, rfl, .inl rfl⟩, .inr trivial⟩), .inl rfl⟩

/-- An answer without a text that stops fits into a response. -/
theorem presentable_stop (python : Interpreter) : Presentable python [endingLine "stop"] := by
  have read : readingsOf python [endingLine "stop"] =
      some [⟨.str "chatcmpl-1", .str "gpt-4o", [], some (.str "stop"), none⟩] := by
    rw [readingsOf, lineChunk_endingLine]
    rfl
  intro readings same
  cases read.symm.trans same
  refine ⟨⟨by decide +kernel, by decide +kernel⟩, .inr ⟨?_, ?_, ⟨"", rfl, by decide⟩, ?_⟩⟩
  · rintro value last
    cases last
    exact ⟨_, rfl⟩
  · rintro value last
    cases last
    exact ⟨_, rfl⟩
  · rintro value last
    cases last
    exact ⟨.stop, rfl⟩

/-- A stream that ends with it. -/
def endingStream (reason : String) : Upstream where
  lines := [⟨"data: " ++ Json.dumps .spaced (chunkObject 0 (.str "chatcmpl-1") (.str "gpt-4o") .null
    .null (.str reason) none), 0⟩]
  ending := .exhausted

/-- The request for it. -/
def endingStart : StreamSession :=
  .init demoEnvironment (demoRequest true) (buildRegistry { openaiApiKey := some "sk-demo" }) 1 none

/-- The cache has no entry, and the chunk is relayed. -/
def endingRun : List StreamAction :=
  [.reply .nil ⟨0, fun _ => 0⟩, .advance ⟨0, fun _ => 0⟩, .pull ⟨0, fun _ => 0⟩]

/-- What a call has in hand: where it is, what it has yielded, whether a chunk was seen and a response
can be rebuilt, which adapter it reads, and what comes next. -/
structure InHand where
  point : StreamPoint
  output : List String
  seen : Bool
  rebuilt : Bool
  adapter : Option Adapter
  event : Option StreamEvent
deriving DecidableEq

def StreamSession.inHand (s : StreamSession) : InHand where
  point := s.call.point
  output := s.output
  seen := s.call.accumulator.sawAnyChunk
  rebuilt := s.call.accumulator.toResponse 0 matches .ok _
  adapter := s.call.servingProvider.map fun provider => provider.adapter
  event := s.relay.map fun relay => (relay.next .standard).1

/-- The client has received the answer, and then the call raises. -/
theorem tool_call_raises :
    ¬ Throughout (StreamSession.step demoEnvironment fun _ => endingStream "tool_calls")
      (EndsCleanly .standard) endingStart (endingRun ++ [.advance ⟨0, fun _ => 0⟩]) := by
  intro clean
  have before : (run (StreamSession.step demoEnvironment fun _ => endingStream "tool_calls") endingStart
      endingRun).map StreamSession.inHand =
        some ⟨.read, [endingLine "tool_calls"], true, false, some .openai, some .exhausted⟩ := by
    decide +kernel
  obtain ⟨s, reached, hand⟩ := Option.map_eq_some_iff.mp before
  obtain ⟨reading, output, seen, built, serving, exhausted⟩ := InHand.mk.inj hand
  obtain ⟨provider, served, -⟩ := Option.map_eq_some_iff.mp serving
  obtain ⟨relay, there, ended⟩ := Option.map_eq_some_iff.mp exhausted
  have incomplete : ¬ s.call.accumulator.Completable := by
    rcases toResponse_cases s.call.accumulator 0 with ⟨-, response, rebuilt⟩ | ⟨incomplete, -⟩
    · rw [rebuilt] at built
      cases built
    · exact incomplete
  have live := live_run reached
  obtain ⟨last, moved⟩ := @exists_advance demoEnvironment (fun _ => endingStream "tool_calls") s provider
    relay ⟨0, fun _ => 0⟩ reading served there
  have raises := @succeed_raises_iff demoEnvironment s.call ⟨0, fun _ => 0⟩ provider served
  obtain ⟨exception, raised⟩ := raises.mpr (.inr ⟨seen, incomplete⟩)
  rw [← advance_exhausted live reading there ended moved] at raised
  refine clean endingRun _ [] s last rfl reached moved ?_ (.last reading there ended) exception raised
  rw [output]
  exact List.forall_mem_singleton.mpr (shaped_endingLine .standard "tool_calls")

/-- An answer that stops is completed cleanly. -/
theorem completion_iff_stop :
    (run (StreamSession.step demoEnvironment fun _ => endingStream "stop") endingStart
        (endingRun ++ [.advance ⟨0, fun _ => 0⟩])).map (fun s => s.call.point) = some .cacheSet ∧
      Throughout (StreamSession.step demoEnvironment fun _ => endingStream "stop")
        (EndsCleanly .standard) endingStart (endingRun ++ [.advance ⟨0, fun _ => 0⟩]) := by
  refine ⟨by decide +kernel, (completion_iff demoEnvironment (fun _ => endingStream "stop")
    (demoRequest true) (buildRegistry_admissible { openaiApiKey := some "sk-demo" }) 1 none _).mpr ?_⟩
  have passed : passes (StreamSession.step demoEnvironment fun _ => endingStream "stop")
      (fun s action => !(action matches .advance _) || s.call.point != .read ||
        s.output == [endingLine "stop"]) endingStart
      (endingRun ++ [.advance ⟨0, fun _ => 0⟩]) = true := by decide +kernel
  refine throughout_of_passes (fun s action next test _ completes reading => ?_) passed
  have output : s.output = [endingLine "stop"] := by
    cases completes <;> simp_all
  rw [output]
  exact presentable_stop .standard

end LlmGateway
