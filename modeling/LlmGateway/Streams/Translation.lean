import LlmGateway.Streams.Billing
import LlmGateway.Streams.Replay
import LlmGateway.Streams.Statements

/-!
# The translation of Anthropic streams

The adapter keeps the identity and the input tokens of a start (`Opening`) and puts them into every
later chunk. The chunks are read back as what was heard (`yields_body`), so that they accumulate to
the message, and its last counts are the ones that are billed.

So a stream is translated as it was meant exactly if what the interpreter hears of it comes to what
was said, and every total can be written (`anthropic_translation_iff`).
-/

set_option autoImplicit false

namespace LlmGateway

open LlmGateway.Library
open LlmGateway.Library.PythonText

/-! ## Parts of a message -/

/-- A statement between the start and the stop. -/
def Said.InBody : Said → Prop
  | .text _ | .finish _ _ => True
  | .start _ _ _ | .stop => False

def Said.piece : Said → Option (List CodePoint)
  | .text piece => some piece
  | _ => none

def Said.ending : Said → Option (FinishReason × ℤ)
  | .finish reason outputTokens => some (reason, outputTokens)
  | _ => none

/-- The whole text. -/
def textOf (saids : List Said) : List CodePoint := (saids.filterMap Said.piece).flatten

/-- The last reason, with the output tokens. -/
def endingOf (saids : List Said) : Option (FinishReason × ℤ) := (saids.filterMap Said.ending).getLast?

/-- The message of some statements under an identity and after some input tokens. -/
def statedView (id model : List CodePoint) (inputTokens : ℤ) (saids : List Said) : ClientView where
  id := id
  model := model
  content := textOf saids
  finishReason := (endingOf saids).elim .stop Prod.fst
  usage := (endingOf saids).elim {} fun ending =>
    .clamped inputTokens ending.2 (inputTokens + ending.2)

/-- **What comes of the statements that are heard.** Without a start there is no identity, and the
model is the requested one as soon as there is a chunk. -/
def heardView (requested : String) : List Said → ClientView
  | .start id model inputTokens :: rest => statedView id model inputTokens rest
  | [] | [.stop] => statedView [] [] 0 []
  | saids => statedView [] (codePoints requested) 0 saids

/-- **The lines are translated into a message**: what the adapter yields ends with its only `[DONE]`
and accumulates to the message, and its counts are the ones that are billed. -/
def Translated (python : Interpreter) (requested : String) (lines : List UpstreamLine)
    (view : ClientView) : Prop :=
  ∃ chunks,
    Relay.Yields python (.start .anthropic requested ⟨lines, .exhausted⟩) (chunks ++ [doneLine])
        .exhausted ∧
      doneLine ∉ chunks ∧
        (∃ sawAnyChunk, (chunks ++ [doneLine]).forM (ChunkAccumulator.feed python) {} =
          .ok () (view.accumulator sawAnyChunk)) ∧
          (chunks ++ [doneLine]).foldlM (fun usage line => captureUsage python line usage)
            ({} : Usage) = .ok view.usage

/-! ## Chunks of the gateway -/

/-- The line is read as a chunk with the given reading. -/
def Reads (python : Interpreter) (line : String) (reading : ChunkReading) : Prop :=
  ∃ chunk, lineChunk python line = .ok (some chunk) ∧ chunkReading chunk = some reading

section Reads

variable {python : Interpreter} {line : String} {reading : ChunkReading}

theorem lineChunk_done (python : Interpreter) : lineChunk python doneLine = .ok none := by
  have empty : payload doneLine = none := by decide +kernel
  rw [lineChunk, empty]

theorem Reads.cons {rest : List String} {readings : List ChunkReading} (reads : Reads python line reading)
    (later : readingsOf python rest = some readings) :
    readingsOf python (line :: rest) = some (reading :: readings) := by
  obtain ⟨chunk, there, read⟩ := reads
  rw [readingsOf, there]
  simp [read, later]

theorem readingsOf_done (python : Interpreter) : readingsOf python [doneLine] = some [] := by
  rw [readingsOf, lineChunk_done]
  rfl

theorem Reads.ne_done (reads : Reads python line reading) : line ≠ doneLine := by
  rintro rfl
  obtain ⟨chunk, there, -⟩ := reads
  cases (lineChunk_done python).symm.trans there

theorem got_delta (role content : Json) :
    got (stated "role" role ++ stated "content" content) "content" = content := by
  cases role <;> cases content <;> rfl

theorem deltaReading_stated (role content : Json) :
    deltaReading (.obj (stated "role" role ++ stated "content" content)) = textReading content := by
  unfold deltaReading ifTruthy
  cases empty : truthy (.obj (stated "role" role ++ stated "content" content)) with
  | true => exact congrArg textReading (got_delta role content)
  | false =>
      cases content with
      | null => rfl
      | bool | int | float | str | broken | arr | obj => cases role <;> cases empty

/-- **The reading of a chunk of the gateway.** -/
theorem chunkReading_chunkObject {created : ℤ} {chunkId model role content finishReason : Json}
    {usage : Option Json} {counts : Option CountsReading} {text : List CodePoint}
    (filled : textReading content = some text)
    (counted : usageReading (usage.getD .null) = some counts) :
    chunkReading (chunkObject created chunkId model role content finishReason usage) =
      some ⟨chunkId, model, text, ifTruthy finishReason, counts⟩ := by
  have delta := deltaReading_stated role content
  rw [filled] at delta
  have choices : choicesReading (.arr [.obj [("index", .int 0),
      ("delta", .obj (stated "role" role ++ stated "content" content)),
      ("finish_reason", finishReason)]]) = some (text, ifTruthy finishReason) := by
    change (deltaReading (.obj (stated "role" role ++ stated "content" content))).map _ = _
    rw [delta]
    rfl
  have read (members : List (String × Json)) (identified : got members "id" = chunkId)
      (named : got members "model" = model)
      (chosen : got members "choices" = .arr [.obj [("index", .int 0),
        ("delta", .obj (stated "role" role ++ stated "content" content)),
        ("finish_reason", finishReason)]])
      (usages : got members "usage" = usage.getD .null) :
      chunkReading (.obj members) = some ⟨chunkId, model, text, ifTruthy finishReason, counts⟩ := by
    rw [chunkReading_obj, chosen, choices, usages, counted, identified, named]
    rfl
  cases usage with
  | none => exact read _ rfl rfl rfl rfl
  | some given => exact read _ rfl rfl rfl rfl

theorem textReading_ofText (piece : List CodePoint) : textReading (.ofText piece) = some piece := by
  unfold Json.ofText
  cases scalar : scalarText piece with
  | none => cases piece <;> rfl
  | some text =>
      rw [codePoints_of_scalarText scalar]
      by_cases empty : text = ""
      · rw [empty]
        rfl
      · simp [textReading, ifTruthy, truthy, empty]

end Reads

/-! ## What is remembered -/

/-- What the adapter remembers of the start of a message: texts that can be written again, and a
count that is not too long. -/
structure Opening where
  id : List CodePoint
  model : List CodePoint
  inputTokens : ℤ
  identified : (Json.ofText id).Keyed
  named : (Json.ofText model).Keyed
  short : Short inputTokens

namespace Opening

/-- What it has before any start. -/
def before (requested : String) : Opening where
  id := []
  model := codePoints requested
  inputTokens := 0
  identified := trivial
  named := by
    rw [Json.ofText_codePoints]
    trivial
  short := by decide

variable (opening : Opening)

def state : AnthropicState := ⟨.ofText opening.id, .ofText opening.model, opening.inputTokens, false⟩

/-- What the chunk of a statement says. -/
def reading : Said → ChunkReading
  | .text piece => { id := .ofText opening.id, model := .ofText opening.model, content := piece }
  | .finish reason outputTokens =>
      { id := .ofText opening.id, model := .ofText opening.model,
        finishReason := some (.str reason.toString),
        usage := some ⟨some opening.inputTokens, some outputTokens,
          some (opening.inputTokens + outputTokens)⟩ }
  | .start _ _ _ | .stop => { id := .ofText opening.id, model := .ofText opening.model }

/-- The message of some statements after the start. -/
def view (saids : List Said) : ClientView :=
  statedView opening.id opening.model opening.inputTokens saids

end Opening

theorem start_eq (requested : String) (upstream : Upstream) :
    Relay.start .anthropic requested upstream =
      ⟨.anthropic, (Opening.before requested).state, upstream⟩ := by
  simp only [Relay.start, Opening.state, Opening.before, Json.ofText_codePoints]
  rfl

section Adapter

variable {python : Interpreter} {line : UpstreamLine} {members : List (String × Json)}
  (opening : Opening)

/-- The chunk of a start. -/
theorem reads_start {created : ℤ} (clock : Short created) :
    Reads python (sseChunk created (.ofText opening.id) (.ofText opening.model) (.str "assistant"))
      { id := .ofText opening.id, model := .ofText opening.model } :=
  ⟨_, lineChunk_sseChunk
      (keyed_chunkObject opening.identified opening.named trivial trivial trivial (by simp))
      (takes_chunkObject clock (Json.flat_ofText _) (Json.flat_ofText _) (Json.flat_str _)
        Json.flat_null Json.flat_null (by simp)), chunkReading_chunkObject rfl rfl⟩

/-- A statement of the body gives one chunk, with what was remembered. -/
theorem readLine_body {said : Said} (event : anthropicEvent python line.text = .ok (some (.obj members)))
    (told : EventSays members said) (inside : said.InBody) {rest : List Said}
    (short : ShortFrom opening.inputTokens (said :: rest)) (clock : Short line.created) :
    ∃ text, Adapter.readLine .anthropic python opening.state line = .ok (opening.state, some text) ∧
      Reads python text (opening.reading said) := by
  have sound := sound_of_event event told
  cases said with
  | start | stop => cases inside
  | text piece =>
      refine ⟨_, readLine_text opening.state event told, _, lineChunk_sseChunk ?_ ?_,
        chunkReading_chunkObject (textReading_ofText piece) rfl⟩
      · exact keyed_chunkObject opening.identified opening.named trivial sound trivial (by simp)
      · exact takes_chunkObject clock (Json.flat_ofText _) (Json.flat_ofText _) Json.flat_null
          (Json.flat_ofText _) Json.flat_null (by simp)
  | finish reason outputTokens =>
      have total : Short (opening.state.inputTokens + outputTokens) := short.1
      have read := readLine_finish opening.state event told
      rw [if_pos total] at read
      refine ⟨_, read, _, lineChunk_sseChunk ?_ ?_, ?_⟩
      · refine keyed_chunkObject opening.identified opening.named trivial trivial trivial ?_
        rintro _ ⟨⟩
        exact keyed_usageJson _ _ _
      · refine takes_chunkObject clock (Json.flat_ofText _) (Json.flat_ofText _) Json.flat_null
          Json.flat_null (Json.flat_str _) ?_
        rintro _ ⟨⟩
        exact shallow_usageJson opening.short sound short.1
      · have ended : ifTruthy (.str reason.toString) = some (.str reason.toString) := by
          cases reason <;> rfl
        rw [chunkReading_chunkObject rfl rfl, ended]
        rfl

/-- After the stop nothing more is yielded. -/
theorem yields_rest {lines : List UpstreamLine} (hears : StreamHears python lines [])
    (state : AnthropicState) (done : state.doneSent = true) :
    Relay.Yields python ⟨.anthropic, state, ⟨lines, .exhausted⟩⟩ [] .exhausted := by
  generalize none_left : ([] : List Said) = saids at hears
  induction hears with
  | nil => exact .nil (by simp [Adapter.closingLine, done])
  | noise silent _ ih => exact .skip (readLine_silent silent state) (ih none_left)
  | said => cases none_left

/-- At the end of a body without a stop the mark is made up. -/
theorem yields_closing (state : AnthropicState) (unsent : state.doneSent = false) :
    Relay.Yields python ⟨.anthropic, state, ⟨[], .exhausted⟩⟩ [doneLine] .exhausted := by
  have next : Relay.next python ⟨.anthropic, state, ⟨[], .exhausted⟩⟩ =
      (.line doneLine, ⟨.anthropic, { state with doneSent := true }, ⟨[], .exhausted⟩⟩) := by
    simp only [Relay.next, Adapter.next, Adapter.closingLine, unsent]
    rfl
  refine .line (congrArg Prod.fst next) ?_
  rw [next]
  exact .nil (by simp [Adapter.closingLine])

/-- **The body of a stream**: one chunk for each statement, and the mark of the end, whether the
upstream sent one or not. -/
theorem yields_body {lines : List UpstreamLine} {body closing : List Said}
    (hears : StreamHears python lines (body ++ closing)) (inside : ∀ said ∈ body, said.InBody)
    (closed : closing = [] ∨ closing = [.stop]) (short : ShortFrom opening.inputTokens body)
    (clock : ∀ line ∈ lines, Short line.created) :
    ∃ chunks,
      Relay.Yields python ⟨.anthropic, opening.state, ⟨lines, .exhausted⟩⟩ (chunks ++ [doneLine])
        .exhausted ∧
      doneLine ∉ chunks ∧
        readingsOf python (chunks ++ [doneLine]) = some (body.map opening.reading) := by
  generalize whole : body ++ closing = saids at hears
  induction hears generalizing body with
  | nil =>
      obtain ⟨rfl, rfl⟩ := List.append_eq_nil_iff.mp whole
      exact ⟨[], yields_closing opening.state rfl, List.not_mem_nil, readingsOf_done python⟩
  | noise silent _ ih =>
      obtain ⟨chunks, yields, unique, read⟩ := ih inside short (List.forall_mem_cons.mp clock).2 whole
      exact ⟨chunks, .skip (readLine_silent silent _) yields, unique, read⟩
  | said event told later ih =>
      obtain ⟨now, others⟩ := List.forall_mem_cons.mp clock
      cases body with
      | nil =>
          obtain rfl | rfl := closed
          · cases whole
          obtain ⟨rfl, rfl⟩ := List.cons.inj whole
          exact ⟨[], .cons (readLine_stop _ event told) (yields_rest later _ rfl), List.not_mem_nil,
            readingsOf_done python⟩
      | cons first rest =>
          obtain ⟨rfl, rfl⟩ := List.cons.inj whole
          obtain ⟨here, more⟩ := List.forall_mem_cons.mp inside
          have rest_short : ShortFrom opening.inputTokens rest := by
            cases first with
            | start | stop => cases here
            | text => exact short
            | finish => exact short.2
          obtain ⟨text, read, reads⟩ := readLine_body opening event told here short now
          obtain ⟨chunks, yields, unique, readings⟩ := ih more rest_short others rfl
          refine ⟨text :: chunks, .cons read yields, ?_, reads.cons readings⟩
          rw [List.mem_cons, not_or]
          exact ⟨reads.ne_done.symm, unique⟩

/-- **A stream with a start**, whatever the adapter remembers of an earlier one. -/
theorem yields_stream {lines : List UpstreamLine} {id model : List CodePoint} {inputTokens : ℤ}
    {body closing : List Said}
    (hears : StreamHears python lines (.start id model inputTokens :: body ++ closing))
    (inside : ∀ said ∈ body, said.InBody) (closed : closing = [] ∨ closing = [.stop])
    (short : ShortFrom inputTokens body) (clock : ∀ line ∈ lines, Short line.created)
    (state : AnthropicState) (unsent : state.doneSent = false) :
    ∃ (opening : Opening) (chunks : List String), opening.view = statedView id model inputTokens ∧
      Relay.Yields python ⟨.anthropic, state, ⟨lines, .exhausted⟩⟩ (chunks ++ [doneLine]) .exhausted ∧
      doneLine ∉ chunks ∧
        readingsOf python (chunks ++ [doneLine]) =
          some ({ id := .ofText opening.id, model := .ofText opening.model } ::
            body.map opening.reading) := by
  generalize whole : Said.start id model inputTokens :: body ++ closing = saids at hears
  induction hears with
  | nil => cases whole
  | noise silent _ ih =>
      obtain ⟨opening, chunks, same, yields, unique, read⟩ :=
        ih (List.forall_mem_cons.mp clock).2 whole
      exact ⟨opening, chunks, same, .skip (readLine_silent silent state) yields, unique, read⟩
  | @said line _ _ _ _ event told later _ =>
      obtain ⟨rfl, rfl⟩ := List.cons.inj whole
      obtain ⟨now, others⟩ := List.forall_mem_cons.mp clock
      obtain ⟨identified, named, counted⟩ := sound_of_event event told
      let opening : Opening := ⟨id, model, inputTokens, identified, named, counted⟩
      obtain ⟨chunks, yields, unique, read⟩ := yields_body opening later inside closed short others
      have start := readLine_start state event told
      rw [unsent] at start
      have reads := @reads_start python opening line.created now
      refine ⟨opening, _ :: chunks, rfl, .cons start yields, ?_, reads.cons read⟩
      rw [List.mem_cons, not_or]
      exact ⟨reads.ne_done.symm, unique⟩

end Adapter

/-! ## The whole stream -/

section Whole

variable (opening : Opening) (body : List Said)

theorem orElse_self (value : Json) : orElse value value = value := by
  unfold orElse
  split_ifs <;> rfl

/-- One more statement. -/
theorem absorb_reading {said : Said} (inside : said.InBody) :
    ((opening.view body).accumulator true).absorb (opening.reading said) =
      (opening.view (body ++ [said])).accumulator true := by
  cases said with
  | start | stop => cases inside
  | text piece =>
      simp [ChunkAccumulator.absorb, Opening.reading, Opening.view, statedView, ClientView.accumulator,
        textOf, endingOf, Said.piece, Said.ending, orElse_self]
  | finish reason outputTokens =>
      simp [ChunkAccumulator.absorb, Opening.reading, Opening.view, statedView, ClientView.accumulator,
        textOf, endingOf, List.filterMap_cons, Said.piece, Said.ending, orElse_self,
        CountsReading.apply]

theorem foldl_absorb_body {body : List Said} (inside : ∀ said ∈ body, said.InBody) :
    (body.map opening.reading).foldl ChunkAccumulator.absorb ((opening.view []).accumulator true) =
      (opening.view body).accumulator true := by
  induction body using List.reverseRecOn with
  | nil => rfl
  | append_singleton body said ih =>
      obtain ⟨before, last⟩ := List.forall_mem_append.mp inside
      rw [List.map_append, List.foldl_append, ih before]
      exact absorb_reading opening body (last said (List.mem_singleton_self _))

/-- The first chunk makes up for what a fresh accumulator does not have. -/
theorem absorb_fresh {reading : ChunkReading} (identified : reading.id = .ofText opening.id)
    (named : reading.model = .ofText opening.model) :
    ({} : ChunkAccumulator).absorb reading =
      ((opening.view []).accumulator true).absorb reading := by
  have kept (text : List CodePoint) : orElse (.ofText text) (.str "") = .ofText text := by
    rw [orElse, truthy_ofText]
    cases text <;> rfl
  simp only [ChunkAccumulator.absorb, identified, named, kept, Opening.view, statedView,
    ClientView.accumulator, orElse_self]
  rfl

/-- The counts of the body come with a total. -/
theorem balanced_body : Balanced (countsOf (body.map opening.reading)) := by
  intro before last same absent
  have member : last ∈ countsOf (body.map opening.reading) := by
    rw [same]
    exact List.mem_append_right _ (List.mem_singleton_self last)
  obtain ⟨reading, listed, given⟩ := List.mem_filterMap.mp member
  obtain ⟨said, -, rfl⟩ := List.mem_map.mp listed
  cases said with
  | start | text | stop => cases given
  | finish =>
      cases given
      cases absent

end Whole

section Heard

variable {python : Interpreter} {requested : String} {lines : List UpstreamLine}

/-- Readings that add up to a message, with balanced counts. -/
theorem translated_of_readings {chunks : List String} {readings : List ChunkReading} {view : ClientView}
    (sawAnyChunk : Bool)
    (yields : Relay.Yields python (.start .anthropic requested ⟨lines, .exhausted⟩) (chunks ++ [doneLine])
      .exhausted)
    (unique : doneLine ∉ chunks) (read : readingsOf python (chunks ++ [doneLine]) = some readings)
    (adds : readings.foldl ChunkAccumulator.absorb {} = view.accumulator sawAnyChunk)
    (balanced : Balanced (countsOf readings)) : Translated python requested lines view := by
  refine ⟨chunks, yields, unique, ⟨sawAnyChunk, ?_⟩, ?_⟩
  · refine (forM_feed_reading python (chunks ++ [doneLine]) {}).ok_of_some ?_
    rw [read, Option.map_some, adds]
  · have counts := congrArg ChunkAccumulator.usage adds
    rw [foldl_absorb_usage] at counts
    rw [foldlM_captureUsage_reading read, foldl_usageAbsorb]
    exact congrArg Except.ok (((cachedUsage_eq_iff _).mpr balanced).symm.trans counts)

theorem statedView_closing {id model : List CodePoint} {inputTokens : ℤ} (body : List Said)
    {closing : List Said} (closed : closing = [] ∨ closing = [.stop]) :
    statedView id model inputTokens (body ++ closing) = statedView id model inputTokens body := by
  rcases closed with rfl | rfl
  · rw [List.append_nil]
  · simp [statedView, textOf, endingOf, Said.piece, Said.ending]

/-- **What is heard is translated**, when it begins with the start. -/
theorem translated_started {id model : List CodePoint} {inputTokens : ℤ} {body closing : List Said}
    (hears : StreamHears python lines (.start id model inputTokens :: body ++ closing))
    (inside : ∀ said ∈ body, said.InBody) (closed : closing = [] ∨ closing = [.stop])
    (short : ShortFrom inputTokens body) (clock : ∀ line ∈ lines, Short line.created) :
    Translated python requested lines
      (heardView requested (.start id model inputTokens :: body ++ closing)) := by
  obtain ⟨opening, chunks, same, yields, unique, read⟩ :=
    yields_stream hears inside closed short clock (Opening.before requested).state rfl
  rw [← start_eq] at yields
  refine translated_of_readings true yields unique read ?_ ?_
  · change _ = (statedView id model inputTokens (body ++ closing)).accumulator true
    rw [statedView_closing body closed, ← same, List.foldl_cons, absorb_fresh opening rfl rfl,
      ← foldl_absorb_body opening inside]
    congr 1
    simp [ChunkAccumulator.absorb, orElse_self, Opening.view, statedView, ClientView.accumulator,
      textOf]
  · exact balanced_body opening body

/-- **What is heard is translated**, when the start is not heard. -/
theorem translated_unstarted {body closing : List Said} (hears : StreamHears python lines (body ++ closing))
    (inside : ∀ said ∈ body, said.InBody) (closed : closing = [] ∨ closing = [.stop])
    (short : ShortFrom 0 body) (clock : ∀ line ∈ lines, Short line.created) :
    Translated python requested lines (heardView requested (body ++ closing)) := by
  obtain ⟨chunks, yields, unique, read⟩ :=
    yields_body (Opening.before requested) hears inside closed short clock
  rw [← start_eq] at yields
  have balanced := balanced_body (Opening.before requested) body
  cases body with
  | nil =>
      refine translated_of_readings false yields unique read ?_ balanced
      rcases closed with rfl | rfl <;> rfl
  | cons first rest =>
      refine translated_of_readings true yields unique read ?_ balanced
      have view : heardView requested (first :: rest ++ closing) =
          (Opening.before requested).view (first :: rest) := by
        rw [Opening.view, ← statedView_closing (first :: rest) closed]
        obtain ⟨here, -⟩ := List.forall_mem_cons.mp inside
        cases first with
        | start | stop => cases here
        | text | finish => rfl
      rw [view, ← foldl_absorb_body (Opening.before requested) inside, List.map_cons, List.foldl_cons,
        List.foldl_cons, absorb_fresh (Opening.before requested)]
      · cases first <;> rfl
      · cases first <;> rfl

/-- A part of a stream with a start and a stop. -/
theorem parts_of_sublist {id model : List CodePoint} {inputTokens : ℤ} {body heard : List Said}
    (inside : ∀ said ∈ body, said.InBody)
    (part : heard.Sublist (.start id model inputTokens :: body ++ [.stop])) :
    ∃ inner closing, (∀ said ∈ inner, said.InBody) ∧ (closing = [] ∨ closing = [.stop]) ∧
      (heard = .start id model inputTokens :: inner ++ closing ∨ heard = inner ++ closing) := by
  obtain ⟨front, closing, rfl, before, after⟩ := List.sublist_append_iff.mp part
  have closed : closing = [] ∨ closing = [Said.stop] := List.sublist_singleton.mp after
  rcases List.sublist_cons_iff.mp before with inner | ⟨inner, rfl, later⟩
  · exact ⟨front, closing, fun said member => inside said (inner.subset member), closed, .inr rfl⟩
  · exact ⟨inner, closing, fun said member => inside said (later.subset member), closed, .inl rfl⟩

theorem shortFrom_append {inputTokens : ℤ} {body closing : List Said}
    (inside : ∀ said ∈ body, said.InBody) (short : ShortFrom inputTokens (body ++ closing)) :
    ShortFrom inputTokens body := by
  induction body with
  | nil => trivial
  | cons first rest ih =>
      obtain ⟨here, others⟩ := List.forall_mem_cons.mp inside
      cases first with
      | start | stop => cases here
      | text => exact ih others short
      | finish => exact ⟨short.1, ih others short.2⟩

/-- **What is heard of a stream is translated.** -/
theorem translated_of_hears {id model : List CodePoint} {inputTokens : ℤ} {body heard : List Said}
    (inside : ∀ said ∈ body, said.InBody)
    (part : heard.Sublist (.start id model inputTokens :: body ++ [.stop]))
    (hears : StreamHears python lines heard) (short : ShortFrom 0 heard)
    (clock : ∀ line ∈ lines, Short line.created) :
    Translated python requested lines (heardView requested heard) := by
  obtain ⟨inner, closing, within, closed, rfl | rfl⟩ := parts_of_sublist inside part
  · exact translated_started hears within closed (shortFrom_append within short) clock
  · exact translated_unstarted hears within closed (shortFrom_append within short) clock

theorem FinishReason.toString_injective {first second : FinishReason}
    (same : first.toString = second.toString) : first = second := by
  have read := FinishReason.ofString_toString first
  rw [same, FinishReason.ofString_toString] at read
  exact (Option.some.inj read).symm

/-- A stream is translated into one message. -/
theorem Translated.unique {first second : ClientView} (one : Translated python requested lines first)
    (other : Translated python requested lines second) : first = second := by
  obtain ⟨chunks, yields, -, ⟨saw, fed⟩, -⟩ := one
  obtain ⟨others, same, -, ⟨seen, again⟩, -⟩ := other
  rw [(same.unique yields).1, fed] at again
  obtain ⟨id, model, content, reason, usage, -⟩ :=
    ChunkAccumulator.mk.inj (EStateM.Result.ok.inj again).2
  obtain ⟨firstId, firstModel, firstContent, firstReason, firstUsage⟩ := first
  obtain ⟨secondId, secondModel, secondContent, secondReason, secondUsage⟩ := second
  rw [ClientView.mk.injEq]
  exact ⟨ofText_injective id, ofText_injective model, content,
    FinishReason.toString_injective (Json.str.inj reason), usage⟩

/-- **What a stream is translated into** is what is heard of it. -/
theorem translated_iff {id model : List CodePoint} {inputTokens : ℤ} {body : List Said}
    {view : ClientView} (told : StreamSays lines (.start id model inputTokens :: body ++ [.stop]))
    (inside : ∀ said ∈ body, said.InBody) (clock : ∀ line ∈ lines, Short line.created) :
    Translated python requested lines view ↔
      ∃ heard, StreamHears python lines heard ∧ ShortFrom 0 heard ∧ heardView requested heard = view := by
  constructor
  · intro translated
    have ⟨chunks, yields, _⟩ := translated
    rw [start_eq] at yields
    obtain ⟨heard, hears⟩ := hears_of_yields told yields
    have short := shortFrom_of_yields hears yields
    exact ⟨heard, hears, short,
      (translated_of_hears inside (hears.part told) hears short clock).unique translated⟩
  · rintro ⟨heard, hears, short, rfl⟩
    exact translated_of_hears inside (hears.part told) hears short clock

end Heard

/-- **The translation of an Anthropic stream**: whatever stands between the start, the pieces of text,
at least one `message_delta` and the stop, the adapter ends what it yields with its only `[DONE]`, the
chunks before accumulate to the identity of the start, the whole text, the last reason, and the input
tokens of the start with the last output tokens, and the same counts are billed, exactly if no line is
nested too deeply, what the interpreter hears comes to that message, and every total can be written. -/
theorem anthropic_translation_iff (python : Interpreter) (requested : String)
    {lines : List UpstreamLine} {id model : List CodePoint} {inputTokens outputTokens : ℤ}
    {body : List Said} {reason : FinishReason}
    (told : StreamSays lines (.start id model inputTokens :: body ++ [.stop]))
    (inside : ∀ said ∈ body, said.InBody) (last : endingOf body = some (reason, outputTokens))
    (clock : ∀ line ∈ lines, Short line.created) :
    Translated python requested lines ⟨id, model, textOf body, reason,
        .clamped inputTokens outputTokens (inputTokens + outputTokens)⟩ ↔
      ∃ heard, StreamHears python lines heard ∧ ShortFrom 0 heard ∧
        heardView requested heard = statedView id model inputTokens body := by
  have view : statedView id model inputTokens body = ⟨id, model, textOf body, reason,
      .clamped inputTokens outputTokens (inputTokens + outputTokens)⟩ := by
    rw [statedView, last]
    rfl
  rw [← view]
  exact translated_iff told inside clock

/-! ## Data lines -/

/-- The data line of an event. -/
def dataLine (members : List (String × Json)) (created : ℤ) : UpstreamLine :=
  ⟨"data: " ++ Json.dumps .spaced (.obj members), created⟩

section DataLine

variable {members : List (String × Json)} {created : ℤ}

/-- The payload of the line is the text of the event. -/
theorem payload_dataLine :
    dataMark.isPrefixOf (dataLine members created).text.toList = true ∧
      String.ofList (strip ((dataLine members created).text.toList.drop 6)) =
        Json.dumps .spaced (.obj members) := by
  obtain ⟨front, printed⟩ := print_obj_braces .spaced members
  have line : (dataLine members created).text.toList = dataMark ++ ('{' :: front ++ ['}']) := by
    rw [dataLine, String.toList_append, Json.dumps, String.toList_ofList, printed]
    exact congrArg (dataMark ++ ·) String.toList_ofList
  have inner := strip_edges front (show isSpace '{' = false by decide)
    (show isSpace '}' = false by decide)
  have rest : (dataMark ++ ('{' :: front ++ ['}'])).drop 6 = '{' :: front ++ ['}'] := rfl
  rw [line, rest, inner, ← printed]
  exact ⟨List.isPrefixOf_iff_prefix.mpr (List.prefix_append _ _), rfl⟩

theorem lineEvent_dataLine (keyed : (Json.obj members).Keyed) :
    lineEvent (dataLine members created).text = some (.obj members) := by
  obtain ⟨marked, text⟩ := @payload_dataLine members created
  rw [lineEvent, if_pos marked, text]
  exact Json.parse_dumps .spaced keyed

theorem anthropicEvent_dataLine {python : Interpreter} (keyed : (Json.obj members).Keyed)
    (takes : python.Takes (.obj members)) :
    anthropicEvent python (dataLine members created).text = .ok (some (.obj members)) := by
  obtain ⟨marked, text⟩ := @payload_dataLine members created
  have loaded : python.loads (Json.dumps .spaced (.obj members)) = .ok (.obj members) :=
    Interpreter.loads_dumps .spaced keyed takes
  rw [anthropicEvent, if_pos marked, text, tryLoads, loaded]

end DataLine

/-- A start, a reason and the stop, with so many input tokens. -/
def startMembers (inputTokens : ℤ) : List (String × Json) :=
  [("type", .str "message_start"),
    ("message", .obj [("id", .str "msg_1"), ("model", .str "claude"),
      ("usage", .obj [("input_tokens", .int inputTokens)])])]

/-- A piece of text. -/
def pieceMembers (piece : String) : List (String × Json) :=
  [("type", .str "content_block_delta"),
    ("delta", .obj [("type", .str "text_delta"), ("text", .str piece)])]

def finishMembers : List (String × Json) :=
  [("type", .str "message_delta"), ("delta", .obj [("stop_reason", .str "max_tokens")]),
    ("usage", .obj [("output_tokens", .int 3)])]

def stopMembers : List (String × Json) := [("type", .str "message_stop")]

theorem says_start (inputTokens : ℤ) : EventSays (startMembers inputTokens)
    (.start (codePoints "msg_1") (codePoints "claude") inputTokens) :=
  .start rfl rfl (congrArg some (Json.ofText_codePoints _).symm)
    (congrArg some (Json.ofText_codePoints _).symm) rfl rfl rfl

theorem says_piece (piece : String) : EventSays (pieceMembers piece) (.text (codePoints piece)) :=
  .text rfl rfl rfl (Json.ofText_codePoints piece).symm

theorem says_finish : EventSays finishMembers (.finish .length 3) := .finish rfl rfl rfl rfl rfl rfl

theorem says_stop : EventSays stopMembers .stop := .stop rfl

theorem keyed_startMembers (inputTokens : ℤ) : (Json.obj (startMembers inputTokens)).Keyed := by
  simp [startMembers, Json.Keyed, Json.KeyedMembers]

theorem keyed_pieceMembers (piece : String) : (Json.obj (pieceMembers piece)).Keyed := by
  simp [pieceMembers, Json.Keyed, Json.KeyedMembers]

theorem keyed_finishMembers : (Json.obj finishMembers).Keyed := by
  simp [finishMembers, Json.Keyed, Json.KeyedMembers]

theorem keyed_stopMembers : (Json.obj stopMembers).Keyed := by
  simp [stopMembers, Json.Keyed, Json.KeyedMembers]

theorem event_startMembers {inputTokens created : ℤ} (short : Short inputTokens) :
    anthropicEvent .standard (dataLine (startMembers inputTokens) created).text =
      .ok (some (.obj (startMembers inputTokens))) := by
  refine anthropicEvent_dataLine (keyed_startMembers inputTokens) ?_
  simpa [startMembers, Interpreter.Takes, Interpreter.standard, Json.Fits, Json.FitsMembers, Json.deeper]
    using Json.flat_int short none

theorem event_pieceMembers (piece : String) {created : ℤ} :
    anthropicEvent .standard (dataLine (pieceMembers piece) created).text =
      .ok (some (.obj (pieceMembers piece))) := by
  refine anthropicEvent_dataLine (keyed_pieceMembers piece) ?_
  simp [pieceMembers, Interpreter.Takes, Interpreter.standard, Json.Fits, Json.FitsMembers, Json.deeper]

theorem event_finishMembers {created : ℤ} :
    anthropicEvent .standard (dataLine finishMembers created).text = .ok (some (.obj finishMembers)) := by
  refine anthropicEvent_dataLine keyed_finishMembers ?_
  simp [finishMembers, Interpreter.Takes, Interpreter.standard, Json.Fits, Json.FitsMembers, Json.deeper]
  decide

theorem event_stopMembers {created : ℤ} :
    anthropicEvent .standard (dataLine stopMembers created).text = .ok (some (.obj stopMembers)) := by
  refine anthropicEvent_dataLine keyed_stopMembers ?_
  simp [stopMembers, Interpreter.Takes, Interpreter.standard, Json.Fits, Json.FitsMembers, Json.deeper]

/-- A count of one digit more than an interpreter reads. -/
def longCount : ℤ := 10 ^ maxStrDigits

theorem not_short_longCount : ¬ Short longCount := by
  have ten : (10 : ℤ).natAbs = 10 := rfl
  rw [short_iff, longCount, Int.natAbs_pow, ten]
  exact lt_irrefl _

/-- A stream that states it. -/
def longCountLines : List UpstreamLine :=
  [dataLine (startMembers longCount) 0, dataLine finishMembers 0, dataLine stopMembers 0]

/-- The input tokens are not counted. -/
theorem long_count_unheard :
    StreamSays longCountLines
        (.start (codePoints "msg_1") (codePoints "claude") longCount :: [.finish .length 3] ++ [.stop]) ∧
      ¬ Translated .standard "claude" longCountLines ⟨codePoints "msg_1", codePoints "claude",
        textOf [.finish .length 3], .length, .clamped longCount 3 (longCount + 3)⟩ := by
  have rest : StreamSays [dataLine finishMembers 0, dataLine stopMembers 0] [.finish .length 3, .stop] :=
    .said (lineEvent_dataLine keyed_finishMembers) says_finish
      (.said (lineEvent_dataLine keyed_stopMembers) says_stop .nil)
  have start := @lineEvent_dataLine (startMembers longCount) 0 (keyed_startMembers longCount)
  have told : StreamSays longCountLines
      (.start (codePoints "msg_1") (codePoints "claude") longCount :: [.finish .length 3] ++ [.stop]) :=
    .said start (says_start longCount) rest
  refine ⟨told, fun translated => ?_⟩
  have clock : ∀ line ∈ longCountLines, Short line.created := by
    simp only [longCountLines, List.forall_mem_cons, dataLine]
    decide
  obtain ⟨heard, hears, -, same⟩ := (translated_iff told (by simp [Said.InBody]) clock).mp translated
  -- the start is not decoded, so that no identity is heard
  have unheard : heard.Sublist [.finish .length 3, .stop] := by
    cases hears with
    | noise _ later => exact later.part rest
    | said event meant =>
        have sound := sound_of_event event meant
        obtain rfl := Json.obj.inj (Option.some.inj ((lineEvent_of_anthropicEvent event).symm.trans start))
        rw [meant.unique (says_start longCount)] at sound
        exact absurd sound.2.2 not_short_longCount
  have nameless : (heardView "claude" heard).id = [] := by
    rcases List.sublist_cons_iff.mp unheard with short | ⟨tail, rfl, -⟩
    · rcases List.sublist_singleton.mp short with rfl | rfl <;> rfl
    · rfl
  have named := congrArg ClientView.id same
  rw [nameless] at named
  exact absurd named (by decide)

/-- A stream with noise between its events. -/
def noisyStream : List UpstreamLine :=
  [⟨"event: message_start", 0⟩, dataLine (startMembers 7) 0, ⟨"", 0⟩, ⟨"data: ?", 0⟩,
    dataLine (pieceMembers "Hi") 1, dataLine finishMembers 2, dataLine stopMembers 2]

/-- It is translated. -/
theorem anthropic_translation_noisy :
    Translated .standard "claude-3" noisyStream ⟨codePoints "msg_1", codePoints "claude",
      textOf [.text (codePoints "Hi"), .finish .length 3], .length, .clamped 7 3 (7 + 3)⟩ := by
  have hears : StreamHears .standard noisyStream (.start (codePoints "msg_1") (codePoints "claude") 7 ::
      [.text (codePoints "Hi"), .finish .length 3] ++ [.stop]) :=
    .noise (silent_of_none rfl) (.said (event_startMembers (by decide)) (says_start 7)
      (.noise (silent_of_none rfl) (.noise (silent_of_none rfl)
        (.said (event_pieceMembers "Hi") (says_piece "Hi") (.said event_finishMembers says_finish
          (.said event_stopMembers says_stop .nil))))))
  have unmarked {line : UpstreamLine} (dropped : lineEvent line.text = none) (event : Json)
      (there : lineEvent line.text = some event) : EventSilent event := by
    cases dropped.symm.trans there
  have told : StreamSays noisyStream (.start (codePoints "msg_1") (codePoints "claude") 7 ::
      [.text (codePoints "Hi"), .finish .length 3] ++ [.stop]) :=
    .noise (unmarked (by decide +kernel)) (.said (lineEvent_dataLine (keyed_startMembers 7)) (says_start 7)
      (.noise (unmarked (by decide +kernel)) (.noise (unmarked (by decide +kernel))
        (.said (lineEvent_dataLine (keyed_pieceMembers "Hi")) (says_piece "Hi")
          (.said (lineEvent_dataLine keyed_finishMembers) says_finish
            (.said (lineEvent_dataLine keyed_stopMembers) says_stop .nil))))))
  have clock : ∀ line ∈ noisyStream, Short line.created := by
    simp only [noisyStream, List.forall_mem_cons, dataLine]
    decide
  exact (anthropic_translation_iff .standard "claude-3" told (by simp [Said.InBody]) rfl clock).mpr
    ⟨_, hears, ⟨by decide, trivial⟩, rfl⟩

end LlmGateway
