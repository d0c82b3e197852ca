import LlmGateway.Spending.Counts
import LlmGateway.Streams.Lines

/-!
# Replaying a stream

What a client learns from a stream of OpenAI chunks is a `ClientView`: the last identity, the
whole content, why the answer ended, and the last counts. `ChunkAccumulator` computes the view of
the chunks that it decodes, its `to_response` is a cache entry with that view, and the lines that
replay the entry have the view once more.

The view of the client is kept with three exceptions. A line that is nested too deeply raises, a
line with an integer that is too long is passed over, and a text with a surrogate that stands alone
is refused by the validation of the response. `replay_equals_live_iff` says that there is no other
one.
-/

set_option autoImplicit false

namespace LlmGateway

open LlmGateway.Library
open LlmGateway.Library.PythonText

/-! ## Chunks -/

/-- What a chunk tells. Counts are not negative. -/
structure OpenAiChunk where
  id : Option (List CodePoint) := none
  model : Option (List CodePoint) := none
  content : Option (List CodePoint) := none
  finishReason : Option FinishReason := none
  usage : Option Usage := none

/-- A member that is a text, or `null`, or missing. -/
def optionalText : Option Json → Option (Option (List CodePoint))
  | none | some .null => some none
  | some (.str text) => some (some (codePoints text))
  | some (.broken text) => some (some text)
  | some _ => none

/-- A member that is a finish reason, or `null`, or missing. -/
def optionalReason : Option Json → Option (Option FinishReason)
  | none | some .null => some none
  | some (.str text) => (FinishReason.ofString text).map some
  | some _ => none

/-- The content of a delta. -/
def deltaContent : Option Json → Option (Option (List CodePoint))
  | none | some .null => some none
  | some (.obj delta) => optionalText (Json.lookup "content" delta)
  | some _ => none

/-- The content and the finish reason of the first choice, if there is one. -/
def firstChoice : Option Json → Option (Option (List CodePoint) × Option FinishReason)
  | none | some .null | some (.arr []) => some (none, none)
  | some (.arr (.obj choice :: _)) => do
      let content ← deltaContent (Json.lookup "delta" choice)
      let finishReason ← optionalReason (Json.lookup "finish_reason" choice)
      some (content, finishReason)
  | some _ => none

/-- A member that is a count. -/
def countMember : Option Json → Option ℤ
  | some (.int n) => if 0 ≤ n then some n else none
  | _ => none

/-- A `usage` object with three counts, or `null`, or nothing. -/
def optionalUsage : Option Json → Option (Option Usage)
  | none | some .null => some none
  | some (.obj usage) => do
      let prompt ← countMember (Json.lookup "prompt_tokens" usage)
      let completion ← countMember (Json.lookup "completion_tokens" usage)
      let total ← countMember (Json.lookup "total_tokens" usage)
      some (some ⟨prompt, completion, total⟩)
  | some _ => none

/-- The chunk that a JSON value is; nothing if it is not of the format. -/
def OpenAiChunk.read : Json → Option OpenAiChunk
  | .obj members => do
      let id ← optionalText (Json.lookup "id" members)
      let model ← optionalText (Json.lookup "model" members)
      let choice ← firstChoice (Json.lookup "choices" members)
      let usage ← optionalUsage (Json.lookup "usage" members)
      some ⟨id, model, choice.1, choice.2, usage⟩
  | _ => none

/-- Every line is a chunk, or has no JSON payload. -/
def WellFormed (lines : List String) : Prop :=
  ∀ line ∈ lines, ∀ chunk, lineValue line = some chunk → OpenAiChunk.read chunk ≠ none

/-- The chunks of some lines. -/
def chunksOf (lines : List String) : List OpenAiChunk :=
  lines.filterMap fun line => (lineValue line).bind OpenAiChunk.read

/-- No line is nested too deeply. -/
def Decodable (python : Interpreter) (lines : List String) : Prop :=
  ∀ line ∈ lines, ∃ read, lineChunk python line = .ok read

/-- The chunk of a line that an interpreter decodes. -/
def decodedChunk (python : Interpreter) (line : String) : Option OpenAiChunk :=
  match lineChunk python line with
  | .ok (some value) => OpenAiChunk.read value
  | _ => none

/-- The chunks that an interpreter decodes. -/
def decodedChunks (python : Interpreter) (lines : List String) : List OpenAiChunk :=
  lines.filterMap (decodedChunk python)

/-! ## What a client learns -/

structure ClientView where
  id : List CodePoint
  model : List CodePoint
  content : List CodePoint
  finishReason : FinishReason
  usage : Usage
deriving DecidableEq

/-- The last text that is not empty. -/
def lastText (texts : List (List CodePoint)) : List CodePoint :=
  (texts.filter fun text => text != []).getLastD []

/-- **The view of a client**: the last identity, the whole content, the last finish reason and the
last counts. -/
def clientView (chunks : List OpenAiChunk) : ClientView where
  id := lastText (chunks.filterMap OpenAiChunk.id)
  model := lastText (chunks.filterMap OpenAiChunk.model)
  content := (chunks.filterMap OpenAiChunk.content).flatten
  finishReason := (chunks.filterMap OpenAiChunk.finishReason).getLastD .stop
  usage := (chunks.filterMap OpenAiChunk.usage).getLastD {}

/-- A text that replaces another one unless it is empty or missing. -/
def replaced (old : List CodePoint) : Option (List CodePoint) → List CodePoint
  | some text => if text = [] then old else text
  | none => old

/-- The view of one more chunk. -/
def ClientView.absorb (view : ClientView) (chunk : OpenAiChunk) : ClientView where
  id := replaced view.id chunk.id
  model := replaced view.model chunk.model
  content := view.content ++ chunk.content.getD []
  finishReason := chunk.finishReason.getD view.finishReason
  usage := chunk.usage.getD view.usage

theorem lastText_append (texts : List (List CodePoint)) (text : List CodePoint) :
    lastText (texts ++ [text]) = if text = [] then lastText texts else text := by
  unfold lastText
  by_cases empty : text = []
  · subst empty
    simp
  · simp [empty]

/-- The view is a fold over the chunks. -/
theorem clientView_append (chunks : List OpenAiChunk) (chunk : OpenAiChunk) :
    clientView (chunks ++ [chunk]) = (clientView chunks).absorb chunk := by
  obtain ⟨id, model, content, finishReason, usage⟩ := chunk
  unfold clientView ClientView.absorb
  congr 1
  · cases id <;> simp [lastText_append, replaced]
  · cases model <;> simp [lastText_append, replaced]
  · cases content <;> simp
  · cases finishReason <;> simp
  · cases usage <;> simp

/-- The view of a list of chunks is what they add up to. -/
theorem clientView_eq_foldl (chunks : List OpenAiChunk) :
    clientView chunks = chunks.foldl ClientView.absorb ⟨[], [], [], .stop, {}⟩ := by
  induction chunks using List.reverseRecOn with
  | nil => rfl
  | append_singleton chunks chunk ih =>
      rw [clientView_append, ih, List.foldl_append]
      rfl

/-! ## The accumulator -/

/-- The accumulator with a view. -/
def ClientView.accumulator (view : ClientView) (sawAnyChunk : Bool) : ChunkAccumulator where
  id := .ofText view.id
  model := .ofText view.model
  content := view.content
  finishReason := .str view.finishReason.toString
  usage := view.usage
  sawAnyChunk := sawAnyChunk

/-- Counts that are written as they are read. -/
structure Usage.Plain (usage : Usage) : Prop where
  nonNegative : usage.NonNegative
  prompt : Short usage.promptTokens
  completion : Short usage.completionTokens
  total : Short usage.totalTokens

/-- The reading is that of the chunk. -/
structure Tells (chunk : OpenAiChunk) (reading : ChunkReading) : Prop where
  id : ∀ old, orElse reading.id (.ofText old) = .ofText (replaced old chunk.id)
  model : ∀ old, orElse reading.model (.ofText old) = .ofText (replaced old chunk.model)
  content : reading.content = chunk.content.getD []
  finishReason : reading.finishReason = chunk.finishReason.map fun reason => .str reason.toString
  usage : reading.usage = chunk.usage.map fun usage =>
    ⟨some usage.promptTokens, some usage.completionTokens, some usage.totalTokens⟩
  counts : ∀ usage, chunk.usage = some usage → usage.Plain

section Reading

theorem got_eq_null {members : List (String × Json)} {name : String}
    (missing : Json.lookup name members = none) : got members name = .null := by
  rw [got, missing, Option.getD_none]

theorem got_eq_of_lookup {members : List (String × Json)} {name : String} {value : Json}
    (found : Json.lookup name members = some value) : got members name = value := by
  rw [got, found, Option.getD_some]

/-- A text that is empty or missing leaves the old one. -/
theorem orElse_text {members : List (String × Json)} {name : String} {text : Option (List CodePoint)}
    (keyed : Json.KeyedMembers members) (read : optionalText (Json.lookup name members) = some text)
    (old : List CodePoint) : orElse (got members name) (.ofText old) = .ofText (replaced old text) := by
  cases found : Json.lookup name members with
  | none =>
      rw [found] at read
      cases read
      rw [got_eq_null found]
      rfl
  | some value =>
      have whole := Json.keyed_lookup keyed found
      rw [found] at read
      rw [got_eq_of_lookup found]
      cases value with
      | null =>
          cases read
          rfl
      | str given =>
          cases read
          by_cases empty : given = ""
          · subst empty
            rfl
          · simp [orElse, truthy, empty, replaced, Json.ofText]
      | broken given =>
          cases read
          have letters : given ≠ [] := by
            rintro rfl
            cases whole.1
          simp [orElse, truthy, replaced, letters, Json.ofText, whole.1]
      | bool | int | float | arr | obj => cases read

/-- The content of a delta, as it is fed. -/
theorem deltaReading_eq {choice : List (String × Json)} {content : Option (List CodePoint)}
    (read : deltaContent (Json.lookup "delta" choice) = some content) :
    deltaReading (got choice "delta") = some (content.getD []) := by
  have text : ∀ {member : Option Json}, optionalText member = some content →
      textReading (member.getD .null) = some (content.getD []) := by
    intro member read
    unfold optionalText at read
    split at read
    · cases read
      rfl
    · cases read
      rfl
    · rename_i given
      cases read
      by_cases empty : given = ""
      · subst empty
        rfl
      · simp [textReading, ifTruthy, truthy, empty]
    · rename_i given
      cases read
      cases given <;> simp [textReading, ifTruthy, truthy]
    · cases read
  unfold deltaContent at read
  split at read
  · rename_i missing
    cases read
    rw [got_eq_null missing]
    rfl
  · rename_i found
    cases read
    rw [got_eq_of_lookup found]
    rfl
  · rename_i delta found
    rw [got_eq_of_lookup found]
    cases delta with
    | nil =>
        cases read
        rfl
    | cons entry rest => exact text read
  · cases read

/-- The finish reason of a choice, as it is fed. -/
theorem reason_eq {choice : List (String × Json)} {reason : Option FinishReason}
    (read : optionalReason (Json.lookup "finish_reason" choice) = some reason) :
    ifTruthy (got choice "finish_reason") = reason.map fun reason => .str reason.toString := by
  unfold optionalReason at read
  split at read
  · rename_i missing
    cases read
    rw [got_eq_null missing]
    rfl
  · rename_i found
    cases read
    rw [got_eq_of_lookup found]
    rfl
  · rename_i text found
    rw [got_eq_of_lookup found]
    obtain ⟨given, named, rfl⟩ := Option.map_eq_some_iff.mp read
    have spelled : text = given.toString := by
      unfold FinishReason.ofString at named
      split_ifs at named with h₁ h₂ h₃ <;> cases named <;> assumption
    subst spelled
    cases given <;> rfl
  · cases read

/-- The first choice of a chunk, as it is fed. -/
theorem choicesReading_eq {members : List (String × Json)}
    {said : Option (List CodePoint) × Option FinishReason}
    (read : firstChoice (Json.lookup "choices" members) = some said) :
    choicesReading (got members "choices") =
      some (said.1.getD [], said.2.map fun reason => .str reason.toString) := by
  unfold firstChoice at read
  split at read
  · rename_i missing
    cases read
    rw [got_eq_null missing]
    rfl
  · rename_i found
    cases read
    rw [got_eq_of_lookup found]
    rfl
  · rename_i found
    cases read
    rw [got_eq_of_lookup found]
    rfl
  · rename_i choice rest found
    obtain ⟨content, filled, read⟩ := Option.bind_eq_some_iff.mp read
    obtain ⟨reason, ended, read⟩ := Option.bind_eq_some_iff.mp read
    cases read
    rw [got_eq_of_lookup found]
    change (deltaReading (got choice "delta")).map _ = _
    rw [deltaReading_eq filled, reason_eq ended]
    rfl
  · cases read

theorem countMember_eq {members : List (String × Json)} {name : String} {n : ℤ} {levels : ℕ}
    (fits : (Json.obj members).Fits (some maxStrDigits) (some (levels + 1)))
    (counted : countMember (Json.lookup name members) = some n) :
    countReading (got members name) = some (some n) ∧ 0 ≤ n ∧ Short n := by
  unfold countMember at counted
  split at counted
  · rename_i m found
    split_ifs at counted with nonneg
    cases counted
    rw [got_eq_of_lookup found]
    exact ⟨rfl, nonneg, Json.short_of_fits (Json.fits_lookup fits found)⟩
  · cases counted

/-- The usage of a chunk, as it is fed. -/
theorem usageReading_eq {members : List (String × Json)} {usage : Option Usage} {levels : ℕ}
    (fits : (Json.obj members).Fits (some maxStrDigits) (some (levels + 1)))
    (read : optionalUsage (Json.lookup "usage" members) = some usage) :
    usageReading (got members "usage") = some (usage.map fun usage =>
        ⟨some usage.promptTokens, some usage.completionTokens, some usage.totalTokens⟩) ∧
      ∀ given, usage = some given → given.Plain := by
  unfold optionalUsage at read
  split at read
  · rename_i missing
    cases read
    rw [got_eq_null missing]
    exact ⟨rfl, fun given same => by cases same⟩
  · rename_i found
    cases read
    rw [got_eq_of_lookup found]
    exact ⟨rfl, fun given same => by cases same⟩
  · rename_i counts found
    obtain ⟨prompt, first, read⟩ := Option.bind_eq_some_iff.mp read
    obtain ⟨completion, second, read⟩ := Option.bind_eq_some_iff.mp read
    obtain ⟨total, third, read⟩ := Option.bind_eq_some_iff.mp read
    cases read
    have inner := Json.fits_lookup fits found
    obtain ⟨depth, rfl⟩ := Json.levels_of_fits_obj inner
    obtain ⟨promptRead, promptNonneg, promptShort⟩ := countMember_eq inner first
    obtain ⟨completionRead, completionNonneg, completionShort⟩ := countMember_eq inner second
    obtain ⟨totalRead, totalNonneg, totalShort⟩ := countMember_eq inner third
    rw [got_eq_of_lookup found]
    refine ⟨?_, fun given same => ?_⟩
    · simp [usageReading, countsReading, promptRead, completionRead, totalRead]
    · cases same
      exact ⟨⟨promptNonneg, completionNonneg, totalNonneg⟩, promptShort, completionShort, totalShort⟩
  · cases read

/-- **A chunk of the format has a reading**, which tells the same. -/
theorem tells_of_read {python : Interpreter} {value : Json} {chunk : OpenAiChunk} (keyed : value.Keyed)
    (takes : python.Takes value) (read : OpenAiChunk.read value = some chunk) :
    ∃ reading, chunkReading value = some reading ∧ Tells chunk reading := by
  unfold OpenAiChunk.read at read
  split at read
  · rename_i members
    obtain ⟨id, identified, read⟩ := Option.bind_eq_some_iff.mp read
    obtain ⟨model, modelled, read⟩ := Option.bind_eq_some_iff.mp read
    obtain ⟨choice, chosen, read⟩ := Option.bind_eq_some_iff.mp read
    obtain ⟨usage, counted, read⟩ := Option.bind_eq_some_iff.mp read
    cases read
    obtain ⟨levels, deep⟩ := Json.levels_of_fits_obj takes
    rw [Interpreter.Takes, deep] at takes
    obtain ⟨usageRead, plain⟩ := usageReading_eq takes counted
    have reading : chunkReading (.obj members) = some
        ⟨got members "id", got members "model", choice.1.getD [],
          choice.2.map fun reason => .str reason.toString,
          usage.map fun usage =>
            ⟨some usage.promptTokens, some usage.completionTokens, some usage.totalTokens⟩⟩ := by
      rw [chunkReading_obj, choicesReading_eq chosen, Option.bind_some, usageRead, Option.map_some]
    exact ⟨_, reading, orElse_text keyed.2 identified, orElse_text keyed.2 modelled, rfl, rfl, rfl, plain⟩
  · cases read

/-- **One chunk** is absorbed. -/
theorem Tells.absorb {chunk : OpenAiChunk} {reading : ChunkReading} (tells : Tells chunk reading)
    (view : ClientView) (seen : Bool) :
    (view.accumulator seen).absorb reading = (view.absorb chunk).accumulator true := by
  have reason : (reading.finishReason.getD (.str view.finishReason.toString)) =
      .str (chunk.finishReason.getD view.finishReason).toString := by
    rw [tells.finishReason]
    cases chunk.finishReason <;> rfl
  simp only [ChunkAccumulator.absorb, ClientView.accumulator, ClientView.absorb, tells.id, tells.model,
    tells.content, reason, ChunkAccumulator.mk.injEq, true_and, and_true, tells.usage]
  cases counted : chunk.usage with
  | none => rfl
  | some usage =>
      have plain := (tells.counts usage counted).nonNegative
      simp [CountsReading.apply, Usage.clamped, max_eq_left plain.prompt, max_eq_left plain.completion,
        max_eq_left plain.total]

/-- **Chunks are absorbed** one after the other. -/
theorem foldl_absorb {chunks : List OpenAiChunk} {readings : List ChunkReading}
    (tells : List.Forall₂ Tells chunks readings) (view : ClientView) (seen : Bool) :
    ∃ later, readings.foldl ChunkAccumulator.absorb (view.accumulator seen) =
      (chunks.foldl ClientView.absorb view).accumulator later := by
  induction tells generalizing view seen with
  | nil => exact ⟨seen, rfl⟩
  | cons first _ ih =>
      rw [List.foldl_cons, List.foldl_cons, first.absorb]
      exact ih _ true

/-- The counts of the view are those of a chunk, or zero. -/
theorem plain_of_tells {chunks : List OpenAiChunk} {readings : List ChunkReading}
    (tells : List.Forall₂ Tells chunks readings) : (clientView chunks).usage.Plain := by
  have kept : ∀ view : ClientView, view.usage.Plain →
      (chunks.foldl ClientView.absorb view).usage.Plain := by
    induction tells with
    | nil => exact fun view plain => plain
    | @cons chunk reading _ _ first _ ih =>
        refine fun view plain => ih (view.absorb chunk) ?_
        cases counted : chunk.usage with
        | none => simpa [ClientView.absorb, counted] using plain
        | some usage => simpa [ClientView.absorb, counted] using first.counts usage counted
  rw [clientView_eq_foldl]
  exact kept _ ⟨⟨le_refl 0, le_refl 0, le_refl 0⟩, by decide, by decide, by decide⟩

end Reading

/-! ## Lines -/

section Lines

variable {python : Interpreter} {lines : List String}

/-- **Lines of the format have readings**, where none is nested too deeply. -/
theorem readings_of_wellFormed (wellFormed : WellFormed lines) (decodable : Decodable python lines) :
    ∃ readings, readingsOf python lines = some readings ∧
      List.Forall₂ Tells (decodedChunks python lines) readings := by
  induction lines with
  | nil => exact ⟨[], rfl, .nil⟩
  | cons line rest ih =>
      obtain ⟨here, others⟩ := List.forall_mem_cons.mp wellFormed
      obtain ⟨⟨read, decoded⟩, later⟩ := List.forall_mem_cons.mp decodable
      obtain ⟨readings, given, tells⟩ := ih others later
      cases read with
      | none =>
          refine ⟨readings, by rw [readingsOf, decoded, given], ?_⟩
          have silent : decodedChunk python line = none := by rw [decodedChunk, decoded]
          rwa [decodedChunks, List.filterMap_cons_none silent]
      | some value =>
          have stands := lineValue_of_lineChunk decoded
          obtain ⟨chunk, read⟩ := Option.ne_none_iff_exists'.mp (here value stands)
          obtain ⟨_, -, loaded⟩ := payload_of_lineChunk decoded
          obtain ⟨reading, said, same⟩ :=
            tells_of_read (Interpreter.keyed_loads loaded) (Interpreter.takes_of_loads loaded) read
          have heard : decodedChunk python line = some chunk := by
            rw [decodedChunk, decoded]
            exact read
          refine ⟨reading :: readings, ?_, ?_⟩
          · rw [readingsOf, decoded]
            simp only [said, given, Option.bind_some, Option.map_some]
          · rw [decodedChunks, List.filterMap_cons_some heard]
            exact .cons same tells

/-- Lines that have readings are not nested too deeply. -/
theorem decodable_of_readings {readings : List ChunkReading}
    (given : readingsOf python lines = some readings) : Decodable python lines := by
  induction lines generalizing readings with
  | nil => exact fun line member => absurd member List.not_mem_nil
  | cons line rest ih =>
      rw [readingsOf] at given
      split at given
      · cases given
      · rename_i decoded
        exact List.forall_mem_cons.mpr ⟨⟨none, decoded⟩, ih given⟩
      · rename_i value decoded
        obtain ⟨reading, -, given⟩ := Option.bind_eq_some_iff.mp given
        obtain ⟨others, later, -⟩ := Option.map_eq_some_iff.mp given
        exact List.forall_mem_cons.mpr ⟨⟨some value, decoded⟩, ih later⟩

/-- **Lines of the format are accumulated** to the view of their chunks. -/
theorem forM_feed (wellFormed : WellFormed lines) (decodable : Decodable python lines) :
    (clientView (decodedChunks python lines)).usage.Plain ∧
      ∃ seen, lines.forM (ChunkAccumulator.feed python) {} =
        .ok () ((clientView (decodedChunks python lines)).accumulator seen) := by
  obtain ⟨readings, given, tells⟩ := readings_of_wellFormed wellFormed decodable
  obtain ⟨seen, folded⟩ := foldl_absorb tells ⟨[], [], [], .stop, {}⟩ false
  rw [← clientView_eq_foldl] at folded
  refine ⟨plain_of_tells tells, seen, (forM_feed_reading python lines {}).ok_of_some ?_⟩
  rw [given, Option.map_some]
  exact congrArg some folded

/-- Lines that can be accumulated are not nested too deeply. -/
theorem decodable_of_forM {before after : ChunkAccumulator}
    (fed : lines.forM (ChunkAccumulator.feed python) before = .ok () after) :
    Decodable python lines := by
  have ends := forM_feed_reading python lines before
  cases given : readingsOf python lines with
  | none =>
      rw [given, fed] at ends
      cases ends
  | some readings => exact decodable_of_readings given

end Lines

/-! ## The entry -/

/-- The view of an answer without an identity gets the one of an entry. -/
def ClientView.entered (view : ClientView) : ClientView :=
  { view with id := if view.id = [] then codePoints "chatcmpl-cached" else view.id }

/-- The texts of a view are those of strings. -/
structure ClientView.Spelled (view : ClientView) (id model content : String) : Prop where
  id : view.id = codePoints id
  model : view.model = codePoints model
  content : view.content = codePoints content

/-- No surrogate stands alone in a text of the view. -/
def ClientView.Scalar (view : ClientView) : Prop := ∃ id model content, view.Spelled id model content

/-- The response that is cached for a view. -/
def ClientView.response (view : ClientView) (id model content : String) (created : ℤ)
    (bounded : content.length ≤ maxContentLength) : ChatResponse where
  id := id
  created := created
  model := model
  choices := [{ message := ⟨.assistant, content, bounded⟩, finishReason := view.finishReason }]
  usage := view.usage

section Entry

variable {view : ClientView} {seen : Bool} {created : ℤ}

theorem codePoints_of_ofText {text : List CodePoint} {value : String}
    (same : Json.ofText text = .str value) : text = codePoints value := by
  unfold Json.ofText at same
  split at same
  · rename_i read
    cases same
    exact codePoints_of_scalarText read
  · cases same

theorem truthy_ofText (text : List CodePoint) : truthy (.ofText text) = !text.isEmpty := by
  unfold Json.ofText
  split
  · rename_i value read
    rw [codePoints_of_scalarText read, isEmpty_codePoints]
    rfl
  · rfl

theorem identity_eq (view : ClientView) :
    orElse (.ofText view.id) (.str "chatcmpl-cached") = .ofText view.entered.id := by
  unfold orElse ClientView.entered
  rw [truthy_ofText]
  by_cases empty : view.id = []
  · rw [empty, List.isEmpty_nil, if_pos rfl, Json.ofText_codePoints]
    rfl
  · simp [empty]

/-- `to_response` of a view whose texts are strings. -/
theorem toResponse_accumulator {id model content : String} (spelled : view.entered.Spelled id model content)
    (bounded : content.length ≤ maxContentLength) :
    (view.accumulator seen).toResponse created = .ok (view.response id model content created bounded) := by
  have named : view.model = codePoints model := spelled.model
  have filled : view.content = codePoints content := spelled.content
  have identity := identity_eq view
  rw [spelled.id, Json.ofText_codePoints] at identity
  simp only [ChunkAccumulator.toResponse, ClientView.accumulator, identity, named, filled,
    Json.ofText_codePoints, FinishReason.ofString_toString, scalarText_codePoints]
  exact dif_pos bounded

/-- A view that has a response has the texts of it. -/
theorem spelled_of_toResponse {response : ChatResponse}
    (built : (view.accumulator seen).toResponse created = .ok response) :
    ∃ id model content, ∃ bounded : content.length ≤ maxContentLength,
      view.entered.Spelled id model content ∧
        response = view.response id model content created bounded := by
  unfold ChunkAccumulator.toResponse at built
  split at built
  · rename_i id model reason identified named ended
    split at built
    · rename_i finishReason content reasoned filled
      split_ifs at built with bounded
      cases built
      have same : reason = view.finishReason.toString := (Json.str.inj ended).symm
      rw [same, FinishReason.ofString_toString] at reasoned
      cases reasoned
      refine ⟨id, model, content, bounded, ⟨codePoints_of_ofText ?_, codePoints_of_ofText named,
        codePoints_of_scalarText filled⟩, rfl⟩
      rw [← identity_eq]
      exact identified
    · cases built
  · cases built

theorem entered_of_named (named : view.id ≠ []) : view.entered = view := by
  rw [ClientView.entered, if_neg named]

end Entry

/-! ## The replay -/

/-- The lines say these chunks, and all of them are decoded. -/
structure Carries (python : Interpreter) (lines : List String) (chunks : List OpenAiChunk) : Prop where
  told : chunksOf lines = chunks
  decoded : decodedChunks python lines = chunks
  wellFormed : WellFormed lines
  decodable : Decodable python lines

section Replayed

variable {python : Interpreter} {line : String} {rest : List String} {chunk : OpenAiChunk}
  {chunks : List OpenAiChunk}

theorem carries_nil : Carries python [] [] where
  told := rfl
  decoded := rfl
  wellFormed := by simp [WellFormed]
  decodable := by simp [Decodable]

theorem Carries.cons {value : Json} (carries : Carries python rest chunks)
    (decoded : lineChunk python line = .ok (some value)) (read : OpenAiChunk.read value = some chunk) :
    Carries python (line :: rest) (chunk :: chunks) := by
  have stands := lineValue_of_lineChunk decoded
  have here : decodedChunk python line = some chunk := by
    rw [decodedChunk, decoded]
    exact read
  refine ⟨?_, ?_, List.forall_mem_cons.mpr ⟨fun other same => ?_, carries.wellFormed⟩,
    List.forall_mem_cons.mpr ⟨⟨_, decoded⟩, carries.decodable⟩⟩
  · rw [← carries.told, chunksOf, List.filterMap_cons_some (b := chunk)]
    · rfl
    · rw [stands]
      exact read
  · rw [← carries.decoded, decodedChunks, List.filterMap_cons_some here]
    rfl
  · rw [stands] at same
    cases same
    rw [read]
    simp

/-- A line without a chunk says nothing. -/
theorem Carries.skip (carries : Carries python rest chunks) (decoded : lineChunk python line = .ok none)
    (stands : lineValue line = none) : Carries python (line :: rest) chunks := by
  have here : decodedChunk python line = none := by rw [decodedChunk, decoded]
  refine ⟨?_, ?_, List.forall_mem_cons.mpr ⟨fun other same => ?_, carries.wellFormed⟩,
    List.forall_mem_cons.mpr ⟨⟨_, decoded⟩, carries.decodable⟩⟩
  · rw [← carries.told, chunksOf, List.filterMap_cons_none]
    · rfl
    · rw [stands, Option.bind_none]
  · rw [← carries.decoded, decodedChunks, List.filterMap_cons_none here]
    rfl
  · rw [stands] at same
    cases same

/-- A chunk of the gateway among the lines. -/
theorem Carries.sse {created : ℤ} {id model : String} {role content finishReason : Json}
    {usage : Option Json} (carries : Carries python rest chunks)
    (keyed : (chunkObject created (.str id) (.str model) role content finishReason usage).Keyed)
    (takes : python.Takes (chunkObject created (.str id) (.str model) role content finishReason usage))
    (read : OpenAiChunk.read (chunkObject created (.str id) (.str model) role content finishReason usage) =
      some chunk) :
    Carries python (sseChunk created (.str id) (.str model) role content finishReason usage :: rest)
      (chunk :: chunks) :=
  carries.cons (lineChunk_sseChunk keyed takes) read

theorem countMember_int {n : ℤ} (nonneg : 0 ≤ n) : countMember (some (.int n)) = some n :=
  if_pos nonneg

/-- The first chunk of a replay, with the role alone. -/
theorem Carries.role {created : ℤ} {id model : String} (carries : Carries python rest chunks)
    (short : Short created) :
    Carries python (sseChunk created (.str id) (.str model) (.str "assistant") :: rest)
      (⟨some (codePoints id), some (codePoints model), none, none, none⟩ :: chunks) :=
  carries.sse (keyed_chunkObject trivial trivial trivial trivial trivial (by simp))
    (takes_chunkObject short (Json.flat_str _) (Json.flat_str _) (Json.flat_str _) Json.flat_null
      Json.flat_null (by simp)) rfl

/-- A chunk with a piece of the content. -/
theorem Carries.content {created : ℤ} {id model content : String} (carries : Carries python rest chunks)
    (short : Short created) :
    Carries python (sseChunk created (.str id) (.str model) .null (.str content) :: rest)
      (⟨some (codePoints id), some (codePoints model), some (codePoints content), none, none⟩ :: chunks) :=
  carries.sse (keyed_chunkObject trivial trivial trivial trivial trivial (by simp))
    (takes_chunkObject short (Json.flat_str _) (Json.flat_str _) Json.flat_null (Json.flat_str _)
      Json.flat_null (by simp)) rfl

/-- The last chunk, with the reason and the counts. -/
theorem Carries.ending {created : ℤ} {id model : String} {reason : FinishReason} {usage : Usage}
    (carries : Carries python rest chunks) (short : Short created) (plain : usage.Plain) :
    Carries python (sseChunk created (.str id) (.str model) .null .null (.str reason.toString)
        (some (usageJson usage.promptTokens usage.completionTokens usage.totalTokens)) :: rest)
      (⟨some (codePoints id), some (codePoints model), none, some reason, some usage⟩ :: chunks) := by
  have keyed : ∀ given, some (usageJson usage.promptTokens usage.completionTokens
      usage.totalTokens) = some given → given.Keyed := by
    rintro given same
    cases same
    exact keyed_usageJson _ _ _
  have shallow : ∀ given, some (usageJson usage.promptTokens usage.completionTokens
      usage.totalTokens) = some given → Shallow given := by
    rintro given same
    cases same
    exact shallow_usageJson plain.prompt plain.completion plain.total
  refine carries.sse (keyed_chunkObject trivial trivial trivial trivial trivial keyed)
    (takes_chunkObject short (Json.flat_str _) (Json.flat_str _) Json.flat_null Json.flat_null
      (Json.flat_str _) shallow) ?_
  have counted : optionalUsage (some (usageJson usage.promptTokens usage.completionTokens
      usage.totalTokens)) = some (some usage) := by
    simp [optionalUsage, usageJson, Json.lookup, countMember_int plain.nonNegative.prompt,
      countMember_int plain.nonNegative.completion, countMember_int plain.nonNegative.total]
  have ended : optionalReason (some (.str reason.toString)) = some (some reason) := by
    simp [optionalReason, FinishReason.ofString_toString]
  simp [OpenAiChunk.read, chunkObject, stated, Json.lookup, optionalText, firstChoice, deltaContent,
    counted, ended]

/-- What the replay of a response says, chunk by chunk. -/
def replayChunks (view : ClientView) : List OpenAiChunk :=
  [⟨some view.id, some view.model, none, none, none⟩,
    ⟨some view.id, some view.model, some view.content, none, none⟩,
    ⟨some view.id, some view.model, none, some view.finishReason, some view.usage⟩]

theorem clientView_replayChunks {view : ClientView} : clientView (replayChunks view) = view := by
  rw [clientView_eq_foldl]
  obtain ⟨id, model, content, finishReason, usage⟩ := view
  have kept (text : List CodePoint) :
      replaced (replaced (replaced [] (some text)) (some text)) (some text) = text := by
    by_cases empty : text = [] <;> simp [replaced, empty]
  simp only [replayChunks, List.foldl_cons, List.foldl_nil, ClientView.absorb, kept]
  simp

/-- **The lines of a replay** say what was cached. -/
theorem carries_replay {view : ClientView} {id model content : String} {created : ℤ}
    {bounded : content.length ≤ maxContentLength} {clock : ℕ → ℤ}
    (spelled : view.entered.Spelled id model content) (plain : view.usage.Plain)
    (short : ∀ n, Short (clock n)) : ∃ replay,
      synthesizeCachedStream (view.response id model content created bounded) clock = .ok replay ∧
        Carries python replay (replayChunks view.entered) := by
  refine ⟨_, rfl, ?_⟩
  have named : view.entered.model = codePoints model := spelled.model
  have filled : view.entered.content = codePoints content := spelled.content
  rw [replayChunks, spelled.id, named, filled]
  exact (((carries_nil.skip rfl rfl).ending (short 2) plain).content (short 1)).role (short 0)

end Replayed

/-! ## The round trip -/

/-- **A replay equals the live stream**: the lines are accumulated to a response, it is replayed, the
replay gives a client the view of the lines, and accumulating the replay gives the response once
more. -/
def Replays (python : Interpreter) (lines : List String) (created : ℤ) (clock : ℕ → ℤ) : Prop :=
  ∃ accumulator response replay again,
    lines.forM (ChunkAccumulator.feed python) {} = .ok () accumulator ∧
      accumulator.toResponse created = .ok response ∧
        synthesizeCachedStream response clock = .ok replay ∧
          clientView (chunksOf replay) = clientView (chunksOf lines) ∧
            replay.forM (ChunkAccumulator.feed python) {} = .ok () again ∧
              ∀ later, again.toResponse later = .ok { response with created := later }

section RoundTrip

variable {python : Interpreter} {lines : List String} {created : ℤ} {clock : ℕ → ℤ}

/-- Lines whose decoded chunks tell everything, in whole texts, are replayed. -/
theorem replays_of_decoded (wellFormed : WellFormed lines) (decodable : Decodable python lines)
    (same : (clientView (decodedChunks python lines)).entered = clientView (chunksOf lines))
    (scalar : (clientView (chunksOf lines)).Scalar)
    (named : (clientView (chunksOf lines)).id ≠ [])
    (bounded : (clientView (chunksOf lines)).content.length ≤ maxContentLength)
    (short : ∀ n, Short (clock n)) : Replays python lines created clock := by
  obtain ⟨plain, seen, fed⟩ := forM_feed wellFormed decodable
  obtain ⟨id, model, content, spelled⟩ := scalar
  have fits : content.length ≤ maxContentLength := by
    rwa [spelled.content, length_codePoints] at bounded
  rw [← same] at spelled
  obtain ⟨replay, replayed, carries⟩ := @carries_replay python _ id model content created fits clock
    spelled plain short
  have view : clientView (replayChunks (clientView (decodedChunks python lines)).entered) =
      clientView (chunksOf lines) := clientView_replayChunks.trans same
  obtain ⟨-, seenAgain, refed⟩ := forM_feed carries.wellFormed carries.decodable
  rw [carries.decoded, view] at refed
  have again : (clientView (chunksOf lines)).entered.Spelled id model content := by
    rw [entered_of_named named, ← same]
    exact spelled
  refine ⟨_, _, replay, _, fed, toResponse_accumulator spelled fits, replayed, carries.told ▸ view,
    refed, fun later => (toResponse_accumulator again fits).trans ?_⟩
  rw [← same]
  rfl

/-- What is replayed has been decoded. -/
theorem decoded_of_replays (wellFormed : WellFormed lines) (short : ∀ n, Short (clock n))
    (replays : Replays python lines created clock) :
    Decodable python lines ∧
      (clientView (decodedChunks python lines)).entered = clientView (chunksOf lines) ∧
        (clientView (chunksOf lines)).Scalar := by
  obtain ⟨accumulator, response, replay, again, fed, built, replayed, view, -, -⟩ := replays
  have decodable := decodable_of_forM fed
  obtain ⟨plain, seen, given⟩ := forM_feed wellFormed decodable
  obtain rfl : (clientView (decodedChunks python lines)).accumulator seen = accumulator := by
    cases given.symm.trans fed
    rfl
  obtain ⟨id, model, content, bounded, spelled, rfl⟩ := spelled_of_toResponse built
  obtain ⟨other, found, carries⟩ := @carries_replay python _ id model content created bounded clock
    spelled plain short
  obtain rfl : other = replay := Except.ok.inj (found.symm.trans replayed)
  rw [carries.told, clientView_replayChunks] at view
  exact ⟨decodable, view, id, model, content, view ▸ spelled⟩

end RoundTrip

/-- Lines without a chunk between the chunks of an answer. -/
def liveLines : List String :=
  [": keep-alive", sseChunk 1 (.str "chatcmpl-9") (.str "") (.str "assistant"),
    sseChunk 1 (.str "") (.str "gpt-4o") .null (.str "a \"b\"\n"), "data: ?",
    sseChunk 2 (.str "") (.str "gpt-4o") .null .null (.str "length") (some (usageJson 8 1 9)), doneLine]

theorem carries_liveLines : Carries .standard liveLines
    [⟨some (codePoints "chatcmpl-9"), some (codePoints ""), none, none, none⟩,
      ⟨some (codePoints ""), some (codePoints "gpt-4o"), some (codePoints "a \"b\"\n"), none, none⟩,
      ⟨some (codePoints ""), some (codePoints "gpt-4o"), none, some .length, some ⟨8, 1, 9⟩⟩] := by
  have plain : Usage.Plain ⟨8, 1, 9⟩ :=
    ⟨⟨by decide, by decide, by decide⟩, by decide, by decide, by decide⟩
  have ended : Carries .standard _ _ :=
    @Carries.ending .standard [doneLine] [] 2 "" "gpt-4o" .length ⟨8, 1, 9⟩ (carries_nil.skip rfl rfl)
      (by decide) plain
  exact (((ended.skip rfl rfl).content (by decide)).role (by decide)).skip rfl rfl

/-- The two halves of a pair in two chunks. -/
def splitPair : List String :=
  [sseChunk 1 (.str "chatcmpl-9") (.str "gpt-4o") .null (.broken [.surrogate 61]),
    sseChunk 1 (.str "chatcmpl-9") (.str "gpt-4o") .null (.broken [.surrogate 1536]), doneLine]

theorem carries_splitPair : Carries .standard splitPair
    [⟨some (codePoints "chatcmpl-9"), some (codePoints "gpt-4o"), some [.surrogate 61], none, none⟩,
      ⟨some (codePoints "chatcmpl-9"), some (codePoints "gpt-4o"), some [.surrogate 1536], none, none⟩] := by
  have half : ∀ {rest : List String} {chunks : List OpenAiChunk} (unit : Fin 2048),
      Carries .standard rest chunks →
        Carries .standard
          (sseChunk 1 (.str "chatcmpl-9") (.str "gpt-4o") .null (.broken [.surrogate unit]) :: rest)
          (⟨some (codePoints "chatcmpl-9"), some (codePoints "gpt-4o"), some [.surrogate unit], none,
            none⟩ :: chunks) := fun unit carries =>
    carries.sse (keyed_chunkObject trivial trivial trivial ⟨rfl, trivial⟩ trivial (by simp))
      (takes_chunkObject (by decide) (Json.flat_str _) (Json.flat_str _) Json.flat_null (fun _ => trivial)
        Json.flat_null (by simp)) rfl
  exact half 61 (half 1536 (carries_nil.skip rfl rfl))

end LlmGateway
