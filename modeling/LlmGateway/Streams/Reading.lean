import LlmGateway.Library.Keeping
import LlmGateway.Services.Streaming

/-!
# What a chunk says

`capture_usage` and `ChunkAccumulator.feed` look into a chunk member by member and stop at the
first one that they cannot use. `chunkReading` looks at all of them at once: it gives what the
chunk says, or nothing where one of the members cannot be used. Feeding a chunk is absorbing its
reading (`feedChunk_reading`), and capturing its usage is applying the counts of the reading
(`chunkUsage_reading`). What follows speaks about readings.
-/

set_option autoImplicit false

namespace LlmGateway

open LlmGateway.Library
open LlmGateway.Library.PythonText

/-! ## Readings -/

/-- `members.get(name)`. -/
def got (members : List (String × Json)) (name : String) : Json :=
  (Json.lookup name members).getD .null

/-- What `_to_int` takes from a value; the inner nothing stands for the default. A text of digits
that `int` refuses has no reading. -/
def countReading : Json → Option (Option ℤ)
  | .int n => some (some n)
  | .bool b => some (some (if b then 1 else 0))
  | .str text =>
      if allDigits (lstrip '-' text.toList) then (intOfText text.toList).map some else some none
  | _ => some none

/-- The counts of a `usage` object. -/
structure CountsReading where
  prompt : Option ℤ := none
  completion : Option ℤ := none
  total : Option ℤ := none
deriving DecidableEq

def countsReading (members : List (String × Json)) : Option CountsReading := do
  let prompt ← countReading (got members "prompt_tokens")
  let completion ← countReading (got members "completion_tokens")
  let total ← countReading (got members "total_tokens")
  some ⟨prompt, completion, total⟩

/-- The counts after an update, with a rule for the total that is not given. -/
def CountsReading.apply (counts : CountsReading) (current : Usage) (total : ℤ → ℤ → ℤ) : Usage :=
  let prompt := counts.prompt.getD current.promptTokens
  let completion := counts.completion.getD current.completionTokens
  .clamped prompt completion (counts.total.getD (total prompt completion))

/-- The `usage` member of a chunk. -/
def usageReading : Json → Option (Option CountsReading)
  | .obj members => (countsReading members).map some
  | _ => some none

/-- A value that is used only if it is true. -/
def ifTruthy (value : Json) : Option Json := if truthy value then some value else none

/-- The `content` member of a delta: a text, or a value that is false. -/
def textReading (content : Json) : Option (List CodePoint) :=
  match ifTruthy content with
  | none => some []
  | some (.str text) => some (codePoints text)
  | some (.broken text) => some text
  | some _ => none

/-- The `delta` member of a choice: an object, or a value that is false. -/
def deltaReading (delta : Json) : Option (List CodePoint) :=
  match ifTruthy delta with
  | none => some []
  | some (.obj members) => textReading (got members "content")
  | some _ => none

/-- The `choices` member of a chunk: a list that starts with an object, or a value that is
false. -/
def choicesReading (choices : Json) : Option (List CodePoint × Option Json) :=
  match ifTruthy choices with
  | none => some ([], none)
  | some (.arr (.obj choice :: _)) =>
      (deltaReading (got choice "delta")).map fun content =>
        (content, ifTruthy (got choice "finish_reason"))
  | some _ => none

/-- What a chunk says. -/
structure ChunkReading where
  id : Json := .null
  model : Json := .null
  content : List CodePoint := []
  finishReason : Option Json := none
  usage : Option CountsReading := none

/-- **The reading of a chunk**, unless some member cannot be used. -/
def chunkReading : Json → Option ChunkReading
  | .obj members => do
      let choice ← choicesReading (got members "choices")
      let usage ← usageReading (got members "usage")
      some ⟨got members "id", got members "model", choice.1, choice.2, usage⟩
  | _ => none

/-- The accumulator after one more chunk. -/
def ChunkAccumulator.absorb (accumulator : ChunkAccumulator) (reading : ChunkReading) :
    ChunkAccumulator where
  id := orElse reading.id accumulator.id
  model := orElse reading.model accumulator.model
  content := accumulator.content ++ reading.content
  finishReason := reading.finishReason.getD accumulator.finishReason
  usage :=
    match reading.usage with
    | none => accumulator.usage
    | some counts => counts.apply accumulator.usage fun _ _ => accumulator.usage.totalTokens
  sawAnyChunk := true

/-- The usage after one more chunk, as it is billed. -/
def Usage.absorb (usage : Usage) (counts : Option CountsReading) : Usage :=
  match counts with
  | none => usage
  | some counts => counts.apply usage (· + ·)

/-! ## Counts -/

theorem toInt_reading (value : Json) (default : ℤ) :
    toInt value default =
      match countReading value with
      | some given => .ok (given.getD default)
      | none => .error .valueError := by
  cases value with
  | str text =>
      simp only [toInt, countReading]
      split_ifs
      · cases intOfText text.toList <;> rfl
      · rfl
  | null | bool | int | float | broken | arr | obj => rfl

theorem readUsage_reading (members : List (String × Json)) (current : Usage) (total : ℤ → ℤ → ℤ) :
    readUsage (.obj members) current.promptTokens current.completionTokens total =
      match countsReading members with
      | some counts => .ok (counts.apply current total)
      | none => .error .valueError := by
  have got_apply (name : String) : dictGet (.obj members) name = .ok (got members name) := rfl
  simp only [readUsage, got_apply, toInt_reading, countsReading, bind, Except.bind, Option.bind]
  cases countReading (got members "prompt_tokens") with
  | none => rfl
  | some prompt =>
      cases countReading (got members "completion_tokens") with
      | none => rfl
      | some completion =>
          cases countReading (got members "total_tokens") with
          | none => rfl
          | some total => rfl

/-- **What `capture_usage` takes from a chunk.** -/
theorem chunkUsage_reading (members : List (String × Json)) (current : Usage) :
    chunkUsage (.obj members) current =
      match usageReading (got members "usage") with
      | some counts => .ok (current.absorb counts)
      | none => .error .valueError := by
  have got_usage : dictGet (.obj members) "usage" = .ok (got members "usage") := rfl
  simp only [chunkUsage, got_usage, bind, Except.bind]
  cases got members "usage" with
  | obj usage =>
      simp only [readUsage_reading, usageReading]
      cases countsReading usage <;> rfl
  | null | bool | int | float | str | broken | arr => rfl

/-! ## Feeding -/

/-- How feeding ends: with the accumulator that is given, or with an exception. -/
inductive Ends : EStateM.Result PyException ChunkAccumulator Unit → Option ChunkAccumulator → Prop
  | returned (after : ChunkAccumulator) : Ends (.ok () after) (some after)
  | raised (exception : PyException) (after : ChunkAccumulator) : Ends (.error exception after) none

theorem Ends.ok_of_some {result : EStateM.Result PyException ChunkAccumulator Unit}
    {reading : Option ChunkAccumulator} {after : ChunkAccumulator} (ends : Ends result reading)
    (read : reading = some after) : result = .ok () after := by
  cases ends with
  | returned => rw [Option.some.inj read]
  | raised => cases read

section Feed

variable {accumulator : ChunkAccumulator}

theorem check_ok {α : Type} {value : Except PyException α} {result : α}
    (returned : value = .ok result) (accumulator : ChunkAccumulator) :
    ChunkAccumulator.check value accumulator = .ok result accumulator := by
  rw [returned]
  rfl

theorem check_error {α : Type} {value : Except PyException α} {exception : PyException}
    (raised : value = .error exception) (accumulator : ChunkAccumulator) :
    ChunkAccumulator.check value accumulator = .error exception accumulator := by
  rw [raised]
  rfl

/-- An exception in the middle ends the rest. -/
theorem ends_of_raised {α : Type} {value : Except PyException α} {exception : PyException}
    (raised : value = .error exception) (later : α → EStateM PyException ChunkAccumulator Unit) :
    Ends ((ChunkAccumulator.check value >>= later) accumulator) none := by
  rw [bind_of_error (check_error raised accumulator)]
  exact .raised exception accumulator

/-- What is fed after something that has been read. -/
theorem Ends.bind {first second : EStateM PyException ChunkAccumulator Unit}
    {reading : Option ChunkAccumulator} {after : ChunkAccumulator → Option ChunkAccumulator}
    (ends : Ends (first accumulator) reading) (later : ∀ middle, Ends (second middle) (after middle)) :
    Ends ((first >>= fun _ => second) accumulator) (reading.bind after) := by
  cases result : first accumulator with
  | ok _ middle =>
      rw [result] at ends
      cases ends
      rw [bind_of_ok result]
      exact later middle
  | error exception middle =>
      rw [result] at ends
      cases ends
      rw [bind_of_error result]
      exact .raised exception middle

theorem ifTruthy_cases (value : Json) :
    (truthy value = false ∧ ifTruthy value = none) ∨
      (truthy value = true ∧ ifTruthy value = some value) := by
  unfold ifTruthy
  cases truthy value
  · exact .inl ⟨rfl, rfl⟩
  · exact .inr ⟨rfl, rfl⟩

theorem firstItem_broken (point : CodePoint) (rest : List CodePoint) :
    firstItem (.broken (point :: rest)) = .ok (.ofText [point]) := rfl

theorem feedUsage_reading (usage : Json) :
    Ends (ChunkAccumulator.feedUsage usage accumulator) ((usageReading usage).map fun counts =>
      { accumulator with
        usage :=
          match counts with
          | none => accumulator.usage
          | some counts => counts.apply accumulator.usage fun _ _ => accumulator.usage.totalTokens }) := by
  cases usage with
  | obj members =>
      rw [feedUsage_obj, readUsage_reading, usageReading]
      cases countsReading members with
      | none => exact .raised _ _
      | some counts => exact .returned _
  | null | bool | int | float | str | broken | arr => exact .returned _

/-- Why the answer ended, at the end of a choice. -/
theorem feedReason_reading (choice : List (String × Json)) (accumulator : ChunkAccumulator) :
    Ends ((do
        let finishReason ← ChunkAccumulator.check (dictGet (.obj choice) "finish_reason")
        if truthy finishReason then modify fun accumulator => { accumulator with finishReason } :
          EStateM PyException ChunkAccumulator Unit) accumulator)
      (some { accumulator with
        finishReason :=
          (ifTruthy (got choice "finish_reason")).getD accumulator.finishReason }) := by
  have read : dictGet (.obj choice) "finish_reason" = .ok (got choice "finish_reason") := rfl
  rw [bind_of_ok (check_ok read accumulator)]
  rcases ifTruthy_cases (got choice "finish_reason") with ⟨absent, nothing⟩ | ⟨present, same⟩
  · rw [nothing, absent]
    exact .returned _
  · rw [same, present]
    exact .returned _

/-- The content of a choice, before the reason. -/
theorem feedContent_reading (content : Json) (choice : List (String × Json)) :
    Ends ((do
        if truthy content then ChunkAccumulator.addContent content
        let finishReason ← ChunkAccumulator.check (dictGet (.obj choice) "finish_reason")
        if truthy finishReason then modify fun accumulator => { accumulator with finishReason } :
          EStateM PyException ChunkAccumulator Unit) accumulator)
      ((textReading content).map fun text =>
        { accumulator with
          content := accumulator.content ++ text
          finishReason :=
            (ifTruthy (got choice "finish_reason")).getD accumulator.finishReason }) := by
  unfold textReading
  rcases ifTruthy_cases content with ⟨absent, nothing⟩ | ⟨present, same⟩
  · rw [nothing, absent, Option.map_some, List.append_nil]
    exact feedReason_reading choice accumulator
  · rw [same, present]
    cases content with
    | str text =>
        exact feedReason_reading choice
          { accumulator with content := accumulator.content ++ codePoints text }
    | broken text =>
        exact feedReason_reading choice { accumulator with content := accumulator.content ++ text }
    | null => cases present
    | bool | int | float | arr | obj => exact .raised .typeError accumulator

theorem feedChoice_reading (choice : List (String × Json)) :
    Ends (ChunkAccumulator.feedChoice (.obj choice) accumulator)
      ((deltaReading (got choice "delta")).map fun content =>
        { accumulator with
          content := accumulator.content ++ content
          finishReason :=
            (ifTruthy (got choice "finish_reason")).getD accumulator.finishReason }) := by
  have read : dictGet (.obj choice) "delta" = .ok (got choice "delta") := rfl
  unfold ChunkAccumulator.feedChoice deltaReading orElse
  rw [bind_of_ok (check_ok read accumulator)]
  rcases ifTruthy_cases (got choice "delta") with ⟨absent, nothing⟩ | ⟨present, same⟩
  · rw [nothing, absent]
    exact feedContent_reading .null choice
  · rw [same, if_pos present]
    cases delta : got choice "delta" with
    | obj members => exact feedContent_reading (got members "content") choice
    | null => rw [delta] at present; cases present
    | bool | int | float | str | broken | arr => exact ends_of_raised rfl _

theorem chunkReading_obj (members : List (String × Json)) :
    chunkReading (.obj members) =
      (choicesReading (got members "choices")).bind fun choice =>
        (usageReading (got members "usage")).map fun usage =>
          ⟨got members "id", got members "model", choice.1, choice.2, usage⟩ := by
  rw [chunkReading]
  cases choicesReading (got members "choices") with
  | none => rfl
  | some choice => cases usageReading (got members "usage") <;> rfl

/-- The usage of a chunk, after its choices. -/
theorem feedRest_reading (members : List (String × Json)) (accumulator : ChunkAccumulator) :
    Ends ((do ChunkAccumulator.feedUsage (← ChunkAccumulator.check (dictGet (.obj members) "usage")) :
        EStateM PyException ChunkAccumulator Unit) accumulator)
      ((usageReading (got members "usage")).map fun counts =>
        { accumulator with
          usage :=
            match counts with
            | none => accumulator.usage
            | some counts =>
                counts.apply accumulator.usage fun _ _ => accumulator.usage.totalTokens }) := by
  have read : dictGet (.obj members) "usage" = .ok (got members "usage") := rfl
  rw [bind_of_ok (check_ok read accumulator)]
  exact feedUsage_reading (got members "usage")

/-- The choices of a chunk, then its usage. -/
theorem feedMembers_reading (members : List (String × Json)) :
    Ends ((do
        let choices ← ChunkAccumulator.check (dictGet (.obj members) "choices")
        if truthy choices then
          ChunkAccumulator.feedChoice (← ChunkAccumulator.check (firstItem choices))
        ChunkAccumulator.feedUsage (← ChunkAccumulator.check (dictGet (.obj members) "usage")) :
          EStateM PyException ChunkAccumulator Unit) accumulator)
      ((chunkReading (.obj members)).map fun reading =>
        { accumulator.absorb reading with
          id := accumulator.id
          model := accumulator.model
          sawAnyChunk := accumulator.sawAnyChunk }) := by
  have read : dictGet (.obj members) "choices" = .ok (got members "choices") := rfl
  rw [bind_of_ok (check_ok read accumulator), chunkReading_obj, choicesReading]
  rcases ifTruthy_cases (got members "choices") with ⟨absent, nothing⟩ | ⟨present, same⟩
  · rw [nothing, absent]
    have rest := feedRest_reading members accumulator
    cases counts : usageReading (got members "usage") with
    | none =>
        rw [counts] at rest
        exact rest
    | some counts =>
        rw [‹usageReading _ = _›] at rest
        simp only [Option.bind_some, Option.map_some, ChunkAccumulator.absorb, List.append_nil,
          Option.getD_none]
        exact rest
  · rw [same, present]
    cases choices : got members "choices" with
    | arr items =>
        cases items with
        | nil => rw [choices] at present; cases present
        | cons item rest =>
            cases item with
            | obj choice =>
                have both := (@feedChoice_reading accumulator choice).bind
                  fun middle => feedRest_reading members middle
                have first : firstItem (.arr (.obj choice :: rest)) = .ok (.obj choice) := rfl
                rw [if_pos rfl, bind_of_ok (check_ok first accumulator)]
                change Ends _ (Option.map _ (((deltaReading (got choice "delta")).map _).bind _))
                cases content : deltaReading (got choice "delta") with
                | none =>
                    rw [content] at both
                    exact both
                | some text =>
                    rw [content] at both
                    cases counts : usageReading (got members "usage") with
                    | none =>
                        simp only [counts] at both
                        exact both
                    | some counts =>
                        simp only [‹usageReading _ = _›] at both
                        exact both
            | null | bool | int | float | str | broken | arr => exact .raised .attributeError accumulator
    | null => rw [choices] at present; cases present
    | str text =>
        cases letters : text.toList with
        | nil => exact ends_of_raised (by rw [firstItem, letters]) _
        | cons c rest =>
            have first : firstItem (.str text) = .ok (.str (String.singleton c)) := by
              rw [firstItem, letters]
            rw [if_pos rfl, bind_of_ok (check_ok first accumulator)]
            exact .raised .attributeError accumulator
    | broken text =>
        cases text with
        | nil => exact ends_of_raised rfl _
        | cons point rest =>
            rw [if_pos rfl, bind_of_ok (check_ok (firstItem_broken point rest) accumulator)]
            unfold Json.ofText
            split <;> exact .raised .attributeError accumulator
    | bool | int | float => exact .raised .typeError accumulator
    | obj => exact .raised .keyError accumulator

/-- **Feeding a chunk is absorbing its reading**, and a chunk without one raises. -/
theorem feedChunk_reading (chunk : Json) :
    Ends (ChunkAccumulator.feedChunk chunk accumulator)
      ((chunkReading chunk).map accumulator.absorb) := by
  cases chunk with
  | obj members =>
      have id : dictGet (.obj members) "id" = .ok (got members "id") := rfl
      have model : dictGet (.obj members) "model" = .ok (got members "model") := rfl
      have rest := @feedMembers_reading { accumulator with
        sawAnyChunk := true
        id := orElse (got members "id") accumulator.id
        model := orElse (got members "model") accumulator.model } members
      cases reading : chunkReading (.obj members) with
      | none =>
          rw [reading] at rest
          exact rest
      | some said =>
          have identity : said.id = got members "id" ∧ said.model = got members "model" := by
            rw [chunkReading_obj] at reading
            obtain ⟨choice, -, rest⟩ := Option.bind_eq_some_iff.mp reading
            obtain ⟨usage, -, same⟩ := Option.map_eq_some_iff.mp rest
            exact same ▸ ⟨rfl, rfl⟩
          rw [reading] at rest
          rw [Option.map_some, ChunkAccumulator.absorb, identity.1, identity.2]
          exact rest
  | null | bool | int | float | str | broken | arr => exact .raised .attributeError _

/-! ## Lines -/

/-- What the payload of a line stands for, unless it is no JSON. -/
def lineValue (line : String) : Option Json :=
  (payload line).bind fun content => Json.parse (String.ofList content)

/-- A chunk is decoded from the payload of its line. -/
theorem payload_of_lineChunk {python : Interpreter} {line : String} {chunk : Json}
    (there : lineChunk python line = .ok (some chunk)) :
    ∃ content, payload line = some content ∧ python.loads (String.ofList content) = .ok chunk := by
  unfold lineChunk at there
  split at there
  · cases there
  · rename_i content found
    exact ⟨content, found, tryLoads_eq_some there⟩

/-- A chunk is what its payload stands for. -/
theorem lineValue_of_lineChunk {python : Interpreter} {line : String} {chunk : Json}
    (there : lineChunk python line = .ok (some chunk)) : lineValue line = some chunk := by
  obtain ⟨content, found, loaded⟩ := payload_of_lineChunk there
  rw [lineValue, found]
  exact Interpreter.parse_of_loads loaded

/-- The counts that a chunk gives to `capture_usage`, unless they cannot be used. -/
def usageOfChunk : Json → Option (Option CountsReading)
  | .obj members => usageReading (got members "usage")
  | _ => none

/-- A chunk that can be fed tells its usage. -/
theorem usageOfChunk_reading {chunk : Json} {reading : ChunkReading}
    (read : chunkReading chunk = some reading) : usageOfChunk chunk = some reading.usage := by
  cases chunk with
  | obj members =>
      rw [chunkReading_obj] at read
      obtain ⟨choice, -, rest⟩ := Option.bind_eq_some_iff.mp read
      obtain ⟨usage, counted, same⟩ := Option.map_eq_some_iff.mp rest
      exact same ▸ counted
  | null | bool | int | float | str | broken | arr => cases read

section Lines

variable (python : Interpreter)

/-- How capturing the usage of a line ends. -/
theorem captureUsage_reading (line : String) (current : Usage) :
    match lineChunk python line with
    | .error exception => captureUsage python line current = .error exception
    | .ok none => captureUsage python line current = .ok current
    | .ok (some chunk) =>
        match usageOfChunk chunk with
        | some counts => captureUsage python line current = .ok (current.absorb counts)
        | none => ∃ exception, captureUsage python line current = .error exception := by
  unfold captureUsage
  match lineChunk python line with
  | .error exception => rfl
  | .ok none => rfl
  | .ok (some chunk) =>
      cases chunk with
      | obj members =>
          simp only [usageOfChunk, chunkUsage_reading]
          cases usageReading (got members "usage") with
          | none => exact ⟨_, rfl⟩
          | some counts => rfl
      | null | bool | int | float | str | broken | arr => exact ⟨.attributeError, rfl⟩

/-- The readings of some lines, unless some chunk among them has none or cannot be decoded. -/
def readingsOf : List String → Option (List ChunkReading)
  | [] => some []
  | line :: lines =>
      match lineChunk python line with
      | .error _ => none
      | .ok none => readingsOf lines
      | .ok (some chunk) => (chunkReading chunk).bind fun reading =>
          (readingsOf lines).map fun rest => reading :: rest

theorem feed_reading (line : String) :
    Ends (ChunkAccumulator.feed python line accumulator)
      (match lineChunk python line with
      | .error _ => none
      | .ok none => some accumulator
      | .ok (some chunk) => (chunkReading chunk).map accumulator.absorb) := by
  unfold ChunkAccumulator.feed
  match lineChunk python line with
  | .error exception => exact .raised exception accumulator
  | .ok none => exact .returned accumulator
  | .ok (some chunk) => exact feedChunk_reading chunk

/-- **Feeding lines is absorbing their readings** one after the other. -/
theorem forM_feed_reading (lines : List String) (accumulator : ChunkAccumulator) :
    Ends (lines.forM (ChunkAccumulator.feed python) accumulator)
      ((readingsOf python lines).map fun readings =>
        readings.foldl ChunkAccumulator.absorb accumulator) := by
  induction lines generalizing accumulator with
  | nil => exact .returned accumulator
  | cons line rest ih =>
      have both := (@feed_reading accumulator python line).bind fun middle => ih middle
      change Ends ((ChunkAccumulator.feed python line >>= fun _ =>
        rest.forM (ChunkAccumulator.feed python)) accumulator) _
      rw [readingsOf]
      match chunk : lineChunk python line with
      | .error _ =>
          simp only [chunk, Option.bind_none] at both
          exact both
      | .ok none =>
          simp only [chunk, Option.bind_some] at both
          exact both
      | .ok (some value) =>
          simp only [chunk] at both
          cases reading : chunkReading value with
          | none =>
              simp only [reading, Option.map_none, Option.bind_none] at both ⊢
              exact both
          | some said =>
              simp only [reading, Option.map_some, Option.bind_some] at both ⊢
              cases others : readingsOf python rest with
              | none =>
                  simp only [others, Option.map_none] at both ⊢
                  exact both
              | some more =>
                  simp only [others, Option.map_some] at both ⊢
                  exact both

variable {python}

/-- **Capturing the usage of lines** that can be fed. -/
theorem foldlM_captureUsage_reading {lines : List String} {readings : List ChunkReading}
    (read : readingsOf python lines = some readings) (usage : Usage) :
    lines.foldlM (fun usage line => captureUsage python line usage) usage =
      .ok ((readings.map ChunkReading.usage).foldl Usage.absorb usage) := by
  induction lines generalizing usage readings with
  | nil =>
      cases read
      rfl
  | cons line rest ih =>
      rw [readingsOf] at read
      have captured := captureUsage_reading python line usage
      rw [List.foldlM_cons]
      match chunk : lineChunk python line with
      | .error _ =>
          rw [chunk] at read
          cases read
      | .ok none =>
          rw [chunk] at read captured
          rw [captured]
          exact ih read usage
      | .ok (some value) =>
          rw [chunk] at read captured
          obtain ⟨reading, first, more⟩ := Option.bind_eq_some_iff.mp read
          obtain ⟨others, later, rfl⟩ := Option.map_eq_some_iff.mp more
          simp only [usageOfChunk_reading first] at captured
          rw [captured]
          exact ih later _

end Lines

end Feed

end LlmGateway
