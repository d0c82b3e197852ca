import LlmGateway.Streams.Reading

/-!
# Usable lines

Which lines `capture_usage` and `ChunkAccumulator.feed` can take. Both skip lines without a JSON
payload, both raise on a payload that is nested too deeply for the interpreter, and both look into
any other payload as if it were a chunk. The shape that they rely on is `UsableChunk`: an object,
whose `choices` start with an object unless they are empty, and so on down to the content of the
delta, and whose counts are no texts of digits that `int` refuses.

On every other chunk `feed` raises, in the middle of its updates.
-/

set_option autoImplicit false

namespace LlmGateway

open LlmGateway.Library
open LlmGateway.Library.PythonText

/-! ## Shapes -/

/-- A count: anything but a text of digits that `int` refuses. -/
def Countable (value : Json) : Prop :=
  ∀ text, value = .str text → allDigits (lstrip '-' text.toList) = true →
    intOfText text.toList ≠ none

/-- A `usage` member. -/
def UsableUsage (usage : Json) : Prop :=
  ∀ members, usage = .obj members → Countable (got members "prompt_tokens") ∧
    Countable (got members "completion_tokens") ∧ Countable (got members "total_tokens")

/-- A text, with surrogates or without. -/
def IsText : Json → Prop
  | .str _ | .broken _ => True
  | _ => False

/-- A `content` member. -/
def UsableContent (content : Json) : Prop := truthy content = true → IsText content

/-- A `delta` member. -/
def UsableDelta (delta : Json) : Prop :=
  truthy delta = true → ∃ members, delta = .obj members ∧ UsableContent (got members "content")

/-- A `choices` member. -/
def UsableChoices (choices : Json) : Prop :=
  truthy choices = true → ∃ choice rest, choices = .arr (.obj choice :: rest) ∧
    UsableDelta (got choice "delta")

/-- A chunk for `capture_usage`. -/
def CountedChunk (chunk : Json) : Prop :=
  ∃ members, chunk = .obj members ∧ UsableUsage (got members "usage")

/-- A chunk for `feed`. -/
def UsableChunk (chunk : Json) : Prop :=
  ∃ members, chunk = .obj members ∧ UsableChoices (got members "choices") ∧
    UsableUsage (got members "usage")

/-- The payload of the line is not nested too deeply, and what it is decoded to, if it is JSON, is a
chunk for `capture_usage`. -/
def CountedLine (python : Interpreter) (line : String) : Prop :=
  ∃ read, lineChunk python line = .ok read ∧ ∀ chunk, read = some chunk → CountedChunk chunk

/-- The payload of the line is not nested too deeply, and what it is decoded to, if it is JSON, is a
chunk for `feed`. -/
def UsableLine (python : Interpreter) (line : String) : Prop :=
  ∃ read, lineChunk python line = .ok read ∧ ∀ chunk, read = some chunk → UsableChunk chunk

theorem UsableLine.counted {python : Interpreter} {line : String} (usable : UsableLine python line) :
    CountedLine python line := by
  obtain ⟨read, there, each⟩ := usable
  exact ⟨read, there, fun chunk same => (each chunk same).imp fun _ shape => ⟨shape.1, shape.2.2⟩⟩

/-! ## Readings -/

section Readings

theorem countReading_isSome (value : Json) : (countReading value).isSome ↔ Countable value := by
  unfold countReading Countable
  cases value with
  | str text =>
      dsimp only
      constructor
      · rintro read _ ⟨⟩ digits
        rw [if_pos digits, Option.isSome_map] at read
        exact Option.isSome_iff_ne_none.mp read
      · intro countable
        split_ifs with digits
        · rw [Option.isSome_map]
          exact Option.isSome_iff_ne_none.mpr (countable text rfl digits)
        · rfl
  | null | bool | int | float | broken | arr | obj =>
      exact ⟨fun _ text same => (by cases same), fun _ => rfl⟩

theorem usageReading_isSome (usage : Json) : (usageReading usage).isSome ↔ UsableUsage usage := by
  cases usage with
  | obj members =>
      have each : UsableUsage (.obj members) ↔ Countable (got members "prompt_tokens") ∧
          Countable (got members "completion_tokens") ∧ Countable (got members "total_tokens") :=
        ⟨fun usable => usable members rfl, by rintro usable _ ⟨⟩; exact usable⟩
      rw [each, usageReading, Option.isSome_map, countsReading, ← countReading_isSome,
        ← countReading_isSome, ← countReading_isSome]
      cases countReading (got members "prompt_tokens") with
      | none => simp
      | some =>
          cases countReading (got members "completion_tokens") with
          | none => simp
          | some => cases countReading (got members "total_tokens") <;> simp
  | null | bool | int | float | str | broken | arr =>
      exact ⟨fun _ members same => (by cases same), fun _ => rfl⟩

theorem textReading_isSome (content : Json) : (textReading content).isSome ↔ UsableContent content := by
  unfold textReading UsableContent
  rcases ifTruthy_cases content with ⟨absent, nothing⟩ | ⟨present, same⟩
  · rw [nothing, absent]
    simp
  · rw [same, present]
    cases content <;> simp [IsText]

theorem deltaReading_isSome (delta : Json) : (deltaReading delta).isSome ↔ UsableDelta delta := by
  unfold deltaReading UsableDelta
  rcases ifTruthy_cases delta with ⟨absent, nothing⟩ | ⟨present, same⟩
  · rw [nothing, absent]
    simp
  · rw [same, present]
    cases delta with
    | obj members => simp [textReading_isSome]
    | null | bool | int | float | str | broken | arr => simp

theorem choicesReading_isSome (choices : Json) :
    (choicesReading choices).isSome ↔ UsableChoices choices := by
  unfold choicesReading UsableChoices
  rcases ifTruthy_cases choices with ⟨absent, nothing⟩ | ⟨present, same⟩
  · rw [nothing, absent]
    simp
  · rw [same, present]
    cases choices with
    | arr items =>
        cases items with
        | nil => cases present
        | cons first rest =>
            cases first with
            | obj choice => simp [deltaReading_isSome]
            | null | bool | int | float | str | broken | arr => simp
    | null | bool | int | float | str | broken | obj => simp

/-- **A chunk can be read** when its shape is the one that `feed` relies on. -/
theorem chunkReading_isSome (chunk : Json) : (chunkReading chunk).isSome ↔ UsableChunk chunk := by
  cases chunk with
  | obj members =>
      have shape : UsableChunk (.obj members) ↔ UsableChoices (got members "choices") ∧
          UsableUsage (got members "usage") :=
        ⟨by rintro ⟨_, ⟨⟩, usable⟩; exact usable, fun usable => ⟨members, rfl, usable⟩⟩
      rw [shape, chunkReading_obj, ← choicesReading_isSome, ← usageReading_isSome]
      cases choicesReading (got members "choices") with
      | none => simp
      | some choice => simp
  | null | bool | int | float | str | broken | arr =>
      refine iff_of_false (fun read => ?_) ?_
      · cases read
      · rintro ⟨_, same, _⟩
        cases same

theorem usageOfChunk_isSome (chunk : Json) : (usageOfChunk chunk).isSome ↔ CountedChunk chunk := by
  cases chunk with
  | obj members =>
      have shape : CountedChunk (.obj members) ↔ UsableUsage (got members "usage") :=
        ⟨by rintro ⟨_, ⟨⟩, usable⟩; exact usable, fun usable => ⟨members, rfl, usable⟩⟩
      rw [shape, usageOfChunk, usageReading_isSome]
  | null | bool | int | float | str | broken | arr =>
      refine iff_of_false (fun read => ?_) ?_
      · cases read
      · rintro ⟨_, same, _⟩
        cases same

end Readings

/-! ## One line -/

/-- The payload of the line is an object with an object under `usage`. -/
def StatesUsage (line : String) : Prop :=
  ∃ members usage, lineValue line = some (.obj members) ∧ got members "usage" = .obj usage

/-- The payload of the line is an object. -/
def StatesChunk (line : String) : Prop := ∃ members, lineValue line = some (.obj members)

/-- **`capture_usage` returns** on the lines that are chunks for it, and there it keeps the usage
unless the line states one. -/
theorem captureUsage_returns_iff (python : Interpreter) (line : String) (current : Usage) :
    (∃ usage, captureUsage python line current = .ok usage ∧ (¬ StatesUsage line → usage = current)) ↔
      CountedLine python line := by
  have captured := captureUsage_reading python line current
  unfold CountedLine
  match there : lineChunk python line with
  | .error exception =>
      rw [there] at captured
      rw [captured]
      exact ⟨fun ⟨_, same, _⟩ => (by cases same), fun ⟨_, same, _⟩ => (by cases same)⟩
  | .ok none =>
      rw [there] at captured
      exact ⟨fun _ => ⟨none, rfl, fun chunk same => (by cases same)⟩,
        fun _ => ⟨current, captured, fun _ => rfl⟩⟩
  | .ok (some chunk) =>
      rw [there] at captured
      have shape : (∃ read, Except.ok (some chunk) = (.ok read : Except PyException _) ∧
          ∀ other, read = some other → CountedChunk other) ↔ (usageOfChunk chunk).isSome := by
        rw [usageOfChunk_isSome]
        constructor
        · rintro ⟨read, same, all⟩
          exact all chunk (Except.ok.inj same).symm
        · exact fun counted => ⟨_, rfl, fun other same => Option.some.inj same ▸ counted⟩
      rw [shape]
      cases counted : usageOfChunk chunk with
      | none =>
          simp only [counted] at captured
          obtain ⟨exception, raised⟩ := captured
          rw [raised]
          exact ⟨fun ⟨_, same, _⟩ => (by cases same), fun some => (by cases some)⟩
      | some counts =>
          simp only [counted] at captured
          refine ⟨fun _ => rfl, fun _ => ⟨_, captured, fun unstated => ?_⟩⟩
          cases chunk with
          | obj members =>
              rw [usageOfChunk] at counted
              cases usage : got members "usage" with
              | obj given =>
                  exact absurd ⟨members, given, lineValue_of_lineChunk there, usage⟩ unstated
              | null | bool | int | float | str | broken | arr =>
                  rw [usage] at counted
                  cases counted
                  rfl
          | null | bool | int | float | str | broken | arr => cases counted

/-- A line that was fed is a chunk for `feed`, if its payload is JSON. -/
theorem usable_of_fed {python : Interpreter} {line : String} {accumulator after : ChunkAccumulator}
    (fed : ChunkAccumulator.feed python line accumulator = .ok () after) : UsableLine python line := by
  have ends := @feed_reading accumulator python line
  unfold UsableLine
  match there : lineChunk python line with
  | .error exception =>
      rw [there, fed] at ends
      cases ends
  | .ok none => exact ⟨none, rfl, fun chunk same => (by cases same)⟩
  | .ok (some chunk) =>
      rw [there, fed] at ends
      refine ⟨_, rfl, fun other same => ?_⟩
      obtain rfl := Option.some.inj same
      rw [← chunkReading_isSome]
      cases read : chunkReading chunk with
      | none =>
          simp only [read, Option.map_none] at ends
          cases ends
      | some reading => rfl

/-- **`feed` returns** on the lines that are chunks for it, and there it keeps the accumulator
unless the line states a chunk. -/
theorem feed_returns_iff (python : Interpreter) (line : String) (accumulator : ChunkAccumulator) :
    (∃ after, ChunkAccumulator.feed python line accumulator = .ok () after ∧
        (¬ StatesChunk line → after = accumulator)) ↔ UsableLine python line := by
  constructor
  · exact fun ⟨after, fed, _⟩ => usable_of_fed fed
  · rintro ⟨given, there, usable⟩
    have fed := @feed_reading accumulator python line
    cases given with
    | none =>
        rw [there] at fed
        exact ⟨accumulator, fed.ok_of_some rfl, fun _ => rfl⟩
    | some chunk =>
        rw [there] at fed
        have shape := usable chunk rfl
        obtain ⟨reading, read⟩ := Option.isSome_iff_exists.mp ((chunkReading_isSome chunk).mpr shape)
        simp only [read, Option.map_some] at fed
        obtain ⟨members, rfl, -⟩ := shape
        exact ⟨_, fed.ok_of_some rfl,
          fun unstated => absurd ⟨members, lineValue_of_lineChunk there⟩ unstated⟩

end LlmGateway
