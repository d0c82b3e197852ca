import LlmGateway.Library.Keeping
import LlmGateway.Providers.Bodies

/-!
# Token counts

The counts that are billed come from the body of an answer, or from the lines of a stream. The
validator of `Usage` replaces a negative integer by zero. It does not look at a text or at a
float, and the field then reads `"-5"` and `-5.0` as the integer.

`counts_iff` says that the counts and their cost are never negative except for bodies with such a
value (`Smuggles`), or whose sum is one. The counts of a stream are never negative: `_to_int`
makes integers of the texts before the validator sees them.
-/

set_option autoImplicit false

namespace LlmGateway

open LlmGateway.Library

/-! ## What is counted -/

/-- No count is negative. -/
structure Usage.NonNegative (usage : Usage) : Prop where
  prompt : 0 ≤ usage.promptTokens
  completion : 0 ≤ usage.completionTokens
  total : 0 ≤ usage.totalTokens

/-- No count is negative, and nor is what a record of them costs. -/
structure Usage.Sane (usage : Usage) : Prop where
  counts : usage.NonNegative
  cost : ∀ (virtualKeyId : ℤ) (providerName : String) (pricing : ModelPricing) (model : String)
    (latencyMs : ℕ), pricing.NonNegative →
      0 ≤ (buildUsageRecord virtualKeyId providerName pricing model usage latencyMs).estimatedCost

/-- `capture_usage` of one line after the other. -/
def captureAll (python : Interpreter) (lines : List String) : Except PyException Usage :=
  lines.foldlM (fun current line => captureUsage python line current) {}

/-- `feed` of one line after the other, until one raises. -/
def accumulate (python : Interpreter) (lines : List String) : ChunkAccumulator :=
  stateAfter (lines.forM (ChunkAccumulator.feed python) {})

/-- Where counts come from: the body of an answer, or the lines of a stream. -/
inductive CountSource where
  | body (adapter : Adapter) (created : ℤ) (body : Json)
  | captured (lines : List String)
  | accumulated (lines : List String)

/-- The usage that comes out. -/
inductive CountSource.Yields (python : Interpreter) (field : IntField) : CountSource → Usage → Prop
  | body {adapter : Adapter} {created : ℤ} {body : Json} {response : ChatResponse}
      (parsed : adapter.parse field created body = .ok response) :
      Yields python field (.body adapter created body) response.usage
  | captured {lines : List String} {usage : Usage} (folded : captureAll python lines = .ok usage) :
      Yields python field (.captured lines) usage
  | accumulated {lines : List String} :
      Yields python field (.accumulated lines) (accumulate python lines).usage

/-! ## What is smuggled -/

/-- A value that is no integer and that the field reads as a negative one. -/
def Smuggles (field : IntField) (value : PyValue) : Prop :=
  value.integer = none ∧ ∃ n, field.read value = some n ∧ n < 0

/-- The members of the `usage` of a body. -/
def usageMembers (body : Json) : List (String × Json) :=
  match body with
  | .obj members =>
      match Json.lookup "usage" members with
      | some (.obj usage) => usage
      | _ => []
  | _ => []

/-- The values of a body that an adapter gives to the fields of `Usage`. The Anthropic adapter
adds the two counts for the third field. -/
def Adapter.counts (adapter : Adapter) (body : Json) : List PyValue :=
  let members := usageMembers body
  match adapter with
  | .openai | .mistral =>
      (memberValue "prompt_tokens" members).toList ++
        (memberValue "completion_tokens" members).toList ++
          (memberValue "total_tokens" members).toList
  | .anthropic =>
      match memberValue "input_tokens" members, memberValue "output_tokens" members with
      | some input, some output => [input, output] ++ (pyAdd input output).toOption.toList
      | _, _ => []

/-- No value of a body is smuggled. The lines of a stream smuggle nothing. -/
def CountSource.Plain (field : IntField) : CountSource → Prop
  | .body adapter _ data => ∀ value ∈ adapter.counts data, ¬ Smuggles field value
  | .captured _ | .accumulated _ => True

/-! ## The fields of `Usage` -/

section Fields

variable {field : IntField}

/-- An integer comes out of a field as it is, or as zero. -/
theorem read_neverNegative {value : PyValue} {m n : ℤ} (integer : value.integer = some m)
    (read : field.read (neverNegative value) = some n) : 0 ≤ n := by
  cases value with
  | int value =>
      simp only [neverNegative] at read
      split_ifs at read with negative
      · rw [field.read_integer (.int 0) 0 rfl] at read
        cases read
        exact le_refl 0
      · rw [field.read_integer (.int value) value rfl] at read
        cases read
        exact not_lt.mp negative
  | bool value =>
      have taken := field.read_integer (.bool value) _ rfl
      obtain rfl : _ = n := Option.some.inj (taken.symm.trans read)
      cases value <;> decide
  | none | float | str | broken | list | dict => cases integer

/-- **One field**: it is negative exactly when its value is smuggled. -/
theorem nonneg_iff_not_smuggles {value : PyValue} {n : ℤ}
    (read : countOf field (some value) = some n) : 0 ≤ n ↔ ¬ Smuggles field value := by
  cases integer : value.integer with
  | none =>
      have passed : neverNegative value = value := by
        cases value with
        | int => cases integer
        | _ => rfl
      rw [countOf, passed] at read
      constructor
      · rintro nonneg ⟨-, m, same, negative⟩
        rw [read] at same
        cases same
        exact absurd negative (not_lt.mpr nonneg)
      · intro plain
        by_contra negative
        exact plain ⟨integer, n, read, not_le.mp negative⟩
  | some m =>
      refine ⟨fun _ smuggles => ?_, fun _ => read_neverNegative integer read⟩
      have no := smuggles.1
      rw [integer] at no
      cases no

/-- The same of a field that may be missing. -/
theorem nonneg_iff_of_given {value : Option PyValue} {n : ℤ} (read : countOf field value = some n) :
    0 ≤ n ↔ ∀ given ∈ value.toList, ¬ Smuggles field given := by
  cases value with
  | none =>
      cases read
      simp
  | some value =>
      rw [nonneg_iff_not_smuggles read]
      simp

/-- The three fields. -/
theorem nonNegative_iff_of_validate {prompt completion total : Option PyValue} {usage : Usage}
    (valid : Usage.validate field prompt completion total = some usage) :
    usage.NonNegative ↔ ∀ value ∈ prompt.toList ++ completion.toList ++ total.toList,
      ¬ Smuggles field value := by
  obtain ⟨promptTokens, first, rest⟩ := Option.bind_eq_some_iff.mp valid
  obtain ⟨completionTokens, second, rest⟩ := Option.bind_eq_some_iff.mp rest
  obtain ⟨totalTokens, third, same⟩ := Option.bind_eq_some_iff.mp rest
  cases same
  simp only [List.forall_mem_append]
  rw [← nonneg_iff_of_given first, ← nonneg_iff_of_given second, ← nonneg_iff_of_given third]
  exact ⟨fun counts => ⟨⟨counts.prompt, counts.completion⟩, counts.total⟩,
    fun ⟨⟨prompt, completion⟩, total⟩ => ⟨prompt, completion, total⟩⟩

/-- Counts that are not negative cost nothing negative. -/
theorem sane_iff_nonNegative {usage : Usage} : usage.Sane ↔ usage.NonNegative := by
  refine ⟨Usage.Sane.counts, fun counts => ⟨counts, ?_⟩⟩
  intro virtualKeyId providerName pricing model latencyMs priced
  exact Decimal.nonneg_add (tokenCost_nonneg priced.input counts.prompt)
    (tokenCost_nonneg priced.output counts.completion)

theorem nonNegative_clamped (promptTokens completionTokens totalTokens : ℤ) :
    (Usage.clamped promptTokens completionTokens totalTokens).NonNegative :=
  ⟨le_max_right _ _, le_max_right _ _, le_max_right _ _⟩

end Fields

/-! ## Bodies -/

section Bodies

variable {field : IntField}

theorem getItem_eq_ok {value item : Json} {key : String} (found : getItem value key = .ok item) :
    ∃ members, value = .obj members ∧ Json.lookup key members = some item := by
  unfold getItem at found
  split at found
  · rename_i members
    split at found
    · rename_i item there
      cases found
      exact ⟨members, rfl, there⟩
    · cases found
  · cases found

theorem validated_eq_ok {α : Type} {value : Option α} {result : α}
    (valid : validated value = .ok result) : value = some result := by
  cases value with
  | none => cases valid
  | some value => cases valid; rfl

theorem asObj_eq_some {value : Json} {members : List (String × Json)}
    (object : asObj value = some members) : value = .obj members := by
  cases value with
  | obj given => cases object; rfl
  | _ => cases object

/-- A validated answer takes its usage from the three members of the body. -/
theorem modelValidate_usage {body : Json} {response : ChatResponse}
    (valid : ChatResponse.modelValidate field body = some response) :
    Usage.validate field (memberValue "prompt_tokens" (usageMembers body))
      (memberValue "completion_tokens" (usageMembers body))
      (memberValue "total_tokens" (usageMembers body)) = some response.usage := by
  obtain ⟨members, isObject, rest⟩ := Option.bind_eq_some_iff.mp valid
  obtain rfl := asObj_eq_some isObject
  simp only [Option.bind_eq_bind, Option.bind_eq_some_iff] at rest
  obtain ⟨idValue, -, id, -, object, -, createdValue, -, created, -, modelValue, -, model, -,
    choicesValue, -, items, -, choices, -, usageValue, there, usage, read, closed⟩ := rest
  split_ifs at closed
  cases closed
  obtain ⟨counts, isObject, read⟩ := Option.bind_eq_some_iff.mp read
  obtain rfl := asObj_eq_some isObject
  have same : usageMembers (.obj members) = counts := by
    simp only [usageMembers, there]
  rw [same]
  exact read

/-- An answer of the Anthropic adapter takes its usage from the two counts and their sum. -/
theorem buildResponse_usage {created : ℤ} {data : Json} {response : ChatResponse}
    (built : buildResponse field created data = .ok response) :
    ∃ input output total, memberValue "input_tokens" (usageMembers data) = some input ∧
      memberValue "output_tokens" (usageMembers data) = some output ∧
        pyAdd input output = .ok total ∧
          Usage.validate field (some input) (some output) (some total) = some response.usage := by
  unfold buildResponse at built
  obtain ⟨contentValue, -, built⟩ := bind_eq_ok.mp built
  obtain ⟨items, -, built⟩ := bind_eq_ok.mp built
  obtain ⟨text, -, built⟩ := bind_eq_ok.mp built
  obtain ⟨usageValue, there, built⟩ := bind_eq_ok.mp built
  obtain ⟨idValue, -, built⟩ := bind_eq_ok.mp built
  obtain ⟨modelValue, -, built⟩ := bind_eq_ok.mp built
  obtain ⟨content, -, built⟩ := bind_eq_ok.mp built
  split at built
  · rename_i bounded
    obtain ⟨reasonValue, -, built⟩ := bind_eq_ok.mp built
    obtain ⟨finishReason, -, built⟩ := bind_eq_ok.mp built
    obtain ⟨input, inputThere, built⟩ := bind_eq_ok.mp built
    obtain ⟨output, outputThere, built⟩ := bind_eq_ok.mp built
    obtain ⟨total, sum, built⟩ := bind_eq_ok.mp built
    obtain ⟨usage, valid, built⟩ := bind_eq_ok.mp built
    obtain ⟨id, -, built⟩ := bind_eq_ok.mp built
    obtain ⟨model, -, built⟩ := bind_eq_ok.mp built
    cases built
    obtain ⟨members, rfl, found⟩ := getItem_eq_ok there
    obtain ⟨counts, rfl, inputFound⟩ := getItem_eq_ok inputThere
    obtain ⟨others, same, outputFound⟩ := getItem_eq_ok outputThere
    cases same
    have same : usageMembers (.obj members) = counts := by
      simp only [usageMembers, found]
    rw [same]
    exact ⟨_, _, total, congrArg (Option.map _) inputFound, congrArg (Option.map _) outputFound,
      sum, validated_eq_ok valid⟩
  · cases built

/-- **A body**: its counts are not negative exactly when no value is smuggled. -/
theorem nonNegative_iff_of_parse {adapter : Adapter} {created : ℤ} {body : Json}
    {response : ChatResponse} (parsed : adapter.parse field created body = .ok response) :
    response.usage.NonNegative ↔ ∀ value ∈ adapter.counts body, ¬ Smuggles field value := by
  cases adapter with
  | openai | mistral =>
      exact nonNegative_iff_of_validate (modelValidate_usage (validated_eq_ok parsed))
  | anthropic =>
      obtain ⟨input, output, total, first, second, sum, valid⟩ := buildResponse_usage parsed
      rw [nonNegative_iff_of_validate valid]
      simp only [Adapter.counts, first, second, sum]
      rfl

end Bodies

/-! ## Streams -/

section Streams

variable {python : Interpreter}

theorem readUsage_nonNegative {members : Json} {prompt completion : ℤ} {total : ℤ → ℤ → ℤ}
    {usage : Usage} (read : readUsage members prompt completion total = .ok usage) :
    usage.NonNegative := by
  unfold readUsage at read
  obtain ⟨first, -, read⟩ := bind_eq_ok.mp read
  obtain ⟨prompt, -, read⟩ := bind_eq_ok.mp read
  obtain ⟨second, -, read⟩ := bind_eq_ok.mp read
  obtain ⟨completion, -, read⟩ := bind_eq_ok.mp read
  obtain ⟨third, -, read⟩ := bind_eq_ok.mp read
  obtain ⟨total, -, read⟩ := bind_eq_ok.mp read
  cases read
  exact nonNegative_clamped _ _ _

/-- One line as it is billed. -/
theorem captureUsage_nonNegative {line : String} {current usage : Usage}
    (counts : current.NonNegative) (captured : captureUsage python line current = .ok usage) :
    usage.NonNegative := by
  unfold captureUsage at captured
  split at captured
  · cases captured
  · cases captured
    exact counts
  · unfold chunkUsage at captured
    obtain ⟨value, -, captured⟩ := bind_eq_ok.mp captured
    split at captured
    · exact readUsage_nonNegative captured
    · cases captured
      exact counts

theorem foldlM_captureUsage_nonNegative {lines : List String} {current usage : Usage}
    (counts : current.NonNegative)
    (folded : lines.foldlM (fun current line => captureUsage python line current) current = .ok usage) :
    usage.NonNegative := by
  induction lines generalizing current with
  | nil =>
      cases folded
      exact counts
  | cons line rest ih =>
      rw [List.foldlM_cons] at folded
      obtain ⟨next, captured, folded⟩ := bind_eq_ok.mp folded
      exact ih (captureUsage_nonNegative counts captured) folded

/-- The accumulator has counts that are not negative. -/
def ChunkAccumulator.Counted (accumulator : ChunkAccumulator) : Prop :=
  accumulator.usage.NonNegative

theorem keeps_check {α : Type} {P : ChunkAccumulator → Prop} (value : Except PyException α) :
    Keeps P (ChunkAccumulator.check value) := by
  intro accumulator holds
  cases value <;> exact holds

theorem keeps_feedUsage (usage : Json) :
    Keeps ChunkAccumulator.Counted (ChunkAccumulator.feedUsage usage) := by
  intro accumulator counted
  cases usage with
  | obj members =>
      rw [feedUsage_obj]
      split
      · rename_i counts read
        exact readUsage_nonNegative read
      · exact counted
  | _ => exact counted

/-- An update of another field. -/
theorem keeps_update {update : ChunkAccumulator → ChunkAccumulator}
    (same : ∀ accumulator, (update accumulator).usage = accumulator.usage) :
    Keeps ChunkAccumulator.Counted
      (modify update : EStateM PyException ChunkAccumulator PUnit) :=
  keeps_modify fun accumulator counted => by
    rw [ChunkAccumulator.Counted, same]
    exact counted

theorem keeps_addContent (content : Json) :
    Keeps ChunkAccumulator.Counted (ChunkAccumulator.addContent content) := by
  cases content with
  | str text => exact keeps_update fun accumulator => rfl
  | broken text => exact keeps_update fun accumulator => rfl
  | _ => exact keeps_throw _

theorem keeps_feedChoice (choice : Json) :
    Keeps ChunkAccumulator.Counted (ChunkAccumulator.feedChoice choice) := by
  unfold ChunkAccumulator.feedChoice
  refine (keeps_check _).bind fun delta => (keeps_check _).bind fun content => ?_
  have finish : Keeps ChunkAccumulator.Counted
      (do
        let finishReason ← ChunkAccumulator.check (dictGet choice "finish_reason")
        if truthy finishReason then
          modify fun accumulator => { accumulator with finishReason }) :=
    (keeps_check _).bind fun reason =>
      Keeps.ite (keeps_update (by intro accumulator; rfl)) (keeps_pure _)
  split
  · exact (keeps_addContent content).bind fun _ => finish
  · exact finish

/-- One line as it is cached. -/
theorem keeps_feed (line : String) :
    Keeps ChunkAccumulator.Counted (ChunkAccumulator.feed python line) := by
  unfold ChunkAccumulator.feed
  split
  · exact keeps_throw _
  · exact keeps_pure _
  · rename_i chunk there
    unfold ChunkAccumulator.feedChunk
    have usage : Keeps ChunkAccumulator.Counted
        (do ChunkAccumulator.feedUsage (← ChunkAccumulator.check (dictGet chunk "usage"))) :=
      (keeps_check _).bind fun usage => keeps_feedUsage usage
    refine Keeps.bind (keeps_update (by intro accumulator; rfl)) fun _ => ?_
    refine Keeps.bind (keeps_check _) fun id => ?_
    refine Keeps.bind (keeps_update (by intro accumulator; rfl)) fun _ => ?_
    refine Keeps.bind (keeps_check _) fun model => ?_
    refine Keeps.bind (keeps_update (by intro accumulator; rfl)) fun _ => ?_
    refine Keeps.bind (keeps_check _) fun choices => ?_
    dsimp only
    split
    · exact (keeps_check _).bind fun choice => (keeps_feedChoice choice).bind fun _ => usage
    · exact usage

end Streams

/-! ## The counts that are billed -/

/-- **Counts are negative only when they are smuggled**: what an adapter makes of a body, and
what the lines of a stream are billed and cached with, has counts that are not negative and a cost
that is not negative at prices that are not, if and only if no value of the body is a text
or a float that stands for a negative integer. -/
theorem counts_iff (python : Interpreter) (field : IntField) (source : CountSource) (usage : Usage)
    (yields : source.Yields python field usage) : usage.Sane ↔ source.Plain field := by
  rw [sane_iff_nonNegative]
  cases yields with
  | body parsed => exact nonNegative_iff_of_parse parsed
  | captured folded =>
      refine iff_of_true (foldlM_captureUsage_nonNegative ?_ folded) trivial
      exact ⟨le_refl 0, le_refl 0, le_refl 0⟩
  | @accumulated lines =>
      refine iff_of_true (keeps_forM keeps_feed lines {} ?_) trivial
      exact ⟨le_refl 0, le_refl 0, le_refl 0⟩

/-- An answer of an OpenAI-compatible provider with the counts in its `usage`. -/
def answerBody (prompt completion total : Json) : Json :=
  .obj [("id", .str "chatcmpl-1"), ("created", .int 1760000000), ("model", .str "gpt-4o"),
    ("choices",
      .arr [.obj [("message", .obj [("role", .str "assistant"), ("content", .str "hello")])]]),
    ("usage",
      .obj [("prompt_tokens", prompt), ("completion_tokens", completion), ("total_tokens", total)])]

theorem length_hello : "hello".length ≤ maxContentLength := by decide

/-- The response that is made of it. -/
def answered (promptTokens completionTokens totalTokens : ℤ) : ChatResponse where
  id := "chatcmpl-1"
  created := 1760000000
  model := "gpt-4o"
  choices := [{ message := ⟨.assistant, "hello", length_hello⟩ }]
  usage := ⟨promptTokens, completionTokens, totalTokens⟩

/-- Integers are never negative afterwards. -/
theorem counts_iff_integers : Usage.Sane ⟨0, 7, 0⟩ := by
  have yields : CountSource.Yields .standard .lax
      (.body .openai 0 (answerBody (.int (-10)) (.int 7) (.int (-3)))) ⟨0, 7, 0⟩ :=
    .body (show Adapter.parse .openai .lax 0 _ = .ok (answered 0 7 0) by rfl)
  refine (counts_iff .standard .lax _ ⟨0, 7, 0⟩ yields).mpr fun value member smuggled => ?_
  have integer : (Adapter.openai.counts (answerBody (.int (-10)) (.int 7) (.int (-3)))).all
      (fun value => value.integer.isSome) = true := by decide
  have known := List.all_eq_true.mp integer value member
  rw [smuggled.1] at known
  cases known

/-- **A negative count as a text**: the cost of the answer is negative, and lowers what its
key has spent. -/
theorem smuggled_as_text :
    ¬ ∀ (source : CountSource) (usage : Usage),
      source.Yields .standard .lax usage → usage.Sane := by
  intro always
  have yields : CountSource.Yields .standard .lax
      (.body .openai 0 (answerBody (.str "-100000") (.int 7) (.int 7))) ⟨-100000, 7, 7⟩ :=
    .body (show Adapter.parse .openai .lax 0 _ = .ok (answered (-100000) 7 7) by rfl)
  exact absurd (always _ _ yields).counts.prompt (by decide)

end LlmGateway
