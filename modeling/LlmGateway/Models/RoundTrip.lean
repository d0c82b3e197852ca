import LlmGateway.Library.Json.Lookup
import LlmGateway.Models.Validation

/-!
# A request that was read can be read again

`ChatRequest.modelDump` writes a request and `ChatRequest.modelValidate` reads one. A request that
validation accepted is accepted again, as itself, from every body that has its fields
(`modelValidate_of_carries`): from its own dump, and from a dump to which the name of a field that
`ChatRequest` does not know was added.

How pydantic reads a number is a parameter of validation. What is asked of it here is that a number it
has read is read as itself (`NumberFields.Stable`).
-/

set_option autoImplicit false

namespace LlmGateway

open LlmGateway.Library

/-! ## Dumps -/

/-- Under the name of a field a dump has the value of the field, if it has one. -/
theorem lookup_present {fields : List (String × Option Json)} (distinct : (fields.map Prod.fst).Nodup)
    {name : String} {value : Option Json} (member : (name, value) ∈ fields) :
    Json.lookup name (fields.filterMap ChatRequest.present) = value := by
  have shown : ∀ found : Json,
      (name, found) ∈ fields.filterMap ChatRequest.present ↔ value = some found := by
    intro found
    rw [List.mem_filterMap]
    constructor
    · rintro ⟨⟨other, held⟩, there, same⟩
      obtain ⟨held, rfl, pair⟩ := Option.map_eq_some_iff.mp same
      obtain ⟨rfl, rfl⟩ := Prod.mk.inj pair
      exact congrArg Prod.snd (List.inj_on_of_nodup_map distinct member there rfl)
    · rintro rfl
      exact ⟨_, member, rfl⟩
  have names := (filterMap_present_sublist fields).nodup distinct
  refine Option.ext fun found => ?_
  rw [← Json.mem_iff_lookup names, shown found]

/-- A body with the fields of a request, whatever else it has. -/
def JsonDict.Carries (body : JsonDict) (request : ChatRequest) : Prop :=
  ∀ field ∈ request.fields, Json.lookup field.1 body.members = field.2

theorem ChatRequest.fields_nodup (request : ChatRequest) : (request.fields.map Prod.fst).Nodup := by
  rw [request.fields_names]
  decide

/-- The dump of a request as a body. -/
def ChatRequest.dumped (request : ChatRequest) : JsonDict where
  members := request.fields.filterMap ChatRequest.present
  keyed := request.keyed_modelDump

theorem ChatRequest.carries_dumped (request : ChatRequest) : request.dumped.Carries request :=
  fun _ member => lookup_present request.fields_nodup member

/-! ## Assigning to a body -/

/-- `body[key] = value`. -/
def JsonDict.assign (body : JsonDict) (key : String) (value : KeyedJson) : JsonDict where
  members := Json.assign key value.val body.members
  keyed := ⟨Json.nodup_assign body.keyed.1, Json.keyedMembers_assign body.keyed.2 value.property⟩

/-- A key that is no field does not matter. -/
theorem JsonDict.Carries.assign {body : JsonDict} {request : ChatRequest}
    (carries : body.Carries request) {key : String} (unknown : key ∉ requestFields)
    (value : KeyedJson) : (body.assign key value).Carries request := by
  intro field member
  have known : field.1 ∈ requestFields := by
    have named := List.mem_map_of_mem member (f := Prod.fst)
    rwa [request.fields_names] at named
  change Json.lookup field.1 (Json.assign key value.val body.members) = field.2
  rw [Json.lookup_assign, if_neg (ne_of_mem_of_not_mem known unknown).symm]
  exact carries field member

/-- `body["stream"] = True`. -/
theorem JsonDict.Carries.streaming {body : JsonDict} {request : ChatRequest}
    (carries : body.Carries request) :
    (body.assign "stream" ⟨.bool true, trivial⟩).Carries { request with stream := true } := by
  intro field member
  change Json.lookup field.1 (Json.assign "stream" (.bool true) body.members) = field.2
  rw [Json.lookup_assign]
  by_cases same : "stream" = field.1
  · rw [if_pos same]
    obtain ⟨name, value⟩ := field
    obtain rfl : "stream" = name := same
    have only : value = some (.bool true) := by simpa [ChatRequest.fields] using member
    exact only.symm
  · rw [if_neg same]
    refine carries field ?_
    simp only [ChatRequest.fields, List.mem_cons, List.not_mem_nil, or_false] at member ⊢
    rcases member with rfl | rfl | rfl | rfl | rfl | rfl | rfl | rfl | rfl | rfl | rfl | rfl
    all_goals simp at same ⊢

/-! ## Numbers -/

/-- The bounds of the numbers of a request. -/
def temperatureBounds : Bounds := { ge := some 0, le := some 2 }
def topPBounds : Bounds := { gt := some 0, le := some 1 }
def penaltyBounds : Bounds := { ge := some (-2), le := some 2 }
def maxTokensBounds : Bounds := { gt := some 0 }

/-- **A number that was read is read as itself**, and the default of `temperature` is one that can be
read. -/
structure NumberFields.Stable (numbers : NumberFields) : Prop where
  float : ∀ bounds value number,
    numbers.float bounds value = .ok number → numbers.float bounds (.float number) = .ok number
  int : ∀ bounds value number,
    numbers.int bounds value = .ok number → numbers.int bounds (.int number) = .ok number
  bool : ∀ flag, numbers.bool (.bool flag) = .ok flag
  default : numbers.float temperatureBounds (.float defaultTemperature) = .ok defaultTemperature

/-! ## Requests that validation accepts -/

/-- **What the validators leave of a request**: each field is one that its own validator accepts. -/
structure ChatRequest.Checked (numbers : NumberFields) (request : ChatRequest) : Prop where
  least : minMessages ≤ request.messages.length
  most : request.messages.length ≤ maxMessages
  temperature : numbers.float temperatureBounds (.float request.temperature) = .ok request.temperature
  topP : ∀ number, request.topP = some number →
    numbers.float topPBounds (.float number) = .ok number
  frequencyPenalty : ∀ number, request.frequencyPenalty = some number →
    numbers.float penaltyBounds (.float number) = .ok number
  presencePenalty : ∀ number, request.presencePenalty = some number →
    numbers.float penaltyBounds (.float number) = .ok number
  maxTokens : ∀ number, request.maxTokens = some number →
    numbers.int maxTokensBounds (.int number) = .ok number
  stop : stopWithinBounds request.stop = .ok request.stop
  seed : ∀ number, request.seed = some number → numbers.int {} (.int number) = .ok number
  user : ∀ text, request.user = some text → text.length ≤ maxUserLength
  responseFormat : validResponseFormat request.responseFormat = .ok request.responseFormat
  asks : requireUserMessage request = .ok request

/-! ### Reading what was written -/

section Reading

variable {α : Type} {dict : JsonDict} {name : String}

theorem required_of_lookup {value : Json} (found : Json.lookup name dict.members = some value)
    {read : KeyedJson → Validated PyException α} {a : α}
    (reads : ∀ keyed, read ⟨value, keyed⟩ = .accepted a) : dict.required name read = .accepted a := by
  have got : dict.get name = some ⟨value, Json.keyed_lookup dict.keyed.2 found⟩ :=
    JsonDict.get_eq_some.mpr found
  rw [JsonDict.required, Validated.within_eq_accepted, got]
  exact reads _

theorem defaulted_of_lookup {value : Json} (found : Json.lookup name dict.members = some value)
    {default : α} {read : KeyedJson → Validated PyException α} {a : α}
    (reads : ∀ keyed, read ⟨value, keyed⟩ = .accepted a) :
    dict.defaulted name default read = .accepted a := by
  have got : dict.get name = some ⟨value, Json.keyed_lookup dict.keyed.2 found⟩ :=
    JsonDict.get_eq_some.mpr found
  rw [JsonDict.defaulted, Validated.within_eq_accepted, got]
  exact reads _

/-- A field that may be `None`: its value is read, or there is none. -/
theorem defaulted_of_option (encode : α → Json) {given : Option α}
    (found : Json.lookup name dict.members = given.map encode)
    {read : KeyedJson → Validated PyException (Option α)}
    (reads : ∀ a, given = some a → ∀ keyed, read ⟨encode a, keyed⟩ = .accepted (some a)) :
    dict.defaulted name none read = .accepted given := by
  cases given with
  | none =>
      have absent : dict.get name = none := by
        rw [Option.eq_none_iff_forall_ne_some]
        intro value got
        rw [JsonDict.get_eq_some, found] at got
        cases got
      rw [JsonDict.defaulted, Validated.within_eq_accepted, absent]
  | some a => exact defaulted_of_lookup found (reads a rfl)

theorem nullable_of_read {value : KeyedJson} {a : α} (present : value.val ≠ .null)
    {read : KeyedJson → Validated PyException α} (reads : read value = .accepted a) :
    nullable read value = .accepted (some a) := by
  unfold nullable
  split
  · rename_i null
    exact absurd null present
  · exact Validated.map_eq_accepted.mpr ⟨a, reads, rfl⟩

theorem readNumber_of_ok {read : Json → Except String α} {value : KeyedJson} {number : α}
    (reads : read value.val = .ok number) : readNumber read value = .accepted number := by
  unfold readNumber
  rw [reads]

theorem readStr_str {text : String} (keyed : (Json.str text).Keyed) :
    readStr ⟨.str text, keyed⟩ = .accepted text := rfl

theorem readStrMax_str {maxLength : ℕ} {text : String} (short : text.length ≤ maxLength)
    (keyed : (Json.str text).Keyed) :
    readStrMax maxLength ⟨.str text, keyed⟩ = .accepted ⟨text, short⟩ := dif_pos short

theorem readRole_toString (role : Role) (keyed : (Json.str role.toString).Keyed) :
    readRole ⟨.str role.toString, keyed⟩ = .accepted role := by
  unfold readRole
  simp only [asStr, Option.bind_some, Role.ofString_toString]

theorem readMessage_toJson (message : ChatMessage) (keyed : message.toJson.Keyed) :
    readMessage ⟨message.toJson, keyed⟩ = .accepted message := by
  change (_ <$> JsonDict.required ⟨_, keyed⟩ "role" readRole <*>
    JsonDict.required ⟨_, keyed⟩ "content" (readStrMax maxContentLength)) = _
  have role : JsonDict.required ⟨_, keyed⟩ "role" readRole = .accepted message.role :=
    required_of_lookup rfl (readRole_toString message.role)
  have content : JsonDict.required ⟨_, keyed⟩ "content" (readStrMax maxContentLength) =
      .accepted ⟨message.content, message.bounded⟩ :=
    required_of_lookup rfl (readStrMax_str message.bounded)
  rw [role, content]
  rfl

/-- The items of a written list, each with what it was written from. -/
theorem forall₂_attach {encode : α → Json} {as : List α} {read : KeyedJson → Validated PyException α}
    (keyed : (Json.arr (as.map encode)).Keyed)
    (reads : ∀ a keyed, read ⟨encode a, keyed⟩ = .accepted a) :
    List.Forall₂ (fun value a => read value = .accepted a)
      ((as.map encode).attach.map fun item => ⟨item.val, keyed_of_mem keyed item.2⟩) as := by
  have same : ((as.map encode).attach.map Subtype.val) = as.map encode :=
    List.attach_map_subtype_val _
  have paired : List.Forall₂ (fun (item : {item // item ∈ as.map encode}) a => item.val = encode a)
      (as.map encode).attach as := by
    refine List.forall₂_map_left_iff.mp (List.forall₂_map_right_iff.mp ?_)
    rw [List.forall₂_eq_eq_eq]
    exact same
  refine List.forall₂_map_left_iff.mpr (paired.imp fun item a equal => ?_)
  obtain ⟨value, member⟩ := item
  obtain rfl : value = encode a := equal
  exact reads a _

theorem readMessages_toJson {messages : List ChatMessage} (least : minMessages ≤ messages.length)
    (most : messages.length ≤ maxMessages)
    (keyed : (Json.arr (messages.map ChatMessage.toJson)).Keyed) :
    readList (Validated.sized minMessages maxMessages readMessage)
      ⟨.arr (messages.map ChatMessage.toJson), keyed⟩ = .accepted messages :=
  Validated.sized_of_forall₂ least most (forall₂_attach keyed readMessage_toJson)

theorem readStop_toJson (stop : Stop) (keyed : stop.toJson.Keyed) :
    readStop ⟨stop.toJson, keyed⟩ = .accepted stop := by
  cases stop with
  | one sequence => rfl
  | many sequences =>
      have read : readList (Validated.items readStr 0) ⟨.arr (sequences.map Json.str), keyed⟩ =
          .accepted sequences :=
        Validated.items_of_forall₂ (forall₂_attach keyed fun _ => readStr_str) 0
      unfold readStop
      change Validated.either _ _ (Stop.one <$> readStr ⟨.arr _, keyed⟩)
        (Stop.many <$> readList _ ⟨.arr (sequences.map Json.str), keyed⟩) = _
      rw [read]
      rfl

end Reading

/-! ### Fields -/

/-- The fields of an accepted request, one by one. -/
theorem readFields_eq_accepted_iff {numbers : NumberFields} {body : JsonDict} {request : ChatRequest} :
    ChatRequest.readFields numbers body = .accepted request ↔
      body.required "model" readStr = .accepted request.model ∧
      body.required "messages" (readList (Validated.sized minMessages maxMessages readMessage)) =
        .accepted request.messages ∧
      body.defaulted "temperature" defaultTemperature
        (readNumber (numbers.float temperatureBounds)) = .accepted request.temperature ∧
      body.defaulted "top_p" none (nullable (readNumber (numbers.float topPBounds))) =
        .accepted request.topP ∧
      body.defaulted "frequency_penalty" none
        (nullable (readNumber (numbers.float penaltyBounds))) = .accepted request.frequencyPenalty ∧
      body.defaulted "presence_penalty" none
        (nullable (readNumber (numbers.float penaltyBounds))) = .accepted request.presencePenalty ∧
      body.defaulted "max_tokens" none (nullable (readNumber (numbers.int maxTokensBounds))) =
        .accepted request.maxTokens ∧
      body.defaulted "stop" none (fun value => (nullable readStop value).after stopWithinBounds) =
        .accepted request.stop ∧
      body.defaulted "seed" none (nullable (readNumber (numbers.int {}))) = .accepted request.seed ∧
      body.defaulted "user" none
        (nullable fun value => Subtype.val <$> readStrMax maxUserLength value) =
          .accepted request.user ∧
      body.defaulted "response_format" none
        (fun value => (nullable readDict value).after validResponseFormat) =
          .accepted request.responseFormat ∧
      body.defaulted "stream" false (readNumber numbers.bool) = .accepted request.stream := by
  constructor
  · intro accepted
    unfold ChatRequest.readFields at accepted
    simp only [Validated.seq_eq_accepted, Validated.map_eq_accepted] at accepted
    obtain ⟨_, stream, ⟨_, format, ⟨_, user, ⟨_, seed, ⟨_, stop, ⟨_, tokens, ⟨_, presence, ⟨_,
      frequency, ⟨_, topP, ⟨_, temperature, ⟨_, messages, ⟨model, isModel, rfl⟩, isMessages, rfl⟩,
        isTemperature, rfl⟩, isTopP, rfl⟩, isFrequency, rfl⟩, isPresence, rfl⟩, isTokens, rfl⟩,
          isStop, rfl⟩, isSeed, rfl⟩, isUser, rfl⟩, isFormat, rfl⟩, isStream, rfl⟩ := accepted
    exact ⟨isModel, isMessages, isTemperature, isTopP, isFrequency, isPresence, isTokens, isStop,
      isSeed, isUser, isFormat, isStream⟩
  · rintro ⟨model, messages, temperature, topP, frequency, presence, tokens, stop, seed, user, format,
      stream⟩
    change ChatRequest.mk <$> _ <*> _ <*> _ <*> _ <*> _ <*> _ <*> _ <*> _ <*> _ <*> _ <*> _ <*> _ = _
    unfold temperatureBounds at temperature
    unfold topPBounds at topP
    unfold penaltyBounds at frequency presence
    unfold maxTokensBounds at tokens
    rw [model, messages, temperature, topP, frequency, presence, tokens, stop, seed, user, format,
      stream]
    rfl

section Numbers

variable {α : Type} {dict : JsonDict} {name : String}

/-- A number that a field holds is one that it reads. -/
theorem readNumber_eq_accepted {read : Json → Except String α} {value : KeyedJson} {number : α}
    (accepted : readNumber read value = .accepted number) : read value.val = .ok number := by
  unfold readNumber at accepted
  split at accepted
  · rename_i found
    cases accepted
    exact found
  · cases accepted

theorem nullable_eq_accepted {read : KeyedJson → Validated PyException α} {value : KeyedJson} {a : α}
    (accepted : nullable read value = .accepted (some a)) : read value = .accepted a := by
  unfold nullable at accepted
  split at accepted
  · cases accepted
  · obtain ⟨found, reads, same⟩ := Validated.map_eq_accepted.mp accepted
    rwa [← Option.some.inj same]

theorem defaulted_none_eq_accepted {read : KeyedJson → Validated PyException (Option α)} {a : α}
    (accepted : dict.defaulted name none read = .accepted (some a)) :
    ∃ value, read value = .accepted (some a) := by
  rcases defaulted_eq_accepted accepted with none | ⟨value, -, reads⟩
  · cases none
  · exact ⟨value, reads⟩

/-- An optional number of an accepted request is read as itself. -/
theorem stable_of_accepted {read : Json → Except String α} {encode : α → Json}
    (stable : ∀ value number, read value = .ok number → read (encode number) = .ok number)
    {given : Option α} (accepted : dict.defaulted name none (nullable (readNumber read)) =
      .accepted given) : ∀ number, given = some number → read (encode number) = .ok number := by
  rintro number rfl
  obtain ⟨value, reads⟩ := defaulted_none_eq_accepted accepted
  exact stable _ _ (readNumber_eq_accepted (nullable_eq_accepted reads))

theorem defaulted_number {read : Json → Except String α} {encode : α → Json}
    (present : ∀ number, encode number ≠ .null) {given : Option α}
    (reads : ∀ number, given = some number → read (encode number) = .ok number)
    (found : Json.lookup name dict.members = given.map encode) :
    dict.defaulted name none (nullable (readNumber read)) = .accepted given :=
  defaulted_of_option encode found fun number same _ =>
    nullable_of_read (present number) (readNumber_of_ok (reads number same))

end Numbers

/-- What a validator lets through it lets through again. -/
theorem stopWithinBounds_eq_ok {given checked : Option Stop}
    (ok : stopWithinBounds given = .ok checked) : checked = given := by
  cases given with
  | none => exact (Except.ok.inj ok).symm
  | some value =>
      simp only [stopWithinBounds] at ok
      split_ifs at ok
      exact (Except.ok.inj ok).symm

theorem validResponseFormat_eq_ok {given checked : Option JsonDict}
    (ok : validResponseFormat given = .ok checked) : checked = given := by
  cases given with
  | none => exact (Except.ok.inj ok).symm
  | some value =>
      simp only [validResponseFormat] at ok
      split at ok
      · cases ok
      · cases ok
      · split_ifs at ok
        exact (Except.ok.inj ok).symm

/-- A field with a validator holds a value that the validator lets through, or none. -/
theorem checked_of_defaulted {α : Type} {dict : JsonDict} {name : String}
    {read : KeyedJson → Validated PyException (Option α)}
    {validator : Option α → Except (Raised PyException) (Option α)}
    (same : ∀ given checked, validator given = .ok checked → checked = given)
    (none : validator none = .ok none) {given : Option α}
    (accepted : dict.defaulted name Option.none (fun value => (read value).after validator) =
      .accepted given) : validator given = .ok given := by
  rcases defaulted_eq_accepted accepted with absent | ⟨value, -, reads⟩
  · rw [absent]
    exact none
  · obtain ⟨before, -, ok⟩ := Validated.after_eq_accepted.mp reads
    rwa [← same before given ok] at ok

/-! ## The round trip -/

/-- A request that validation accepted has been checked. -/
theorem checked_of_modelValidate {numbers : NumberFields} (stable : numbers.Stable) {body : JsonDict}
    {request : ChatRequest} (accepted : ChatRequest.modelValidate numbers body = .accepted request) :
    request.Checked numbers := by
  rw [ChatRequest.modelValidate, Validated.after_eq_accepted] at accepted
  obtain ⟨given, fields, ok⟩ := accepted
  have asks : requireUserMessage given = .ok given := by
    unfold requireUserMessage at ok ⊢
    split_ifs at ok ⊢
    rfl
  obtain rfl : given = request := Except.ok.inj (asks.symm.trans ok)
  obtain ⟨-, messages, temperature, topP, frequency, presence, tokens, stop, seed, user, format, -⟩ :=
    readFields_eq_accepted_iff.mp fields
  obtain ⟨value, -, sized⟩ := required_eq_accepted messages
  obtain ⟨least, most⟩ := length_of_readMessages sized
  refine ⟨least, most, ?_, stable_of_accepted (stable.float _) topP,
    stable_of_accepted (stable.float _) frequency, stable_of_accepted (stable.float _) presence,
    stable_of_accepted (stable.int _) tokens, ?_, stable_of_accepted (stable.int _) seed, ?_, ?_, asks⟩
  · rcases defaulted_eq_accepted temperature with default | ⟨value, -, reads⟩
    · rw [default]
      exact stable.default
    · exact stable.float _ _ _ (readNumber_eq_accepted reads)
  · exact checked_of_defaulted (fun _ _ => stopWithinBounds_eq_ok) rfl stop
  · intro text same
    rw [same] at user
    obtain ⟨value, reads⟩ := defaulted_none_eq_accepted user
    obtain ⟨bounded, -, rfl⟩ := Validated.map_eq_accepted.mp (nullable_eq_accepted reads)
    exact bounded.property
  · exact checked_of_defaulted (fun _ _ => validResponseFormat_eq_ok) rfl format

/-- **A checked request is read back** from every body that has its fields. -/
theorem modelValidate_of_carries {numbers : NumberFields} (stable : numbers.Stable)
    {request : ChatRequest} (checked : request.Checked numbers) {body : JsonDict}
    (carries : body.Carries request) :
    ChatRequest.modelValidate numbers body = .accepted request := by
  rw [ChatRequest.modelValidate, Validated.after_eq_accepted]
  refine ⟨request, readFields_eq_accepted_iff.mpr ?_, checked.asks⟩
  have field : ∀ {name : String} {value : Option Json}, (name, value) ∈ request.fields →
      Json.lookup name body.members = value := fun member => carries _ member
  refine ⟨?_, ?_, ?_, ?_, ?_, ?_, ?_, ?_, ?_, ?_, ?_, ?_⟩
  · have model : ("model", some (.str request.model)) ∈ request.fields := by simp [ChatRequest.fields]
    exact required_of_lookup (field model) readStr_str
  · exact required_of_lookup (field (by simp [ChatRequest.fields]))
      (readMessages_toJson checked.least checked.most)
  · exact defaulted_of_lookup (field (by simp [ChatRequest.fields]))
      fun _ => readNumber_of_ok checked.temperature
  · exact defaulted_number (by simp) checked.topP (field (by simp [ChatRequest.fields]))
  · exact defaulted_number (by simp) checked.frequencyPenalty (field (by simp [ChatRequest.fields]))
  · exact defaulted_number (by simp) checked.presencePenalty (field (by simp [ChatRequest.fields]))
  · exact defaulted_number (by simp) checked.maxTokens (field (by simp [ChatRequest.fields]))
  · refine defaulted_of_option Stop.toJson (field (by simp [ChatRequest.fields]))
      fun stop same keyed => ?_
    refine Validated.after_eq_accepted.mpr ⟨some stop, ?_, same ▸ checked.stop⟩
    exact nullable_of_read (by cases stop <;> simp [Stop.toJson]) (readStop_toJson stop keyed)
  · exact defaulted_number (by simp) checked.seed (field (by simp [ChatRequest.fields]))
  · refine defaulted_of_option Json.str (field (by simp [ChatRequest.fields]))
      fun text same keyed => nullable_of_read (by simp) ?_
    exact Validated.map_eq_accepted.mpr
      ⟨_, readStrMax_str (checked.user text same) keyed, rfl⟩
  · refine defaulted_of_option (fun format => Json.obj format.members)
      (field (by simp [ChatRequest.fields])) fun format same keyed => ?_
    refine Validated.after_eq_accepted.mpr ⟨some format, ?_, same ▸ checked.responseFormat⟩
    exact nullable_of_read (by simp) rfl
  · exact defaulted_of_lookup (field (by simp [ChatRequest.fields]))
      fun _ => readNumber_of_ok (stable.bool request.stream)

/-- Turning `stream` on keeps a request checked. -/
theorem ChatRequest.Checked.streaming {numbers : NumberFields} {request : ChatRequest}
    (checked : request.Checked numbers) :
    ({ request with stream := true } : ChatRequest).Checked numbers := by
  obtain ⟨least, most, temperature, topP, frequency, presence, tokens, stop, seed, user, format,
    asks⟩ := checked
  refine ⟨least, most, temperature, topP, frequency, presence, tokens, stop, seed, user, format, ?_⟩
  unfold requireUserMessage at asks ⊢
  split_ifs at asks ⊢
  rfl

/-- **Validation is idempotent**: what it accepts is what it reads from the dump of what it accepted,
and the requests that it accepts are those whose fields their validators accept. -/
theorem accepted_iff_checked {numbers : NumberFields} (stable : numbers.Stable) (request : ChatRequest) :
    (∃ body, ChatRequest.modelValidate numbers body = .accepted request) ↔ request.Checked numbers :=
  ⟨fun ⟨_, accepted⟩ => checked_of_modelValidate stable accepted,
    fun checked => ⟨request.dumped, modelValidate_of_carries stable checked request.carries_dumped⟩⟩

theorem plainNumbers_stable : plainNumbers.Stable where
  float _ _ _ _ := rfl
  int _ _ _ _ := rfl
  bool _ := rfl
  default := rfl

end LlmGateway
