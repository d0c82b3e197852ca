import LlmGateway.Core.Exceptions
import LlmGateway.Library.Validation
import LlmGateway.Models.Api
import Mathlib.Data.Rat.Defs

/-!
# The validation of a request

A `ChatRequest` as pydantic reads it from the object of a request body, with the validators of
`models/api.py`, and the answer of `main.py` to a refusal. How pydantic reads a number or a boolean
from a JSON value is a parameter (`NumberFields`); texts, lists and dictionaries are read as they are.

`_valid_response_format` asks whether the `type` of a `response_format` is in a set before it knows
that it is a text. A list and a dictionary have no hash, so the question itself raises `TypeError`,
which no refusal comes of. Every other body is refused or gives a well-formed request
(`validation_total_iff`).
-/

set_option autoImplicit false

namespace LlmGateway

open LlmGateway.Library
open LlmGateway.Library.Validated (refuse)

/-! ## Fields -/

/-- A JSON value whose objects are dictionaries. -/
abbrev KeyedJson := {value : Json // value.Keyed}

/-- The value under a key of a dictionary. -/
def JsonDict.get (dict : JsonDict) (name : String) : Option KeyedJson :=
  (Json.lookup name dict.members).attach.map fun ⟨value, found⟩ =>
    ⟨value, Json.keyed_lookup dict.keyed.2 found⟩

section Fields

variable {α : Type}

/-- A field without a default. -/
def JsonDict.required (dict : JsonDict) (name : String)
    (read : KeyedJson → Validated PyException α) : Validated PyException α :=
  Validated.within (.name name) <|
    match dict.get name with
    | some value => read value
    | none => refuse "Field required"

/-- A field with a default, which is not validated. -/
def JsonDict.defaulted (dict : JsonDict) (name : String) (default : α)
    (read : KeyedJson → Validated PyException α) : Validated PyException α :=
  Validated.within (.name name) <|
    match dict.get name with
    | some value => read value
    | none => .accepted default

/-- `T | None`. -/
def nullable (read : KeyedJson → Validated PyException α) (value : KeyedJson) :
    Validated PyException (Option α) :=
  match value.val with
  | .null => .accepted none
  | _ => some <$> read value

end Fields

/-! ## Types -/

/-- The constraints of a number. -/
structure Bounds where
  ge : Option ℚ := none
  gt : Option ℚ := none
  le : Option ℚ := none

/-- How numbers and booleans are read, or refused with a message. -/
structure NumberFields where
  float : Bounds → Json → Except String JsonFloat
  int : Bounds → Json → Except String ℤ
  bool : Json → Except String Bool

/-- A reading that may refuse. -/
def readNumber {α : Type} (read : Json → Except String α) (value : KeyedJson) :
    Validated PyException α :=
  match read value.val with
  | .ok number => .accepted number
  | .error msg => refuse msg

/-- `str`. -/
def readStr (value : KeyedJson) : Validated PyException String :=
  match value.val with
  | .str text => .accepted text
  | _ => refuse "Input should be a valid string"

/-- `str` with a greatest length. -/
def readStrMax (maxLength : ℕ) (value : KeyedJson) :
    Validated PyException {text : String // text.length ≤ maxLength} :=
  match value.val with
  | .str text =>
      if bounded : text.length ≤ maxLength then .accepted ⟨text, bounded⟩
      else refuse ("String should have at most " ++ toString maxLength ++ " characters")
  | _ => refuse "Input should be a valid string"

/-- `dict[str, Any]`. -/
def readDict : KeyedJson → Validated PyException JsonDict
  | ⟨.obj members, keyed⟩ => .accepted ⟨members, keyed⟩
  | _ => refuse "Input should be a valid dictionary"

theorem keyed_of_mem {items : List Json} (keyed : Json.KeyedItems items) {item : Json}
    (member : item ∈ items) : item.Keyed := by
  induction items with
  | nil => cases member
  | cons first rest ih =>
      rcases List.mem_cons.mp member with rfl | later
      · exact keyed.1
      · exact ih keyed.2 later

/-- `list[...]`: what is done with its items. -/
def readList {α : Type} (read : List KeyedJson → Validated PyException (List α)) :
    KeyedJson → Validated PyException (List α)
  | ⟨.arr items, keyed⟩ => read (items.attach.map fun item => ⟨item.val, keyed_of_mem keyed item.2⟩)
  | _ => refuse "Input should be a valid list"

/-- `Role`. -/
def readRole (value : KeyedJson) : Validated PyException Role :=
  match (asStr value.val).bind Role.ofString with
  | some role => .accepted role
  | none => refuse "Input should be 'system', 'user' or 'assistant'"

/-- `ChatMessage`. -/
def readMessage : KeyedJson → Validated PyException ChatMessage
  | ⟨.obj members, keyed⟩ =>
      let fields : JsonDict := ⟨members, keyed⟩
      (fun role content => ⟨role, content.val, content.property⟩) <$>
        fields.required "role" readRole <*>
        fields.required "content" (readStrMax maxContentLength)
  | _ => refuse "Input should be a valid dictionary or instance of ChatMessage"

/-- `str | list[str]`. -/
def readStop (value : KeyedJson) : Validated PyException Stop :=
  Validated.either "str" "list[str]" (Stop.one <$> readStr value)
    (Stop.many <$> readList (Validated.items readStr 0) value)

/-! ## Validators -/

/-- `_RESPONSE_FORMAT_TYPES`. -/
def responseFormatTypes : List String := ["text", "json_object", "json_schema"]

/-- Whether a value, or `None`, is in a set of texts. What has no hash cannot be looked up. -/
def inFrozenset (texts : List String) : Option Json → Except PyException Bool
  | some (.str text) => .ok (texts.contains text)
  | some (.arr _) | some (.obj _) => .error .typeError
  | _ => .ok false

def isDict : Option Json → Bool
  | some (.obj _) => true
  | _ => false

/-- A value is this text. -/
def equalsText (text : String) : Option Json → Bool
  | some (.str other) => other == text
  | _ => false

/-- `_valid_response_format`. -/
def validResponseFormat : Option JsonDict → Except (Raised PyException) (Option JsonDict)
  | none => .ok none
  | some value =>
      let kind := Json.lookup "type" value.members
      match inFrozenset responseFormatTypes kind with
      | .error exception => .error (.other exception)
      | .ok false =>
          .error (.valueError "response_format.type deve ser 'text', 'json_object' ou 'json_schema'")
      | .ok true =>
          if equalsText "json_schema" kind && !isDict (Json.lookup "json_schema" value.members) then
            .error (.valueError "response_format do tipo 'json_schema' exige o objeto 'json_schema'")
          else .ok (some value)

/-- The sequences of a `stop`. -/
def Stop.sequences : Stop → List String
  | .one sequence => [sequence]
  | .many sequences => sequences

/-- `_stop_within_bounds`. -/
def stopWithinBounds : Option Stop → Except (Raised PyException) (Option Stop)
  | none => .ok none
  | some value =>
      if value.sequences.isEmpty || value.sequences.any String.isEmpty then
        .error (.valueError "stop sequences não podem ser vazias")
      else if 4 < value.sequences.length then .error (.valueError "no máximo 4 stop sequences")
      else .ok (some value)

/-- `_require_user_message`. -/
def requireUserMessage (request : ChatRequest) : Except (Raised PyException) ChatRequest :=
  if request.messages.any fun message => message.role == .user then .ok request
  else .error (.valueError "messages must include at least one message with role 'user'")

/-! ## Requests -/

/-- The bounds on the number of messages, and on the length of `user`. -/
def minMessages : ℕ := 1
def maxMessages : ℕ := 100
def maxUserLength : ℕ := 255

theorem isFloatLiteral_one : isFloatLiteral ['1', '.', '0'] = true := by decide

/-- The default of `temperature`. -/
def defaultTemperature : JsonFloat := .finite ['1', '.', '0'] isFloatLiteral_one

/-- The fields of `ChatRequest` in the order of the class, each with its validator. -/
def ChatRequest.readFields (numbers : NumberFields) (body : JsonDict) :
    Validated PyException ChatRequest :=
  ChatRequest.mk <$>
    body.required "model" readStr <*>
    body.required "messages" (readList (Validated.sized minMessages maxMessages readMessage)) <*>
    body.defaulted "temperature" defaultTemperature
      (readNumber (numbers.float { ge := some 0, le := some 2 })) <*>
    body.defaulted "top_p" none
      (nullable (readNumber (numbers.float { gt := some 0, le := some 1 }))) <*>
    body.defaulted "frequency_penalty" none
      (nullable (readNumber (numbers.float { ge := some (-2), le := some 2 }))) <*>
    body.defaulted "presence_penalty" none
      (nullable (readNumber (numbers.float { ge := some (-2), le := some 2 }))) <*>
    body.defaulted "max_tokens" none (nullable (readNumber (numbers.int { gt := some 0 }))) <*>
    body.defaulted "stop" none (fun value => (nullable readStop value).after stopWithinBounds) <*>
    body.defaulted "seed" none (nullable (readNumber (numbers.int {}))) <*>
    body.defaulted "user" none
      (nullable fun value => Subtype.val <$> readStrMax maxUserLength value) <*>
    body.defaulted "response_format" none
      (fun value => (nullable readDict value).after validResponseFormat) <*>
    body.defaulted "stream" false (readNumber numbers.bool)

/-- `ChatRequest.model_validate` of the object of a body. -/
def ChatRequest.modelValidate (numbers : NumberFields) (body : JsonDict) :
    Validated PyException ChatRequest :=
  (ChatRequest.readFields numbers body).after requireUserMessage

/-! ## The endpoint -/

/-- A response of the gateway itself. -/
structure JsonResponse where
  statusCode : ℕ
  content : Json

/-- `str` of a part of a location. -/
def partText : LocPart → String
  | .name text => text
  | .index position => toString position

/-- `_validation_exception_handler`: the first error, with the path of its field as `param`. -/
def validationExceptionHandler (errors : List LineError) : JsonResponse :=
  let first := errors.head?
  let parts := (first.map LineError.loc).getD []
  let loc := ".".intercalate ((parts.filter (· ≠ .name "body")).map partText)
  let msg := (first.map LineError.msg).getD "Invalid request"
  { statusCode := 400
    content := .obj [("error", .obj
      ([("type", .str "invalid_request_error"), ("message", .str msg)] ++
        if loc.isEmpty then [] else [("param", .str loc)]))] }

/-- What becomes of a request body before the endpoint runs. -/
inductive Received where
  | passed (request : ChatRequest)
  | answered (response : JsonResponse)
  | raised (exception : PyException)

/-- The body is validated; its errors lie in `body`, and what escapes is not caught. -/
def receiveRequest (numbers : NumberFields) (body : JsonDict) : Received :=
  match ChatRequest.modelValidate numbers body with
  | .accepted request => .passed request
  | .refused first rest =>
      .answered (validationExceptionHandler ((first :: rest).map (LineError.within (.name "body"))))
  | .escaped exception => .raised exception

/-! ## What is accepted -/

/-- A `stop` of one sequence or of up to four, none of them empty. -/
def Stop.Bounded (stop : Stop) : Prop :=
  1 ≤ stop.sequences.length ∧ stop.sequences.length ≤ 4 ∧ ∀ sequence ∈ stop.sequences, sequence ≠ ""

/-- A `response_format` of one of the three types, with its schema if it needs one. -/
def JsonDict.IsResponseFormat (format : JsonDict) : Prop :=
  ∃ kind ∈ responseFormatTypes, Json.lookup "type" format.members = some (.str kind) ∧
    (kind = "json_schema" → ∃ members, Json.lookup "json_schema" format.members = some (.obj members))

/-- **A request that an adapter can send.** -/
structure ChatRequest.WellFormed (request : ChatRequest) : Prop where
  least : minMessages ≤ request.messages.length
  most : request.messages.length ≤ maxMessages
  asks : ∃ message ∈ request.messages, message.role = .user
  stops : ∀ stop, request.stop = some stop → stop.Bounded
  formats : ∀ format, request.responseFormat = some format → format.IsResponseFormat

section Accepted

variable {α : Type} {dict : JsonDict} {name : String}

theorem required_eq_accepted {read : KeyedJson → Validated PyException α} {a : α}
    (accepted : dict.required name read = .accepted a) :
    ∃ value, dict.get name = some value ∧ read value = .accepted a := by
  rw [JsonDict.required, Validated.within_eq_accepted] at accepted
  cases found : dict.get name with
  | none =>
      rw [found] at accepted
      cases accepted
  | some value =>
      rw [found] at accepted
      exact ⟨value, rfl, accepted⟩

theorem defaulted_eq_accepted {default : α} {read : KeyedJson → Validated PyException α} {a : α}
    (accepted : dict.defaulted name default read = .accepted a) :
    a = default ∨ ∃ value, dict.get name = some value ∧ read value = .accepted a := by
  rw [JsonDict.defaulted, Validated.within_eq_accepted] at accepted
  cases found : dict.get name with
  | none =>
      rw [found] at accepted
      cases accepted
      exact .inl rfl
  | some value =>
      rw [found] at accepted
      exact .inr ⟨value, rfl, accepted⟩

theorem length_of_readMessages {least most : ℕ} {value : KeyedJson}
    {read : KeyedJson → Validated PyException α} {results : List α}
    (accepted : readList (Validated.sized least most read) value = .accepted results) :
    least ≤ results.length ∧ results.length ≤ most := by
  unfold readList at accepted
  split at accepted
  · exact Validated.sized_eq_accepted accepted
  · cases accepted

theorem bounded_of_stopWithinBounds {given : Option Stop} {stop : Stop}
    (checked : stopWithinBounds given = .ok (some stop)) : stop.Bounded := by
  cases given with
  | none => cases checked
  | some value =>
      simp only [stopWithinBounds] at checked
      split_ifs at checked with blank many
      cases checked
      simp only [Bool.or_eq_true, List.isEmpty_iff, List.any_eq_true, String.isEmpty_iff, not_or,
        not_exists, not_and] at blank
      exact ⟨List.length_pos_iff.mpr blank.1, not_lt.mp many, blank.2⟩

theorem inFrozenset_eq_true {texts : List String} {value : Option Json} :
    inFrozenset texts value = .ok true ↔ ∃ text ∈ texts, value = some (.str text) := by
  constructor
  · intro member
    unfold inFrozenset at member
    split at member
    · rename_i text
      exact ⟨text, List.contains_iff_mem.mp (Except.ok.inj member), rfl⟩
    all_goals cases member
  · rintro ⟨text, member, rfl⟩
    simpa [inFrozenset] using member

theorem isDict_eq_true {value : Option Json} :
    isDict value = true ↔ ∃ members, value = some (.obj members) := by
  unfold isDict
  split <;> simp_all

theorem isResponseFormat_of_valid {given : Option JsonDict} {format : JsonDict}
    (checked : validResponseFormat given = .ok (some format)) : format.IsResponseFormat := by
  cases given with
  | none => cases checked
  | some value =>
      simp only [validResponseFormat] at checked
      split at checked
      · cases checked
      · cases checked
      · rename_i member
        split_ifs at checked with missing
        cases checked
        obtain ⟨kind, listed, given⟩ := inFrozenset_eq_true.mp member
        refine ⟨kind, listed, given, ?_⟩
        rintro rfl
        rw [given] at missing
        simpa [equalsText, isDict_eq_true] using missing

end Accepted

/-- The fields of an accepted request that are bounded come from their own validators. -/
theorem readFields_eq_accepted {numbers : NumberFields} {body : JsonDict} {request : ChatRequest}
    (accepted : ChatRequest.readFields numbers body = .accepted request) :
    body.required "messages" (readList (Validated.sized minMessages maxMessages readMessage)) =
        .accepted request.messages ∧
      body.defaulted "stop" none (fun value => (nullable readStop value).after stopWithinBounds) =
        .accepted request.stop ∧
      body.defaulted "response_format" none
          (fun value => (nullable readDict value).after validResponseFormat) =
        .accepted request.responseFormat := by
  unfold ChatRequest.readFields at accepted
  simp only [Validated.seq_eq_accepted, Validated.map_eq_accepted] at accepted
  obtain ⟨_, stream, ⟨_, format, ⟨_, user, ⟨_, seed, ⟨_, stop, ⟨_, tokens, ⟨_, presence, ⟨_, frequency,
    ⟨_, topP, ⟨_, temperature, ⟨_, messages, ⟨model, -, rfl⟩, sized, rfl⟩, -, rfl⟩, -, rfl⟩, -, rfl⟩,
      -, rfl⟩, -, rfl⟩, stops, rfl⟩, -, rfl⟩, -, rfl⟩, formats, rfl⟩, -, rfl⟩ := accepted
  exact ⟨sized, stops, formats⟩

/-- **An accepted request is well formed**, however numbers are read. -/
theorem wellFormed_of_modelValidate {numbers : NumberFields} {body : JsonDict}
    {request : ChatRequest} (accepted : ChatRequest.modelValidate numbers body = .accepted request) :
    request.WellFormed := by
  rw [ChatRequest.modelValidate, Validated.after_eq_accepted] at accepted
  obtain ⟨given, fields, checked⟩ := accepted
  unfold requireUserMessage at checked
  split_ifs at checked with asks
  cases checked
  obtain ⟨messages, stops, formats⟩ := readFields_eq_accepted fields
  obtain ⟨value, -, sized⟩ := required_eq_accepted messages
  obtain ⟨least, most⟩ := length_of_readMessages sized
  refine ⟨least, most, ?_, fun stop given => ?_, fun format given => ?_⟩
  · obtain ⟨message, member, user⟩ := List.any_eq_true.mp asks
    exact ⟨message, member, beq_iff_eq.mp user⟩
  · rw [given] at stops
    rcases defaulted_eq_accepted stops with none | ⟨value, -, read⟩
    · cases none
    · obtain ⟨inner, -, checked⟩ := Validated.after_eq_accepted.mp read
      exact bounded_of_stopWithinBounds checked
  · rw [given] at formats
    rcases defaulted_eq_accepted formats with none | ⟨value, -, read⟩
    · cases none
    · obtain ⟨inner, -, checked⟩ := Validated.after_eq_accepted.mp read
      exact isResponseFormat_of_valid checked

/-! ## What escapes -/

section Escapes

variable {α : Type} {dict : JsonDict} {name : String}

theorem not_escapes_required {read : KeyedJson → Validated PyException α}
    (quiet : ∀ value, ¬ (read value).Escapes) : ¬ (dict.required name read).Escapes := by
  rw [JsonDict.required, Validated.escapes_within]
  cases dict.get name with
  | none => simp
  | some value => exact quiet value

/-- A field with a default lets an exception through if its value does. -/
theorem escapes_defaulted {default : α} {read : KeyedJson → Validated PyException α} :
    (dict.defaulted name default read).Escapes ↔
      ∃ value, dict.get name = some value ∧ (read value).Escapes := by
  rw [JsonDict.defaulted, Validated.escapes_within]
  cases dict.get name <;> simp

theorem not_escapes_defaulted {default : α} {read : KeyedJson → Validated PyException α}
    (quiet : ∀ value, ¬ (read value).Escapes) : ¬ (dict.defaulted name default read).Escapes := by
  rw [escapes_defaulted]
  exact fun ⟨value, _, escapes⟩ => quiet value escapes

theorem not_escapes_nullable {read : KeyedJson → Validated PyException α}
    (quiet : ∀ value, ¬ (read value).Escapes) (value : KeyedJson) :
    ¬ (nullable read value).Escapes := by
  unfold nullable
  split
  · simp
  · rw [Validated.escapes_map]
    exact quiet value

theorem not_escapes_readNumber (read : Json → Except String α) (value : KeyedJson) :
    ¬ (readNumber read value).Escapes := by
  unfold readNumber
  split <;> simp

theorem not_escapes_readStr (value : KeyedJson) : ¬ (readStr value).Escapes := by
  unfold readStr
  split <;> simp

theorem not_escapes_readStrMax (maxLength : ℕ) (value : KeyedJson) :
    ¬ (readStrMax maxLength value).Escapes := by
  unfold readStrMax
  split
  · split_ifs <;> simp
  · simp

theorem not_escapes_readDict (value : KeyedJson) : ¬ (readDict value).Escapes := by
  unfold readDict
  split <;> simp

theorem not_escapes_readList {read : List KeyedJson → Validated PyException (List α)}
    (quiet : ∀ values, ¬ (read values).Escapes) (value : KeyedJson) :
    ¬ (readList read value).Escapes := by
  unfold readList
  split
  · exact quiet _
  · simp

theorem not_escapes_readRole (value : KeyedJson) : ¬ (readRole value).Escapes := by
  unfold readRole
  split <;> simp

theorem not_escapes_readMessage (value : KeyedJson) : ¬ (readMessage value).Escapes := by
  unfold readMessage
  split
  · rw [Validated.escapes_seq, Validated.escapes_map, not_or]
    exact ⟨not_escapes_required not_escapes_readRole,
      not_escapes_required (not_escapes_readStrMax _)⟩
  · simp

theorem not_escapes_readStop (value : KeyedJson) : ¬ (readStop value).Escapes := by
  refine Validated.not_escapes_either ?_ ?_
  · rw [Validated.escapes_map]
    exact not_escapes_readStr value
  · rw [Validated.escapes_map]
    exact not_escapes_readList (Validated.not_escapes_items not_escapes_readStr 0) value

/-- The check of `stop` raises a `ValueError`, or nothing. -/
theorem stopWithinBounds_ne_other (given : Option Stop) (exception : PyException) :
    stopWithinBounds given ≠ .error (.other exception) := by
  cases given with
  | none => simp [stopWithinBounds]
  | some value =>
      simp only [stopWithinBounds]
      split_ifs <;> simp

/-- So does the check of the messages. -/
theorem requireUserMessage_ne_other (request : ChatRequest) (exception : PyException) :
    requireUserMessage request ≠ .error (.other exception) := by
  unfold requireUserMessage
  split_ifs <;> simp

theorem inFrozenset_eq_error {texts : List String} {value : Option Json} {exception : PyException} :
    inFrozenset texts value = .error exception ↔ exception = .typeError ∧
      ((∃ items, value = some (.arr items)) ∨ ∃ members, value = some (.obj members)) := by
  constructor
  · intro raised
    unfold inFrozenset at raised
    split at raised
    · cases raised
    · cases raised
      exact ⟨rfl, .inl ⟨_, rfl⟩⟩
    · cases raised
      exact ⟨rfl, .inr ⟨_, rfl⟩⟩
    · cases raised
  · rintro ⟨rfl, ⟨items, rfl⟩ | ⟨members, rfl⟩⟩ <;> rfl

end Escapes

/-- **A `response_format` whose `type` has no hash**: it is a list or an object. -/
def UnhashableType (format : JsonDict) : Prop :=
  (∃ items, Json.lookup "type" format.members = some (.arr items)) ∨
    ∃ members, Json.lookup "type" format.members = some (.obj members)

/-- The check of `response_format` raises a `TypeError` for such a type, and only for one. -/
theorem validResponseFormat_eq_other {given : Option JsonDict} {exception : PyException} :
    validResponseFormat given = .error (.other exception) ↔
      exception = .typeError ∧ ∃ format, given = some format ∧ UnhashableType format := by
  cases given with
  | none => simp [validResponseFormat]
  | some format =>
      have raised : validResponseFormat (some format) = .error (.other exception) ↔
          inFrozenset responseFormatTypes (Json.lookup "type" format.members) = .error exception := by
        simp only [validResponseFormat]
        split
        · rename_i found
          rw [found]
          simp
        · rename_i found
          rw [found]
          simp
        · rename_i found
          rw [found]
          split_ifs <;> simp
      rw [raised, inFrozenset_eq_error]
      simp [UnhashableType]

theorem JsonDict.get_eq_some {dict : JsonDict} {name : String} {value : KeyedJson} :
    dict.get name = some value ↔ Json.lookup name dict.members = some value.val := by
  rw [JsonDict.get, Option.map_eq_some_iff]
  constructor
  · rintro ⟨⟨found, there⟩, -, rfl⟩
    exact there
  · intro there
    exact ⟨⟨value.val, there⟩, Option.attach_eq_some_iff.mpr there, rfl⟩

theorem readDict_eq_accepted {value : KeyedJson} {format : JsonDict}
    (read : nullable readDict value = .accepted (some format)) : value.val = .obj format.members := by
  unfold nullable at read
  split at read
  · cases read
  · obtain ⟨dict, accepted, same⟩ := Validated.map_eq_accepted.mp read
    obtain rfl := Option.some.inj same
    unfold readDict at accepted
    split at accepted
    · cases accepted
      rfl
    · cases accepted

/-- A body asks for a `response_format` whose type has no hash. -/
def AsksUnhashable (body : JsonDict) : Prop :=
  ∃ format : JsonDict, Json.lookup "response_format" body.members = some (.obj format.members) ∧
    UnhashableType format

/-- **The fields let an exception through** exactly for such a `response_format`. -/
theorem escapes_readFields {numbers : NumberFields} {body : JsonDict} :
    (ChatRequest.readFields numbers body).Escapes ↔ AsksUnhashable body := by
  have stops : ∀ value, ¬ ((nullable readStop value).after stopWithinBounds).Escapes := by
    intro value
    rw [Validated.escapes_after, not_or]
    refine ⟨not_escapes_nullable not_escapes_readStop value, ?_⟩
    rintro ⟨stop, exception, -, raised⟩
    exact stopWithinBounds_ne_other stop exception raised
  have users : ∀ value, ¬ (nullable (fun value => Subtype.val <$> readStrMax maxUserLength value)
      value).Escapes := by
    refine not_escapes_nullable fun value => ?_
    rw [Validated.escapes_map]
    exact not_escapes_readStrMax _ value
  have messages : ¬ (body.required "messages"
      (readList (Validated.sized minMessages maxMessages readMessage))).Escapes :=
    not_escapes_required (not_escapes_readList (Validated.not_escapes_sized not_escapes_readMessage))
  have formats : (ChatRequest.readFields numbers body).Escapes ↔
      (body.defaulted "response_format" none
        fun value => (nullable readDict value).after validResponseFormat).Escapes := by
    unfold ChatRequest.readFields
    simp only [Validated.escapes_seq, Validated.escapes_map, messages,
      not_escapes_required not_escapes_readStr, not_escapes_defaulted stops,
      not_escapes_defaulted users, not_escapes_defaulted (not_escapes_readNumber _),
      not_escapes_defaulted (not_escapes_nullable (not_escapes_readNumber _)), false_or, or_false]
  rw [formats, escapes_defaulted]
  constructor
  · rintro ⟨value, found, escapes⟩
    rw [Validated.escapes_after] at escapes
    rcases escapes with read | ⟨given, exception, read, raised⟩
    · exact absurd read (not_escapes_nullable not_escapes_readDict value)
    · obtain ⟨-, format, rfl, unhashable⟩ := validResponseFormat_eq_other.mp raised
      refine ⟨format, ?_, unhashable⟩
      rw [JsonDict.get_eq_some.mp found, readDict_eq_accepted read]
  · rintro ⟨format, found, unhashable⟩
    refine ⟨⟨.obj format.members, format.keyed⟩, JsonDict.get_eq_some.mpr found, ?_⟩
    rw [Validated.escapes_after]
    exact .inr ⟨some format, .typeError, rfl,
      validResponseFormat_eq_other.mpr ⟨rfl, format, rfl, unhashable⟩⟩

/-- So does the request: the check of its messages adds nothing. -/
theorem escapes_modelValidate {numbers : NumberFields} {body : JsonDict} :
    (ChatRequest.modelValidate numbers body).Escapes ↔ AsksUnhashable body := by
  rw [ChatRequest.modelValidate, Validated.escapes_after, escapes_readFields, or_iff_left]
  rintro ⟨request, exception, -, raised⟩
  exact requireUserMessage_ne_other request exception raised

/-! ## Where errors are -/

/-- The fields of the class. -/
def requestFields : List String :=
  ["model", "messages", "temperature", "top_p", "frequency_penalty", "presence_penalty", "max_tokens",
    "stop", "seed", "user", "response_format", "stream"]

section Errors

variable {α β : Type} {dict : JsonDict} {error : LineError}

/-- An error of the request as a whole, or of one of its fields. -/
def Located (error : LineError) : Prop :=
  error.loc = [] ∨ ∃ name ∈ requestFields, error.loc.head? = some (.name name)

theorem located_required {name : String} {read : KeyedJson → Validated PyException α}
    (known : name ∈ requestFields) (member : error ∈ (dict.required name read).errors) :
    Located error :=
  .inr ⟨name, known, Validated.mem_errors_within member⟩

theorem located_defaulted {name : String} {default : α}
    {read : KeyedJson → Validated PyException α} (known : name ∈ requestFields)
    (member : error ∈ (dict.defaulted name default read).errors) : Located error :=
  .inr ⟨name, known, Validated.mem_errors_within member⟩

theorem located_seq {f : Validated PyException (α → β)} {value : Validated PyException α}
    (before : ∀ error ∈ f.errors, Located error) (here : ∀ error ∈ value.errors, Located error) :
    ∀ error ∈ (f <*> value).errors, Located error :=
  fun error member => (Validated.mem_errors_seq member).elim (before error) (here error)

/-- **Every error names a field**, unless it is about the messages as a whole. -/
theorem located_modelValidate {numbers : NumberFields} {body : JsonDict} :
    ∀ error ∈ (ChatRequest.modelValidate numbers body).errors, Located error := by
  intro error member
  refine (Validated.mem_errors_after member).elim ?_ .inl
  unfold ChatRequest.readFields
  refine located_seq (located_seq (located_seq (located_seq (located_seq (located_seq (located_seq
    (located_seq (located_seq (located_seq (located_seq ?_ ?_) ?_) ?_) ?_) ?_) ?_) ?_) ?_) ?_) ?_) ?_
    error
  · rw [Validated.errors_map]
    exact fun _ => located_required (by decide)
  · exact fun _ => located_required (by decide)
  all_goals exact fun _ => located_defaulted (by decide)

end Errors

/-! ## Totality -/

/-- **The validation of a body ends as it should**: with a 400, or with a well-formed request. -/
def Received.Settled : Received → Prop
  | .passed request => request.WellFormed
  | .answered response => response.statusCode = 400
  | .raised _ => False

/-- What escapes is not answered. -/
theorem not_settled_of_escapes {numbers : NumberFields} {body : JsonDict}
    (escapes : (ChatRequest.modelValidate numbers body).Escapes) :
    ¬ (receiveRequest numbers body).Settled := by
  obtain ⟨exception, ended⟩ := escapes
  unfold receiveRequest
  generalize ChatRequest.modelValidate numbers body = result at ended
  subst ended
  exact not_false

/-- **Validation is total, exactly** for the bodies whose `response_format` is no object, or one whose
type is neither a list nor an object. -/
theorem validation_total_iff (numbers : NumberFields) (body : JsonDict) :
    (receiveRequest numbers body).Settled ↔ ¬ AsksUnhashable body := by
  constructor
  · exact fun settled asks => not_settled_of_escapes (escapes_modelValidate.mpr asks) settled
  · intro hashable
    have caught : ¬ (ChatRequest.modelValidate numbers body).Escapes :=
      mt escapes_modelValidate.mp hashable
    have sound : ∀ request, ChatRequest.modelValidate numbers body = .accepted request →
        request.WellFormed := fun _ => wellFormed_of_modelValidate
    unfold receiveRequest
    generalize ChatRequest.modelValidate numbers body = result at caught sound
    cases result with
    | accepted request => exact sound request rfl
    | refused first rest => rfl
    | escaped exception => exact caught (Validated.escapes_escaped exception)

/-- Numbers that are read as they are. -/
def plainNumbers : NumberFields where
  float _ value := match value with
    | .float number => .ok number
    | _ => .error "Input should be a valid number"
  int _ value := match value with
    | .int number => .ok number
    | _ => .error "Input should be a valid integer"
  bool value := match value with
    | .bool flag => .ok flag
    | _ => .error "Input should be a valid boolean"

/-- A request of one message with the `response_format` of `type: []`. -/
def listTypeBody : JsonDict where
  members :=
    [("model", .str "gpt-4o"),
      ("messages", .arr [.obj [("role", .str "user"), ("content", .str "hi")]]),
      ("response_format", .obj [("type", .arr [])])]
  keyed := by simp [Json.Keyed, Json.KeyedMembers, Json.KeyedItems]

/-- **A list as a type raises**: the request is not answered with a 400. -/
theorem list_type_raises : ¬ (receiveRequest plainNumbers listTypeBody).Settled := by
  have asks : AsksUnhashable listTypeBody := by
    refine ⟨⟨[("type", .arr [])], by simp [Json.Keyed, Json.KeyedMembers, Json.KeyedItems]⟩, ?_, ?_⟩
    · simp [listTypeBody, Json.lookup]
    · exact .inl ⟨[], rfl⟩
  exact not_settled_of_escapes (escapes_modelValidate.mpr asks)

end LlmGateway
