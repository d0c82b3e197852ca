import LlmGateway.Providers.Bodies
import LlmGateway.Streams.Completion
import LlmGateway.Streams.Translation
import Mathlib.Data.List.ReduceOption

/-!
# One message, two translations

The Anthropic adapter translates a message twice: `_build_response` from its JSON body, and
`stream_chat_completion` from its events. Both agree on a message with at most one block of text.
Of several blocks, the body gives the first one and the stream gives them all
(`answers_agree_iff`).

Besides, an answer without an identity gets one when it is rebuilt from a stream, and a stream is
broken off at counts whose sum has too many digits to be written.
-/

set_option autoImplicit false

namespace LlmGateway

open LlmGateway.Library

/-! ## Messages -/

/-- A message: the text of each block, or nothing for a block of another type. -/
structure AnthropicMessage where
  id : List CodePoint
  model : List CodePoint
  blocks : List (Option (List CodePoint))
  stopReason : Option (List CodePoint)
  inputTokens : ℕ
  outputTokens : ℕ

namespace AnthropicMessage

variable (message : AnthropicMessage)

/-- The blocks of text. -/
def texts : List (List CodePoint) := message.blocks.reduceOption

/-- The text of the first block, if there is one. -/
def firstText : List CodePoint := message.texts.headD []

/-- The `stop_reason`, which may be `null`. -/
def reasonJson : Json :=
  match message.stopReason with
  | some text => .ofText text
  | none => .null

def finishReason : FinishReason :=
  if message.stopReason = some (codePoints "max_tokens") then .length else .stop

end AnthropicMessage

/-- The members of a block. -/
inductive IsBlock (members : List (String × Json)) : Option (List CodePoint) → Prop
  | text {text : List CodePoint} (type : isType (got members "type") "text" = true)
      (filled : Json.lookup "text" members = some (.ofText text)) : IsBlock members (some text)
  | other (type : isType (got members "type") "text" = false) : IsBlock members none

/-- The members of the body of a message. -/
structure IsBody (members : List (String × Json)) (message : AnthropicMessage) : Prop where
  id : Json.lookup "id" members = some (.ofText message.id)
  model : Json.lookup "model" members = some (.ofText message.model)
  content : ∃ items, Json.lookup "content" members = some (.arr items) ∧
    List.Forall₂ (fun item block => ∃ members, item = .obj members ∧ IsBlock members block) items
      message.blocks
  stopReason : gotD members "stop_reason" (.str "") = message.reasonJson
  usage : ∃ usage, Json.lookup "usage" members = some (.obj usage) ∧
    Json.lookup "input_tokens" usage = some (.int message.inputTokens) ∧
      Json.lookup "output_tokens" usage = some (.int message.outputTokens)

/-- The lines are decoded to a stream of the message: each block of text is split in pieces. -/
def IsStream (python : Interpreter) (lines : List UpstreamLine) (message : AnthropicMessage) : Prop :=
  ∃ splits : List (List (List CodePoint)),
    List.Forall₂ (fun text pieces => pieces.flatten = text) message.texts splits ∧
      StreamHears python lines (.start message.id message.model message.inputTokens ::
        (splits.flatten.map Said.text ++ [.finish message.finishReason message.outputTokens]) ++ [.stop])

/-- What a response gives, if there is one. -/
def viewOf (result : Except PyException ChatResponse) : Option ClientView :=
  match result with
  | .ok ⟨id, _, model, [choice], usage⟩ =>
      some ⟨codePoints id, codePoints model, codePoints choice.message.content, choice.finishReason, usage⟩
  | _ => none

/-- A text of a response: no surrogate stands in it. -/
def Scalar (text : List CodePoint) : Prop := ∃ written, text = codePoints written

/-- The first block fits into a response, and so do the identity and the model. -/
structure AnthropicMessage.Fits (message : AnthropicMessage) : Prop where
  id : Scalar message.id
  model : Scalar message.model
  text : Scalar message.firstText
  bounded : message.firstText.length ≤ maxContentLength

/-- The total can be written; and the message fits into no response, or it has an identity and all its
text in the first block. -/
structure AnthropicMessage.Plain (message : AnthropicMessage) : Prop where
  short : Short (message.inputTokens + message.outputTokens)
  single : message.Fits → message.id ≠ [] ∧ ∀ text ∈ message.texts.drop 1, text = []

/-! ## Texts -/

section Texts

theorem scalar_of_append {text rest : List CodePoint} (scalar : Scalar (text ++ rest)) : Scalar text := by
  obtain ⟨written, same⟩ := scalar
  obtain ⟨letters, others, -, rfl, -⟩ := List.append_eq_map_iff.mp same
  exact ⟨String.ofList letters, by rw [codePoints, String.toList_ofList]⟩

theorem asStr_ofText {text : List CodePoint} {written : String} :
    asStr (.ofText text) = some written ↔ text = codePoints written := by
  constructor
  · intro read
    refine codePoints_of_ofText ?_
    cases same : Json.ofText text with
    | str value =>
        rw [same] at read
        exact congrArg _ (Option.some.inj read)
    | _ =>
        rw [same] at read
        cases read
  · rintro rfl
    rw [Json.ofText_codePoints]
    rfl

/-- The first text and the others. -/
theorem flatten_texts (texts : List (List CodePoint)) :
    texts.flatten = texts.headD [] ++ (texts.drop 1).flatten := by
  cases texts <;> simp

end Texts

/-! ## The body -/

/-- What a client learns from a message with this text. -/
def AnthropicMessage.view (message : AnthropicMessage) (text : List CodePoint) : ClientView where
  id := message.id
  model := message.model
  content := text
  finishReason := message.finishReason
  usage := ⟨message.inputTokens, message.outputTokens, message.inputTokens + message.outputTokens⟩

section Body

variable {message : AnthropicMessage}

theorem stopReason_reasonJson (message : AnthropicMessage) :
    stopReason message.reasonJson = .ok message.finishReason := by
  unfold AnthropicMessage.reasonJson AnthropicMessage.finishReason
  cases message.stopReason with
  | none => rfl
  | some text =>
      cases same : Json.ofText text with
      | str value =>
          rw [codePoints_of_ofText same]
          simp only [stopReason, Option.some.injEq, codePoints_injective.eq_iff]
          split_ifs <;> simp_all
      | broken value =>
          simp only [same, stopReason]
          rw [if_neg]
          rintro ⟨⟩
          rw [Json.ofText_codePoints] at same
          cases same
      | null | bool | int | float | arr | obj =>
          unfold Json.ofText at same
          split at same <;> cases same

/-- The text of the first block of text. -/
theorem firstText_blocks {items : List Json} {blocks : List (Option (List CodePoint))}
    (each : List.Forall₂ (fun item block => ∃ members, item = .obj members ∧ IsBlock members block)
      items blocks) : firstText items = .ok (.ofText (blocks.reduceOption.headD [])) := by
  induction each with
  | nil => rfl
  | cons here _ ih =>
      obtain ⟨members, rfl, block⟩ := here
      cases block with
      | text type filled =>
          simp only [firstText, dictGet_got, bind, Except.bind, type, getItem, filled]
          rfl
      | other type =>
          simp only [firstText, dictGet_got, bind, Except.bind, type]
          exact ih

theorem validate_counts (field : IntField) (prompt completion : ℕ) :
    Usage.validate field (some (.int prompt)) (some (.int completion)) (some (.int (prompt + completion))) =
      some ⟨prompt, completion, prompt + completion⟩ := by
  have counted (n : ℕ) : countOf field (some (.int n)) = some (n : ℤ) := by
    have kept : neverNegative (.int n) = .int n := by simp [neverNegative]
    rw [countOf, kept]
    exact field.read_integer _ _ rfl
  have total := counted (prompt + completion)
  rw [Nat.cast_add] at total
  simp [Usage.validate, counted, total]

/-- **What the body gives**: the first block of text, if the message fits into a response. -/
theorem viewOf_body (field : IntField) (created : ℤ) {members : List (String × Json)}
    (body : IsBody members message) :
    (message.Fits →
        viewOf (buildResponse field created (.obj members)) = some (message.view message.firstText)) ∧
      (¬ message.Fits → viewOf (buildResponse field created (.obj members)) = none) := by
  obtain ⟨items, content, each⟩ := body.content
  obtain ⟨usage, counted, input, output⟩ := body.usage
  have ended : dictGetD (.obj members) "stop_reason" (.str "") = .ok message.reasonJson :=
    congrArg _ body.stopReason
  have sum : pyAdd (.int message.inputTokens) (.int message.outputTokens) =
      .ok (.int (message.inputTokens + message.outputTokens)) := rfl
  simp only [buildResponse, getItem, content, counted, body.id, body.model, input, output, iterate,
    firstText_blocks each, ended, stopReason_reasonJson, PyValue.ofJson, sum, validate_counts, bind,
    Except.bind]
  have first : message.blocks.reduceOption.headD [] = message.firstText := rfl
  rw [first]
  constructor
  · rintro ⟨⟨id, identified⟩, ⟨model, named⟩, ⟨text, written⟩, bounded⟩
    rw [written, length_codePoints] at bounded
    simp only [asStr_ofText.mpr identified, asStr_ofText.mpr named, asStr_ofText.mpr written, validated,
      bounded, ↓reduceDIte]
    refine congrArg some ?_
    rw [AnthropicMessage.view, identified, named, written]
  · intro unfit
    cases read : asStr (.ofText message.firstText) with
    | none => rfl
    | some text =>
        have written := asStr_ofText.mp read
        simp only [validated]
        split_ifs with bounded
        · cases identified : asStr (.ofText message.id) with
          | none => rfl
          | some id =>
              cases named : asStr (.ofText message.model) with
              | none => rfl
              | some model =>
                  refine absurd ⟨⟨id, asStr_ofText.mp identified⟩, ⟨model, asStr_ofText.mp named⟩,
                    ⟨text, written⟩, ?_⟩ unfit
                  rwa [written, length_codePoints]
        · rfl

end Body

/-! ## The stream -/

section Stream

variable {message : AnthropicMessage}

theorem textOf_pieces (pieces : List (List CodePoint)) (ending : Said) (silent : ending.piece = none) :
    textOf (pieces.map Said.text ++ [ending]) = pieces.flatten := by
  have all : (pieces.map Said.text).filterMap Said.piece = pieces := by
    rw [List.filterMap_map]
    exact List.filterMap_some
  rw [textOf, List.filterMap_append, all, List.filterMap_cons_none silent]
  simp

theorem endingOf_pieces (pieces : List (List CodePoint)) (reason : FinishReason) (outputTokens : ℤ) :
    endingOf (pieces.map Said.text ++ [.finish reason outputTokens]) = some (reason, outputTokens) := by
  simp [endingOf, Said.ending]

theorem flatten_splits {texts : List (List CodePoint)} {splits : List (List (List CodePoint))}
    (each : List.Forall₂ (fun text pieces => pieces.flatten = text) texts splits) :
    splits.flatten.flatten = texts.flatten := by
  induction each with
  | nil => rfl
  | cons here _ ih => rw [List.flatten_cons, List.flatten_append, ih, here, List.flatten_cons]

theorem shortFrom_pieces (pieces : List (List CodePoint)) (reason : FinishReason)
    (inputTokens outputTokens : ℤ) (rest : List Said) :
    ShortFrom inputTokens (pieces.map Said.text ++ .finish reason outputTokens :: rest) ↔
      Short (inputTokens + outputTokens) ∧ ShortFrom inputTokens rest := by
  induction pieces with
  | nil => exact Iff.rfl
  | cons piece rest ih => exact ih

/-- **What the stream gives**: all blocks, if the total can be written. -/
theorem translated_message {python : Interpreter} {lines : List UpstreamLine}
    (stream : IsStream python lines message) (clock : ∀ line ∈ lines, Short line.created)
    (requested : String) (short : Short (message.inputTokens + message.outputTokens)) :
    Translated python requested lines (message.view message.texts.flatten) := by
  obtain ⟨splits, each, hears⟩ := stream
  have inside : ∀ said ∈ splits.flatten.map Said.text ++
      [.finish message.finishReason message.outputTokens], said.InBody := by
    refine List.forall_mem_append.mpr ⟨fun said member => ?_, by simp [Said.InBody]⟩
    obtain ⟨piece, -, rfl⟩ := List.mem_map.mp member
    trivial
  have translated := @translated_started python requested lines _ _ _ _ _ hears inside (.inr rfl)
    ((shortFrom_pieces _ _ _ _ []).mpr ⟨short, trivial⟩) clock
  have counts : Usage.clamped message.inputTokens message.outputTokens
      (message.inputTokens + message.outputTokens) =
        ⟨message.inputTokens, message.outputTokens, message.inputTokens + message.outputTokens⟩ := by
    simp only [Usage.clamped, Usage.mk.injEq]
    omega
  have view : heardView requested (.start message.id message.model message.inputTokens ::
      (splits.flatten.map Said.text ++ [.finish message.finishReason message.outputTokens]) ++ [.stop]) =
        message.view message.texts.flatten := by
    change statedView _ _ _ (_ ++ [.stop]) = _
    rw [statedView_closing _ (.inr rfl), statedView, textOf_pieces _ _ rfl, endingOf_pieces,
      flatten_splits each]
    exact congrArg (ClientView.mk _ _ _ _) counts
  exact view ▸ translated

/-- A stream that is read to its end has a total that can be written. -/
theorem short_of_stream {python : Interpreter} {lines : List UpstreamLine}
    (stream : IsStream python lines message) {requested : String} {chunks : List String}
    (yields : Relay.Yields python (.start .anthropic requested ⟨lines, .exhausted⟩) chunks .exhausted) :
    Short (message.inputTokens + message.outputTokens) := by
  obtain ⟨splits, -, hears⟩ := stream
  rw [start_eq] at yields
  have short := shortFrom_of_yields hears yields
  rw [List.cons_append, List.append_assoc] at short
  exact ((shortFrom_pieces _ _ _ _ [.stop]).mp short).1

/-- What a view is rebuilt to. -/
theorem viewOf_toResponse (view : ClientView) (seen : Bool) (created : ℤ) :
    (view.entered.Scalar ∧ view.content.length ≤ maxContentLength ∧
        viewOf ((view.accumulator seen).toResponse created) = some view.entered) ∨
      (¬ (view.entered.Scalar ∧ view.content.length ≤ maxContentLength) ∧
        viewOf ((view.accumulator seen).toResponse created) = none) := by
  cases built : (view.accumulator seen).toResponse created with
  | ok response =>
      obtain ⟨id, model, content, bounded, spelled, rfl⟩ := spelled_of_toResponse built
      have filled : view.content = codePoints content := spelled.content
      refine .inl ⟨⟨id, model, content, spelled⟩, by rwa [filled, length_codePoints], ?_⟩
      refine congrArg some ?_
      obtain ⟨identified, named, written⟩ := spelled
      rw [← identified, ← named, ← written]
      rfl
  | error exception =>
      refine .inr ⟨?_, rfl⟩
      rintro ⟨⟨id, model, content, spelled⟩, bounded⟩
      have filled : view.content = codePoints content := spelled.content
      rw [filled, length_codePoints] at bounded
      cases (toResponse_accumulator spelled bounded).symm.trans built

end Stream

/-! ## Agreement -/

section Agreement

variable {message : AnthropicMessage}

/-- Whether the two views are the same is a matter of the message. -/
theorem views_agree_iff (field : IntField) (created later : ℤ) (seen : Bool)
    {members : List (String × Json)} (body : IsBody members message) :
    viewOf (buildResponse field created (.obj members)) =
        viewOf (((message.view message.texts.flatten).accumulator seen).toResponse later) ↔
      (message.Fits → message.id ≠ [] ∧ ∀ text ∈ message.texts.drop 1, text = []) := by
  have whole : message.texts.flatten = message.firstText ++ (message.texts.drop 1).flatten :=
    flatten_texts message.texts
  obtain ⟨fitting, unfitting⟩ := viewOf_body field created body
  have rebuilt := viewOf_toResponse (message.view message.texts.flatten) seen later
  by_cases fits : message.Fits
  · rw [fitting fits]
    constructor
    · rintro same -
      rcases rebuilt with ⟨-, -, given⟩ | ⟨-, nothing⟩
      · rw [given, Option.some.injEq] at same
        have identity : message.id = (message.view message.texts.flatten).entered.id :=
          congrArg ClientView.id same
        have content : message.firstText = message.texts.flatten := congrArg ClientView.content same
        refine ⟨fun empty => ?_, ?_⟩
        · rw [ClientView.entered] at identity
          simp [AnthropicMessage.view, empty, codePoints] at identity
        · rw [whole] at content
          exact List.flatten_eq_nil_iff.mp (List.self_eq_append_right.mp content)
      · rw [nothing] at same
        cases same
    · intro single
      obtain ⟨named, empty⟩ := single fits
      rw [List.flatten_eq_nil_iff.mpr empty, List.append_nil] at whole
      have entered : (message.view message.texts.flatten).entered = message.view message.firstText := by
        rw [whole]
        exact entered_of_named named
      rcases rebuilt with ⟨-, -, given⟩ | ⟨unfit, -⟩
      · rw [given, entered]
      · obtain ⟨⟨id, identified⟩, ⟨model, known⟩, ⟨text, written⟩, bounded⟩ := fits
        refine absurd ⟨?_, ?_⟩ unfit
        · rw [entered]
          exact ⟨id, model, text, identified, known, written⟩
        · rw [← whole] at bounded
          exact bounded
  · rw [unfitting fits]
    refine ⟨fun _ given => absurd given fits, fun _ => ?_⟩
    rcases rebuilt with ⟨⟨id, model, text, identified, known, written⟩, bounded, -⟩ | ⟨-, nothing⟩
    · have content : Scalar (message.firstText ++ (message.texts.drop 1).flatten) :=
        ⟨text, whole.symm.trans written⟩
      refine absurd ⟨?_, ⟨model, known⟩, scalar_of_append content, ?_⟩ fits
      · by_cases empty : message.id = []
        · exact ⟨"", empty⟩
        · exact ⟨id, by rwa [entered_of_named (show (message.view message.texts.flatten).id ≠ [] from empty)]
            at identified⟩
      · have longer : message.firstText.length ≤ message.texts.flatten.length := by
          rw [whole, List.length_append]
          omega
        exact longer.trans bounded
    · exact nothing.symm

end Agreement

/-- A message of two blocks of text. -/
def twoBlocks (second : String) : AnthropicMessage where
  id := codePoints "msg_1"
  model := codePoints "claude"
  blocks := [some (codePoints "a"), none, some (codePoints second)]
  stopReason := some (codePoints "max_tokens")
  inputTokens := 7
  outputTokens := 3

def twoBlocksBody (second : String) : List (String × Json) :=
  [("id", .str "msg_1"), ("model", .str "claude"),
    ("content", .arr [.obj [("type", .str "text"), ("text", .str "a")],
      .obj [("type", .str "tool_use")], .obj [("type", .str "text"), ("text", .str second)]]),
    ("stop_reason", .str "max_tokens"),
    ("usage", .obj [("input_tokens", .int 7), ("output_tokens", .int 3)])]

def twoBlocksLines (second : String) : List UpstreamLine :=
  [dataLine (startMembers 7) 0, dataLine (pieceMembers "a") 0, dataLine (pieceMembers second) 0,
    dataLine finishMembers 0, dataLine stopMembers 0]

theorem lookup_text {members : List (String × Json)} {name text : String}
    (found : Json.lookup name members = some (.str text)) :
    Json.lookup name members = some (.ofText (codePoints text)) := by
  rw [found, Json.ofText_codePoints]

theorem isBody_twoBlocks (second : String) : IsBody (twoBlocksBody second) (twoBlocks second) where
  id := lookup_text rfl
  model := lookup_text rfl
  content := ⟨_, rfl, .cons ⟨_, rfl, .text rfl (lookup_text rfl)⟩
    (.cons ⟨_, rfl, .other rfl⟩ (.cons ⟨_, rfl, .text rfl (lookup_text rfl)⟩ .nil))⟩
  stopReason := (Json.ofText_codePoints "max_tokens").symm
  usage := ⟨_, rfl, rfl, rfl⟩

theorem isStream_twoBlocks (second : String) :
    IsStream .standard (twoBlocksLines second) (twoBlocks second) :=
  ⟨[[codePoints "a"], [codePoints second]],
    .cons rfl (.cons (List.append_nil (codePoints second)) .nil),
    .said (event_startMembers (by decide)) (says_start 7)
      (.said (event_pieceMembers "a") (says_piece "a")
        (.said (event_pieceMembers second) (says_piece second)
          (.said event_finishMembers says_finish (.said event_stopMembers says_stop .nil))))⟩

theorem clock_twoBlocks (second : String) : ∀ line ∈ twoBlocksLines second, Short line.created := by
  simp only [twoBlocksLines, List.forall_mem_cons, dataLine]
  decide

end LlmGateway
