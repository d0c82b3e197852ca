import LlmGateway.Providers.Streams
import LlmGateway.Streams.Reading

/-!
# What an adapter makes of a line

A line of an upstream yields nothing, or one line, or it makes the adapter raise. Which of the
three it is follows from the shape of the line (`Adapter.Silent`, `Adapter.Translatable`); of what
was read before only the input tokens count, because the encoder refuses a total of too many
digits.

`Relay.Gives` is what an iterator can do when it is asked for a line, and `Relay.Yields` is what
it yields until it ends.
-/

set_option autoImplicit false

namespace LlmGateway

open LlmGateway.Library
open LlmGateway.Library.PythonText

/-! ## The shape of an event -/

/-- `members.get(name, default)`. -/
def gotD (members : List (String × Json)) (name : String) (default : Json) : Json :=
  (Json.lookup name members).getD default

/-- The events that the Anthropic adapter looks at. -/
inductive EventKind where
  | messageStart
  | contentBlockDelta
  | messageDelta
  | messageStop
  | other
deriving DecidableEq

def eventKind (members : List (String × Json)) : EventKind :=
  let type := got members "type"
  if isType type "message_start" then .messageStart
  else if isType type "content_block_delta" then .contentBlockDelta
  else if isType type "message_delta" then .messageDelta
  else if isType type "message_stop" then .messageStop
  else .other

/-- A token count that `int` takes, if the usage is an object that has one. -/
def TokensUsable (name : String) (usage : Json) : Prop :=
  ∀ members value, usage = .obj members → Json.lookup name members = some value →
    ∃ n, intOfJson value = .ok n

/-- The tokens of a usage that is looked up, with a default. -/
def tokensOf (name : String) (usage : Json) (default current : ℤ) : Except PyException ℤ :=
  match usage with
  | .obj members => intOfJson (gotD members name (.int default))
  | _ => .ok current

/-- The total can be written. -/
def TotalShort (inputTokens : ℤ) (usage : Json) : Prop :=
  ∀ n, tokensOf "output_tokens" usage 0 0 = .ok n → Short (inputTokens + n)

/-- A value that can be a key of a dictionary. -/
def Hashable : Json → Prop
  | .arr _ | .obj _ => False
  | _ => True

/-- An event that the adapter passes over: one of another type, or a piece that is no text. -/
def EventSilent (event : Json) : Prop :=
  ∃ members, event = .obj members ∧
    (eventKind members = .other ∨ eventKind members = .contentBlockDelta ∧
      ∃ delta, gotD members "delta" (.obj []) = .obj delta ∧ isType (got delta "type") "text_delta" = false)

/-- An event whose members are of the types that the adapter relies on, after so many input tokens. A
text may be nested, if four more levels fit. -/
def EventUsable (python : Interpreter) (inputTokens : ℤ) (event : Json) : Prop :=
  ∃ members, event = .obj members ∧
    match eventKind members with
    | .messageStart => ∃ message, gotD members "message" (.obj []) = .obj message ∧
        TokensUsable "input_tokens" (orElse (got message "usage") (got members "usage"))
    | .contentBlockDelta => ∃ delta, gotD members "delta" (.obj []) = .obj delta ∧
        (isType (got delta "type") "text_delta" = true →
          (gotD delta "text" (.str "")).depth + 4 ≤ python.nesting)
    | .messageDelta => ∃ delta, gotD members "delta" (.obj []) = .obj delta ∧
        Hashable (gotD delta "stop_reason" (.str "")) ∧
          TokensUsable "output_tokens" (got members "usage") ∧
            TotalShort inputTokens (got members "usage")
    | .messageStop | .other => True

/-- The payload of a line is not nested too deeply, and what it is decoded to, if it is JSON, is as
it has to be. -/
def Decodes (python : Interpreter) (line : UpstreamLine) (proper : Json → Prop) : Prop :=
  ∃ read, anthropicEvent python line.text = .ok read ∧ ∀ event, read = some event → proper event

/-- The adapter yields nothing for the line. -/
def Adapter.Silent (python : Interpreter) : Adapter → UpstreamLine → Prop
  | .openai, line | .mistral, line => dataMark.isPrefixOf line.text.toList = false
  | .anthropic, line => Decodes python line EventSilent

/-- The adapter does not raise on the line. -/
def Adapter.Translatable (python : Interpreter) (state : AnthropicState) :
    Adapter → UpstreamLine → Prop
  | .openai, _ | .mistral, _ => True
  | .anthropic, line => Decodes python line (EventUsable python state.inputTokens)

/-! ## One line -/

/-- What comes of an event or of a line: nothing, a line to yield, or an exception. -/
inductive Becomes (silent usable : Prop) (state : AnthropicState) :
    Except PyException (AnthropicState × Option String) → Prop
  | silent (unheard : silent) (used : usable) : Becomes silent usable state (.ok (state, none))
  | yields (heard : ¬ silent) (used : usable) (after : AnthropicState) (text : String) :
      Becomes silent usable state (.ok (after, some text))
  | raises (heard : ¬ silent) (unusable : ¬ usable) (exception : PyException) :
      Becomes silent usable state (.error exception)

section Events

variable {python : Interpreter} {state : AnthropicState} {created : ℤ} {members : List (String × Json)}

theorem dictGet_got (name : String) : dictGet (.obj members) name = .ok (got members name) := rfl

theorem dictGetD_gotD (name : String) (default : Json) :
    dictGetD (.obj members) name default = .ok (gotD members name default) := rfl

theorem intOfJson_default (members : List (String × Json)) (name : String) (default : ℤ) :
    (∃ n, intOfJson (gotD members name (.int default)) = .ok n) ↔
      ∀ value, Json.lookup name members = some value → ∃ n, intOfJson value = .ok n := by
  unfold gotD
  cases Json.lookup name members with
  | none => exact ⟨fun _ value same => (by cases same), fun _ => ⟨default, rfl⟩⟩
  | some value =>
      constructor
      · rintro used other same
        cases same
        exact used
      · exact fun used => used value rfl

theorem tokensOf_cases (name : String) (usage : Json) (default current : ℤ) :
    (TokensUsable name usage ∧ ∃ n, tokensOf name usage default current = .ok n) ∨
      (¬ TokensUsable name usage ∧ ∃ exception, tokensOf name usage default current = .error exception) := by
  cases usage with
  | obj members =>
      have usable : TokensUsable name (.obj members) ↔
          ∃ n, intOfJson (gotD members name (.int default)) = .ok n := by
        rw [intOfJson_default]
        constructor
        · exact fun used value there => used members value rfl there
        · rintro used _ value ⟨⟩ there
          exact used value there
      rw [usable, tokensOf]
      cases intOfJson (gotD members name (.int default)) with
      | ok n => exact .inl ⟨⟨n, rfl⟩, n, rfl⟩
      | error exception => exact .inr ⟨by simp, exception, rfl⟩
  | null | bool | int | float | str | broken | arr =>
      exact .inl ⟨fun _ _ same => (by cases same), current, rfl⟩

theorem stopReason_cases (reason : Json) :
    (Hashable reason ∧ ∃ ended, stopReason reason = .ok ended) ∨
      (¬ Hashable reason ∧ ∃ exception, stopReason reason = .error exception) := by
  cases reason with
  | str text =>
      refine .inl ⟨trivial, ?_⟩
      simp only [stopReason]
      split_ifs <;> exact ⟨_, rfl⟩
  | arr | obj => exact .inr ⟨id, _, rfl⟩
  | null | bool | int | float | broken => exact .inl ⟨trivial, _, rfl⟩

theorem messageStart_obj (message : List (String × Json))
    (nested : gotD members "message" (.obj []) = .obj message) :
    messageStart state created (.obj members) =
      (tokensOf "input_tokens" (orElse (got message "usage") (got members "usage")) state.inputTokens
          state.inputTokens).map fun inputTokens =>
        ({ state with
            chunkId := gotD message "id" state.chunkId
            model := gotD message "model" state.model
            inputTokens },
          some (sseChunk created (gotD message "id" state.chunkId) (gotD message "model" state.model)
            (.str "assistant"))) := by
  simp only [messageStart, dictGetD_gotD, dictGet_got, nested, bind, Except.bind, tokensOf]
  cases orElse (got message "usage") (got members "usage") with
  | obj usage => cases intOfJson (gotD usage "input_tokens" (.int state.inputTokens)) <;> rfl
  | null | bool | int | float | str | broken | arr => rfl

theorem messageDelta_obj (delta : List (String × Json))
    (nested : gotD members "delta" (.obj []) = .obj delta) :
    messageDelta state created (.obj members) =
      (stopReason (gotD delta "stop_reason" (.str ""))).bind fun reason =>
        (tokensOf "output_tokens" (got members "usage") 0 0).bind fun outputTokens =>
          if maxStrDigits < Json.intDigits (state.inputTokens + outputTokens) then .error .valueError
          else .ok (state, some (sseChunk created state.chunkId state.model .null .null
            (.str reason.toString) (some (usageJson state.inputTokens outputTokens
              (state.inputTokens + outputTokens))))) := by
  have counted : outputTokens (.obj members) = tokensOf "output_tokens" (got members "usage") 0 0 := by
    simp only [outputTokens, dictGet_got, bind, Except.bind, tokensOf]
    cases got members "usage" <;> rfl
  simp only [messageDelta, dictGetD_gotD, nested, counted, bind, Except.bind]
  rfl

theorem contentBlockDelta_obj (delta : List (String × Json))
    (nested : gotD members "delta" (.obj []) = .obj delta) :
    contentBlockDelta python state created (.obj members) =
      if isType (got delta "type") "text_delta" then
        if python.nesting < (gotD delta "text" (.str "")).depth + 4 then .error (.other "RecursionError")
        else .ok (state, some (sseChunk created state.chunkId state.model .null
          (gotD delta "text" (.str ""))))
      else .ok (state, none) := by
  simp only [contentBlockDelta, dictGetD_gotD, dictGet_got, nested, bind, Except.bind]
  rfl

/-- A member that is looked into must be an object. -/
theorem nested_cases (members : List (String × Json)) (name : String) :
    (∃ inner, gotD members name (.obj []) = .obj inner) ∨
      ((¬ ∃ inner, gotD members name (.obj []) = .obj inner) ∧
        ∀ key default, dictGetD (gotD members name (.obj [])) key default = .error .attributeError ∧
          dictGet (gotD members name (.obj [])) key = .error .attributeError) := by
  cases gotD members name (.obj []) with
  | obj inner => exact .inl ⟨inner, rfl⟩
  | null | bool | int | float | str | broken | arr =>
      exact .inr ⟨fun ⟨_, same⟩ => (by cases same), fun _ _ => ⟨rfl, rfl⟩⟩

variable (members)

theorem becomes_messageStart (kind : eventKind members = .messageStart) :
    Becomes (EventSilent (.obj members)) (EventUsable python state.inputTokens (.obj members)) state
      (messageStart state created (.obj members)) := by
  have heard : ¬ EventSilent (.obj members) := by
    rintro ⟨_, ⟨⟩, other | ⟨other, -⟩⟩ <;> cases kind.symm.trans other
  have usable : EventUsable python state.inputTokens (.obj members) ↔
      ∃ message, gotD members "message" (.obj []) = .obj message ∧
      TokensUsable "input_tokens" (orElse (got message "usage") (got members "usage")) := by
    simp [EventUsable, kind]
  rcases nested_cases members "message" with ⟨message, nested⟩ | ⟨flat, raised⟩
  · rw [messageStart_obj message nested]
    rcases tokensOf_cases "input_tokens" (orElse (got message "usage") (got members "usage"))
      state.inputTokens state.inputTokens with ⟨counted, n, read⟩ | ⟨uncounted, exception, failed⟩
    · rw [read]
      exact .yields heard (usable.mpr ⟨message, nested, counted⟩) _ _
    · rw [failed]
      refine .raises heard (fun used => ?_) exception
      obtain ⟨other, same, counted⟩ := usable.mp used
      obtain rfl := Json.obj.inj (nested.symm.trans same)
      exact uncounted counted
  · have stuck : messageStart state created (.obj members) = .error .attributeError := by
      simp only [messageStart, dictGetD_gotD, (raised _ _).1, bind, Except.bind]
    rw [stuck]
    exact .raises heard (fun used => flat ((usable.mp used).imp fun _ => And.left)) _

theorem becomes_contentBlockDelta (kind : eventKind members = .contentBlockDelta) :
    Becomes (EventSilent (.obj members)) (EventUsable python state.inputTokens (.obj members)) state
      (contentBlockDelta python state created (.obj members)) := by
  have silent : EventSilent (.obj members) ↔ ∃ delta, gotD members "delta" (.obj []) = .obj delta ∧
      isType (got delta "type") "text_delta" = false := by
    simp [EventSilent, kind]
  have usable : EventUsable python state.inputTokens (.obj members) ↔
      ∃ delta, gotD members "delta" (.obj []) = .obj delta ∧
        (isType (got delta "type") "text_delta" = true →
          (gotD delta "text" (.str "")).depth + 4 ≤ python.nesting) := by
    simp [EventUsable, kind]
  rcases nested_cases members "delta" with ⟨delta, nested⟩ | ⟨flat, raised⟩
  · rw [contentBlockDelta_obj delta nested]
    cases type : isType (got delta "type") "text_delta" with
    | false =>
        exact .silent (silent.mpr ⟨delta, nested, type⟩)
          (usable.mpr ⟨delta, nested, fun given => by rw [type] at given; cases given⟩)
    | true =>
        have heard : ¬ EventSilent (.obj members) := by
          intro unheard
          obtain ⟨other, same, piece⟩ := silent.mp unheard
          obtain rfl := Json.obj.inj (nested.symm.trans same)
          exact absurd (piece.symm.trans type) (by decide)
        simp only [if_true]
        split_ifs with deep
        · refine .raises heard (fun used => ?_) _
          obtain ⟨other, same, fits⟩ := usable.mp used
          obtain rfl := Json.obj.inj (nested.symm.trans same)
          exact absurd (fits type) (not_le.mpr deep)
        · exact .yields heard (usable.mpr ⟨delta, nested, fun _ => not_lt.mp deep⟩) _ _
  · have stuck : contentBlockDelta python state created (.obj members) = .error .attributeError := by
      simp only [contentBlockDelta, dictGetD_gotD, bind, Except.bind]
      rw [(raised "type" .null).2]
    rw [stuck]
    exact .raises (fun unheard => flat ((silent.mp unheard).imp fun _ => And.left))
      (fun used => flat ((usable.mp used).imp fun _ => And.left)) _

theorem becomes_messageDelta (kind : eventKind members = .messageDelta) :
    Becomes (EventSilent (.obj members)) (EventUsable python state.inputTokens (.obj members)) state
      (messageDelta state created (.obj members)) := by
  have heard : ¬ EventSilent (.obj members) := by
    rintro ⟨_, ⟨⟩, other | ⟨other, -⟩⟩ <;> cases kind.symm.trans other
  have usable : EventUsable python state.inputTokens (.obj members) ↔
      ∃ delta, gotD members "delta" (.obj []) = .obj delta ∧
      Hashable (gotD delta "stop_reason" (.str "")) ∧
        TokensUsable "output_tokens" (got members "usage") ∧
          TotalShort state.inputTokens (got members "usage") := by
    simp [EventUsable, kind]
  rcases nested_cases members "delta" with ⟨delta, nested⟩ | ⟨flat, raised⟩
  · have unusable (broken : ¬ (Hashable (gotD delta "stop_reason" (.str "")) ∧
        TokensUsable "output_tokens" (got members "usage") ∧
          TotalShort state.inputTokens (got members "usage"))) :
        ¬ EventUsable python state.inputTokens (.obj members) := by
      intro used
      obtain ⟨other, same, both⟩ := usable.mp used
      obtain rfl := Json.obj.inj (nested.symm.trans same)
      exact broken both
    rw [messageDelta_obj delta nested]
    rcases stopReason_cases (gotD delta "stop_reason" (.str "")) with
      ⟨key, reason, ended⟩ | ⟨noKey, exception, failed⟩
    · rcases tokensOf_cases "output_tokens" (got members "usage") 0 0 with
        ⟨counted, n, read⟩ | ⟨uncounted, exception, failed⟩
      · have total : TotalShort state.inputTokens (got members "usage") ↔
            Short (state.inputTokens + n) := by
          rw [TotalShort, read]
          exact ⟨fun short => short n rfl, fun short m same => Except.ok.inj same ▸ short⟩
        rw [ended, read]
        simp only [Except.bind]
        split_ifs with long
        · exact .raises heard
            (unusable fun whole => absurd (total.mp whole.2.2) (not_le.mpr long)) _
        · exact .yields heard
            (usable.mpr ⟨delta, nested, key, counted, total.mpr (not_lt.mp long)⟩) _ _
      · rw [ended, failed]
        exact .raises heard (unusable fun both => uncounted both.2.1) exception
    · rw [failed]
      exact .raises heard (unusable fun both => noKey both.1) exception
  · have stuck : messageDelta state created (.obj members) = .error .attributeError := by
      simp only [messageDelta, dictGetD_gotD, (raised _ _).1, bind, Except.bind]
    rw [stuck]
    exact .raises heard (fun used => flat ((usable.mp used).imp fun _ => And.left)) _

/-- What is done with an event follows from its type. -/
theorem anthropicTranslate_obj :
    anthropicTranslate python state created (.obj members) =
      match eventKind members with
      | .messageStart => messageStart state created (.obj members)
      | .contentBlockDelta => contentBlockDelta python state created (.obj members)
      | .messageDelta => messageDelta state created (.obj members)
      | .messageStop => .ok ({ state with doneSent := true }, some doneLine)
      | .other => .ok (state, none) := by
  simp only [anthropicTranslate, eventKind, dictGet_got, bind, Except.bind]
  split_ifs <;> rfl

/-- **What comes of an event** follows from its shape. -/
theorem becomes_event (event : Json) :
    Becomes (EventSilent event) (EventUsable python state.inputTokens event) state
      (anthropicTranslate python state created event) := by
  cases event with
  | obj members =>
      rw [anthropicTranslate_obj]
      cases kind : eventKind members with
      | messageStart => exact becomes_messageStart members kind
      | contentBlockDelta => exact becomes_contentBlockDelta members kind
      | messageDelta => exact becomes_messageDelta members kind
      | messageStop =>
          refine .yields ?_ ⟨members, rfl, by simp [kind]⟩ _ _
          rintro ⟨_, ⟨⟩, other | ⟨other, -⟩⟩ <;> cases kind.symm.trans other
      | other => exact .silent ⟨members, rfl, .inl kind⟩ ⟨members, rfl, by simp [kind]⟩
  | null | bool | int | float | str | broken | arr =>
      exact .raises (fun ⟨_, same, _⟩ => (by cases same)) (fun ⟨_, same, _⟩ => (by cases same))
        .attributeError

end Events

theorem decodes_iff {python : Interpreter} {line : UpstreamLine} {event : Json}
    (there : anthropicEvent python line.text = .ok (some event)) (proper : Json → Prop) :
    Decodes python line proper ↔ proper event := by
  constructor
  · rintro ⟨read, same, each⟩
    exact each event (Except.ok.inj (same.symm.trans there))
  · exact fun here => ⟨_, there, fun other same => Option.some.inj same ▸ here⟩

/-- **What comes of a line.** -/
theorem becomes_line (python : Interpreter) (adapter : Adapter) (state : AnthropicState)
    (line : UpstreamLine) :
    Becomes (adapter.Silent python line) (adapter.Translatable python state line) state
      (adapter.readLine python state line) := by
  have passed : Becomes (dataMark.isPrefixOf line.text.toList = false) True state
      (.ok (state, passLine line)) := by
    unfold passLine
    split_ifs with marked
    · exact .yields (by simp [marked]) trivial _ _
    · exact .silent (Bool.eq_false_of_not_eq_true marked) trivial
  cases adapter with
  | openai => exact passed
  | mistral => exact passed
  | anthropic =>
      match there : anthropicEvent python line.text with
      | .error exception =>
          have read : Adapter.readLine .anthropic python state line = .error exception := by
            simp only [Adapter.readLine, anthropicLine, there]
          have stuck (proper : Json → Prop) : ¬ Decodes python line proper := by
            rintro ⟨given, same, -⟩
            cases there.symm.trans same
          rw [read]
          exact .raises (stuck _) (stuck _) exception
      | .ok none =>
          have read : Adapter.readLine .anthropic python state line = .ok (state, none) := by
            simp only [Adapter.readLine, anthropicLine, there]
          have absent (proper : Json → Prop) : Decodes python line proper :=
            ⟨none, there, fun event same => by cases same⟩
          rw [read]
          exact .silent (absent _) (absent _)
      | .ok (some event) =>
          have read : Adapter.readLine .anthropic python state line =
              anthropicTranslate python state line.created event := by
            simp only [Adapter.readLine, anthropicLine, there]
          have becomes := @becomes_event python state line.created event
          rw [← decodes_iff there EventSilent, ← decodes_iff there (EventUsable python state.inputTokens),
            ← read] at becomes
          exact becomes

/-- A line for which nothing is yielded is read without a trace. -/
theorem readLine_silent {python : Interpreter} {adapter : Adapter} {line : UpstreamLine}
    (silent : adapter.Silent python line) (state : AnthropicState) :
    adapter.readLine python state line = .ok (state, none) := by
  have becomes := becomes_line python adapter state line
  cases result : adapter.readLine python state line with
  | error exception =>
      rw [result] at becomes
      cases becomes with
      | raises heard => exact absurd silent heard
  | ok read =>
      rw [result] at becomes
      cases becomes with
      | silent => rfl
      | yields heard => exact absurd silent heard

/-! ## One pull -/

section Pulling

variable (python : Interpreter)

/-- The first line for which the iterator yields something or raises. -/
def Relay.Heeds (relay : Relay) (line : UpstreamLine) : Prop :=
  ∃ before after, relay.upstream.lines = before ++ line :: after ∧
    (∀ other ∈ before, relay.adapter.Silent python other) ∧ ¬ relay.adapter.Silent python line

/-- There is no such line any more. -/
def Relay.AtEnd (relay : Relay) : Prop :=
  ∀ line ∈ relay.upstream.lines, relay.adapter.Silent python line

/-- **What an iterator does** when it is asked for a line. -/
inductive Relay.Gives (relay : Relay) : StreamEvent → Prop
  | line {line : UpstreamLine} (heeds : relay.Heeds python line)
      (usable : relay.adapter.Translatable python relay.state line) (text : String) :
      Relay.Gives relay (.line text)
  | raised {line : UpstreamLine} (heeds : relay.Heeds python line)
      (unusable : ¬ relay.adapter.Translatable python relay.state line) (exception : PyException) :
      Relay.Gives relay (.exception exception)
  | closed (atEnd : relay.AtEnd python) (exhausted : relay.upstream.ending = .exhausted) :
      Relay.Gives relay (.line doneLine)
  | exhausted (atEnd : relay.AtEnd python) (exhausted : relay.upstream.ending = .exhausted) :
      Relay.Gives relay .exhausted
  | failed {error : ProviderError} (atEnd : relay.AtEnd python)
      (failed : relay.upstream.ending = .failed error) : Relay.Gives relay (.providerError error)
  | crashed {name : String} (atEnd : relay.AtEnd python)
      (crashed : relay.upstream.ending = .crashed name) :
      Relay.Gives relay (.exception (.other name))

end Pulling

section Pull

variable {python : Interpreter} {adapter : Adapter} {state : AnthropicState} {ending : UpstreamEnd}

theorem closingLine_cases (adapter : Adapter) (state : AnthropicState) :
    adapter.closingLine state = none ∨ adapter.closingLine state = some doneLine := by
  cases adapter with
  | openai | mistral => exact .inl rfl
  | anthropic =>
      unfold Adapter.closingLine
      split_ifs
      · exact .inl rfl
      · exact .inr rfl

/-- A line that is passed over does not change what the iterator does. -/
theorem Relay.Gives.of_silent {line : UpstreamLine} {rest : List UpstreamLine} {event : StreamEvent}
    (silent : adapter.Silent python line)
    (gives : Relay.Gives python ⟨adapter, state, ⟨rest, ending⟩⟩ event) :
    Relay.Gives python ⟨adapter, state, ⟨line :: rest, ending⟩⟩ event := by
  have heeds {other : UpstreamLine}
      (later : Relay.Heeds python ⟨adapter, state, ⟨rest, ending⟩⟩ other) :
      Relay.Heeds python ⟨adapter, state, ⟨line :: rest, ending⟩⟩ other := by
    obtain ⟨before, after, split, quiet, heard⟩ := later
    exact ⟨line :: before, after, congrArg (line :: ·) split,
      List.forall_mem_cons.mpr ⟨silent, quiet⟩, heard⟩
  have atEnd (later : Relay.AtEnd python ⟨adapter, state, ⟨rest, ending⟩⟩) :
      Relay.AtEnd python ⟨adapter, state, ⟨line :: rest, ending⟩⟩ :=
    List.forall_mem_cons.mpr ⟨silent, later⟩
  cases gives with
  | line heeded usable text => exact .line (heeds heeded) usable text
  | raised heeded unusable exception => exact .raised (heeds heeded) unusable exception
  | closed last exhausted => exact .closed (atEnd last) exhausted
  | exhausted last exhausted => exact .exhausted (atEnd last) exhausted
  | failed last failed => exact .failed (atEnd last) failed
  | crashed last crashed => exact .crashed (atEnd last) crashed

theorem next_gives (python : Interpreter) (adapter : Adapter) (ending : UpstreamEnd)
    (lines : List UpstreamLine) (state : AnthropicState) :
    Relay.Gives python ⟨adapter, state, ⟨lines, ending⟩⟩
      (adapter.next python ending state lines).1 := by
  induction lines with
  | nil =>
      have atEnd : Relay.AtEnd python ⟨adapter, state, ⟨[], ending⟩⟩ := by simp [Relay.AtEnd]
      cases ending with
      | failed error => exact .failed atEnd rfl
      | crashed name => exact .crashed atEnd rfl
      | exhausted =>
          simp only [Adapter.next]
          rcases closingLine_cases adapter state with nothing | done
          · rw [nothing]
            exact .exhausted atEnd rfl
          · rw [done]
            exact .closed atEnd rfl
  | cons line rest ih =>
      have becomes := becomes_line python adapter state line
      simp only [Adapter.next]
      cases result : adapter.readLine python state line with
      | error exception =>
          rw [result] at becomes
          cases becomes with
          | raises heard unusable =>
              exact .raised ⟨[], rest, rfl, by simp, heard⟩ unusable exception
      | ok read =>
          rw [result] at becomes
          cases becomes with
          | silent unheard => exact .of_silent unheard ih
          | yields heard usable after text =>
              exact .line ⟨[], rest, rfl, by simp, heard⟩ usable text

theorem relay_next_gives (python : Interpreter) (relay : Relay) :
    relay.Gives python (relay.next python).1 :=
  next_gives python relay.adapter relay.upstream.ending relay.upstream.lines relay.state

end Pull

/-! ## Until the end -/

/-- What an iterator yields until it does something else. -/
inductive Relay.Yields (python : Interpreter) : Relay → List String → StreamEvent → Prop
  | ends {relay : Relay} (last : ∀ text, (relay.next python).1 ≠ .line text) :
      Relay.Yields python relay [] (relay.next python).1
  | line {relay : Relay} {text : String} {texts : List String} {event : StreamEvent}
      (here : (relay.next python).1 = .line text)
      (later : Relay.Yields python (relay.next python).2 texts event) :
      Relay.Yields python relay (text :: texts) event

theorem Relay.Yields.unique {python : Interpreter} {relay : Relay} {texts others : List String}
    {event other : StreamEvent} (first : relay.Yields python texts event)
    (second : relay.Yields python others other) :
    texts = others ∧ event = other := by
  induction first generalizing others with
  | ends last =>
      cases second with
      | ends => exact ⟨rfl, rfl⟩
      | line here => exact absurd here (last _)
  | line here _ ih =>
      cases second with
      | ends last => exact absurd here (last _)
      | line same later =>
          obtain ⟨rfl, rfl⟩ := ih later
          exact ⟨congrArg (· :: _) (StreamEvent.line.inj (here.symm.trans same)), rfl⟩

section Yields

variable {python : Interpreter} {adapter : Adapter} {state after : AnthropicState} {ending : UpstreamEnd}
  {line : UpstreamLine} {rest : List UpstreamLine} {texts : List String} {event : StreamEvent}

/-- A line that is passed over. -/
theorem Relay.Yields.skip (read : adapter.readLine python state line = .ok (after, none))
    (later : Relay.Yields python ⟨adapter, after, ⟨rest, ending⟩⟩ texts event) :
    Relay.Yields python ⟨adapter, state, ⟨line :: rest, ending⟩⟩ texts event := by
  have same : Relay.next python ⟨adapter, state, ⟨line :: rest, ending⟩⟩ =
      Relay.next python ⟨adapter, after, ⟨rest, ending⟩⟩ := by
    simp only [Relay.next, Adapter.next, read]
  cases later with
  | ends last =>
      rw [← same] at last ⊢
      exact .ends last
  | line here more =>
      rw [← same] at here more
      exact .line here more

/-- A line that is answered. -/
theorem Relay.Yields.cons {text : String}
    (read : adapter.readLine python state line = .ok (after, some text))
    (later : Relay.Yields python ⟨adapter, after, ⟨rest, ending⟩⟩ texts event) :
    Relay.Yields python ⟨adapter, state, ⟨line :: rest, ending⟩⟩ (text :: texts) event := by
  have same : Relay.next python ⟨adapter, state, ⟨line :: rest, ending⟩⟩ =
      (.line text, ⟨adapter, after, ⟨rest, ending⟩⟩) := by
    simp only [Relay.next, Adapter.next, read]
  refine .line (congrArg Prod.fst same) ?_
  rw [same]
  exact later

/-- A body that is read to its end is read line by line. -/
theorem Relay.Yields.of_cons
    (yields : Relay.Yields python ⟨adapter, state, ⟨line :: rest, ending⟩⟩ texts .exhausted) :
    ∃ after text others, adapter.readLine python state line = .ok (after, text) ∧
      Relay.Yields python ⟨adapter, after, ⟨rest, ending⟩⟩ others .exhausted := by
  generalize begun : (⟨adapter, state, ⟨line :: rest, ending⟩⟩ : Relay) = relay at yields
  generalize ended : StreamEvent.exhausted = event at yields ⊢
  match read : adapter.readLine python state line with
  | .error exception =>
      have next : (relay.next python).1 = .exception exception := by
        rw [← begun]
        simp only [Relay.next, Adapter.next, read]
      cases yields with
      | ends => cases ended.trans next
      | line here => cases next.symm.trans here
  | .ok (after, some text) =>
      have next : relay.next python = (.line text, ⟨adapter, after, ⟨rest, ending⟩⟩) := by
        rw [← begun]
        simp only [Relay.next, Adapter.next, read]
      cases yields with
      | ends last => exact absurd (congrArg Prod.fst next) (last text)
      | line _ later =>
          rw [next] at later
          exact ⟨after, some text, _, rfl, later⟩
  | .ok (after, none) =>
      have next : relay.next python = Relay.next python ⟨adapter, after, ⟨rest, ending⟩⟩ := by
        rw [← begun]
        simp only [Relay.next, Adapter.next, read]
      refine ⟨after, none, texts, rfl, ?_⟩
      cases yields with
      | ends last =>
          rw [next] at last ⊢
          exact .ends last
      | line here later =>
          rw [next] at here later
          exact .line here later

/-- The end of a body after which nothing is made up. -/
theorem Relay.Yields.nil (closed : adapter.closingLine state = none) :
    Relay.Yields python ⟨adapter, state, ⟨[], .exhausted⟩⟩ [] .exhausted := by
  have same : Relay.next python ⟨adapter, state, ⟨[], .exhausted⟩⟩ =
      (.exhausted, ⟨adapter, state, ⟨[], .exhausted⟩⟩) := by
    simp only [Relay.next, Adapter.next, closed]
  have ends := @Relay.Yields.ends python ⟨adapter, state, ⟨[], .exhausted⟩⟩
    (by rw [same]; exact fun _ => StreamEvent.noConfusion)
  rw [same] at ends
  exact ends

end Yields

end LlmGateway
