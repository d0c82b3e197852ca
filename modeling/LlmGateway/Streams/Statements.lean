import LlmGateway.Streams.Lines
import LlmGateway.Streams.Relaying

/-!
# What an Anthropic stream says

A stream is a list of statements: where the message starts, its pieces of text, why it ended, and
that it is over (`Said`). Between them stand lines that say nothing (`StreamSays`).

An interpreter need not hear all that is said. It passes over a line with an integer that is too
long, and it raises on one that is nested too deeply. What it hears (`StreamHears`) is a part of
what is said (`StreamHears.part`), and an adapter that comes to the end of its stream has heard
something of every line (`hears_of_yields`), with totals that can be written (`shortFrom_of_yields`).
-/

set_option autoImplicit false

namespace LlmGateway

open LlmGateway.Library
open LlmGateway.Library.PythonText

/-! ## Statements -/

/-- A statement of an Anthropic stream. -/
inductive Said where
  | start (id model : List CodePoint) (inputTokens : ℤ)
  | text (piece : List CodePoint)
  | finish (reason : FinishReason) (outputTokens : ℤ)
  | stop
deriving DecidableEq

/-- The members of an event with a statement. Whatever else the event contains is ignored. -/
inductive EventSays (members : List (String × Json)) : Said → Prop
  | start {message usage : List (String × Json)} {id model : List CodePoint} {value : Json}
      {inputTokens : ℤ} (kind : eventKind members = .messageStart)
      (nested : gotD members "message" (.obj []) = .obj message)
      (identified : Json.lookup "id" message = some (.ofText id))
      (named : Json.lookup "model" message = some (.ofText model))
      (counted : Json.lookup "usage" message = some (.obj usage))
      (input : Json.lookup "input_tokens" usage = some value) (given : intOfJson value = .ok inputTokens) :
      EventSays members (.start id model inputTokens)
  | text {delta : List (String × Json)} {piece : List CodePoint}
      (kind : eventKind members = .contentBlockDelta)
      (nested : gotD members "delta" (.obj []) = .obj delta)
      (type : isType (got delta "type") "text_delta" = true)
      (filled : gotD delta "text" (.str "") = .ofText piece) : EventSays members (.text piece)
  | finish {delta usage : List (String × Json)} {reason : FinishReason} {value : Json}
      {outputTokens : ℤ}
      (kind : eventKind members = .messageDelta)
      (nested : gotD members "delta" (.obj []) = .obj delta)
      (ended : stopReason (gotD delta "stop_reason" (.str "")) = .ok reason)
      (counted : Json.lookup "usage" members = some (.obj usage))
      (output : Json.lookup "output_tokens" usage = some value)
      (given : intOfJson value = .ok outputTokens) :
      EventSays members (.finish reason outputTokens)
  | stop (kind : eventKind members = .messageStop) : EventSays members .stop

/-- What the payload of a data line stands for, if it is JSON. -/
def lineEvent (text : String) : Option Json :=
  if dataMark.isPrefixOf text.toList then Json.parse (String.ofList (strip (text.toList.drop 6))) else none

/-- **What some lines say**, whatever lines without a statement stand between them: lines that are no
data lines, data lines that are no JSON, events of other types, and deltas that are no text. -/
inductive StreamSays : List UpstreamLine → List Said → Prop
  | nil : StreamSays [] []
  | noise {line : UpstreamLine} {rest : List UpstreamLine} {saids : List Said}
      (silent : ∀ event, lineEvent line.text = some event → EventSilent event)
      (later : StreamSays rest saids) : StreamSays (line :: rest) saids
  | said {line : UpstreamLine} {rest : List UpstreamLine} {members : List (String × Json)}
      {said : Said} {saids : List Said} (event : lineEvent line.text = some (.obj members))
      (told : EventSays members said) (later : StreamSays rest saids) :
      StreamSays (line :: rest) (said :: saids)

/-- **What an interpreter hears** of some lines: none is nested too deeply, and a line that it cannot
decode says nothing. -/
inductive StreamHears (python : Interpreter) : List UpstreamLine → List Said → Prop
  | nil : StreamHears python [] []
  | noise {line : UpstreamLine} {rest : List UpstreamLine} {saids : List Said}
      (silent : Adapter.Silent python .anthropic line) (later : StreamHears python rest saids) :
      StreamHears python (line :: rest) saids
  | said {line : UpstreamLine} {rest : List UpstreamLine} {members : List (String × Json)}
      {said : Said} {saids : List Said}
      (event : anthropicEvent python line.text = .ok (some (.obj members)))
      (told : EventSays members said) (later : StreamHears python rest saids) :
      StreamHears python (line :: rest) (said :: saids)

/-- Every total can be written, after so many input tokens. -/
def ShortFrom : ℤ → List Said → Prop
  | _, [] => True
  | _, .start _ _ inputTokens :: rest => ShortFrom inputTokens rest
  | inputTokens, .finish _ outputTokens :: rest =>
      Short (inputTokens + outputTokens) ∧ ShortFrom inputTokens rest
  | inputTokens, .text _ :: rest | inputTokens, .stop :: rest => ShortFrom inputTokens rest

/-! ## What the adapter makes of a statement -/

section Adapter

variable {python : Interpreter} {state : AnthropicState} {line : UpstreamLine}
  {members : List (String × Json)} {id model : List CodePoint} {inputTokens : ℤ}

theorem readLine_event (state : AnthropicState)
    (event : anthropicEvent python line.text = .ok (some (.obj members))) :
    Adapter.readLine .anthropic python state line =
      anthropicTranslate python state line.created (.obj members) := by
  simp only [Adapter.readLine, anthropicLine, event]

/-- The start of a message replaces what was remembered. -/
theorem readLine_start (state : AnthropicState)
    (event : anthropicEvent python line.text = .ok (some (.obj members)))
    (told : EventSays members (.start id model inputTokens)) :
    Adapter.readLine .anthropic python state line =
      .ok (⟨.ofText id, .ofText model, inputTokens, state.doneSent⟩,
        some (sseChunk line.created (.ofText id) (.ofText model) (.str "assistant"))) := by
  generalize same : Said.start id model inputTokens = said at told
  cases told with
  | @start message usage _ _ value _ kind nested identified named counted input given =>
      cases same
      have chosen : orElse (got message "usage") (got members "usage") = .obj usage := by
        cases usage with
        | nil => cases input
        | cons first rest => simp [got, counted, orElse, truthy]
      rw [readLine_event state event, anthropicTranslate_obj, kind]
      simp only [messageStart_obj message nested, chosen, tokensOf, gotD, identified, named, input,
        Option.getD_some, given]
      rfl
  | text | finish | stop => cases same

/-- A piece of text gives a chunk with what was remembered. -/
theorem readLine_text (state : AnthropicState) {piece : List CodePoint}
    (event : anthropicEvent python line.text = .ok (some (.obj members)))
    (told : EventSays members (.text piece)) :
    Adapter.readLine .anthropic python state line =
      .ok (state, some (sseChunk line.created state.chunkId state.model .null (.ofText piece))) := by
  cases told with
  | text kind nested type filled =>
      have room : ¬ python.nesting < (Json.ofText piece).depth + 4 := by
        have deep := python.deep
        rw [Json.depth_ofText]
        omega
      rw [readLine_event state event, anthropicTranslate_obj, kind]
      simp only [contentBlockDelta_obj _ nested, type, filled, room, if_true, if_false]

/-- A reason gives a chunk with the counts, if the total can be written. -/
theorem readLine_finish (state : AnthropicState) {reason : FinishReason} {outputTokens : ℤ}
    (event : anthropicEvent python line.text = .ok (some (.obj members)))
    (told : EventSays members (.finish reason outputTokens)) :
    Adapter.readLine .anthropic python state line =
      if Short (state.inputTokens + outputTokens) then
        .ok (state, some (sseChunk line.created state.chunkId state.model .null .null
          (.str reason.toString)
          (some (usageJson state.inputTokens outputTokens (state.inputTokens + outputTokens)))))
      else .error .valueError := by
  cases told with
  | finish kind nested ended counted output given =>
      have tokens : tokensOf "output_tokens" (got members "usage") 0 0 = .ok outputTokens := by
        simp only [got, counted, Option.getD_some, tokensOf, gotD, output, given]
      rw [readLine_event state event, anthropicTranslate_obj, kind]
      simp only [messageDelta_obj _ nested, ended, tokens, Except.bind]
      by_cases short : Short (state.inputTokens + outputTokens)
      · rw [if_pos short, if_neg (not_lt.mpr short)]
      · rw [if_neg short, if_pos (not_le.mp short)]

theorem readLine_stop (state : AnthropicState)
    (event : anthropicEvent python line.text = .ok (some (.obj members)))
    (told : EventSays members .stop) :
    Adapter.readLine .anthropic python state line =
      .ok ({ state with doneSent := true }, some doneLine) := by
  cases told with
  | stop kind => rw [readLine_event state event, anthropicTranslate_obj, kind]

/-- A statement that the adapter takes has a total that can be written. -/
theorem shortFrom_cons {said : Said} {after : AnthropicState} {text : Option String} {heard : List Said}
    (event : anthropicEvent python line.text = .ok (some (.obj members)))
    (told : EventSays members said)
    (read : Adapter.readLine .anthropic python state line = .ok (after, text))
    (later : ShortFrom after.inputTokens heard) : ShortFrom state.inputTokens (said :: heard) := by
  cases said with
  | start id model inputTokens =>
      cases (readLine_start state event told).symm.trans read
      exact later
  | text piece =>
      cases (readLine_text state event told).symm.trans read
      exact later
  | finish reason outputTokens =>
      rw [readLine_finish state event told] at read
      split_ifs at read with short
      cases read
      exact ⟨short, later⟩
  | stop =>
      cases (readLine_stop state event told).symm.trans read
      exact later

end Adapter

/-! ## What is heard of what is said -/

theorem lineEvent_of_anthropicEvent {python : Interpreter} {text : String} {event : Json}
    (there : anthropicEvent python text = .ok (some event)) : lineEvent text = some event := by
  unfold anthropicEvent at there
  unfold lineEvent
  split_ifs at there ⊢
  · exact Interpreter.parse_of_loads (tryLoads_eq_some there)
  · cases there

/-- A line that is read is decoded, or passed over. -/
theorem anthropicEvent_of_readLine {python : Interpreter} {state after : AnthropicState}
    {line : UpstreamLine} {text : Option String}
    (read : Adapter.readLine .anthropic python state line = .ok (after, text)) :
    ∃ event, anthropicEvent python line.text = .ok event := by
  match there : anthropicEvent python line.text with
  | .ok event => exact ⟨event, rfl⟩
  | .error exception =>
      simp only [Adapter.readLine, anthropicLine, there] at read
      cases read

/-- A line without an event is passed over. -/
theorem silent_of_none {python : Interpreter} {line : UpstreamLine}
    (there : anthropicEvent python line.text = .ok none) : Adapter.Silent python .anthropic line :=
  ⟨none, there, fun _ same => nomatch same⟩

/-- **An adapter that comes to the end of a stream** has heard something of every line. -/
theorem hears_of_yields {python : Interpreter} {lines : List UpstreamLine} {saids : List Said}
    (whole : StreamSays lines saids) {state : AnthropicState} {texts : List String}
    (yields : Relay.Yields python ⟨.anthropic, state, ⟨lines, .exhausted⟩⟩ texts .exhausted) :
    ∃ heard, StreamHears python lines heard := by
  induction whole generalizing state texts with
  | nil => exact ⟨[], .nil⟩
  | @noise line rest saids silent _ ih =>
      obtain ⟨after, text, others, read, later⟩ := yields.of_cons
      obtain ⟨event, there⟩ := anthropicEvent_of_readLine read
      obtain ⟨heard, hears⟩ := ih later
      exact ⟨heard, .noise ⟨event, there, fun other same =>
        silent other (lineEvent_of_anthropicEvent (there.trans (congrArg _ same)))⟩ hears⟩
  | @said line rest members said saids event told _ ih =>
      obtain ⟨after, text, others, read, later⟩ := yields.of_cons
      obtain ⟨heard, hears⟩ := ih later
      obtain ⟨decoded, there⟩ := anthropicEvent_of_readLine read
      cases decoded with
      | none => exact ⟨heard, .noise (silent_of_none there) hears⟩
      | some value =>
          obtain rfl : value = .obj members :=
            Option.some.inj ((lineEvent_of_anthropicEvent there).symm.trans event)
          exact ⟨said :: heard, .said there told hears⟩

/-- The totals of what it has heard can be written. -/
theorem shortFrom_of_yields {python : Interpreter} {lines : List UpstreamLine} {heard : List Said}
    (hears : StreamHears python lines heard) {state : AnthropicState} {texts : List String}
    (yields : Relay.Yields python ⟨.anthropic, state, ⟨lines, .exhausted⟩⟩ texts .exhausted) :
    ShortFrom state.inputTokens heard := by
  induction hears generalizing state texts with
  | nil => trivial
  | noise silent _ ih =>
      obtain ⟨after, text, others, read, later⟩ := yields.of_cons
      cases (readLine_silent silent state).symm.trans read
      exact ih later
  | said event told _ ih =>
      obtain ⟨after, text, others, read, later⟩ := yields.of_cons
      exact shortFrom_cons event told read (ih later)

/-! ## One meaning -/

theorem ofText_injective : Function.Injective Json.ofText := by
  intro first second same
  unfold Json.ofText at same
  cases one : scalarText first <;> cases other : scalarText second <;>
    simp only [one, other, reduceCtorEq, Json.broken.injEq, Json.str.injEq] at same
  · exact same
  · rw [codePoints_of_scalarText one, codePoints_of_scalarText other, same]

/-- **An event says one thing.** -/
theorem EventSays.unique {members : List (String × Json)} {first second : Said}
    (one : EventSays members first) (other : EventSays members second) : first = second := by
  cases one with
  | start kind nested identified named counted input given =>
      cases other with
      | start _ nested' identified' named' counted' input' given' =>
          obtain rfl := Json.obj.inj (nested.symm.trans nested')
          obtain rfl := Json.obj.inj (Option.some.inj (counted.symm.trans counted'))
          obtain rfl := Option.some.inj (input.symm.trans input')
          rw [ofText_injective (Option.some.inj (identified.symm.trans identified')),
            ofText_injective (Option.some.inj (named.symm.trans named')),
            Except.ok.inj (given.symm.trans given')]
      | text kind' | finish kind' | stop kind' => cases kind.symm.trans kind'
  | text kind nested _ filled =>
      cases other with
      | text _ nested' _ filled' =>
          obtain rfl := Json.obj.inj (nested.symm.trans nested')
          rw [ofText_injective (filled.symm.trans filled')]
      | start kind' | finish kind' | stop kind' => cases kind.symm.trans kind'
  | finish kind nested ended counted output given =>
      cases other with
      | finish _ nested' ended' counted' output' given' =>
          obtain rfl := Json.obj.inj (nested.symm.trans nested')
          obtain rfl := Json.obj.inj (Option.some.inj (counted.symm.trans counted'))
          obtain rfl := Option.some.inj (output.symm.trans output')
          rw [Except.ok.inj (ended.symm.trans ended'), Except.ok.inj (given.symm.trans given')]
      | start kind' | text kind' | stop kind' => cases kind.symm.trans kind'
  | stop kind =>
      cases other with
      | stop => rfl
      | start kind' | text kind' | finish kind' => cases kind.symm.trans kind'

/-- An event with a statement is not passed over. -/
theorem EventSays.not_silent {members : List (String × Json)} {said : Said}
    (told : EventSays members said) : ¬ EventSilent (.obj members) := by
  rintro ⟨_, ⟨⟩, other | ⟨piece, delta, nested, type⟩⟩
  · cases told with
    | start kind | text kind | finish kind | stop kind => cases kind.symm.trans other
  · cases told with
    | text _ nested' type' =>
        obtain rfl := Json.obj.inj (nested.symm.trans nested')
        cases type.symm.trans type'
    | start kind | finish kind | stop kind => cases kind.symm.trans piece

/-- What is heard is a part of what is said. -/
theorem StreamHears.part {python : Interpreter} {lines : List UpstreamLine} {heard saids : List Said}
    (hears : StreamHears python lines heard) (whole : StreamSays lines saids) : heard.Sublist saids := by
  induction hears generalizing saids with
  | nil =>
      cases whole
      exact List.Sublist.refl _
  | noise _ _ ih =>
      cases whole with
      | noise _ later => exact ih later
      | said _ _ later => exact (ih later).cons _
  | said event told _ ih =>
      have meant := lineEvent_of_anthropicEvent event
      cases whole with
      | noise silent => exact absurd (silent _ meant) told.not_silent
      | said event' told' later =>
          obtain rfl := Json.obj.inj (Option.some.inj (meant.symm.trans event'))
          rw [told.unique told']
          exact (ih later).cons_cons _

/-! ## What is decoded -/

/-- A statement that can be written again: its texts are texts of JSON, and its counts are not too
long. -/
def Said.Sound : Said → Prop
  | .start id model inputTokens => (Json.ofText id).Keyed ∧ (Json.ofText model).Keyed ∧ Short inputTokens
  | .text piece => (Json.ofText piece).Keyed
  | .finish _ outputTokens => Short outputTokens
  | .stop => True

theorem short_of_intOfJson {value : Json} {levels : Option ℕ} {n : ℤ}
    (fits : value.Fits (some maxStrDigits) levels) (given : intOfJson value = .ok n) : Short n := by
  cases value with
  | int m =>
      cases given
      exact Json.short_of_fits fits
  | bool b =>
      cases given
      cases b <;> decide
  | str text =>
      simp only [intOfJson] at given
      split at given
      · rename_i read
        cases given
        exact short_iff.mpr (intOfText_lt read)
      · cases given
  | float value =>
      simp only [intOfJson] at given
      split at given
      · rename_i read
        cases given
        exact short_iff.mpr (intOfFloat_lt read)
      · cases given
      · cases given
  | null | broken | arr | obj => cases given

/-- A member that is looked up in another one. -/
theorem lookup_of_gotD {members inner : List (String × Json)} {name key : String} {value : Json}
    (nested : gotD members name (.obj []) = .obj inner) (found : Json.lookup key inner = some value) :
    Json.lookup name members = some (.obj inner) := by
  unfold gotD at nested
  cases there : Json.lookup name members with
  | some other =>
      rw [there, Option.getD_some] at nested
      rw [nested]
  | none =>
      rw [there, Option.getD_none] at nested
      cases nested
      cases found

theorem keyed_gotD {members : List (String × Json)} {name : String} {default : Json}
    (keyed : Json.KeyedMembers members) (plain : default.Keyed) : (gotD members name default).Keyed := by
  unfold gotD
  cases there : Json.lookup name members with
  | some value => exact Json.keyed_lookup keyed there
  | none => exact plain

/-- A member of an object that keeps the limits. -/
theorem fits_member {members : List (String × Json)} {name : String} {value : Json}
    (fits : ∃ levels : ℕ, (Json.obj members).Fits (some maxStrDigits) (some levels))
    (found : Json.lookup name members = some value) :
    ∃ levels : ℕ, value.Fits (some maxStrDigits) (some levels) := by
  obtain ⟨levels, fits⟩ := fits
  obtain ⟨fewer, rfl⟩ := Json.levels_of_fits_obj fits
  exact ⟨fewer, Json.fits_lookup fits found⟩

/-- **What is decoded can be written again.** -/
theorem sound_of_event {python : Interpreter} {text : String} {members : List (String × Json)} {said : Said}
    (event : anthropicEvent python text = .ok (some (.obj members))) (told : EventSays members said) :
    said.Sound := by
  have loaded : ∃ payload, python.loads payload = .ok (.obj members) := by
    unfold anthropicEvent at event
    split_ifs at event
    · exact ⟨_, tryLoads_eq_some event⟩
    · cases event
  obtain ⟨payload, loaded⟩ := loaded
  have fits : ∃ levels : ℕ, (Json.obj members).Fits (some maxStrDigits) (some levels) :=
    ⟨_, Interpreter.takes_of_loads loaded⟩
  have keyed : Json.KeyedMembers members := (Interpreter.keyed_loads loaded).2
  have inside {name : String} {inner : List (String × Json)}
      (nested : gotD members name (.obj []) = .obj inner) : Json.KeyedMembers inner := by
    have whole : (gotD members name (.obj [])).Keyed := keyed_gotD keyed ⟨List.nodup_nil, trivial⟩
    rw [nested] at whole
    exact whole.2
  cases told with
  | start _ nested identified named counted input given =>
      obtain ⟨levels, small⟩ :=
        fits_member (fits_member (fits_member fits (lookup_of_gotD nested counted)) counted) input
      exact ⟨Json.keyed_lookup (inside nested) identified, Json.keyed_lookup (inside nested) named,
        short_of_intOfJson small given⟩
  | @text delta piece _ nested _ filled =>
      have whole : (gotD delta "text" (.str "")).Keyed := keyed_gotD (inside nested) trivial
      rw [filled] at whole
      exact whole
  | finish _ _ _ counted output given =>
      obtain ⟨levels, small⟩ := fits_member (fits_member fits counted) output
      exact short_of_intOfJson small given
  | stop => trivial

end LlmGateway
