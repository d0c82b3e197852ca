import LlmGateway.Engines.Runs
import LlmGateway.Providers.Bodies
import LlmGateway.Streams.Relaying

/-!
# Malformed bodies

What a reply with status 200 does to the chain of a chat when its body is not what the adapter
expects. `_parse_response` turns a `ValueError` and a `KeyError` into a `ProviderError`, and the
chain goes on; any other exception of an adapter leaves the chain, and no handler of the endpoint
takes it.

A body comes to `_parse_response` as what `response.json()` makes of it (`Decoded`). A
`ChatResponse` is validated as a whole, so the OpenAI and the Mistral adapter raise nothing else
once a value is there. `_build_response` reads its value member by member: `Digestible` says of
which values it raises nothing else (`tolerated_buildResponse_iff`). A value that is nested too
deeply for the decoder is more than any adapter can take (`malformed_iff`).
-/

set_option autoImplicit false

namespace LlmGateway

open LlmGateway.Library

/-! ## Decoded bodies -/

/-- What `response.json()` comes to: a value; a `ValueError`, for bytes that are no text or a text
that is no JSON; or the end of the stack. -/
inductive Decoded where
  | value (body : Json)
  | malformed
  | tooDeep

namespace Decoded

def result : Decoded → Except PyException Json
  | value body => .ok body
  | malformed => .error .valueError
  | tooDeep => .error (.other "RecursionError")

/-- What an interpreter makes of a text. -/
def ofText (python : Interpreter) (raw : String) : Decoded :=
  match python.loads raw with
  | .ok body => value body
  | .error .invalid => malformed
  | .error .tooDeep => tooDeep

end Decoded

/-- `_parse_response` of a decoded body; the text of an exception is a parameter. -/
def BaseProvider.parseDecoded (provider : BaseProvider) (field : IntField)
    (text : PyException → String) (created : ℤ) (decoded : Decoded) : Except PyException ChatResponse :=
  let unparseable (exception : PyException) : PyException :=
    .providerError ⟨.generic, "Provider '" ++ provider.config.name ++
      "' returned an unparseable response: " ++ text exception, provider.config.name⟩
  match decoded.result.bind (provider.adapter.parse field created) with
  | .error .valueError => .error (unparseable .valueError)
  | .error .keyError => .error (unparseable .keyError)
  | result => result

theorem parseResponse_eq (provider : BaseProvider) (python : Interpreter) (field : IntField)
    (text : PyException → String) (created : ℤ) (raw : String) :
    provider.parseResponse python field text created raw =
      provider.parseDecoded field text created (.ofText python raw) := by
  have decoded : (Decoded.ofText python raw).result = responseJson python raw := by
    unfold Decoded.ofText responseJson
    rcases python.loads raw with (_ | _) | _ <;> rfl
  unfold BaseProvider.parseResponse BaseProvider.parseDecoded
  exact decoded ▸ rfl

/-- An adapter returns a response or raises a `ProviderError`. -/
def Mapped : Except PyException ChatResponse → Prop
  | .ok _ | .error (.providerError _) => True
  | .error _ => False

/-! ## Exceptions that are caught -/

/-- What `_parse_response` turns into a `ProviderError`, or passes on as one. -/
def Caught : PyException → Prop
  | .valueError | .keyError | .providerError _ => True
  | _ => False

/-- A computation raises nothing but what is caught. -/
def Tolerated {α : Type} : Except PyException α → Prop
  | .ok _ => True
  | .error exception => Caught exception

section Tolerance

variable {α β : Type}

theorem tolerated_ok_bind (value : α) (next : α → Except PyException β) :
    Tolerated (Except.ok value >>= next) ↔ Tolerated (next value) := Iff.rfl

theorem tolerated_validated (value : Option α) : Tolerated (validated value) := by
  cases value <;> trivial

/-- A validation is tolerated; what follows it decides. -/
theorem tolerated_validated_bind (value : Option α) (next : α → Except PyException β) :
    Tolerated (validated value >>= next) ↔ ∀ result, value = some result → Tolerated (next result) := by
  cases value with
  | none => exact ⟨fun _ _ impossible => (nomatch impossible), fun _ => trivial⟩
  | some result =>
      exact ⟨fun tolerated _ same => Option.some.inj same ▸ tolerated, fun whole => whole result rfl⟩

/-- A missing member is tolerated. -/
theorem tolerated_getItem_bind (members : List (String × Json)) (key : String)
    (next : Json → Except PyException β) :
    Tolerated (getItem (.obj members) key >>= next) ↔
      ∀ item, Json.lookup key members = some item → Tolerated (next item) := by
  cases found : Json.lookup key members with
  | none =>
      simp only [getItem, found]
      exact ⟨fun _ _ impossible => (nomatch impossible), fun _ => trivial⟩
  | some item =>
      simp only [getItem, found]
      exact ⟨fun tolerated _ same => Option.some.inj same ▸ tolerated, fun whole => whole item rfl⟩

/-- **Adapters and `_parse_response`**: it contains what is tolerated. -/
theorem mapped_parseDecoded (provider : BaseProvider) (field : IntField)
    (text : PyException → String) (created : ℤ) (decoded : Decoded) :
    Mapped (provider.parseDecoded field text created decoded) ↔
      Tolerated (decoded.result.bind (provider.adapter.parse field created)) := by
  unfold BaseProvider.parseDecoded
  cases decoded.result.bind (provider.adapter.parse field created) with
  | ok response => exact Iff.rfl
  | error exception => cases exception <;> exact Iff.rfl

end Tolerance

/-! ## Bodies of Anthropic -/

/-- A block whose text is taken. -/
def isTextBlock : Json → Bool
  | .obj members => isType (got members "type") "text"
  | _ => false

/-- Up to the first text block all blocks are objects. -/
def WalkableItems : List Json → Prop
  | [] => True
  | block :: rest => (∃ members, block = .obj members) ∧ (isTextBlock block = false → WalkableItems rest)

/-- The value can be gone through up to the first text block. The items of an object and of a text
are texts, so there must be none. -/
def Walkable : Json → Prop
  | .arr items => WalkableItems items
  | .obj members => members = []
  | .str text => text = ""
  | .broken text => text = []
  | .null | .bool _ | .int _ | .float _ => False

/-- The blocks of a content. -/
def blocksOf : Json → List Json
  | .arr items => items
  | _ => []

/-- The text of the first text block, empty without such a block; nothing if it is not a text. -/
def shownText (blocks : List Json) : Option String :=
  match blocks.find? isTextBlock with
  | none => some ""
  | some block => ((asObj block).bind (Json.lookup "text")).bind asStr

/-- A text, even one that UTF-8 cannot carry. -/
def IsPyText : PyValue → Prop
  | .str _ | .broken => True
  | _ => False

/-- Two values that Python can add: texts, lists, or numbers, where an integer that is added to a
float must not be too large for one. -/
inductive Addable : PyValue → PyValue → Prop
  | texts {first second : PyValue} (left : IsPyText first) (right : IsPyText second) : Addable first second
  | lists : Addable .list .list
  | integers {first second : PyValue} {m n : ℤ} (left : first.integer = some m)
      (right : second.integer = some n) : Addable first second
  | floats (first second : Double) : Addable (.float first) (.float second)
  | floatInteger {second : PyValue} {n : ℤ} {converted : Double} (first : Double)
      (right : second.integer = some n) (fits : Double.ofInt n = some converted) :
      Addable (.float first) second
  | integerFloat {first : PyValue} {n : ℤ} {converted : Double} (second : Double)
      (left : first.integer = some n) (fits : Double.ofInt n = some converted) :
      Addable first (.float second)

/-- A usage whose two counts can be added, if they are there. -/
def UsageAddable (usage : Json) : Prop :=
  ∃ counts, usage = .obj counts ∧
    ∀ input output, Json.lookup "input_tokens" counts = some input →
      Json.lookup "output_tokens" counts = some output → Addable (.ofJson input) (.ofJson output)

/-- **What the Anthropic adapter copes with.** The body is an object whose content, if there is
one, can be walked; and if all is there that is read before, the reason can be looked up, and the
usage is an object whose counts can be added. -/
def Digestible (body : Json) : Prop :=
  ∃ members, body = .obj members ∧
    ∀ content, Json.lookup "content" members = some content →
      Walkable content ∧
        ∀ text, shownText (blocksOf content) = some text →
          ∀ usage id model, Json.lookup "usage" members = some usage →
            Json.lookup "id" members = some id → Json.lookup "model" members = some model →
            text.length ≤ maxContentLength →
            Hashable (gotD members "stop_reason" (.str "")) ∧ UsageAddable usage

section Anthropic

theorem pyAdd_ok_iff (first second : PyValue) :
    (∃ total, pyAdd first second = .ok total) ↔ Addable first second := by
  constructor
  · rintro ⟨total, added⟩
    unfold pyAdd at added
    split at added
    · exact .texts trivial trivial
    · exact .texts trivial trivial
    · exact .texts trivial trivial
    · exact .texts trivial trivial
    · exact .lists
    · exact .floats _ _
    · split at added
      · cases added
      · rename_i n right
        split at added
        · cases added
        · rename_i converted fits
          exact .floatInteger _ right fits
    · split at added
      · cases added
      · rename_i n left
        split at added
        · cases added
        · rename_i converted fits
          exact .integerFloat _ left fits
    · split at added
      · rename_i m n left right
        exact .integers left right
      · cases added
  · intro addable
    cases addable with
    | lists | floats => exact ⟨_, rfl⟩
    | texts left right =>
        cases first <;> cases left <;> cases second <;> cases right <;> exact ⟨_, rfl⟩
    | @integers first second m n left right =>
        cases first <;> cases left <;> cases second <;> cases right <;> exact ⟨_, rfl⟩
    | @floatInteger second n converted value right fits =>
        cases second <;> cases right <;>
          exact ⟨.float (value.add converted), by simp [pyAdd, PyValue.integer, fits]⟩
    | @integerFloat first n converted value left fits =>
        cases first <;> cases left <;>
          exact ⟨.float (converted.add value), by simp [pyAdd, PyValue.integer, fits]⟩

theorem caught_pyAdd {first second : PyValue} {exception : PyException}
    (raised : pyAdd first second = .error exception) : ¬ Caught exception := by
  unfold pyAdd at raised
  split at raised
  · cases raised
  · cases raised
  · cases raised
  · cases raised
  · cases raised
  · cases raised
  · split at raised
    · cases raised
      exact id
    · split at raised
      · cases raised
        exact id
      · cases raised
  · split at raised
    · cases raised
      exact id
    · split at raised
      · cases raised
        exact id
      · cases raised
  · split at raised
    · cases raised
    · cases raised
      exact id

/-- An addition is tolerated if it is done. -/
theorem tolerated_pyAdd_bind {β : Type} (first second : PyValue)
    (next : PyValue → Except PyException β) (later : ∀ total, Tolerated (next total)) :
    Tolerated (pyAdd first second >>= next) ↔ Addable first second := by
  rw [← pyAdd_ok_iff]
  cases added : pyAdd first second with
  | ok total => exact ⟨fun _ => ⟨total, rfl⟩, fun _ => later total⟩
  | error exception =>
      exact ⟨fun tolerated => absurd tolerated (caught_pyAdd added),
        fun ⟨_, impossible⟩ => nomatch impossible⟩

/-- What walking through a content comes to. -/
inductive Walks (content : Json) : Except PyException Json → Prop
  | shown {text : Json} (walkable : Walkable content) (shows : shownText (blocksOf content) = asStr text) :
      Walks content (.ok text)
  | textless (walkable : Walkable content) (absent : shownText (blocksOf content) = none) :
      Walks content (.error .keyError)
  | stuck {exception : PyException} (blocked : ¬ Walkable content) (raised : ¬ Caught exception) :
      Walks content (.error exception)

/-- What the walk comes to depends on whether it succeeds and on the text it shows. -/
theorem Walks.of_same {content other : Json} {result : Except PyException Json}
    (walked : Walks other result) (walkable : Walkable content ↔ Walkable other)
    (shows : shownText (blocksOf content) = shownText (blocksOf other)) : Walks content result := by
  cases walked with
  | shown later same => exact .shown (walkable.mpr later) (shows.trans same)
  | textless later absent => exact .textless (walkable.mpr later) (shows.trans absent)
  | stuck blocked raised => exact .stuck (mt walkable.mp blocked) raised

theorem walks_items (items : List Json) : Walks (.arr items) (firstText items) := by
  induction items with
  | nil => exact .shown trivial rfl
  | cons block rest ih =>
      cases block with
      | obj members =>
          have head : firstText (.obj members :: rest) =
              if isTextBlock (.obj members) then getItem (.obj members) "text" else firstText rest := rfl
          rw [head]
          cases typed : isTextBlock (.obj members) with
          | true =>
              rw [if_pos rfl]
              have walkable : Walkable (.arr (.obj members :: rest)) :=
                ⟨⟨members, rfl⟩, fun other => nomatch typed.symm.trans other⟩
              have shows : shownText (.obj members :: rest) = (Json.lookup "text" members).bind asStr := by
                rw [shownText, List.find?_cons_of_pos typed]
                rfl
              cases found : Json.lookup "text" members with
              | none =>
                  rw [found] at shows
                  simp only [getItem, found]
                  exact .textless walkable shows
              | some text =>
                  rw [found] at shows
                  simp only [getItem, found]
                  exact .shown walkable shows
          | false =>
              rw [if_neg Bool.false_ne_true]
              have walkable : Walkable (.arr (.obj members :: rest)) ↔ Walkable (.arr rest) :=
                ⟨fun whole => whole.2 typed, fun later => ⟨⟨members, rfl⟩, fun _ => later⟩⟩
              have shows : shownText (.obj members :: rest) = shownText rest := by
                rw [shownText, List.find?_cons_of_neg (Bool.eq_false_iff.mp typed)]
                rfl
              exact ih.of_same walkable shows
      | _ => exact .stuck (fun walkable => nomatch walkable.1) id

/-- **The first text of a content.** -/
theorem walks (content : Json) : Walks content (iterate content >>= firstText) := by
  cases content with
  | arr items => exact walks_items items
  | null | bool | int | float => exact .stuck id id
  | obj members =>
      cases members with
      | nil => exact .shown rfl rfl
      | cons member rest => exact .stuck (List.cons_ne_nil member rest) id
  | str text =>
      have given : iterate (.str text) =
          .ok (text.toList.map fun c => .str (String.singleton c)) := rfl
      rw [given]
      cases letters : text.toList with
      | nil => exact .shown (String.toList_eq_nil_iff.mp letters) rfl
      | cons c rest =>
          refine .stuck (fun empty : text = "" => ?_) id
          rw [empty] at letters
          cases letters
  | broken text =>
      cases text with
      | nil => exact .shown rfl rfl
      | cons point rest =>
          have head : (iterate (.broken (point :: rest)) >>= firstText) = .error .attributeError := by
            change firstText (.ofText [point] :: rest.map fun point => .ofText [point]) = _
            unfold Json.ofText
            split <;> rfl
          rw [head]
          exact .stuck (fun empty => nomatch (show point :: rest = [] from empty)) id

/-- An unhashable reason is not tolerated; otherwise what follows decides. -/
theorem tolerated_stopReason_bind {β : Type} {value : Json} {P : Prop}
    {next : FinishReason → Except PyException β} (later : ∀ reason, Tolerated (next reason) ↔ P) :
    Tolerated (stopReason value >>= next) ↔ Hashable value ∧ P := by
  rcases stopReason_cases value with ⟨hashable, reason, known⟩ | ⟨unhashable, exception, raised⟩
  · rw [known, tolerated_ok_bind, later]
    exact ⟨fun holds => ⟨hashable, holds⟩, And.right⟩
  · cases value with
    | arr | obj => exact ⟨False.elim, fun whole => unhashable whole.1⟩
    | _ => exact absurd trivial unhashable

/-- What follows the two counts is tolerated; whether they can be added decides. -/
theorem tolerated_usage_bind {β : Type} {usage : Json}
    {next : Json → Json → PyValue → Except PyException β}
    (later : ∀ input output total, Tolerated (next input output total)) :
    Tolerated (do
        let input ← getItem usage "input_tokens"
        let output ← getItem usage "output_tokens"
        let total ← pyAdd (.ofJson input) (.ofJson output)
        next input output total) ↔
      UsageAddable usage := by
  cases usage with
  | obj counts =>
      simp only [tolerated_getItem_bind]
      constructor
      · intro tolerated
        refine ⟨counts, rfl, fun input output first second => ?_⟩
        exact (tolerated_pyAdd_bind _ _ _ fun total => later _ _ total).mp
          (tolerated input first output second)
      · rintro ⟨_, ⟨⟩, addable⟩ input first output second
        exact (tolerated_pyAdd_bind _ _ _ fun total => later _ _ total).mpr
          (addable input output first second)
  | _ => exact ⟨False.elim, fun ⟨_, impossible, _⟩ => nomatch impossible⟩

/-- A content that cannot be walked is not tolerated; otherwise what is done with its text
decides. -/
theorem tolerated_walk_bind {β : Type} {content : Json} {next : Json → Except PyException β}
    {Q : String → Prop}
    (later : ∀ text, Tolerated (next text) ↔ ∀ shown, asStr text = some shown → Q shown) :
    Tolerated (iterate content >>= fun items => firstText items >>= next) ↔
      Walkable content ∧ ∀ shown, shownText (blocksOf content) = some shown → Q shown := by
  rw [← bind_assoc]
  have walked := walks content
  generalize iterate content >>= firstText = result at walked
  cases walked with
  | @shown text walkable shows =>
      rw [tolerated_ok_bind, later, shows]
      exact ⟨fun whole => ⟨walkable, whole⟩, And.right⟩
  | textless walkable absent =>
      rw [absent]
      exact ⟨fun _ => ⟨walkable, fun _ impossible => nomatch impossible⟩, fun _ => trivial⟩
  | stuck blocked raised =>
      exact ⟨fun tolerated => absurd tolerated raised, fun whole => absurd whole.1 blocked⟩

/-- The last part of `_build_response`. -/
theorem tolerated_built (field : IntField) (created : ℤ) {members : List (String × Json)}
    (usage id model : Json) {content : String} (bounded : content.length ≤ maxContentLength) :
    Tolerated (do
        let finishReason ← stopReason (← dictGetD (.obj members) "stop_reason" (.str ""))
        let input := PyValue.ofJson (← getItem usage "input_tokens")
        let output := PyValue.ofJson (← getItem usage "output_tokens")
        let total ← pyAdd input output
        let usage ← validated (Usage.validate field (some input) (some output) (some total))
        let id ← validated (asStr id)
        let model ← validated (asStr model)
        pure ({ id, created, model
                choices := [{ message := ⟨.assistant, content, bounded⟩, finishReason }]
                usage } : ChatResponse)) ↔
      Hashable (gotD members "stop_reason" (.str "")) ∧ UsageAddable usage := by
  rw [dictGetD_gotD, tolerated_ok_bind]
  refine tolerated_stopReason_bind fun reason => tolerated_usage_bind fun input output total => ?_
  simp only [tolerated_validated_bind]
  intros
  trivial

/-- **Which bodies `_build_response` copes with.** -/
theorem tolerated_buildResponse_iff (field : IntField) (created : ℤ) (body : Json) :
    Tolerated (buildResponse field created body) ↔ Digestible body := by
  cases body with
  | obj members =>
      rw [buildResponse, tolerated_getItem_bind]
      simp only [Digestible]
      simp only [Json.obj.injEq, exists_eq_left']
      refine forall_congr' fun content => imp_congr_right fun _ => tolerated_walk_bind fun text => ?_
      simp only [tolerated_getItem_bind, tolerated_validated_bind]
      constructor
      · intro tolerated shown same usage id model used identified named bounded
        have whole := tolerated usage used id identified model named shown same
        rw [dif_pos bounded] at whole
        exact (tolerated_built field created usage id model bounded).mp whole
      · intro whole usage used id identified model named shown same
        split_ifs with bounded
        · exact (tolerated_built field created usage id model bounded).mpr
            (whole shown same usage id model used identified named bounded)
        · trivial
  | _ => exact ⟨False.elim, fun ⟨_, impossible, _⟩ => nomatch impossible⟩

end Anthropic

/-! ## The chain -/

/-- The name of an exception that is no `ProviderError`. -/
def PyException.className : PyException → String
  | .providerError _ => "ProviderError"
  | .noProviderAvailable _ => "NoProviderAvailableError"
  | .cancelledError => "CancelledError"
  | .invalidStateError => "InvalidStateError"
  | .keyError => "KeyError"
  | .valueError => "ValueError"
  | .typeError => "TypeError"
  | .attributeError => "AttributeError"
  | .indexError => "IndexError"
  | .other name => name

/-- What the chain sees of a call. -/
def outcomeOf : Except PyException ChatResponse → AttemptOutcome
  | .ok response => .answered response
  | .error (.providerError error) => .providerError error
  | .error exception => .exception exception.className

/-- What an adapter copes with. -/
def Survives (adapter : Adapter) : Decoded → Prop
  | .tooDeep => False
  | .malformed => True
  | .value body => adapter = .anthropic → Digestible body

/-- A chain is served, or it has asked all candidates and its exception is mapped to an error. -/
def Handled (request : ChatRequest) (candidates contacted : List BaseProvider) : ChainEnding → Prop
  | .returned _ _ => True
  | .raised exception =>
      contacted = candidates ∧ ∀ other, answer request (.raised exception) ≠ .unhandled other

theorem tolerated_parse_iff (adapter : Adapter) (field : IntField) (created : ℤ) (body : Json) :
    Tolerated (adapter.parse field created body) ↔ (adapter = .anthropic → Digestible body) := by
  cases adapter with
  | openai | mistral =>
      exact ⟨fun _ impossible => (nomatch impossible), fun _ => tolerated_validated _⟩
  | anthropic =>
      exact (tolerated_buildResponse_iff field created body).trans
        ⟨fun digestible _ => digestible, fun digestible => digestible rfl⟩

section Chain

variable {request : ChatRequest}

theorem mapped_iff_outcome (result : Except PyException ChatResponse) :
    Mapped result ↔ ∀ name, outcomeOf result ≠ .exception name := by
  cases result with
  | ok response => exact ⟨fun _ _ impossible => (nomatch impossible), fun _ => trivial⟩
  | error exception =>
      cases exception with
      | providerError error => exact ⟨fun _ _ impossible => (nomatch impossible), fun _ => trivial⟩
      | _ => exact ⟨False.elim, fun calm => calm _ rfl⟩

/-- No candidate left is an error that the endpoint maps. -/
theorem answer_noProviderAvailable (failure : NoProviderAvailableError) (other : PyException) :
    answer request (.raised (.noProviderAvailable failure)) ≠ .unhandled other := by
  rw [answer]
  split_ifs <;> exact fun impossible => nomatch impossible

theorem handled_cons (provider : BaseProvider) (candidates contacted : List BaseProvider)
    (ending : ChainEnding) :
    Handled request (provider :: candidates) (provider :: contacted) ending ↔
      Handled request candidates contacted ending := by
  cases ending with
  | returned => exact Iff.rfl
  | raised exception => exact and_congr_left fun _ => List.cons_inj_right provider

/-- **A chain of any outcomes** contacts an initial part of the candidates, and it is handled exactly
when no call of these raises another exception. -/
theorem chain_handled_iff (outcome : BaseProvider → AttemptOutcome)
    (candidates : List BaseProvider) (attempted : List String) (lastError : Option ProviderError) :
    ∃ contacted ending,
      ChatRuns request outcome (chatState request attempted lastError candidates) contacted ending ∧
        contacted <+: candidates ∧
          (Handled request candidates contacted ending ↔
            ∀ provider ∈ contacted, ∀ name, outcome provider ≠ .exception name) := by
  induction candidates generalizing attempted lastError with
  | nil =>
      refine ⟨[], _, .ended _, List.prefix_rfl, ?_⟩
      refine ⟨fun _ provider impossible => ?_, fun _ => ⟨rfl, answer_noProviderAvailable _⟩⟩
      exact absurd impossible List.not_mem_nil
  | cons provider rest ih =>
      cases came : outcome provider with
      | answered response =>
          have later : (Attempt.resume request ⟨attempted ++ [provider.config.name], lastError, provider,
              rest⟩ (outcome provider)) = .inr (.returned provider response) := by rw [came]; rfl
          refine ⟨[provider], .returned provider response, .called (later ▸ .ended _), ⟨rest, rfl⟩, ?_⟩
          refine ⟨fun _ other asked name raised => ?_, fun _ => trivial⟩
          cases List.mem_singleton.mp asked
          cases came.symm.trans raised
      | exception name =>
          have later : (Attempt.resume request ⟨attempted ++ [provider.config.name], lastError, provider,
              rest⟩ (outcome provider)) = .inr (.raised (.other name)) := by rw [came]; rfl
          refine ⟨[provider], .raised (.other name), .called (later ▸ .ended _), ⟨rest, rfl⟩, ?_⟩
          exact ⟨fun handled => absurd rfl (handled.2 (.other name)),
            fun calm => absurd came (calm provider (List.mem_singleton_self provider) name)⟩
      | providerError error =>
          obtain ⟨contacted, ending, runs, initial, handled⟩ :=
            ih (attempted ++ [provider.config.name]) (some error)
          have later : (Attempt.resume request ⟨attempted ++ [provider.config.name], lastError, provider,
              rest⟩ (outcome provider)) =
                chatState request (attempted ++ [provider.config.name]) (some error) rest := by
            rw [came, Attempt.resume, skip_eq]
          refine ⟨provider :: contacted, ending, .called (later ▸ runs),
            List.cons_prefix_cons.mpr ⟨rfl, initial⟩, ?_⟩
          rw [List.forall_mem_cons, handled_cons, handled]
          refine ⟨fun calm => ⟨fun name raised => ?_, calm⟩, And.right⟩
          cases came.symm.trans raised

/-- **Malformed bodies**: an adapter returns a response or raises a `ProviderError` exactly on the
bodies that it copes with. The chain goes on to the next candidate, and ends with a response or an
error that the endpoint maps, exactly when each candidate that it contacts copes with its body. -/
theorem malformed_iff (field : IntField) (text : PyException → String) (created : BaseProvider → ℤ)
    (bodies : BaseProvider → Decoded) (request : ChatRequest) (registry : ProviderRegistry) :
    (∀ provider : BaseProvider,
        Mapped (provider.parseDecoded field text (created provider) (bodies provider)) ↔
          Survives provider.adapter (bodies provider)) ∧
      ∃ contacted ending,
        ChatRuns request
            (fun provider =>
              outcomeOf (provider.parseDecoded field text (created provider) (bodies provider)))
            (executeWithFallback request (selectProviders registry request.model)) contacted ending ∧
          contacted <+: selectProviders registry request.model ∧
          (∀ others result, ChatRuns request
              (fun provider =>
                outcomeOf (provider.parseDecoded field text (created provider) (bodies provider)))
              (executeWithFallback request (selectProviders registry request.model)) others result →
            others = contacted ∧ result = ending) ∧
          (Handled request (selectProviders registry request.model) contacted ending ↔
            ∀ provider ∈ contacted, Survives provider.adapter (bodies provider)) := by
  have mapped (provider : BaseProvider) :
      Mapped (provider.parseDecoded field text (created provider) (bodies provider)) ↔
        Survives provider.adapter (bodies provider) := by
    rw [mapped_parseDecoded]
    generalize bodies provider = decoded
    cases decoded with
    | tooDeep => exact Iff.rfl
    | malformed => exact Iff.rfl
    | value body => exact tolerated_parse_iff provider.adapter field (created provider) body
  refine ⟨mapped, ?_⟩
  obtain ⟨contacted, ending, runs, initial, handled⟩ := @chain_handled_iff request
    (fun provider => outcomeOf (provider.parseDecoded field text (created provider) (bodies provider)))
    (selectProviders registry request.model) [] none
  rw [← executeWithFallback_eq] at runs
  refine ⟨contacted, ending, runs, initial, fun _ _ other => runs.unique other,
    handled.trans (forall₂_congr fun provider _ => ?_)⟩
  rw [← mapped, mapped_iff_outcome]

end Chain

/-- A registry with the Anthropic provider, and a request for one of its models. -/
def demoAnthropic : BaseProvider :=
  ⟨config "anthropic" anthropicBaseUrl ["claude-3-5-sonnet-latest", "claude-3-5-haiku-latest"]
    anthropicPricing, .anthropic⟩

def anthropicRegistry : ProviderRegistry := buildRegistry { anthropicApiKey := some "sk-demo" }

def claudeRequest : ChatRequest := { demoRequest false with model := "claude-3-5-haiku-latest" }

/-- The body of every answer is an empty list: `data["content"]` raises `TypeError`, and so does the
chain. -/
theorem empty_list_escapes :
    ¬ Mapped (demoAnthropic.parseDecoded .lax PyException.className 0 (.ofText .standard "[]")) ∧
      ¬ ∃ contacted ending,
        ChatRuns claudeRequest
            (fun provider =>
              outcomeOf (provider.parseDecoded .lax PyException.className 0 (.ofText .standard "[]")))
            (executeWithFallback claudeRequest
              (selectProviders anthropicRegistry claudeRequest.model)) contacted ending ∧
          Handled claudeRequest (selectProviders anthropicRegistry claudeRequest.model) contacted
            ending := by
  have raised :
      outcomeOf (demoAnthropic.parseDecoded .lax PyException.className 0 (.ofText .standard "[]")) =
        .exception "TypeError" := by decide +kernel
  have selected : selectProviders anthropicRegistry claudeRequest.model = [demoAnthropic] := by
    decide +kernel
  refine ⟨fun mapped => (mapped_iff_outcome _).mp mapped _ raised, ?_⟩
  rw [selected]
  rintro ⟨contacted, ending, runs, handled⟩
  obtain ⟨others, result, same, -, iff⟩ := @chain_handled_iff claudeRequest
    (fun provider => outcomeOf (provider.parseDecoded .lax PyException.className 0 (.ofText .standard "[]")))
    [demoAnthropic] [] none
  rw [executeWithFallback_eq] at runs
  obtain ⟨rfl, rfl⟩ := same.unique runs
  cases runs with
  | called later => exact iff.mp handled demoAnthropic (List.mem_cons_self ..) _ raised

end LlmGateway
